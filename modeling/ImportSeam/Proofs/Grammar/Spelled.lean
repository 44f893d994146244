import ImportSeam.Grammar.Module
import ImportSeam.Proofs.Token.Slice

/-!
# Sources that are spelled out

A source is read character by character.  For a source that is written down as a literal the
characters are known, so that its module can be evaluated from them, without taking the text apart
again.

## Main definitions

* `Program.ofChars` — the module that the characters of a source denote.

## Main results

* `Program.parse_of_spelled` — a source denotes what its characters denote.
-/

namespace ImportSeam

/-- The buffer in front of the characters of a source. -/
def TokenBuffer.ofChars (cs : List Char) : TokenBuffer := ⟨⟨0, cs⟩, #[], []⟩

/-- The module that the characters of a source denote. -/
def Program.ofChars (cs : List Char) : Except SyntaxError Program :=
  match (grammar cs.length).program (.ofChars cs) with
  | .ok body buffer => .ok ⟨⟨0, byteLength cs⟩, body, buffer.comments⟩
  | .error e _ => .error e

variable {source rest : String} {cs ds : List Char}

theorem spelled_append (h : source = String.ofList cs) (hrest : rest = String.ofList ds) :
    source ++ rest = String.ofList (cs ++ ds) := by
  rw [h, hrest, String.ofList_append]

theorem length_of_spelled (h : source = String.ofList cs) : source.length = cs.length := by
  rw [h, String.length_ofList]

theorem TokenBuffer.ofString_of_spelled (h : source = String.ofList cs) :
    TokenBuffer.ofString source = .ofChars cs := by
  rw [h, TokenBuffer.ofString, Cursor.ofString, String.toList_ofList, TokenBuffer.ofChars]

/-- **A source denotes what its characters denote.** -/
theorem Program.parse_of_spelled (h : source = String.ofList cs) :
    Program.parse source = Program.ofChars cs := by
  unfold Program.parse
  rw [length_of_spelled h, TokenBuffer.ofString_of_spelled h, h, utf8ByteSize_ofList]
  rfl

end ImportSeam
