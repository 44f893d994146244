/-!
# Positions in a source

A cursor stands between two characters of a source: it knows the byte offset and the characters
that follow.  Reading is a matter of how many characters to take, so a reader only ever computes a
length and the cursor does the rest.

## Main definitions

* `Cursor` — a byte offset with the characters after it.
* `Cursor.advance` — the cursor some characters further on.
* `Cursor.taken` — the text of the next characters.
* `Cursor.seek` — the cursor at a byte offset.
-/

namespace ImportSeam

/-- The number of bytes of a list of characters in UTF-8. -/
def byteLength (cs : List Char) : Nat := cs.foldr (fun c n => c.utf8Size + n) 0

/-- A position between two characters of a source. -/
structure Cursor where
  /-- The number of bytes before the position. -/
  offset : Nat
  /-- The characters after the position. -/
  rest : List Char
  deriving DecidableEq

namespace Cursor

/-- The beginning of a source. -/
def ofString (source : String) : Cursor := ⟨0, source.toList⟩

/-- The position `n` characters further on. -/
def advance (c : Cursor) (n : Nat) : Cursor :=
  ⟨c.offset + byteLength (c.rest.take n), c.rest.drop n⟩

/-- The next `n` characters as a text. -/
def taken (c : Cursor) (n : Nat) : String := String.ofList (c.rest.take n)

/-- The position at a byte offset at or after `start`, where `rest` begins.  Inside a character it
is the position after that character. -/
def seekFrom (start : Nat) (rest : List Char) (offset : Nat) : Cursor :=
  match rest with
  | [] => ⟨start, []⟩
  | c :: cs =>
    if offset ≤ start then ⟨start, c :: cs⟩ else seekFrom (start + c.utf8Size) cs offset

/-- The position at a byte offset of a source. -/
def seek (source : String) (offset : Nat) : Cursor := seekFrom 0 source.toList offset

@[simp] theorem advance_zero (c : Cursor) : c.advance 0 = c := by
  simp [advance, byteLength]

end Cursor

end ImportSeam
