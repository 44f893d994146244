import ImportSeam.Source.Cursor
import ImportSeam.Text.Blank
import ImportSeam.Text.Identifier
import ImportSeam.Token.Basic

/-!
# What stands between tokens

White space, byte order marks, line terminators and comments are skipped before a token.  What is
left of them is the list of comments and whether a line ended, on which semicolon insertion
depends.

## Main definitions

* `commentAt?` — the comment that starts a list of characters.
* `Trivia` — what a skipped stretch leaves behind.
* `skipTrivia` — the longest stretch of trivia from a position.
-/

namespace ImportSeam

open Text

/-- How many characters a block comment takes after its opening.  An unclosed one takes all. -/
def blockCommentRest : List Char → Nat
  | [] => 0
  | '*' :: '/' :: _ => 2
  | _ :: r => blockCommentRest r + 1

/-- The comment that starts a list of characters, if one does, and how many characters it takes. -/
def commentAt? : List Char → Option (CommentKind × Nat)
  | '/' :: '/' :: r => some (.line, (r.takeWhile (!isLineTerminator ·)).length + 2)
  | '/' :: '*' :: r => some (.block, blockCommentRest r + 2)
  | _ => none

theorem commentAt?_length {cs : List Char} {kind : CommentKind} {n : Nat}
    (h : commentAt? cs = some (kind, n)) : 0 < n ∧ 0 < cs.length := by
  unfold commentAt? at h
  split at h <;> simp at h <;> simp <;> omega

/-- What a skipped stretch leaves behind. -/
structure Trivia where
  /-- Whether the stretch contains a line terminator, also inside a block comment. -/
  newline : Bool
  comments : List Comment
  /-- The position after the stretch. -/
  stop : Cursor

namespace Trivia

/-- The same stretch with a line terminator in it if the flag says so. -/
def withNewline (t : Trivia) (flag : Bool) : Trivia := { t with newline := flag || t.newline }

/-- The same stretch with a comment in front. -/
def withComment (t : Trivia) (c : Comment) : Trivia := { t with comments := c :: t.comments }

end Trivia

/-- Whether a character is skipped without a trace: white space or a byte order mark. -/
def isSkipped (c : Char) : Bool := isBlank c || c.toNat == 0xFEFF

/-- Skips the longest stretch of trivia from a position. -/
def skipTrivia (start : Cursor) : Trivia :=
  match _hr : start.rest with
  | [] => ⟨false, [], start⟩
  | c :: r =>
    if isLineTerminator c then (skipTrivia (start.advance 1)).withNewline true
    else if isSkipped c then skipTrivia (start.advance 1)
    else
      match _hc : commentAt? (c :: r) with
      | some (kind, n) =>
        let stop := start.advance n
        let text := start.taken n
        let newline := kind == .block && text.toList.any isLineTerminator
        ((skipTrivia stop).withNewline newline).withComment
          ⟨kind, ⟨start.offset, stop.offset⟩, text⟩
      | none => ⟨false, [], start⟩
termination_by start.rest.length
decreasing_by
  · simp [Cursor.advance, _hr]
  · simp [Cursor.advance, _hr]
  · have := commentAt?_length _hc
    simp [Cursor.advance, _hr] at *
    omega

end ImportSeam
