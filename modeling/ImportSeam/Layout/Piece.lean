import ImportSeam.Token.Basic

/-!
# Layouts

A layout is a sequence of pieces: texts, line breaks, and places where comments go.  It is made
from a tree alone.  Writing it out takes the comments of the source in order and puts each at the
first place that lies behind it, so every comment is written once and none overtakes another.

## Main definitions

* `Piece`, `Layout` — what is to be written.
* `Comment.inline` — a comment in the middle of a line.
* `Layout.render` — the text of a layout with comments.
-/

namespace ImportSeam

/-- Something to be written. -/
inductive Piece where
  | text (s : String)
  /-- The start of a new line at a depth of indentation. -/
  | newline (depth : Nat)
  /-- The pending comments that start before an offset, in the middle of a line. -/
  | inlineComments (offset : Nat)
  /-- The pending comments that start before an offset, each on a line of its own. -/
  | lineComments (offset : Nat) (depth : Nat)
  /-- All pending comments, each on a line of its own. -/
  | lastComments
  deriving DecidableEq, Repr

/-- A sequence of pieces. -/
abbrev Layout := List Piece

/-! ### Comments -/

/-- Replaces every end of a block comment by one with a blank inside, so that it ends nothing. -/
def defuse : List Char → List Char
  | '*' :: '/' :: cs => '*' :: ' ' :: '/' :: defuse cs
  | c :: cs => c :: defuse cs
  | [] => []

/-- The characters of a line comment after its slashes. -/
def lineCommentBody : List Char → List Char
  | '/' :: '/' :: cs => cs
  | cs => cs

/-- A comment in the middle of a line.  A line comment becomes a block comment, so that it does not
swallow what follows. -/
def Comment.inline (c : Comment) : String :=
  match c.kind with
  | .line => "/*" ++ String.ofList (defuse (lineCommentBody c.text.toList)) ++ "*/"
  | .block => c.text

/-- Whether a comment starts before an offset. -/
def Comment.startsBefore (offset : Nat) (c : Comment) : Bool := c.loc.start < offset

namespace Layout

/-! ### Writing -/

/-- A line break with the indentation after it. -/
def lineBreak (depth : Nat) : String := "\n" ++ String.ofList (List.replicate (2 * depth) ' ')

/-- The texts of the pieces in order, with comments taken from the pending ones. -/
def texts : Layout → List Comment → List String
  | [], _ => []
  | .text s :: ps, pending => s :: texts ps pending
  | .newline depth :: ps, pending => lineBreak depth :: texts ps pending
  | .inlineComments offset :: ps, pending =>
    (pending.takeWhile (·.startsBefore offset)).map (fun c => c.inline ++ " ") ++
      texts ps (pending.dropWhile (·.startsBefore offset))
  | .lineComments offset depth :: ps, pending =>
    (pending.takeWhile (·.startsBefore offset)).map (fun c => c.text ++ lineBreak depth) ++
      texts ps (pending.dropWhile (·.startsBefore offset))
  | .lastComments :: ps, pending =>
    pending.map (fun c => c.text ++ lineBreak 0) ++ texts ps []

/-- The text of a layout with comments. -/
def render (l : Layout) (comments : List Comment) : String := String.join (l.texts comments)

/-! ### Building -/

/-- A text. -/
def word (s : String) : Layout := [.text s]

/-- A layout in parentheses. -/
def parens (l : Layout) : Layout := word "(" ++ l ++ word ")"

/-- A layout in brackets. -/
def brackets (l : Layout) : Layout := word "[" ++ l ++ word "]"

/-- A layout in braces. -/
def braces (l : Layout) : Layout := word "\x7b" ++ l ++ word "\x7d"

/-- A layout that is left out where the flag is not set. -/
def when (flag : Bool) (l : Layout) : Layout := if flag then l else []

/-- Layouts with commas between them. -/
def commas (ls : List Layout) : Layout := List.intercalate (word ", ") ls

/-- Lines one level deeper than `depth`, between braces.  Without lines the braces touch. -/
def block (depth : Nat) (lines : List Layout) : Layout :=
  if lines.isEmpty then braces []
  else braces (lines.flatMap (.newline (depth + 1) :: ·) ++ [.newline depth])

end Layout

end ImportSeam
