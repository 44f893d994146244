import ImportSeam.Pattern.CharSet

/-!
# Regular expressions

A regular expression relates the positions of a text: from a position it reaches every position
where a match that starts there can end.  Only whether there is a match matters, so which of
several matches is preferred does not.

A repetition without a bound is taken at most once more often than the text has positions: a path
between two positions that is longer than that stays at some position for a while and can be cut
short.

## Main definitions

* `Look` — conditions on a position.
* `Regex` — regular expressions.
* `Regex.reach` — where matches that start at given positions end.
* `Regex.isMatch` — whether an expression matches somewhere in a text.
-/

namespace ImportSeam

/-- A condition on the characters around a position. -/
inductive Look where
  | textStart
  | textEnd
  | lineStart (crlf : Bool)
  | lineEnd (crlf : Bool)
  /-- A condition on whether the characters before and after the position belong to words. -/
  | word (isWord : CharSet) (condition : Bool → Bool → Bool)

namespace Look

/-- Whether the condition holds at a position of a text. -/
def holds (text : Array Char) (i : Nat) : Look → Bool
  | .textStart => i == 0
  | .textEnd => i == text.size
  | .lineStart crlf =>
    let before := if i == 0 then none else text[i - 1]?
    i == 0 || before == some '\n' ||
      (crlf && before == some '\r' && text[i]? != some '\n')
  | .lineEnd crlf =>
    let before := if i == 0 then none else text[i - 1]?
    let after := text[i]?
    i == text.size || (after == some '\n' && !(crlf && before == some '\r')) ||
      (crlf && after == some '\r')
  | .word isWord condition =>
    let before := if i == 0 then none else text[i - 1]?
    condition (before.any isWord) (text[i]?.any isWord)

end Look

/-- A regular expression. -/
inductive Regex where
  | empty
  | set (s : CharSet)
  | look (l : Look)
  | seq (a b : Regex)
  | alt (a b : Regex)
  /-- At least `least` times, and at most `most` times if there is such a bound. -/
  | loop (least : Nat) (most : Option Nat) (r : Regex)

namespace Regex

/-- The positions in one of two lists, each once. -/
def merge (ps qs : List Nat) : List Nat := ps ++ qs.filter fun q => !ps.contains q

/-- Applies a step a number of times. -/
def iterate (step : List Nat → List Nat) : Nat → List Nat → List Nat
  | 0, ps => ps
  | n + 1, ps => iterate step n (step ps)

/-- Applies a step up to a number of times, and gathers everything reached. -/
def gather (step : List Nat → List Nat) : Nat → List Nat → List Nat
  | 0, ps => ps
  | n + 1, ps => gather step n (merge ps (step ps))

/-- The positions where matches end that start at one of the given positions. -/
def reach (text : Array Char) : Regex → List Nat → List Nat
  | .empty, ps => ps
  | .set s, ps => (ps.filter fun i => text[i]?.any s).map (· + 1)
  | .look l, ps => ps.filter fun i => l.holds text i
  | .seq a b, ps => b.reach text (a.reach text ps)
  | .alt a b, ps => merge (a.reach text ps) (b.reach text ps)
  | .loop least most r, ps =>
    let enough := text.size + 1
    let step := r.reach text
    gather step (match most with
      | some most => min (most - least) enough
      | none => enough) (iterate step (min least enough) ps)

/-- Whether an expression matches somewhere in a text. -/
def isMatch (r : Regex) (text : String) : Bool :=
  let chars := text.toList.toArray
  !(r.reach chars (List.range (chars.size + 1))).isEmpty

/-- The number of steps of an expression with its repetitions written out. -/
def size : Regex → Nat
  | .empty | .set _ | .look _ => 1
  | .seq a b => a.size + b.size
  | .alt a b => a.size + b.size + 1
  | .loop least none r => max least 1 * r.size + 1
  | .loop least (some most) r => most * r.size + (most - least) + 1

end Regex

end ImportSeam
