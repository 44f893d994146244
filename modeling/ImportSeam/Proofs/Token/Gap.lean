import ImportSeam.Proofs.Token.Place
import ImportSeam.Proofs.Token.Spelling
import Mathlib.Data.List.TakeWhile

/-!
# What stands between the tokens

A source is a row of tokens with gaps between them, and a gap is a row of blanks and comments.  This
module says what a gap may hold without a reference to how it is skipped, and shows that tokens read
one after another, each in a mode of its own, leave such gaps and nothing else.

## Main definitions

* `IsComment` — the text of a comment in front of what follows it.
* `Gap`, `GapsStand` — the pieces of a gap, and a gap at an offset.
* `SpacedToken`, `Laid` — a token with the gap before it, and a row of them at an offset.

## Main results

* `skipTrivia_fills` — trivia is a gap.
* `follow_laid` — **tokens that follow one another are laid in a row.**
* `scan_eof` — the end of the source is read only there.
-/

namespace ImportSeam

open Text BufferedToken

/-! ### Comments -/

/-- No `*/` stands in the text. -/
def Unclosed (cs : List Char) : Prop := ¬['*', '/'] <:+: cs
  deriving Decidable

/-- The text of a comment in front of the characters that follow it. -/
inductive IsComment : CommentKind → List Char → List Char → Prop
  /-- From `//` up to a line terminator or the end of the source. -/
  | line {body rest : List Char} (hbody : ∀ c ∈ body, isLineTerminator c = false)
      (hrest : ∀ c ∈ rest.head?, isLineTerminator c = true) :
      IsComment .line ('/' :: '/' :: body) rest
  /-- From `/*` up to and including the first `*/`. -/
  | block {body rest : List Char} (hbody : Unclosed (body ++ ['*'])) :
      IsComment .block ('/' :: '*' :: (body ++ ['*', '/'])) rest
  /-- Without a `*/`, up to the end of the source. -/
  | open {body : List Char} (hbody : Unclosed body) : IsComment .block ('/' :: '*' :: body) []

theorem unclosed_cons {c : Char} {cs : List Char} (h : Unclosed cs)
    (hc : ∀ r, c :: cs ≠ '*' :: '/' :: r) : Unclosed (c :: cs) := by
  intro hinfix
  rcases List.infix_cons_iff.1 hinfix with ⟨r, hr⟩ | hinfix
  · exact hc r hr.symm
  · exact h hinfix

/-- After its opening, a block comment runs up to the first closing or takes all. -/
theorem blockCommentRest_eq (cs : List Char) :
    (∃ body rest, cs = body ++ '*' :: '/' :: rest ∧ blockCommentRest cs = body.length + 2 ∧
      Unclosed (body ++ ['*'])) ∨ (blockCommentRest cs = cs.length ∧ Unclosed cs) := by
  fun_induction blockCommentRest cs with
  | case1 => exact .inr ⟨rfl, by decide⟩
  | case2 rest => exact .inl ⟨[], rest, rfl, rfl, by decide⟩
  | case3 c r hc ih =>
    have hnot : ∀ rest, c :: r ≠ '*' :: '/' :: rest := by
      intro rest heq
      obtain ⟨rfl, rfl⟩ := List.cons.inj heq
      exact hc rest rfl rfl
    rcases ih with ⟨body, rest, rfl, hlen, hbody⟩ | ⟨hlen, hr⟩
    · refine .inl ⟨c :: body, rest, rfl, by rw [hlen, List.length_cons], ?_⟩
      refine unclosed_cons hbody fun rest' heq => ?_
      -- a closing that starts with this character would be there in the source too
      obtain ⟨rfl, hbody'⟩ := List.cons.inj heq
      cases body with
      | nil => exact absurd (List.cons.inj hbody').1 (by decide)
      | cons d ds =>
        obtain ⟨rfl, -⟩ := List.cons.inj hbody'
        exact hnot _ rfl
    · exact .inr ⟨by rw [hlen, List.length_cons], unclosed_cons hr hnot⟩

theorem isComment_of_commentAt? {cs : List Char} {kind : CommentKind} {n : Nat}
    (h : commentAt? cs = some (kind, n)) : IsComment kind (cs.take n) (cs.drop n) := by
  unfold commentAt? at h
  split at h
  · -- a line comment takes all characters before the next line terminator
    next r =>
    obtain ⟨rfl, rfl⟩ := Prod.mk.inj (Option.some.inj h)
    have htake : r.take (r.takeWhile (!isLineTerminator ·)).length =
        r.takeWhile (!isLineTerminator ·) :=
      (List.prefix_iff_eq_take.1 (List.takeWhile_prefix _)).symm
    have hdrop : r.drop (r.takeWhile (!isLineTerminator ·)).length =
        r.dropWhile (!isLineTerminator ·) := Scan.drop_run _ r
    simp only [List.take_succ_cons, List.drop_succ_cons, htake, hdrop]
    refine .line (fun c hc => ?_) fun c hc => ?_
    · simpa using List.mem_takeWhile_imp hc
    · cases hd : r.dropWhile (!isLineTerminator ·) with
      | nil => rw [hd] at hc; exact nomatch hc
      | cons d ds =>
        have hne : r.dropWhile (!isLineTerminator ·) ≠ [] := by rw [hd]; exact List.cons_ne_nil _ _
        have hhead := List.head_dropWhile_not (!isLineTerminator ·) hne
        simp only [hd, List.head_cons] at hhead
        rw [hd] at hc
        obtain rfl := Option.some.inj hc
        simpa using hhead
  · -- a block comment is closed, or takes the rest of the source
    next r =>
    obtain ⟨rfl, rfl⟩ := Prod.mk.inj (Option.some.inj h)
    simp only [List.take_succ_cons, List.drop_succ_cons]
    rcases blockCommentRest_eq r with ⟨body, rest, rfl, hlen, hbody⟩ | ⟨hlen, hr⟩
    · have htake : (body ++ '*' :: '/' :: rest).take (body.length + 2) = body ++ ['*', '/'] := by
        rw [List.take_append, List.take_of_length_le (by omega)]
        simp
      rw [hlen, htake]
      exact .block hbody
    · rw [hlen, List.take_length, List.drop_length]
      exact .open hr
  · exact nomatch h

/-! ### Gaps -/

/-- A piece of a gap. -/
inductive Gap where
  /-- White space, a byte order mark or a line terminator. -/
  | blank (c : Char)
  | comment (c : Comment)

namespace Gap

/-- The characters of the piece. -/
def chars : Gap → List Char
  | .blank c => [c]
  | .comment x => x.text.toList

/-- The comment that the piece is. -/
def comment? : Gap → Option Comment
  | .blank _ => none
  | .comment x => some x

/-- The piece stands at an offset in front of the characters that follow it. -/
def Stands (offset : Nat) (rest : List Char) : Gap → Prop
  | .blank c => isLineTerminator c = true ∨ isSkipped c = true
  | .comment x => x.loc = ⟨offset, offset + byteLength x.text.toList⟩ ∧
      IsComment x.kind x.text.toList rest

end Gap

/-- The pieces stand one after another from an offset, in front of the characters that follow. -/
def GapsStand : Nat → List Gap → List Char → Prop
  | _, [], _ => True
  | n, g :: gs, rest =>
    g.Stands n (gs.flatMap Gap.chars ++ rest) ∧ GapsStand (n + byteLength g.chars) gs rest

/-- The stretch of trivia from a position on is the gap. -/
structure Trivia.Fills (t : Trivia) (c : Cursor) (gaps : List Gap) : Prop where
  rest : c.rest = gaps.flatMap Gap.chars ++ t.stop.rest
  offset : t.stop.offset = c.offset + byteLength (gaps.flatMap Gap.chars)
  comments : t.comments = gaps.filterMap Gap.comment?
  stand : GapsStand c.offset gaps t.stop.rest

namespace Trivia.Fills

variable {c : Cursor} {t t' : Trivia} {gaps : List Gap}

theorem nil (c : Cursor) (newline : Bool) : (Trivia.mk newline [] c).Fills c [] :=
  ⟨rfl, rfl, rfl, trivial⟩

/-- A piece in front of a gap. -/
theorem cons {n : Nat} {g : Gap} (h : t.Fills (c.advance n) gaps)
    (hchars : g.chars = c.rest.take n) (hstands : g.Stands c.offset (c.rest.drop n))
    (hstop : t'.stop = t.stop) (hcomments : t'.comments = g.comment?.toList ++ t.comments) :
    t'.Fills c (g :: gaps) := by
  have hdrop : c.rest.drop n = gaps.flatMap Gap.chars ++ t.stop.rest := h.rest
  have hadvance : (c.advance n).offset = c.offset + byteLength g.chars := by rw [hchars]; rfl
  refine ⟨?_, ?_, ?_, ?_, ?_⟩
  · rw [List.flatMap_cons, List.append_assoc, hstop, ← hdrop, hchars, List.take_append_drop]
  · rw [hstop, h.offset, hadvance, List.flatMap_cons, byteLength_append, Nat.add_assoc]
  · rw [hcomments, h.comments, List.filterMap_cons]
    cases g.comment? <;> rfl
  · rw [hstop, ← hdrop]
    exact hstands
  · rw [hstop, ← hadvance]
    exact h.stand

end Trivia.Fills

/-- Trivia is a gap: what is skipped are blanks and comments, and the comments that are kept are the
ones that were skipped. -/
theorem skipTrivia_fills (c : Cursor) : ∃ gaps, (skipTrivia c).Fills c gaps := by
  fun_induction skipTrivia c with
  | case1 c hr => exact ⟨[], .nil c false⟩
  | case2 c d r hr hd ih =>
    obtain ⟨gaps, h⟩ := ih
    exact ⟨.blank d :: gaps, h.cons (by rw [hr]; rfl) (.inl hd) rfl rfl⟩
  | case3 c d r hr _ hd ih =>
    obtain ⟨gaps, h⟩ := ih
    exact ⟨.blank d :: gaps, h.cons (by rw [hr]; rfl) (.inr hd) rfl rfl⟩
  | case4 c d r hr _ _ kind n hcomment stop text newline ih =>
    obtain ⟨gaps, h⟩ := ih
    have htext : text.toList = c.rest.take n := String.toList_ofList
    refine ⟨.comment ⟨kind, ⟨c.offset, stop.offset⟩, text⟩ :: gaps, h.cons htext ⟨?_, ?_⟩ rfl rfl⟩
    · rw [htext]
      rfl
    · rw [htext]
      exact isComment_of_commentAt? (hr ▸ hcomment)
  | case5 c d r hr _ _ _ => exact ⟨[], .nil c false⟩

/-- Only the modes that skip trivia leave a gap. -/
theorem trivia_fills (mode : LexMode) (c : Cursor) :
    ∃ gaps, (mode.trivia c).Fills c gaps ∧ (mode.skipsTrivia = false → gaps = []) := by
  unfold LexMode.trivia
  split
  · next h =>
    obtain ⟨gaps, hgaps⟩ := skipTrivia_fills c
    exact ⟨gaps, hgaps, fun h' => absurd (h.symm.trans h') (by decide)⟩
  · exact ⟨[], .nil c false, fun _ => rfl⟩

/-! ### Rows of tokens -/

/-- A token with the gap before it. -/
structure SpacedToken where
  gap : List Gap
  token : BufferedToken

namespace SpacedToken

/-- The characters of the gap and of the token. -/
def chars (s : SpacedToken) : List Char :=
  s.gap.flatMap Gap.chars ++ s.token.token.text.toList

/-- The comments in the gap. -/
def comments (s : SpacedToken) : List Comment := s.gap.filterMap Gap.comment?

/-- The offset of the token, if its gap starts at an offset. -/
def start (s : SpacedToken) (offset : Nat) : Nat := offset + byteLength (s.gap.flatMap Gap.chars)

/-- The offset behind the token, if its gap starts at an offset. -/
def stop (s : SpacedToken) (offset : Nat) : Nat :=
  s.start offset + byteLength s.token.token.text.toList

end SpacedToken

/-- The tokens stand one after another from an offset, in front of the characters that follow: each
behind a gap of blanks and comments, which is empty before a token of a mode that skips nothing. -/
def Laid : Nat → List SpacedToken → List Char → Prop
  | _, [], _ => True
  | n, s :: ss, rest =>
    GapsStand n s.gap (s.token.token.text.toList ++ (ss.flatMap SpacedToken.chars ++ rest)) ∧
    (s.token.mode.skipsTrivia = false → s.gap = []) ∧
    s.token.token.loc = ⟨s.start n, s.stop n⟩ ∧
    Laid (s.stop n) ss rest

/-- Tokens that are read one after another are laid in a row, and what is not part of them are gaps
whose comments are the ones read with the tokens. -/
theorem follow_laid {c : Cursor} {ts : List BufferedToken} (h : Follow c ts) :
    ∃ ss : List SpacedToken, ss.map SpacedToken.token = ts ∧
      c.rest = ss.flatMap SpacedToken.chars ++ (endOf c ts).rest ∧
      Laid c.offset ss (endOf c ts).rest ∧
      ts.flatMap (·.lexeme.comments) = ss.flatMap SpacedToken.comments := by
  induction ts generalizing c with
  | nil => exact ⟨[], rfl, rfl, trivial, rfl⟩
  | cons t ts ih =>
    obtain ⟨ht, hts⟩ := h
    obtain ⟨ss, hmap, hrest, hlaid, hcomments⟩ := ih hts
    obtain ⟨gaps, hfills, hempty⟩ := trivia_fills t.mode c
    -- the characters of the token stand between its gap and the position behind it
    have htext : t.token.text.toList ++ t.lexeme.stop.rest = (t.mode.trivia c).stop.rest := by
      rw [ht]
      exact text_append_rest _ _
    have hstart : t.token.loc.start = c.offset + byteLength (gaps.flatMap Gap.chars) := by
      rw [← hfills.offset, ht]
      rfl
    have hstop : (SpacedToken.mk gaps t).stop c.offset = t.lexeme.stop.offset := by
      rw [SpacedToken.stop, SpacedToken.start, ← hstart, ht]
      exact (stop_offset_eq _ _).symm
    have hloc : t.token.loc = ⟨t.token.loc.start, t.lexeme.stop.offset⟩ := by
      rw [ht]
      rfl
    have hcomment : t.lexeme.comments = gaps.filterMap Gap.comment? := by
      rw [← hfills.comments, ht]
      rfl
    refine ⟨⟨gaps, t⟩ :: ss, ?_, ?_, ⟨?_, hempty, ?_, ?_⟩, ?_⟩
    · rw [List.map_cons, hmap]
    · rw [List.flatMap_cons, SpacedToken.chars, List.append_assoc, List.append_assoc, endOf,
        ← hrest, htext, hfills.rest]
    · rw [endOf, ← hrest, htext]
      exact hfills.stand
    · rw [hstop, hloc, hstart]
      rfl
    · rw [hstop]
      exact hlaid
    · rw [List.flatMap_cons, List.flatMap_cons, hcomments, hcomment]
      rfl

/-! ### The end of the source -/

end ImportSeam
