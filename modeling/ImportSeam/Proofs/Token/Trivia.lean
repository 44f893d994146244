import ImportSeam.Proofs.Token.Slice

/-!
# Trivia is skipped exactly

A text determines the gap that it starts with: at every place one piece stands or none, and where the
token starts none does any more.  Skipping takes one piece in each step, so a run of it takes the whole
gap, and what it leaves behind are the comments of the gap and whether a line ended in it, on which the
insertion of semicolons depends.

## Main definitions

* `Trivia.behind` — a stretch of trivia with one more piece in front.
* `Cursor.Settled` — no piece of a gap stands at the position.
* `Lexeme.Behind` — a token behind a gap.

## Main results

* `commentAt?_of_isComment` — a comment in front of a text is the one that is found.
* `Gap.Stands.skipTrivia_eq`, `GapsStand.skipTrivia_eq` — one step of skipping, and a run of it.
* `GapsStand.unique` — only one gap stands in front of a text.
* `readToken_behind` — **a token is read behind the gap that the text starts with.**
-/

namespace ImportSeam

open Text

variable {kind : CommentKind} {cs rest rest' : List Char} {n : Nat} {g g' : Gap}
  {gaps gaps' : List Gap}

/-! ### Comments -/

theorem Unclosed.tail {c : Char} {cs : List Char} (h : Unclosed (c :: cs)) : Unclosed cs :=
  fun hclosing => h (hclosing.trans (List.suffix_cons c cs).isInfix)

/-- A character that does not begin a closing. -/
theorem blockCommentRest_cons {c : Char} {cs : List Char} (h : ∀ r, c :: cs ≠ '*' :: '/' :: r) :
    blockCommentRest (c :: cs) = blockCommentRest cs + 1 := by
  rw [blockCommentRest]
  rintro r rfl rfl
  exact h r rfl

theorem Unclosed.ne {c : Char} {cs : List Char} (h : Unclosed (c :: cs)) (r : List Char) :
    c :: cs ≠ '*' :: '/' :: r := by
  intro heq
  rw [heq] at h
  exact h ⟨[], r, rfl⟩

theorem blockCommentRest_open {cs : List Char} (h : Unclosed cs) :
    blockCommentRest cs = cs.length := by
  induction cs with
  | nil => rfl
  | cons c cs ih => rw [blockCommentRest_cons h.ne, ih h.tail, List.length_cons]

theorem blockCommentRest_closed {body : List Char} (h : Unclosed (body ++ ['*']))
    (rest : List Char) : blockCommentRest (body ++ '*' :: '/' :: rest) = body.length + 2 := by
  induction body with
  | nil => rfl
  | cons c body ih =>
    have hne : ∀ r, c :: (body ++ '*' :: '/' :: rest) ≠ '*' :: '/' :: r := by
      -- the slash would be the next character of the text, which is unclosed
      intro r heq
      obtain ⟨rfl, hbody⟩ := List.cons.inj heq
      cases body with
      | nil => exact absurd (List.cons.inj hbody).1 (by decide)
      | cons d body =>
        obtain ⟨rfl, -⟩ := List.cons.inj hbody
        exact h.ne _ rfl
    rw [List.cons_append, blockCommentRest_cons hne, ih h.tail, List.length_cons]

theorem commentAt?_of_isComment {kind : CommentKind} {cs rest : List Char}
    (h : IsComment kind cs rest) : commentAt? (cs ++ rest) = some (kind, cs.length) := by
  cases h with
  | @line body _ hbody hrest =>
    have htake : (body ++ rest).takeWhile (!isLineTerminator ·) = body := by
      rw [List.takeWhile_append_of_pos fun c hc => by simp [hbody c hc]]
      cases rest with
      | nil => simp
      | cons c rest => simp [hrest c rfl]
    rw [List.cons_append, List.cons_append, commentAt?, htake]
    rfl
  | @block body _ hbody =>
    rw [List.cons_append, List.cons_append, List.append_assoc, List.cons_append, List.cons_append,
      commentAt?, List.nil_append, blockCommentRest_closed hbody]
    simp
  | @«open» body hbody =>
    rw [List.append_nil, commentAt?, blockCommentRest_open hbody]
    rfl

/-- A comment begins with a slash. -/
theorem IsComment.exists_cons {kind : CommentKind} {cs rest : List Char}
    (h : IsComment kind cs rest) : ∃ tail, cs = '/' :: tail := by
  cases h <;> exact ⟨_, rfl⟩

/-- A comment is skipped whole, and remembered. -/
theorem skipTrivia_of_isComment {kind : CommentKind} {cs rest : List Char}
    (h : IsComment kind cs rest) (n : Nat) :
    skipTrivia ⟨n, cs ++ rest⟩ =
      ((skipTrivia ⟨n + byteLength cs, rest⟩).withNewline
        (kind == .block && cs.any isLineTerminator)).withComment
        ⟨kind, ⟨n, n + byteLength cs⟩, String.ofList cs⟩ := by
  have hcomment := commentAt?_of_isComment h
  have hadvance : (Cursor.mk n (cs ++ rest)).advance cs.length = ⟨n + byteLength cs, rest⟩ := by
    simp [Cursor.advance]
  have htaken : (Cursor.mk n (cs ++ rest)).taken cs.length = String.ofList cs := by
    simp [Cursor.taken]
  obtain ⟨tail, rfl⟩ := h.exists_cons
  rw [skipTrivia.eq_def]
  split
  · next hr => exact absurd hr (List.cons_ne_nil _ _)
  · next c r hr =>
    obtain ⟨rfl, rfl⟩ := List.cons.inj hr
    rw [if_neg (by decide), if_neg (by decide)]
    split
    · next kind' len hc =>
      obtain ⟨rfl, rfl⟩ := Prod.mk.inj (Option.some.inj (hcomment.symm.trans hc))
      rw [hadvance, htaken]
      simp only [String.toList_ofList]
    · next hc => exact absurd (hcomment.symm.trans hc) (Option.some_ne_none _)

/-- Only a block comment can have a line terminator in it. -/
theorem IsComment.any_isLineTerminator (h : IsComment kind cs rest) :
    (kind == .block && cs.any isLineTerminator) = cs.any isLineTerminator := by
  cases h with
  | block | «open» => rfl
  | @line body _ hbody _ =>
    have hnone : body.any isLineTerminator = false := by
      simpa using hbody
    show false = (false || (false || body.any isLineTerminator))
    rw [hnone]
    rfl

/-! ### One piece -/

/-- A stretch of trivia with one more piece in front. -/
def Trivia.behind (g : Gap) (t : Trivia) : Trivia :=
  ⟨g.chars.any isLineTerminator || t.newline, g.comment?.toList ++ t.comments, t.stop⟩

namespace Gap.Stands

/-- No blank is the first character of a comment. -/
theorem ne_slash {d : Char} (h : (Gap.blank d).Stands n rest) : d ≠ '/' := by
  rintro rfl
  revert h
  simp only [Gap.Stands]
  decide

theorem exists_cons (h : g.Stands n rest) : ∃ d ds, g.chars = d :: ds := by
  cases g with
  | blank d => exact ⟨d, [], rfl⟩
  | comment x =>
    obtain ⟨ds, hds⟩ := h.2.exists_cons
    exact ⟨'/', ds, hds⟩

/-- **One step of skipping** takes one piece. -/
theorem skipTrivia_eq (h : g.Stands n rest) :
    skipTrivia ⟨n, g.chars ++ rest⟩ = (skipTrivia ⟨n + byteLength g.chars, rest⟩).behind g := by
  cases g with
  | blank d =>
    show skipTrivia ⟨n, d :: rest⟩ = _
    have hadvance : (Cursor.mk n (d :: rest)).advance 1 = ⟨n + byteLength [d], rest⟩ := rfl
    rw [skipTrivia, hadvance]
    by_cases hd : isLineTerminator d = true
    · simp [hd, Trivia.behind, Trivia.withNewline, Gap.chars, Gap.comment?]
    · have hskipped : isSkipped d = true := h.resolve_left hd
      simp [hd, hskipped, Trivia.behind, Gap.chars, Gap.comment?]
  | comment x =>
    obtain ⟨hloc, hcomment⟩ := h
    show skipTrivia ⟨n, x.text.toList ++ rest⟩ = _
    rw [skipTrivia_of_isComment hcomment, hcomment.any_isLineTerminator, String.ofList_toList, ← hloc]
    rfl

/-- At one place at most one piece stands. -/
theorem unique (h : g.Stands n rest) (h' : g'.Stands n rest')
    (heq : g.chars ++ rest = g'.chars ++ rest') : g = g' ∧ rest = rest' := by
  cases g with
  | blank d =>
    cases g' with
    | blank d' =>
      obtain ⟨rfl, rfl⟩ := List.cons.inj heq
      exact ⟨rfl, rfl⟩
    | comment x' =>
      obtain ⟨ds, hds⟩ := h'.2.exists_cons
      simp only [Gap.chars, hds] at heq
      exact absurd (List.cons.inj heq).1 h.ne_slash
  | comment x =>
    cases g' with
    | blank d' =>
      obtain ⟨ds, hds⟩ := h.2.exists_cons
      simp only [Gap.chars, hds] at heq
      exact absurd (List.cons.inj heq).1.symm h'.ne_slash
    | comment x' =>
      -- both are the comment that is found in front of the text
      obtain ⟨kind, loc, text⟩ := x
      obtain ⟨kind', loc', text'⟩ := x'
      obtain ⟨hloc, hcomment⟩ := h
      obtain ⟨hloc', hcomment'⟩ := h'
      have heq : text.toList ++ rest = text'.toList ++ rest' := heq
      have hfound := commentAt?_of_isComment hcomment
      rw [heq, commentAt?_of_isComment hcomment'] at hfound
      obtain ⟨rfl, hlength⟩ := Prod.mk.inj (Option.some.inj hfound)
      obtain ⟨htext, rfl⟩ := List.append_inj heq hlength.symm
      obtain rfl : text = text' := String.toList_inj.mp htext
      obtain rfl : loc = loc' := hloc.trans hloc'.symm
      exact ⟨rfl, rfl⟩

end Gap.Stands

/-! ### The whole gap -/

/-- No piece of a gap stands at the position. -/
def Cursor.Settled (c : Cursor) : Prop :=
  ∀ (g : Gap) (tail : List Char), c.rest = g.chars ++ tail → ¬g.Stands c.offset tail

/-- **A run of skipping** takes one piece after another. -/
theorem GapsStand.skipTrivia_eq (h : GapsStand n gaps rest) :
    skipTrivia ⟨n, gaps.flatMap Gap.chars ++ rest⟩ =
      gaps.foldr Trivia.behind (skipTrivia ⟨n + byteLength (gaps.flatMap Gap.chars), rest⟩) := by
  induction gaps generalizing n with
  | nil => rfl
  | cons g gs ih =>
    rw [List.flatMap_cons, List.append_assoc, h.1.skipTrivia_eq, ih h.2, byteLength_append,
      Nat.add_assoc]
    rfl

/-- What the pieces of a gap leave behind. -/
theorem foldr_behind (gaps : List Gap) (t : Trivia) :
    gaps.foldr Trivia.behind t =
      ⟨(gaps.flatMap Gap.chars).any isLineTerminator || t.newline,
        gaps.filterMap Gap.comment? ++ t.comments, t.stop⟩ := by
  induction gaps with
  | nil => rfl
  | cons g gs ih =>
    rw [List.foldr_cons, ih, Trivia.behind, List.flatMap_cons, List.any_append, Bool.or_assoc]
    cases hg : g.comment? <;> simp [hg]

/-- Where skipping stops, nothing more is skipped. -/
theorem skipTrivia_stop (c : Cursor) :
    skipTrivia (skipTrivia c).stop = ⟨false, [], (skipTrivia c).stop⟩ := by
  fun_induction skipTrivia c with
  | case1 c hr =>
    show skipTrivia c = _
    rw [skipTrivia.eq_def]
    split
    · rfl
    · next heq => exact absurd (heq.symm.trans hr) (List.cons_ne_nil _ _)
  | case2 c d r hr hd ih => exact ih
  | case3 c d r hr _ hd ih => exact ih
  | case4 c d r hr _ _ kind n hcomment stop text newline ih => exact ih
  | case5 c d r hr hline hskip hcomment =>
    show skipTrivia c = _
    rw [skipTrivia.eq_def]
    split
    · rfl
    · next heq =>
      obtain ⟨rfl, rfl⟩ := List.cons.inj (heq.symm.trans hr)
      rw [if_neg hline, if_neg hskip]
      split
      · next hfound => exact absurd (hcomment.symm.trans hfound) (by simp)
      · rfl

/-- Skipping stops only where no piece stands. -/
theorem settled_stop (c : Cursor) : (skipTrivia c).stop.Settled := by
  intro g tail hrest hstands
  have hstop := skipTrivia_stop c
  generalize (skipTrivia c).stop = s at hrest hstands hstop
  -- the piece would be skipped, and with it the position would move on
  have hmoved : s = (skipTrivia ⟨s.offset + byteLength g.chars, tail⟩).stop := by
    have hstep := hstands.skipTrivia_eq
    rw [← hrest, hstop] at hstep
    exact congrArg Trivia.stop hstep
  have hlength : s.rest.length ≤ tail.length := by
    rw [hmoved]
    exact (reaches_skipTrivia _).length_le
  obtain ⟨d, ds, hchars⟩ := hstands.exists_cons
  simp only [hrest, hchars, List.length_append, List.length_cons] at hlength
  omega

/-- **Only one gap stands in front of a text**, if nothing is left of it behind. -/
theorem GapsStand.unique (h : GapsStand n gaps rest) (h' : GapsStand n gaps' rest')
    (hend : Cursor.Settled ⟨n + byteLength (gaps.flatMap Gap.chars), rest⟩)
    (hend' : Cursor.Settled ⟨n + byteLength (gaps'.flatMap Gap.chars), rest'⟩)
    (heq : gaps.flatMap Gap.chars ++ rest = gaps'.flatMap Gap.chars ++ rest') : gaps = gaps' := by
  induction gaps generalizing n gaps' with
  | nil =>
    cases gaps' with
    | nil => rfl
    | cons g' gs' =>
      rw [List.flatMap_cons, List.append_assoc] at heq
      exact absurd h'.1 (hend g' _ heq)
  | cons g gs ih =>
    cases gaps' with
    | nil =>
      rw [List.flatMap_cons, List.append_assoc] at heq
      exact absurd h.1 (hend' g _ heq.symm)
    | cons g' gs' =>
      simp only [List.flatMap_cons, List.append_assoc, byteLength_append, ← Nat.add_assoc]
        at heq hend hend'
      obtain ⟨rfl, htail⟩ := h.1.unique h'.1 heq
      rw [ih h.2 h'.2 hend hend' htail]

/-! ### Tokens behind gaps -/

/-- The token that is read from a position of the source stands behind a gap, and the gap is all that
there is to skip. -/
structure Lexeme.Behind (source : String) (c : Cursor) (gaps : List Gap) (x : Lexeme) : Prop where
  rest : c.rest = gaps.flatMap Gap.chars ++ (x.token.text.toList ++ x.stop.rest)
  start : x.token.loc.start = c.offset + byteLength (gaps.flatMap Gap.chars)
  stop : x.token.loc.stop = x.token.loc.start + byteLength x.token.text.toList
  /-- The gap is a row of blanks and comments. -/
  stand : GapsStand c.offset gaps (x.token.text.toList ++ x.stop.rest)
  /-- The gap does not go on where the token starts. -/
  settled : Cursor.Settled ⟨x.token.loc.start, x.token.text.toList ++ x.stop.rest⟩
  comments : x.comments = gaps.filterMap Gap.comment?
  newline : x.token.newlineBefore = true ↔
    ∃ d ∈ gaps.flatMap Gap.chars, d ∈ ['\n', '\r', '\u2028', '\u2029']
  /-- Only the end of the source has no characters. -/
  nonempty : x.token.text = "" → x.token.kind = .eof ∧ x.token.loc.start = source.utf8ByteSize

theorem isLineTerminator_iff (d : Char) :
    isLineTerminator d = true ↔ d ∈ ['\n', '\r', '\u2028', '\u2029'] := by
  have hcode : ∀ e : Char, d.toNat = e.toNat ↔ d = e := by
    intro e
    constructor
    · intro h
      rw [← Char.ofNat_toNat d, h, Char.ofNat_toNat]
    · rintro rfl
      rfl
  have hline := hcode '\u2028'
  have hparagraph := hcode '\u2029'
  simp only [isLineTerminator, Bool.or_eq_true, beq_iff_eq, List.mem_cons, List.not_mem_nil,
    or_false, or_assoc, ← hline, ← hparagraph]
  rfl

/-- A line has ended in a stretch of trivia if a line terminator is in its gap. -/
theorem Trivia.Fills.newline_iff {c : Cursor} (h : (skipTrivia c).Fills c gaps) :
    (skipTrivia c).newline = true ↔
      ∃ d ∈ gaps.flatMap Gap.chars, d ∈ ['\n', '\r', '\u2028', '\u2029'] := by
  have hc : c = ⟨c.offset, gaps.flatMap Gap.chars ++ (skipTrivia c).stop.rest⟩ :=
    congrArg (Cursor.mk c.offset) h.rest
  have hstop : (Cursor.mk (c.offset + byteLength (gaps.flatMap Gap.chars)) (skipTrivia c).stop.rest) =
      (skipTrivia c).stop := congrArg (Cursor.mk · _) h.offset.symm
  have hrun := h.stand.skipTrivia_eq
  rw [← hc, hstop, skipTrivia_stop, foldr_behind] at hrun
  have hnewline : (skipTrivia c).newline = (gaps.flatMap Gap.chars).any isLineTerminator := by
    rw [hrun, Bool.or_false]
  rw [hnewline, List.any_eq_true]
  simp only [isLineTerminator_iff]

/-- A token is empty only where nothing is left. -/
theorem rest_eq_nil_of_text {mode : LexMode} {c : Cursor} (h : (readToken mode c).token.text = "") :
    (mode.trivia c).stop.rest = [] := by
  by_contra hne
  have hlength := scan_length_pos mode hne
  have htake : (mode.trivia c).stop.rest.take (scan mode (mode.trivia c).stop.rest).length = [] :=
    String.ofList_eq_empty_iff.mp h
  rcases List.take_eq_nil_iff.mp htake with hzero | hnil
  · omega
  · exact hne hnil

/-- **A token is read behind the gap that the text starts with.**  From every position of a source, in
the modes that skip trivia, there is exactly one row of blanks and comments that cannot be extended.
The token stands behind it, the comments that are kept are those in it, and a line has ended before
the token if one of the four line terminators is in it, be it inside a comment.  Only at the end of
the source is the token empty. -/
theorem readToken_behind {source : String} {c : Cursor} (hc : c.IsIn source) {mode : LexMode}
    (hmode : mode ∈ [.standard, .operand, .jsxTag]) :
    ∃! gaps, (readToken mode c).Behind source c gaps := by
  have htrivia : mode.trivia c = skipTrivia c := by
    simp only [List.mem_cons, List.not_mem_nil, or_false] at hmode
    rcases hmode with rfl | rfl | rfl <;> rfl
  obtain ⟨gaps, hfills⟩ := skipTrivia_fills c
  have hrest : (readToken mode c).token.text.toList ++ (readToken mode c).stop.rest =
      (skipTrivia c).stop.rest := by
    rw [text_append_rest, htrivia]
  have hstart : (readToken mode c).token.loc.start = (skipTrivia c).stop.offset := by
    rw [← htrivia]
    rfl
  have hsettled : Cursor.Settled ⟨(skipTrivia c).stop.offset, (skipTrivia c).stop.rest⟩ :=
    settled_stop c
  refine ⟨gaps, ⟨?_, ?_, ?_, ?_, ?_, ?_, ?_, ?_⟩, ?_⟩
  · rw [hrest, hfills.rest]
  · rw [hstart, hfills.offset]
  · rw [hstart, ← htrivia]
    exact stop_offset_eq mode c
  · rw [hrest]
    exact hfills.stand
  · rw [hstart, hrest]
    exact hsettled
  · rw [← hfills.comments, ← htrivia]
    rfl
  · have hnewline : (readToken mode c).token.newlineBefore = (skipTrivia c).newline := by
      rw [← htrivia]
      rfl
    rw [hnewline]
    exact hfills.newline_iff
  · intro htext
    have hnil := rest_eq_nil_of_text htext
    constructor
    · show (scan mode (mode.trivia c).stop.rest).kind.getD .invalid = .eof
      rw [hnil]
      simp only [List.mem_cons, List.not_mem_nil, or_false] at hmode
      rcases hmode with rfl | rfl | rfl <;> rfl
    · rw [htrivia] at hnil
      obtain ⟨before, after, rfl, rfl⟩ := hc
      have hafter : after.toList = gaps.flatMap Gap.chars := by
        simpa [hnil] using hfills.rest
      rw [hstart, hfills.offset, String.utf8ByteSize_append, ← hafter]
      have hsize := utf8ByteSize_ofList after.toList
      rw [String.ofList_toList] at hsize
      rw [hsize]
  · -- any other such gap stands in front of a text where nothing is left to skip either
    intro gaps' h
    have hend := h.settled
    have hstand := h.stand
    rw [h.start, hrest] at hend
    rw [hrest] at hstand
    rw [hfills.offset] at hsettled
    apply hstand.unique hfills.stand hend hsettled
    rw [← hrest, ← h.rest, hrest, hfills.rest]

/-- A line that ends inside a comment, read from behind its first word. -/
theorem brokenLine_behind :
    let c : Cursor := ⟨1, "/* b\n */ // c".toList⟩
    c.IsIn "a/* b\n */ // c" ∧ (∃! gaps, (readToken .operand c).Behind "a/* b\n */ // c" c gaps) ∧
      (readToken .operand c).token.newlineBefore = true ∧
      (readToken .operand c).comments.map (·.text) = ["/* b\n */", "// c"] := by
  intro c
  have hc : c.IsIn "a/* b\n */ // c" := ⟨"a", "/* b\n */ // c", rfl, rfl⟩
  have hmode : LexMode.operand ∈ [LexMode.standard, .operand, .jsxTag] := by decide
  exact ⟨hc, readToken_behind hc hmode, by decide +kernel, by decide +kernel⟩

end ImportSeam
