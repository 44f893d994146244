import ImportSeam.Proofs.Token.Gap

/-!
# Slices of the source

A location that lies between two positions of a source is a slice of it: its offsets are in range
and fall between characters.  Whatever is read at a position of the source, in any mode, is made of
such slices, and ends at a position again.

## Main definitions

* `Loc.Holds` — the location is a slice of the source, with the text.
* `Lexeme.Sliced` — a token and its comments are slices, and a string has its quotes.

## Main results

* `Loc.Within.holds` — a location between two positions is a slice.
* `sliced_readToken` — reading at a position gives slices.
-/

namespace ImportSeam

open BufferedToken

variable {source : String}

/-- The location is a slice of the source, and the slice is the text. -/
def Loc.Holds (source : String) (l : Loc) (text : String) : Prop :=
  ∃ before after, source = before ++ text ++ after ∧
    l = ⟨before.utf8ByteSize, (before ++ text).utf8ByteSize⟩

/-- The cursor stands between two characters of the source. -/
def Cursor.IsIn (source : String) (c : Cursor) : Prop :=
  ∃ before after, source = before ++ after ∧ c = ⟨before.utf8ByteSize, after.toList⟩

/-- A token as it is read is made of slices of the source, and a string starts and ends with its
quote. -/
structure Lexeme.Sliced (source : String) (x : Lexeme) : Prop where
  token : x.token.loc.Holds source x.token.text
  comments : ∀ c ∈ x.comments, c.loc.Holds source c.text
  stop : x.stop.IsIn source
  quoted : x.token.kind = .str → ∃ quote body, (quote = '"' ∨ quote = '\'') ∧
    x.token.text.toList = quote :: (body ++ [quote])

theorem utf8ByteSize_ofList (cs : List Char) : (String.ofList cs).utf8ByteSize = byteLength cs := by
  induction cs with
  | nil => rfl
  | cons c cs ih =>
    have hcons : String.ofList (c :: cs) = String.singleton c ++ String.ofList cs := by
      rw [String.singleton_eq_ofList, ← String.ofList_append, List.singleton_append]
    rw [hcons, String.utf8ByteSize_append, ih]
    simp [byteLength]

/-- A text between characters of the source is held where they end and begin. -/
theorem Loc.holds_of_append {as bs : List Char} {text : String} {l : Loc}
    (hsource : source.toList = as ++ text.toList ++ bs)
    (hl : l = ⟨byteLength as, byteLength (as ++ text.toList)⟩) : l.Holds source text := by
  refine ⟨String.ofList as, String.ofList bs, ?_, ?_⟩
  · rw [← String.toList_inj]
    simpa using hsource
  · have htext : String.ofList as ++ text = String.ofList (as ++ text.toList) := by
      rw [String.ofList_append, String.ofList_toList]
    rw [hl, htext, utf8ByteSize_ofList, utf8ByteSize_ofList]

theorem Cursor.Reaches.isIn {c : Cursor} (h : (Cursor.ofString source).Reaches c) :
    c.IsIn source := by
  obtain ⟨taken, hrest, hoffset⟩ := h
  have hrest : source.toList = taken ++ c.rest := hrest
  refine ⟨String.ofList taken, String.ofList c.rest, ?_, ?_⟩
  · rw [← String.toList_inj]
    simpa using hrest
  · rw [utf8ByteSize_ofList, String.toList_ofList]
    exact congrArg (Cursor.mk · c.rest) (hoffset.trans (Nat.zero_add _))

/-- Of two beginnings of one list, the one with fewer bytes is a beginning of the other. -/
theorem prefix_of_byteLength_le {as bs cs : List Char} (ha : as <+: cs) (hb : bs <+: cs)
    (h : byteLength as ≤ byteLength bs) : as <+: bs := by
  rcases List.prefix_or_prefix_of_prefix ha hb with hab | ⟨ds, rfl⟩
  · exact hab
  · -- what the first has more takes no bytes, so it is empty
    have hds : ds = [] := by
      by_contra hne
      have := byteLength_pos hne
      rw [byteLength_append] at h
      omega
    simp only [hds, List.append_nil, List.prefix_rfl]

/-- A location between two positions of the source is a slice of it. -/
theorem Loc.Within.holds {l : Loc} (h : l.Within (Cursor.ofString source)) :
    ∃ text, l.Holds source text := by
  obtain ⟨c, ⟨as, hc, hcoff⟩, hstart⟩ := h.start
  obtain ⟨d, ⟨bs, hd, hdoff⟩, hstop⟩ := h.stop
  have has : l.start = byteLength as := by
    rw [← hstart, hcoff]
    exact Nat.zero_add _
  have hbs : l.stop = byteLength bs := by
    rw [← hstop, hdoff]
    exact Nat.zero_add _
  obtain ⟨text, rfl⟩ := prefix_of_byteLength_le ⟨_, hc.symm⟩ ⟨_, hd.symm⟩
    (has ▸ hbs ▸ h.ordered)
  refine ⟨String.ofList text, @Loc.holds_of_append source as d.rest _ _ ?_ ?_⟩
  · rw [String.toList_ofList]
    exact hd
  · rw [String.toList_ofList, ← has, ← hbs]

/-- The comments in a gap stand where their locations say. -/
theorem GapsStand.comment {n : Nat} {gaps : List Gap} {rest : List Char} (h : GapsStand n gaps rest)
    {x : Comment} (hx : x ∈ gaps.filterMap Gap.comment?) :
    ∃ as bs, gaps.flatMap Gap.chars ++ rest = as ++ x.text.toList ++ bs ∧
      x.loc = ⟨n + byteLength as, n + byteLength (as ++ x.text.toList)⟩ := by
  induction gaps generalizing n with
  | nil => exact nomatch hx
  | cons g gs ih =>
    -- a comment further on stands behind the characters of this piece
    have hrec : x ∈ gs.filterMap Gap.comment? →
        ∃ as bs, (g :: gs).flatMap Gap.chars ++ rest = as ++ x.text.toList ++ bs ∧
          x.loc = ⟨n + byteLength as, n + byteLength (as ++ x.text.toList)⟩ := by
      intro hx
      obtain ⟨as, bs, hchars, hloc⟩ := ih h.2 hx
      refine ⟨g.chars ++ as, bs, ?_, ?_⟩
      · rw [List.flatMap_cons, List.append_assoc, hchars]
        simp only [List.append_assoc]
      · rw [hloc, List.append_assoc, byteLength_append g.chars as, byteLength_append g.chars,
          Nat.add_assoc, Nat.add_assoc]
    cases g with
    | blank c => exact hrec hx
    | comment y =>
      rcases List.mem_cons.1 hx with rfl | hx
      · refine ⟨[], gs.flatMap Gap.chars ++ rest, by simp [Gap.chars], ?_⟩
        simpa [byteLength] using h.1.1
      · exact hrec hx

/-- A string is read with both its quotes. -/
theorem readToken_quoted {mode : LexMode} {c : Cursor}
    (h : (readToken mode c).token.kind = .str) : ∃ quote body, (quote = '"' ∨ quote = '\'') ∧
      (readToken mode c).token.text.toList = quote :: (body ++ [quote]) := by
  have hkind : (scan mode (mode.trivia c).stop.rest).kind = some .str :=
    scan_kind_of_readToken h nofun
  -- neither the text of an element nor that of a template is a string
  have hord : scan mode (mode.trivia c).stop.rest =
      Scan.ordinary mode (mode.trivia c).stop.rest := by
    cases mode with
    | jsxText =>
      simp only [scan, Scan.jsxText] at hkind
      split at hkind <;> simp at hkind
    | templateTail =>
      simp only [scan] at hkind
      rcases Scan.template_kind (LexMode.templateTail.trivia c).stop.rest with h' | h' | h' <;>
        simp [h'] at hkind
    | _ => rfl
  rw [hord] at hkind
  obtain ⟨quote, r, hquote, hr, body, rest, hbody, hlen⟩ := Scan.ordinary_str hkind
  refine ⟨quote, body, hquote, ?_⟩
  have hpos : 0 < (scan mode (mode.trivia c).stop.rest).length :=
    scan_length_pos mode (by rw [hr]; exact List.cons_ne_nil _ _)
  have hlength : (scan mode (mode.trivia c).stop.rest).length = body.length + 2 := by
    rw [← hord] at hlen
    omega
  calc (readToken mode c).token.text.toList
      = (quote :: (body ++ quote :: rest)).take (body.length + 2) := by
        rw [← hbody, ← hr, ← hlength]
        exact String.toList_ofList
    _ = quote :: (body ++ [quote]) := by
        rw [List.take_succ_cons, List.take_append, List.take_of_length_le (by omega)]
        simp

/-- Whatever is read at a position of the source is made of slices. -/
theorem sliced_readToken {c : Cursor} (h : (Cursor.ofString source).Reaches c) (mode : LexMode) :
    (readToken mode c).Sliced source := by
  have hstop := (h.trans (reaches_stop mode c)).isIn
  obtain ⟨taken, hrest, hoffset⟩ := h
  have hrest : source.toList = taken ++ c.rest := hrest
  have hoffset : c.offset = byteLength taken := hoffset.trans (Nat.zero_add _)
  obtain ⟨gaps, hfills, -⟩ := trivia_fills mode c
  refine ⟨?_, fun x hx => ?_, hstop, readToken_quoted⟩
  · -- the token stands behind the gap
    have hbegin : (mode.trivia c).stop.offset = byteLength (taken ++ gaps.flatMap Gap.chars) := by
      rw [hfills.offset, hoffset, byteLength_append]
    refine @Loc.holds_of_append source (taken ++ gaps.flatMap Gap.chars)
      (readToken mode c).stop.rest _ _ ?_ ?_
    · rw [hrest, hfills.rest, ← text_append_rest, List.append_assoc, List.append_assoc]
    · rw [byteLength_append _ (readToken mode c).token.text.toList, ← hbegin, ← stop_offset_eq]
      rfl
  · -- a comment stands in the gap
    have hx : x ∈ gaps.filterMap Gap.comment? := hfills.comments ▸ hx
    obtain ⟨as, bs, hchars, hloc⟩ := hfills.stand.comment hx
    refine @Loc.holds_of_append source (taken ++ as) bs _ _ ?_ ?_
    · rw [hrest, hfills.rest, hchars]
      simp only [List.append_assoc]
    · rw [hloc, hoffset, List.append_assoc, byteLength_append taken as, byteLength_append taken]

/-! ### The buffer -/

namespace TokenBuffer

variable {b : TokenBuffer}

/-- Every token of a buffer was read at a position of the source. -/
theorem Coherent.sliced (h : b.Coherent) (hs : b.source = .ofString source) {t : BufferedToken}
    (ht : t ∈ b.consumed.toList ++ b.ahead) : t.lexeme.Sliced source := by
  obtain ⟨before, after, hsplit⟩ := List.append_of_mem ht
  have hfollow : Follow b.source (before ++ t :: after) := hsplit ▸ h
  obtain ⟨hbefore, hread, -⟩ := (follow_append _ _ _).1 hfollow
  rw [hread]
  exact sliced_readToken (hs ▸ reaches_endOf hbefore) t.mode

end TokenBuffer

end ImportSeam
