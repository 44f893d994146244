import ImportSeam.Proofs.Cover.Literal

/-!
# Lists in brackets

The elements of an array pattern are read as those of an array literal, and the properties of an
object pattern as the members of an object literal.  Both sides see the same signs between the items;
an item is a pattern on one side and an expression on the other.  The sign behind an item shows that
the text is not used up there, so what the item is made of is read alike.

## Main definitions

* `ItemAt` — an item of a list in brackets on both sides.
* `Rules.Covering` — rules that read the items of literals where others read those of patterns.
* `MembersCover`, `ObjMember.Covers` — members of an object literal that stand for properties.

## Main results

* `Rules.Covering.elems`, `Rules.Covering.props` — what stands in the brackets.
* `Rules.Covering.literal` — an array or object pattern is read as a literal.
* `Rules.covering_level` — all levels of the grammar read literals in the place of patterns.
-/

namespace ImportSeam

open TokenParser TokenBuffer

variable {ctx : Context} {r r' : Rules} {w w' : List Char} {b b' c : TokenBuffer}
  {close : Punctuator} {ends : List TokenKind}

/-! ### Items -/

/-- What ends an item of a list. -/
abbrev itemEnds (close : Punctuator) : List TokenKind := [.punct .comma, .punct close]

/-- An item of a list in brackets is read from `b` up to `c`, and the other side stands at `b'`. -/
structure ItemAt (w w' : List Char) (close : Punctuator) (b b' c : TokenBuffer) : Prop where
  tails : Tails w w'
  abreast : b.Abreast w w' b'
  bracket : close = .rBrace ∨ close = .rBracket
  ends : (c.upcoming .standard).kind ∈ itemEnds close

namespace ItemAt

variable (h : ItemAt w w' close b b' c)
include h

theorem exists_sign : ∃ q ∈ Punctuator.apart, (c.upcoming .standard).kind = .punct q := by
  rcases List.mem_pair.mp h.ends with hk | hk
  · exact ⟨.comma, by decide, hk⟩
  · rcases h.bracket with rfl | rfl
    · exact ⟨.rBrace, by decide, hk⟩
    · exact ⟨.rBracket, by decide, hk⟩

theorem seen (hc : b.Keeps c) : b.Beside w w' b' ∧ w.length < c.left := by
  obtain ⟨q, hq, hk⟩ := h.exists_sign
  exact h.abreast.seen h.tails hq hc hk

theorem mem_patternEnds : (c.upcoming .standard).kind ∈ patternEnds := by
  rcases List.mem_pair.mp h.ends with hk | hk
  · rw [hk]
    decide
  · rcases h.bracket with rfl | rfl <;> rw [hk] <;> decide

theorem assign_not_mem : .punct .assign ∉ itemEnds close := by
  rcases h.bracket with rfl | rfl <;> decide

end ItemAt

/-- A list goes on with a comma or is closed. -/
theorem mem_itemEnds {more : Bool} (hb : b.Coherent)
    (hmore : acceptPunct .comma .standard b = .ok more c)
    (hclose : more = false → (c.upcoming .standard).kind = .punct close) :
    (b.upcoming .standard).kind ∈ itemEnds close := by
  obtain ⟨-, hok, hc⟩ := (runs_acceptPunct .comma .standard).keeps_ok hb hmore
  cases more with
  | true => exact List.mem_pair.mpr (.inl (beq_iff_eq.mp hok.symm))
  | false =>
    rw [← TokenBuffer.Consumes.upcoming hc]
    exact List.mem_pair.mpr (.inr (hclose rfl))

/-- A default value stands behind an equals sign, or else nothing is read. -/
theorem Rules.default?_cases (hb : b.Coherent) {d : Option Expr}
    (h : r.default? ctx ends b = .ok d c) :
    (d = none ∧ b.Consumes [] c) ∨ ∃ v b₁, d = some v ∧
      acceptPunct .assign .standard b = .ok true b₁ ∧ r.assignment ctx ends b₁ = .ok v c := by
  obtain ⟨ok, b₁, hok, h⟩ := bind_ok h
  obtain ⟨-, -, hc⟩ := (runs_acceptPunct .assign .standard).keeps_ok hb hok
  cases ok with
  | false =>
    cases h
    exact .inl ⟨rfl, hc⟩
  | true =>
    rw [optionally, if_pos rfl, map_eq_pure_bind] at h
    obtain ⟨v, c, hv, h⟩ := bind_ok h
    cases h
    exact .inr ⟨v, b₁, rfl, hok, hv⟩

/-- The second rules read the items of a literal where the first read those of a pattern. -/
structure Rules.Covering (r r' : Rules) : Prop where
  twins : r.Twins r'
  name : ∀ {ctx w w' close b b' c id}, ItemAt w w' close b b' c → bindingName ctx b = .ok id c →
    Answers (c.Beside w w') (fun e => ∃ id', e = .ident id' ∧ id'.unmarked = id.unmarked)
      (r'.assignment ctx (itemEnds close) b')
  pat : ∀ {ctx w w' close b b' c p}, ItemAt w w' close b b' c → r.pat ctx b = .ok p c →
    Answers (c.Beside w w') (Expr.Covers · p) (r'.assignment ctx (itemEnds close) b')
  item : ∀ {ctx w w' close b b' b₁ c p d}, ItemAt w w' close b b' c → r.pat ctx b = .ok p b₁ →
    r.default? ctx (itemEnds close) b₁ = .ok d c →
      Answers (c.Beside w w') (Expr.CoversBinder · ⟨p, d⟩) (r'.assignment ctx (itemEnds close) b')

/-! ### Arrays -/

/-- **The elements of an array pattern** are read as those of an array literal. -/
theorem Rules.Covering.elems (h : r.Covering r') (ctx : Context) (hw : Tails w w') :
    ∀ n n' {b b' c : TokenBuffer} {ps : List (Option Binder) × Option Pat}, b.Abreast w w' b' →
      r.elemPats ctx n b = .ok ps c →
        Answers (c.Abreast w w') (ElemsCover · ps) (r'.arrayElems ctx n' b')
  | 0, _, _, _, _, _, _, hrun => nomatch hrun
  | _ + 1, 0, _, _, _, _, _, _ => rfl
  | n + 1, n' + 1, b, b', c, ps, hb, hrun => by
    have hsound := h.twins.agree.sound
    obtain ⟨closed, b₁, hclosed, hrun⟩ := bind_ok hrun
    refine (answers_accept hw hb (by decide) hclosed).bind fun _ b₁' hflag hb₁ => ?_
    subst hflag
    by_cases hc : closed = true
    · rw [if_pos hc] at hrun ⊢
      cases hrun
      exact ⟨.nil, hb₁⟩
    rw [if_neg hc] at hrun ⊢
    obtain ⟨comma, b₂, hcomma, hrun⟩ := bind_ok hrun
    refine (answers_accept hw hb₁ (by decide) hcomma).bind fun _ b₂' hflag hb₂ => ?_
    subst hflag
    by_cases hc : comma = true
    · rw [if_pos hc] at hrun ⊢
      obtain ⟨es, b₃, hes, hrun⟩ := bind_ok hrun
      cases hrun
      exact (elems h ctx hw n n' hb₂ hes).bind fun xs b₃' hxs hb₃ => ⟨hxs.hole, hb₃⟩
    rw [if_neg hc] at hrun ⊢
    obtain ⟨spread, b₃, hspread, hrun⟩ := bind_ok hrun
    refine (answers_accept hw hb₂ (by decide) hspread).bind fun _ b₃' hflag hb₃ => ?_
    subst hflag
    cases spread with
    | true =>
      obtain ⟨p, b₄, hp, hrun⟩ := bind_ok hrun
      obtain ⟨_, b₅, hclose, hrun⟩ := bind_ok hrun
      cases hrun
      obtain ⟨hkeeps₄, -⟩ := (hsound.pat _ _).keeps_ok hb₃.coherent hp
      obtain ⟨-, hk, -⟩ := (runs_expectPunct _ _).keeps_ok hkeeps₄.coherent hclose
      have hends : (b₄.upcoming .standard).kind ∈ itemEnds .rBracket :=
        List.mem_pair.mpr (.inr hk)
      refine (h.pat ⟨hw, hb₃, .inr rfl, hends⟩ hp).bind fun e b₄' he hb₄ => ?_
      refine (answers_refuse (q := .comma) hw (.inl hb₄) (by decide) (by rw [hk]; decide)).bind
        fun _ b₅' hflag hb₅ => ?_
      subst hflag
      exact (answers_expect hw hb₅ (by decide) hclose).bind fun _ b₆' _ hb₆ => ⟨.spread he, hb₆⟩
    | false =>
      obtain ⟨p, b₄, hp, hrun⟩ := bind_ok hrun
      obtain ⟨d, b₅, hd, hrun⟩ := bind_ok hrun
      obtain ⟨more, b₆, hmore, hrun⟩ := bind_ok hrun
      obtain ⟨hkeeps₄, -⟩ := (hsound.pat _ _).keeps_ok hb₃.coherent hp
      obtain ⟨hkeeps₅, -⟩ := (hsound.default? _).keeps_ok hkeeps₄.coherent hd
      obtain ⟨hkeeps₆, -⟩ := (runs_acceptPunct _ _).keeps_ok hkeeps₅.coherent hmore
      have hends : (b₅.upcoming .standard).kind ∈ itemEnds .rBracket := by
        refine mem_itemEnds hkeeps₅.coherent hmore ?_
        rintro rfl
        obtain ⟨_, b₇, hclose, -⟩ := bind_ok hrun
        exact ((runs_expectPunct _ _).keeps_ok hkeeps₆.coherent hclose).2.1
      refine (h.item ⟨hw, hb₃, .inr rfl, hends⟩ hp hd).bind fun e b₅' he hb₅ => ?_
      refine (answers_accept hw (.inl hb₅) (by decide) hmore).bind fun _ b₆' hflag hb₆ => ?_
      subst hflag
      cases more with
      | true =>
        obtain ⟨es, b₇, hes, hrun⟩ := bind_ok hrun
        cases hrun
        exact (elems h ctx hw n n' hb₆ hes).bind fun xs b₇' hxs hb₇ => ⟨hxs.item he, hb₇⟩
      | false =>
        obtain ⟨_, b₇, hclose, hrun⟩ := bind_ok hrun
        cases hrun
        exact (answers_expect hw hb₆ (by decide) hclose).bind fun _ b₇' _ hb₇ =>
          ⟨ElemsCover.nil.item he, hb₇⟩

/-! ### Keys without a method behind them -/

/-- A key starts with a token that a key can start with; a word is all of it. -/
theorem Rules.key_start {allowPrivate : Bool} {key : Key} (hb : b.Coherent)
    (h : r.key ctx allowPrivate b = .ok key c) :
    startsKey allowPrivate (b.upcoming .standard).kind = true ∧
      ((b.upcoming .standard).kind = .ident → c.upcoming .standard = b.second) := by
  obtain ⟨t, b₁, ht, h⟩ := bind_ok h
  obtain ⟨hkeeps, rfl, hc₁⟩ := (runs_peek .standard).keeps_ok hb ht
  by_cases hopen : ((b.upcoming .standard).kind == .punct .lBracket) = true
  · rw [beq_iff_eq.mp hopen]
    exact ⟨rfl, TokenKind.noConfusion⟩
  rw [if_neg hopen] at h
  by_cases hstarts : startsKey allowPrivate (b.upcoming .standard).kind = true
  · refine ⟨hstarts, fun hident => ?_⟩
    rw [hstarts, hident] at h
    obtain ⟨_, b₂, hskip, h⟩ := bind_ok (p := Functor.discard (consume .standard)) h
    cases h
    obtain ⟨-, hc₂⟩ := (runs_skip .standard).keeps_ok hkeeps.coherent hskip
    have hpos : b₁.position = b.position := hc₁.position
    have hpos₂ : c.position = (readToken .standard b₁.position).stop := hc₂.position
    rw [TokenBuffer.upcoming, TokenBuffer.second, hpos₂, hpos]
  · rw [Bool.not_eq_true] at hstarts
    rw [hstarts] at h
    cases h

/-- What follows the key of a property of a pattern. -/
def keyEnds : List TokenKind := [.punct .assign, .punct .colon, .punct .comma, .punct .rBrace]

/-- Where the key of a property stands, there is no method. -/
theorem Rules.Agree.method?_none (hr : r.Agree r') (hw : Tails w w') (hb : b.Beside w w' b')
    {key : Key} (hkey : r.key ctx false b = .ok key c)
    (hk : (c.upcoming .standard).kind ∈ keyEnds) :
    Answers (b.Beside w w') (· = none) (r'.method? ctx false b') := by
  obtain ⟨hstarts, hword⟩ := Rules.key_start hb.coherent hkey
  have hends : ∀ kind ∈ keyEnds, startsKey false kind = false ∧ (kind == .punct .star) = false ∧
      kind ≠ .punct .lParen := by
    decide
  have hahead := hb.ahead hw
  have hfirst : (b.upcoming .standard).kind = (b'.upcoming .standard).kind :=
    Token.kind_of_face hahead.first
  -- behind a word comes what follows a key, so the word is no modifier
  have hmodifier : ∀ word, (b'.upcoming .standard).isWord word = true →
      startsKey false b'.second.kind = false ∧ (b'.second.kind == .punct .star) = false := by
    intro word hword'
    have hident : (b.upcoming .standard).kind = .ident := by
      rw [hfirst]
      simp only [Token.isWord, Bool.and_eq_true, beq_iff_eq] at hword'
      exact hword'.1
    obtain ⟨hkey, hstar, -⟩ := hends _ hk
    rw [hword hident] at hkey hstar
    have htest : startsKey false b.second.kind = startsKey false b'.second.kind :=
      hahead.test _ rfl
    have htest' : (b.second.kind == .punct .star) = (b'.second.kind == .punct .star) :=
      hahead.test (· == .punct .star) rfl
    exact ⟨htest.symm.trans hkey, htest'.symm.trans hstar⟩
  obtain ⟨ts, b₁', hts, -, rfl, hc'⟩ := succeeds_peekTwo (.refl hb.coherent')
  have haccessor : ¬(((b'.upcoming .standard).isWord "get" || (b'.upcoming .standard).isWord "set") &&
      startsKey false b'.second.kind) = true := by
    intro h
    simp only [Bool.and_eq_true, Bool.or_eq_true] at h
    rcases h.1 with hget | hset
    · exact Bool.false_ne_true ((hmodifier _ hget).1.symm.trans h.2)
    · exact Bool.false_ne_true ((hmodifier _ hset).1.symm.trans h.2)
  have hasync : ((b'.upcoming .standard).isWord "async" && !b'.second.newlineBefore &&
      (b'.second.kind == .punct .star || startsKey false b'.second.kind)) = false := by
    rw [← Bool.not_eq_true]
    intro h
    simp only [Bool.and_eq_true] at h
    obtain ⟨hkey, hstar⟩ := hmodifier _ h.1.1
    rw [hkey, hstar] at h
    exact Bool.false_ne_true h.2
  have hstar : ((b'.upcoming .standard).kind == .punct .star) = false := by
    rw [← hfirst, beq_eq_false_iff_ne]
    intro h
    rw [h] at hstarts
    exact Bool.false_ne_true hstarts
  have hkeyed : r'.method? ctx false b' = r'.keyedMethod? ctx false b₁'.mark b₁' := by
    rw [Rules.method?, bind_of_ok hts]
    dsimp only
    rw [bind_of_ok (p := mark) rfl, if_neg haccessor, hasync, hstar, ← hfirst, hstarts]
    rfl
  rw [hkeyed]
  exact hr.keyedMethod?_none ctx hw (hb.unread (.refl hb.coherent) hc') hkey (hends _ hk).2.2

/-! ### Objects -/

/-- The member is the property when the literal is taken apart. -/
def ObjMember.Covers (m : ObjMember) (p : PropPat) : Prop :=
  ∃ p', p'.unmarked = p.unmarked ∧ ∀ {loc ms ps rest}, membersToProps loc ms = .ok (ps, rest) →
    membersToProps loc (m :: ms) = .ok (p' :: ps, rest)

/-- The members of a literal are the properties of a pattern, with the name that takes the rest. -/
def MembersCover (ms : List ObjMember) (ps : List PropPat × Option Ident) : Prop :=
  ∀ loc, ∃ ps', membersToProps loc ms = .ok ps' ∧
    Prod.map propsUnmarked (Option.map Ident.unmarked) ps' =
      Prod.map propsUnmarked (Option.map Ident.unmarked) ps

theorem Expr.covers_object {loc loc' : Loc} {ms : List ObjMember} {ps : List PropPat × Option Ident}
    (h : MembersCover ms ps) : (Expr.object loc' ms).Covers (.object loc ps.1 ps.2) := by
  obtain ⟨ps', hms, hps⟩ := h loc'
  have hpat := Expr.toPat_object hms
  refine ⟨_, hpat, Expr.toTarget_of_literal hpat (.inr ⟨loc', ms, rfl⟩), ?_⟩
  obtain ⟨hprops, hrest⟩ := Prod.mk.inj hps
  exact congrArg₂ (Pat.object _) hprops hrest

namespace MembersCover

theorem nil : MembersCover [] ([], none) := fun _ => ⟨_, rfl, rfl⟩

theorem cons {m : ObjMember} {p : PropPat} {ms : List ObjMember} {ps : List PropPat × Option Ident}
    (hm : m.Covers p) (h : MembersCover ms ps) : MembersCover (m :: ms) (p :: ps.1, ps.2) := by
  intro loc
  obtain ⟨ps', hms, hps⟩ := h loc
  obtain ⟨hprops, hrest⟩ := Prod.mk.inj hps
  obtain ⟨p', hp, hm⟩ := hm
  exact ⟨_, hm hms, Prod.ext (congrArg₂ List.cons hp hprops) hrest⟩

theorem spread {loc : Loc} {id id' : Ident} (h : id'.unmarked = id.unmarked) :
    MembersCover [.spread loc (.ident id')] ([], some id) :=
  fun _ => ⟨([], some id'), rfl, Prod.ext rfl (congrArg some h)⟩

end MembersCover

namespace ObjMember

theorem covers_valued {loc : Loc} {key key' : Key} {e : Expr} {x : Binder} {isShorthand : Bool}
    (hkey : key'.unmarked = key.unmarked) (he : e.CoversBinder x) :
    (ObjMember.valued loc key' (.field (some e))).Covers ⟨key, x, isShorthand⟩ := by
  obtain ⟨x', hx', hx⟩ := he
  refine ⟨⟨key', x', false⟩, ?_, fun h => membersToProps_valued hx' h⟩
  exact congrArg₂ (PropPat.mk · · false) hkey hx

theorem covers_shorthand {loc : Loc} {id id' : Ident} {kind : TokenKind} (hkind : kind ≠ .str)
    (h : id'.unmarked = id.unmarked) :
    (ObjMember.shorthand loc id').Covers ⟨.direct id.name kind, ⟨.ident id, none⟩, true⟩ := by
  refine ⟨_, ?_, fun h => membersToProps_shorthand h⟩
  have hname : id'.name = id.name := (Ident.mk.inj h).1
  have hkey : (Key.direct id.name kind).unmarked = .direct id.name .ident :=
    congrArg (Key.direct id.name) (if_neg hkind)
  change PropPat.mk (.direct id'.name .ident) ⟨.ident id'.unmarked, none⟩ false =
    ⟨(Key.direct id.name kind).unmarked, ⟨.ident id.unmarked, none⟩, false⟩
  rw [hkey, h, hname]

end ObjMember

/-- A name of the context is not quoted. -/
theorem Context.ne_str_of_isName {kind : TokenKind} (h : ctx.isName kind = true) : kind ≠ .str := by
  rintro rfl
  exact Bool.false_ne_true h

/-- What a property of a pattern is made of, from its key on. -/
inductive Rules.ReadsProp (r : Rules) (ctx : Context) (loc : Loc) (key : Key) (b c : TokenBuffer) :
    PropPat → Prop
  | valued {b₁ b₂ p d} (hcolon : acceptPunct .colon .standard b = .ok true b₁)
      (hp : r.pat ctx b₁ = .ok p b₂) (hd : r.default? ctx (itemEnds .rBrace) b₂ = .ok d c) :
      ReadsProp r ctx loc key b c ⟨key, ⟨p, d⟩, false⟩
  | shorthand {b₁ text kind d} (hcolon : acceptPunct .colon .standard b = .ok false b₁)
      (hkey : key = .direct text kind) (hname : ctx.isName kind = true)
      (hd : r.default? ctx (itemEnds .rBrace) b₁ = .ok d c) :
      ReadsProp r ctx loc key b c ⟨key, ⟨.ident ⟨text, loc, .unknown⟩, d⟩, true⟩

theorem Rules.propPat_cases (hb : b.Coherent) {prop : PropPat} (h : r.propPat ctx b = .ok prop c) :
    ∃ key b₁ b₂, b.Consumes [] b₁ ∧ r.key ctx false b₁ = .ok key b₂ ∧
      r.ReadsProp ctx (b.upcoming .standard).loc key b₂ c prop := by
  obtain ⟨t, b₁, ht, h⟩ := bind_ok h
  obtain ⟨-, rfl, hc₁⟩ := (runs_peek .standard).keeps_ok hb ht
  obtain ⟨key, b₂, hkey, h⟩ := bind_ok h
  obtain ⟨colon, b₃, hcolon, h⟩ := bind_ok h
  refine ⟨key, b₁, b₂, hc₁, hkey, ?_⟩
  cases colon with
  | true =>
    obtain ⟨p, b₄, hp, h⟩ := bind_ok h
    obtain ⟨d, b₅, hd, h⟩ := bind_ok h
    cases h
    exact .valued hcolon hp hd
  | false =>
    cases key with
    | computed e => exact nomatch h
    | direct text kind =>
      cases hname : ctx.isName kind with
      | false =>
        rw [if_neg Bool.false_ne_true] at h
        dsimp only at h
        rw [hname] at h
        exact nomatch h
      | true =>
        rw [if_neg Bool.false_ne_true] at h
        dsimp only at h
        rw [hname] at h
        obtain ⟨d, b₄, hd, h⟩ := bind_ok (p := r.default? ctx (itemEnds .rBrace)) h
        cases h
        exact .shorthand hcolon rfl hname hd

/-- What follows the key of a property shows that it is not the key of a method. -/
theorem Rules.ReadsProp.mem_keyEnds {loc : Loc} {key : Key} {prop : PropPat} (hb : b.Coherent)
    (h : r.ReadsProp ctx loc key b c prop) (hk : (c.upcoming .standard).kind ∈ itemEnds .rBrace) :
    (b.upcoming .standard).kind ∈ keyEnds := by
  cases h with
  | valued hcolon hp hd =>
    obtain ⟨-, hsign, -⟩ := (runs_acceptPunct _ _).keeps_ok hb hcolon
    rw [beq_iff_eq.mp hsign.symm]
    decide
  | shorthand hcolon hkey hname hd =>
    obtain ⟨hkeeps, -, hc⟩ := (runs_acceptPunct _ _).keeps_ok hb hcolon
    rw [← TokenBuffer.Consumes.upcoming hc]
    obtain ⟨-, hc₁⟩ | ⟨v, b₂, -, hassign, -⟩ := default?_cases hkeeps.coherent hd
    · rw [← hc₁.upcoming]
      rcases List.mem_pair.mp hk with hk | hk <;> rw [hk] <;> decide
    · obtain ⟨-, hsign, -⟩ := (runs_acceptPunct _ _).keeps_ok hkeeps.coherent hassign
      rw [beq_iff_eq.mp hsign.symm]
      decide

/-- **A property of an object pattern** is read as a member of an object literal. -/
theorem Rules.Covering.member (h : r.Covering r') (hi : ItemAt w w' .rBrace b b' c)
    (hno : (b.upcoming .standard).kind ≠ .punct .ellipsis) {prop : PropPat}
    (hp : r.propPat ctx b = .ok prop c) :
    Answers (c.Beside w w') (fun build => ∀ loc, (build loc).Covers prop) (r'.objMember ctx b') := by
  have hr := h.twins.agree
  have hw := hi.tails
  obtain ⟨hkeeps, -⟩ := hr.sound.propPat.keeps_ok hi.abreast.coherent hp
  obtain ⟨hb, hlt⟩ := hi.seen hkeeps
  obtain ⟨key, b₁, b₂, hc₁, hkey, hprop⟩ := Rules.propPat_cases hb.coherent hp
  obtain ⟨hkeeps₂, -⟩ := (hr.sound.key false).keeps_ok hc₁.coherent hkey
  have hkind := hprop.mem_keyEnds hkeeps₂.coherent hi.ends
  refine (answers_refuse (q := .ellipsis) hw hi.abreast (by decide) hno).bind
    fun _ b₁' hflag hb₁ => ?_
  subst hflag
  have hb₁ := (hb₁.beside hb.lt).unread hc₁ (.refl hb₁.coherent')
  refine (hr.method?_none hw hb₁ hkey hkind).bind fun _ b₂' hnone hb₁ => ?_
  subst hnone
  obtain ⟨t', b₃', ht', -, rfl, hc'⟩ := succeeds_peek_any .standard (.refl hb₁.coherent')
  have hb₁ := hb₁.unread (.refl hb₁.coherent) hc'
  dsimp only
  rw [bind_of_ok ht']
  refine ((hr.key_firm ctx false).follows hw hb₁ hkey).bind fun key' b₄' hkey' hb₂ => ?_
  clear hp
  cases hprop with
  | valued hcolon hp hd =>
    refine (answers_accept hw hb₂ (by decide) hcolon).bind fun _ b₅' hflag hb₃ => ?_
    subst hflag
    refine (h.item ⟨hw, hb₃, hi.bracket, hi.ends⟩ hp hd).bind fun e c' he hc => ⟨fun loc => ?_, hc⟩
    exact ObjMember.covers_valued (Key.unmarked_of_unplaced hkey').symm he
  | @shorthand b₃ text kind d hcolon hdirect hname hd =>
    subst hdirect
    cases key' with
    | computed e => cases hkey'
    | direct text' kind' =>
      obtain ⟨rfl, rfl⟩ := Key.direct.inj hkey'
      refine (answers_accept hw hb₂ (by decide) hcolon).bind fun _ b₅' hflag hb₃ => ?_
      subst hflag
      rw [if_neg Bool.false_ne_true]
      dsimp only
      rw [hname]
      obtain ⟨hkeeps₃, -⟩ := (runs_acceptPunct _ _).keeps_ok hkeeps₂.coherent hcolon
      obtain ⟨hkeeps₄, -⟩ := (hr.sound.default? _).keeps_ok hkeeps₃.coherent hd
      have hb₃ := hb₃.beside (Nat.lt_of_lt_of_le hlt hkeeps₄.left_le)
      have hkey'' : (Key.direct text .ident).unmarked = (Key.direct text kind).unmarked :=
        congrArg (Key.direct text) (if_neg (Context.ne_str_of_isName hname)).symm
      obtain ⟨rfl, hc₄⟩ | ⟨v, b₄, rfl, hassign, hv⟩ := Rules.default?_cases hb₃.coherent hd
      · -- a name that is both key and pattern
        obtain ⟨ok, c', hok, -, hflag, hc'⟩ := succeeds_acceptPunct_any .assign (.refl hb₃.coherent')
        have hassign : ok = false := by
          rw [hflag, ← Token.kind_of_face (hb₃.face hw .standard), ← hc₄.upcoming,
            beq_eq_false_iff_ne]
          exact fun heq => hi.assign_not_mem (heq ▸ hi.ends)
        subst hassign
        rw [if_neg (by decide), bind_of_ok hok]
        refine ⟨fun loc => ?_, hb₃.unread hc₄ hc'⟩
        have hid : Ident.unmarked ⟨text, (b₂'.upcoming .standard).loc, .unknown⟩ =
          Ident.unmarked ⟨text, (b.upcoming .standard).loc, .unknown⟩ := rfl
        exact ObjMember.covers_shorthand (Context.ne_str_of_isName hname) hid
      · -- its default value is kept as an assignment
        obtain ⟨hkeeps₅, -⟩ := (runs_acceptPunct _ _).keeps_ok hb₃.coherent hassign
        obtain ⟨hkeeps₆, -⟩ := (hr.sound.assignment _).keeps_ok hkeeps₅.coherent hv
        rw [if_neg (by decide)]
        refine ((parallel_acceptPunct .assign .standard).follows hw hb₃ hassign
          (Nat.lt_of_lt_of_le hlt hkeeps₆.left_le)).bind fun ok b₆' hflag hb₄ => ?_
        subst hflag
        refine ((hr.assignment ctx _).follows hw hb₄ hv hlt).bind fun v' c' hv' hc => ?_
        refine ⟨fun loc => ObjMember.covers_valued hkey'' ?_, hc⟩
        exact Expr.coversBinder_assign rfl hv'.symm

/-- **The properties of an object pattern** are read as the members of an object literal. -/
theorem Rules.Covering.props (h : r.Covering r') (ctx : Context) (hw : Tails w w') :
    ∀ n n' {b b' c : TokenBuffer} {ps : List PropPat × Option Ident}, b.Abreast w w' b' →
      r.propPats ctx n b = .ok ps c →
        Answers (c.Abreast w w') (MembersCover · ps)
          (separated n' .rBrace (spanning (r'.objMember ctx)) b')
  | 0, _, _, _, _, _, _, hrun => nomatch hrun
  | _ + 1, 0, _, _, _, _, _, _ => rfl
  | n + 1, n' + 1, b, b', c, ps, hb, hrun => by
    have hsound := h.twins.agree.sound
    obtain ⟨closed, b₁, hclosed, hrun⟩ := bind_ok hrun
    refine (answers_accept hw hb (by decide) hclosed).bind fun _ b₁' hflag hb₁ => ?_
    subst hflag
    by_cases hc : closed = true
    · rw [if_pos hc] at hrun ⊢
      cases hrun
      exact ⟨.nil, hb₁⟩
    rw [if_neg hc] at hrun ⊢
    obtain ⟨spread, b₂, hspread, hrun⟩ := bind_ok hrun
    obtain ⟨hkeeps₂, hsign, hc₂⟩ := (runs_acceptPunct _ _).keeps_ok hb₁.coherent hspread
    cases spread with
    | true =>
      obtain ⟨id, b₃, hid, hrun⟩ := bind_ok hrun
      obtain ⟨_, b₄, hclose, hrun⟩ := bind_ok hrun
      cases hrun
      obtain ⟨hkeeps₃, -⟩ := runs_bindingName.keeps_ok hkeeps₂.coherent hid
      obtain ⟨-, hk, -⟩ := (runs_expectPunct _ _).keeps_ok hkeeps₃.coherent hclose
      have hends : (b₃.upcoming .standard).kind ∈ itemEnds .rBrace := List.mem_pair.mpr (.inr hk)
      have hmember : Answers (b₃.Beside w w') (fun m => MembersCover [m] ([], some id))
          (spanning (r'.objMember ctx) b₁') := by
        refine .spanning ?_
        refine (answers_accept hw hb₁ (by decide) hspread).bind fun _ b₂' hflag hb₂ => ?_
        subst hflag
        refine (h.name ⟨hw, hb₂, .inl rfl, hends⟩ hid).bind fun e b₃' he hb₃ => ?_
        obtain ⟨id', rfl, hsame⟩ := he
        exact ⟨fun loc => .spread hsame, hb₃⟩
      refine hmember.bind fun m b₃' hm hb₃ => ?_
      refine (answers_refuse (q := .comma) hw (.inl hb₃) (by decide) (by rw [hk]; decide)).bind
        fun _ b₄' hflag hb₄ => ?_
      subst hflag
      exact (answers_expect hw hb₄ (by decide) hclose).bind fun _ b₅' _ hb₅ => ⟨hm, hb₅⟩
    | false =>
      obtain ⟨prop, b₃, hprop, hrun⟩ := bind_ok hrun
      obtain ⟨more, b₄, hmore, hrun⟩ := bind_ok hrun
      obtain ⟨hkeeps₃, -⟩ := hsound.propPat.keeps_ok hkeeps₂.coherent hprop
      obtain ⟨hkeeps₄, -⟩ := (runs_acceptPunct _ _).keeps_ok hkeeps₃.coherent hmore
      have hends : (b₃.upcoming .standard).kind ∈ itemEnds .rBrace := by
        refine mem_itemEnds hkeeps₃.coherent hmore ?_
        rintro rfl
        obtain ⟨_, b₅, hclose, -⟩ := bind_ok hrun
        exact ((runs_expectPunct _ _).keeps_ok hkeeps₄.coherent hclose).2.1
      have hno : (b₂.upcoming .standard).kind ≠ .punct .ellipsis := by
        rw [TokenBuffer.Consumes.upcoming hc₂]
        exact beq_eq_false_iff_ne.mp hsign.symm
      have hb₂ := hb₁.unread hc₂ (.refl hb₁.coherent')
      have hmember : Answers (b₃.Beside w w') (ObjMember.Covers · prop)
          (spanning (r'.objMember ctx) b₁') :=
        .spanning (h.member ⟨hw, hb₂, .inl rfl, hends⟩ hno hprop)
      refine hmember.bind fun m b₃' hm hb₃ => ?_
      refine (answers_accept hw (.inl hb₃) (by decide) hmore).bind fun _ b₄' hflag hb₄ => ?_
      subst hflag
      cases more with
      | true =>
        obtain ⟨qs, b₅, hqs, hrun⟩ := bind_ok hrun
        cases hrun
        exact (props h ctx hw n n' hb₄ hqs).bind fun ms b₅' hms hb₅ => ⟨hms.cons hm, hb₅⟩
      | false =>
        obtain ⟨_, b₅, hclose, hrun⟩ := bind_ok hrun
        cases hrun
        exact (answers_expect hw hb₄ (by decide) hclose).bind fun _ b₅' _ hb₅ =>
          ⟨MembersCover.nil.cons hm, hb₅⟩

/-! ### Whole patterns -/

/-- What a pattern is made of. -/
inductive Rules.ReadsPattern (r : Rules) (ctx : Context) (b c : TokenBuffer) : Pat → Prop
  | array {loc b₁ es} (hopen : expectPunct .lBracket .standard b = .ok () b₁)
      (hes : r.elemPats ctx r.depth b₁ = .ok es c) : ReadsPattern r ctx b c (.array loc es.1 es.2)
  | object {loc b₁ ps} (hopen : expectPunct .lBrace .standard b = .ok () b₁)
      (hps : r.propPats ctx r.depth b₁ = .ok ps c) : ReadsPattern r ctx b c (.object loc ps.1 ps.2)
  | name {id} (hid : bindingName ctx b = .ok id c) : ReadsPattern r ctx b c (.ident id)

theorem Rules.pattern_cases (hb : b.Coherent) {p : Pat} (h : r.pattern ctx b = .ok p c) :
    ∃ b₁, b.Consumes [] b₁ ∧ r.ReadsPattern ctx b₁ c p := by
  obtain ⟨kind, b₁, hkind, h⟩ := bind_ok h
  obtain ⟨-, -, hc₁⟩ := (runs_peekKind .standard).keeps_ok hb hkind
  refine ⟨b₁, hc₁, ?_⟩
  split at h
  · obtain ⟨build, loc, hbuild, rfl⟩ := spanning_ok h
    obtain ⟨_, b₂, hopen, hbuild⟩ := bind_ok hbuild
    obtain ⟨es, b₃, hes, hbuild⟩ := bind_ok hbuild
    cases hbuild
    exact .array hopen hes
  · obtain ⟨build, loc, hbuild, rfl⟩ := spanning_ok h
    obtain ⟨_, b₂, hopen, hbuild⟩ := bind_ok hbuild
    obtain ⟨ps, b₃, hps, hbuild⟩ := bind_ok hbuild
    cases hbuild
    exact .object hopen hps
  · obtain ⟨id, b₂, hid, h⟩ := bind_ok h
    cases h
    exact .name hid

/-- An opening bracket or brace starts a literal. -/
theorem answers_opening {q : Punctuator} {p : TokenParser Expr} {E : TokenBuffer → Prop}
    {P : Expr → Prop} (hq : q ∈ Punctuator.apart) {d : Char} (hchars : q.chars = [d]) (hd : d ≠ '/')
    (hnone : Rules.prefixAt? ctx (.punct q) = none)
    (hp : ∀ t : Token, t.kind = .punct q → r'.primaryExpr ctx ends t = p) (hw : Tails w w')
    (hb : b.Abreast w w' b') (hk : (b.upcoming .standard).kind = .punct q)
    (h : ∀ b₁', b.Abreast w w' b₁' → Answers E P (p b₁')) :
    Answers E P (r'.operandExpr ctx ends b') := by
  obtain ⟨hbeside, -⟩ := hb.seen hw hq (.refl hb.coherent) hk
  have hk' : (b'.upcoming .standard).kind = .punct q :=
    (Token.kind_of_face (hbeside.face hw .standard)).symm.trans hk
  have hoperand := TokenBuffer.upcoming_operand_of_punct hk' hchars hd
  obtain ⟨t, b₁', ht, -, rfl, hc'⟩ := succeeds_peek_any .operand (.refl hb.coherent')
  have hrun : r'.operandExpr ctx ends b' = p b₁' := by
    rw [Rules.operandExpr, bind_of_ok ht, hoperand, hk', hnone, ← hp _ hk']
    rfl
  rw [hrun]
  exact h b₁' (hb.unread (.refl hb.coherent) hc')

/-- **An array or object pattern is read as a literal**, also where the text ends behind it. -/
theorem Rules.Covering.literal (h : r.Covering r') (hw : Tails w w') (hb : b.Abreast w w' b')
    {p : Pat} (hp : r.pattern ctx b = .ok p c) (hshape : ∀ id, p ≠ .ident id) (ends : List TokenKind) :
    Answers (c.Abreast w w') (Expr.Covers · p) (r'.operandExpr ctx ends b') := by
  obtain ⟨b₁, hc₁, hpattern⟩ := Rules.pattern_cases hb.coherent hp
  cases hpattern with
  | @array loc b₂ es hopen hes =>
    obtain ⟨-, hk, -⟩ := (runs_expectPunct _ _).keeps_ok hc₁.coherent hopen
    rw [hc₁.upcoming] at hk
    refine answers_opening (q := .lBracket) (p := r'.arrayLiteral ctx) (d := '[') (by decide) rfl
      (by decide) rfl (fun t ht => ?_) hw hb hk fun b' hb => .spanning ?_
    · rw [Rules.primaryExpr, ht]
    have hb := hb.unread hc₁ (.refl hb.coherent')
    refine (answers_expect hw hb (by decide) hopen).bind fun _ b₂' _ hb₂ => ?_
    exact (h.elems ctx hw _ _ hb₂ hes).bind fun xs b₃' hxs hb₃ =>
      ⟨fun loc => Expr.covers_array hxs, hb₃⟩
  | @object loc b₂ ps hopen hps =>
    obtain ⟨-, hk, -⟩ := (runs_expectPunct _ _).keeps_ok hc₁.coherent hopen
    rw [hc₁.upcoming] at hk
    refine answers_opening (q := .lBrace) (p := r'.objectLiteral ctx) (d := '\x7b') (by decide) rfl
      (by decide) rfl (fun t ht => ?_) hw hb hk fun b' hb => .spanning ?_
    · rw [Rules.primaryExpr, ht]
    have hb := hb.unread hc₁ (.refl hb.coherent')
    have hmembers : Answers (c.Abreast w w') (MembersCover · ps) (r'.objMembers ctx b') :=
      (answers_expect hw hb (by decide) hopen).bind fun _ b₂' _ hb₂ => h.props ctx hw _ _ hb₂ hps
    exact hmembers.bind fun ms b₃' hms hb₃ => ⟨fun loc => Expr.covers_object hms, hb₃⟩
  | name hid => exact absurd rfl (hshape _)

/-- A pattern inside the text is read as an operand. -/
theorem Rules.Covering.operand (h : r.Covering r') (hw : Tails w w') (hb : b.Abreast w w' b')
    {p : Pat} (hp : r.pattern ctx b = .ok p c) (hk : (c.upcoming .standard).kind ∈ patternEnds)
    (hl : w.length < c.left) (ends : List TokenKind) :
    Answers (c.Beside w w') (Expr.Covers · p) (r'.operandExpr ctx ends b') := by
  by_cases hshape : ∃ id, p = .ident id
  · obtain ⟨id, rfl⟩ := hshape
    obtain ⟨b₁, hc₁, hpattern⟩ := Rules.pattern_cases hb.coherent hp
    cases hpattern with
    | name hid =>
      have hb := hb.unread hc₁ (.refl hb.coherent')
      refine (answers_operandName r' hw hb hid hk hl ends).mono (fun _ hc => hc) fun e he => ?_
      obtain ⟨id', rfl, hsame⟩ := he
      exact Expr.covers_ident hsame
  · refine (h.literal hw hb hp (fun id hid => hshape ⟨id, hid⟩) ends).mono (fun _ hc => ?_)
      fun _ he => he
    exact hc.beside hl

/-! ### Levels -/

/-- A name that is an item. -/
theorem ItemAt.answers_name (hi : ItemAt w w' close b b' c) (r' : Rules) {id : Ident}
    (hid : bindingName ctx b = .ok id c) :
    Answers (c.Beside w w') (fun e => ∃ id', e = .ident id' ∧ id'.unmarked = id.unmarked)
      (r'.operatorExpr ctx Operator.assign.precedence (itemEnds close) b') := by
  obtain ⟨hkeeps, -⟩ := runs_bindingName.keeps_ok hi.abreast.coherent hid
  obtain ⟨-, hlt⟩ := hi.seen hkeeps
  have hname := answers_operandName r' hi.tails hi.abreast hid hi.mem_patternEnds hlt (itemEnds close)
  exact answers_operatorExpr hi.tails hname hi.ends

/-- Productions read literals in the place of patterns if their rules do. -/
theorem Rules.Covering.step (h : r.Covering r') (hr : r.step.Twins r'.step)
    (hvalue : r.step.Agree r') : r.step.Covering r'.step where
  twins := hr
  name hi hid := hi.answers_name r' hid
  pat {_ w w' close _ _ _ _} hi hp := by
    obtain ⟨hkeeps, -⟩ := (hr.agree.sound.pat _ _).keeps_ok hi.abreast.coherent hp
    obtain ⟨-, hlt⟩ := hi.seen hkeeps
    have hoperand := h.operand hi.tails hi.abreast hp hi.mem_patternEnds hlt (itemEnds close)
    exact answers_operatorExpr hi.tails hoperand hi.ends
  item {ctx w w' close b b' b₁ c p d} hi hp hd := by
    have hw := hi.tails
    obtain ⟨hkeeps₁, -⟩ := (hr.agree.sound.pat _ _).keeps_ok hi.abreast.coherent hp
    obtain ⟨hkeeps, -⟩ := (hr.agree.sound.default? _).keeps_ok hkeeps₁.coherent hd
    obtain ⟨-, hlt⟩ := hi.seen (hkeeps₁.trans hkeeps)
    have hlt₁ := Nat.lt_of_lt_of_le hlt hkeeps.left_le
    obtain ⟨rfl, hc₁⟩ | ⟨v, b₂, rfl, hassign, hv⟩ := Rules.default?_cases hkeeps₁.coherent hd
    · have hends := hi.ends
      have hpattern := hi.mem_patternEnds
      rw [hc₁.upcoming] at hends hpattern
      have hoperand := h.operand hw hi.abreast hp hpattern hlt₁ (itemEnds close)
      refine (answers_operatorExpr hw hoperand hends).mono (fun _ hc => ?_) fun _ he => he.binder
      exact hc.unread hc₁ (.refl hc.coherent')
    · obtain ⟨-, hsign, -⟩ := (runs_acceptPunct _ _).keeps_ok hkeeps₁.coherent hassign
      have hpattern : (b₁.upcoming .standard).kind ∈ patternEnds := by
        rw [beq_iff_eq.mp hsign.symm]
        decide
      refine (h.operand hw hi.abreast hp hpattern hlt₁ (itemEnds close)).bind
        fun e b₁' he hb₁ => ?_
      obtain ⟨p', -, htarget, hsame⟩ := he
      refine (answers_assign hvalue hw hb₁ htarget hassign hv hi.assign_not_mem hi.ends hlt _).mono
        (fun _ hc => hc) ?_
      rintro _ ⟨loc, v', rfl, hv'⟩
      exact Expr.coversBinder_assign hsame hv'

/-- **All levels of the grammar** read literals in the place of patterns. -/
theorem Rules.covering_level : ∀ n m, (level n).Covering (level m)
  | n, 0 =>
    { twins := twins_level n 0
      name := fun _ _ => rfl
      pat := fun _ _ => rfl
      item := fun _ _ _ => rfl }
  | 0, m + 1 =>
    { twins := twins_level 0 (m + 1)
      name := fun hi hid => hi.answers_name (level m) hid
      pat := fun _ hp => nomatch hp
      item := fun _ hp _ => nomatch hp }
  | n + 1, m + 1 =>
    (covering_level n m).step (twins_level (n + 1) (m + 1)) (twins_level (n + 1) m).agree

end ImportSeam
