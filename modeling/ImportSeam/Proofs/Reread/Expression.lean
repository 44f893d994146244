import ImportSeam.Proofs.Reread.Reading

/-!
# Formulas are read again

One lemma for each way a formula is put together says that it is read again if its parts are.  Its
first operand is read with the precedence that the whole formula is read with; it stands bare only
where its own last operand ends before the operator behind it.

## Main results

* `succeeds_args` — the arguments of a call.
* `Expr.reads_infix` — operators between operands, among them the assignments.
* `Expr.IsFormula.reads` — **every formula is read again.**
-/

namespace ImportSeam

open TokenParser Rules Layout

variable {b : TokenBuffer} {n : Nat} {rest : List Char} {kind : TokenKind}

/-! ### What stands behind the first operand -/

/-- **An operation whose first operand stands first.**  It is read again if the operand ends before
the sign behind it, and if the operator makes the whole of the operand and what stands behind the
sign. -/
theorem Expr.reads_of_operator {whole e : Expr} {op : Operator} {sign : TokenKind} {text : String}
    {wrap : Bool} {place : Nat} {tail after : List Char → List Char}
    (hprec : whole.precedence = op.precedence) (hform : e.IsFormula) (he : e.Reads)
    (hchars : ∀ rest, whole.chars ++ rest = e.placed wrap place ++ tail rest)
    (hgo : ∀ rest, GoesOn (tail rest) sign text (after rest))
    (hu : updateOperator? sign = none) (hi : sign.infixOperator? = some op)
    (hends : e.isWrapped wrap place = false → op.precedence ≤ e.precedence ∧ op.precedence < e.edge)
    (happly : ∀ {n b rest kind least ends start t e'}, 2 * b.left + 2 ≤ n → b.At (after rest) →
      Follows rest kind → whole.Fits least ends kind → t.kind = sign →
      e'.unlocated = e.unlocated →
      Succeeds b ((level n).applyOperator .top ends start t op e') (whole.Reread rest)) :
    whole.Reads := by
  intro n b rest kind least ends Q hn h hf hfits hres
  have hleast : least ≤ op.precedence := hprec ▸ hfits.le_precedence
  rw [hchars] at h
  refine he.placed hform hn h (hgo rest).follows (fun hw => ?_) fun e' b₁ m hb₁ he' hm => ?_
  · obtain ⟨hle, hlt⟩ := hends hw
    exact ⟨hfits.ends_lt, by omega, by omega, by rwa [TokenKind.pull_of_infix hu hi]⟩
  refine hres.operator hb₁ he'.stands (hgo rest) hu hi hfits.ends_lt hleast hm
    fun t b₂ ht _ h₂ hlt => ?_
  have hle := hb₁.left_le
  exact happly (by omega) h₂ hf hfits ht.kind_eq he'.same

/-! ### Operators between operands -/

/-- What a parser makes of an operator between operands is one production. -/
theorem Rules.applyOperator_eq {op : Operator} (h : (op.isBinary || op.isAssignment) = true)
    (r : Rules) (ctx : Context) (ends : List TokenKind) (start : Nat) (t : Token) (left : Expr) :
    r.applyOperator ctx ends start t op left = r.binaryTail ctx ends op left := by
  cases op <;> first | exact absurd h Bool.false_ne_true | rfl

/-- What the left operand of an operator becomes. -/
def Operator.leftSide (op : Operator) (left : Expr) : Except SyntaxError Expr :=
  if op.isAssignment then left.toTarget op else .ok left

theorem Rules.binaryTail_eq (r : Rules) (ctx : Context) (ends : List TokenKind) (op : Operator)
    (left : Expr) : r.binaryTail ctx ends op left = (do
      let left ← TokenParser.ofExcept (op.leftSide left)
      let right ← r.expr ctx op.rightPrecedence ends
      return .binary (left.loc.join right.loc) op left right) := by
  unfold binaryTail Operator.leftSide
  cases op.isAssignment <;> rfl

/-- Operators that group to the right are not asked for what a conditional is. -/
theorem Operator.rightPrecedence_ne {op : Operator} (h : (op.isBinary || op.isAssignment) = true) :
    op.rightPrecedence ≠ Operator.conditional.precedence := by
  cases op <;> first | exact absurd h Bool.false_ne_true | decide

namespace Expr

/-- **An operator between operands.**  The left operand is read as `left`, which becomes the left
side of the formula. -/
theorem reads_infix (loc : Loc) (wrap : Bool) {op : Operator} {l left r : Expr}
    (hop : (op.isBinary || op.isAssignment) = true) (hform : left.IsFormula) (hl : left.Reads)
    (hplaced : l.placed (l.forcesLeft op) op.leftPrecedence = left.placed wrap op.leftPrecedence)
    (hedge : left.isWrapped wrap op.leftPrecedence = false → op.precedence < left.edge)
    (hside : ∀ left', left'.unlocated = left.unlocated →
      ∃ l', op.leftSide left' = .ok l' ∧ l'.unlocated = l.unlocated)
    (hrform : r.IsFormula) (hr : r.Reads) : (binary loc op l r).Reads := by
  obtain ⟨sign, text, hgo, hu, hi⟩ := goesOn_binary hop
  have hchars : ∀ rest, (binary loc op l r).chars ++ rest =
      left.placed wrap op.leftPrecedence ++ ((binarySign op).chars ++
        (r.placed (r.mixesWith op) op.rightPrecedence ++ rest)) := by
    intro rest
    rw [chars_binary, hplaced, List.append_assoc, List.append_assoc]
  refine reads_of_operator rfl hform hl hchars (fun _ => hgo _) hu hi (fun hw => ?_)
    fun {n b rest kind least ends start t left'} hn h hf hfits _ hleft => ?_
  · exact ⟨Nat.le_trans op.le_leftPrecedence (le_precedence_of_not hw), hedge hw⟩
  obtain ⟨l', hl', hsame⟩ := hside left' hleft
  rw [applyOperator_eq hop, binaryTail_eq, hl']
  refine Succeeds.bind (.pure (Q := fun a b' => a = l' ∧ b' = b) ⟨rfl, rfl⟩) fun a b₁ _ h₁ => ?_
  obtain ⟨rfl, rfl⟩ := h₁
  have hleast := Nat.le_trans hfits.le_precedence op.le_rightPrecedence
  have hright := hr.operand hrform hn h.unblank hf (Nat.le_max_left _ _)
    (Operator.rightPrecedence_ne hop) (fun x hx => Nat.lt_of_lt_of_le (hfits.ends_lt x hx) hleast)
    hfits.pull_lt
  refine hright.bind fun r' b₂ _ hr' => .pure ⟨?_, hr'.stands⟩
  rw [unlocated, unlocated, hsame, hr'.same]

theorem reads_binary (loc : Loc) {op : Operator} {l r : Expr} (hop : op.isBinary = true)
    (hlform : l.IsFormula) (hl : l.Reads) (hrform : r.IsFormula) (hr : r.Reads) :
    (binary loc op l r).Reads := by
  have hnot : op.isAssignment = false := by
    cases op <;> first | exact absurd hop Bool.false_ne_true | rfl
  have hinfix : (op.isBinary || op.isAssignment) = true := by rw [hop, Bool.true_or]
  refine reads_infix loc _ hinfix hlform hl rfl (fun hw => ?_) (fun left' h => ?_) hrform hr
  · exact hlform.lt_edge hop (le_precedence_of_not hw)
  · rw [Operator.leftSide, hnot]
    exact ⟨left', rfl, h⟩

/-- What was read for a name is a name. -/
theorem eq_ident_of_unlocated {e : Expr} {id : Ident} (h : e.unlocated = (ident id).unlocated) :
    ∃ id', e = ident id' ∧ id'.unlocated = id.unlocated := by
  rw [unlocated] at h
  cases e with
  | ident id' =>
    rw [unlocated] at h
    exact ⟨id', rfl, ident.inj h⟩
  | target p => cases p <;> cases h
  | _ => cases h

/-- A member access is assigned to as it is. -/
theorem toTarget_of_isAccess {e : Expr} (h : e.isAccess = true) (op : Operator) :
    e.toTarget op = .ok e := by
  cases e with
  | member => rfl
  | index => rfl
  | _ => exact absurd h Bool.false_ne_true

theorem reads_assignName (loc : Loc) {op : Operator} {id : Ident} {r : Expr}
    (hop : op.isAssignment = true) (hid : IsToken .standard .ident id.name)
    (hl : (ident id).Reads) (hrform : r.IsFormula) (hr : r.Reads) :
    (binary loc op (.target (.ident id)) r).Reads := by
  have hleast : op.leftPrecedence ≤ primaryPrecedence := by
    rw [Operator.leftPrecedence_eq, Operator.precedence_of_isAssignment hop]
    decide
  -- a name needs no parentheses, whether it is used or assigned to
  have hbare : ∀ e : Expr, e.precedence = primaryPrecedence →
      e.isWrapped false op.leftPrecedence = false := by
    intro e he
    rw [isWrapped, Bool.false_or, he, decide_eq_false_iff_not]
    exact Nat.not_lt.mpr hleast
  have hforces : (target (.ident id)).forcesLeft op = false := by
    cases op <;> first | exact absurd hop Bool.false_ne_true | rfl
  have hinfix : (op.isBinary || op.isAssignment) = true := by rw [hop, Bool.or_true]
  refine reads_infix loc false hinfix (.ident hid) hl ?_ (fun _ => ?_) (fun left' h => ?_) hrform hr
  · have hplaced := placed_of_not (hbare (.ident id) rfl)
    rw [hforces, placed_of_not (hbare _ rfl), chars_target_ident, ← chars_ident]
    exact hplaced.symm
  · rw [Operator.precedence_of_isAssignment hop]
    exact Nat.lt_of_succ_le (Nat.le_of_ble_eq_true rfl)
  · obtain ⟨id', rfl, hsame⟩ := eq_ident_of_unlocated h
    refine ⟨.target (.ident id'), by rw [Operator.leftSide, if_pos hop, toTarget]; rfl, ?_⟩
    rw [unlocated, unlocated, hsame]

theorem reads_assignAccess (loc : Loc) {op : Operator} {l r : Expr} (hop : op.isAssignment = true)
    (haccess : l.isAccess = true) (hlform : l.IsFormula) (hl : l.Reads) (hrform : r.IsFormula)
    (hr : r.Reads) : (binary loc op l r).Reads := by
  have hinfix : (op.isBinary || op.isAssignment) = true := by rw [hop, Bool.or_true]
  refine reads_infix loc _ hinfix hlform hl rfl (fun _ => ?_) (fun left' h => ?_) hrform hr
  · have hprec : 16 ≤ l.precedence := by
      cases l with
      | member => exact Nat.le_of_ble_eq_true rfl
      | index => exact Nat.le_of_ble_eq_true rfl
      | _ => exact absurd haccess Bool.false_ne_true
    rw [hlform.edge_eq hprec, Operator.precedence_of_isAssignment hop]
    decide
  · have hsame : left'.isAccess = true := by
      rw [← isAccess_unlocated, h, isAccess_unlocated, haccess]
    exact ⟨left', by rw [Operator.leftSide, if_pos hop, toTarget_of_isAccess hsame], h⟩

theorem reads_cond (loc : Loc) {t c a : Expr} (htform : t.IsFormula) (ht : t.Reads)
    (hcform : c.IsFormula) (hc : c.Reads) (haform : a.IsFormula) (ha : a.Reads) :
    (cond loc t c a).Reads := by
  have hchars : ∀ rest, (cond loc t c a).chars ++ rest =
      t.placed false (Operator.conditional.precedence + 1) ++ (" ? ".toList ++
        (c.placed false assignmentPrecedence ++ (" : ".toList ++
          (a.placed false assignmentPrecedence ++ rest)))) := by
    intro rest
    rw [chars_cond]
    simp only [List.append_assoc]
  refine reads_of_operator rfl htform ht hchars (fun _ => goesOn_cond _) rfl rfl (fun hw => ?_)
    fun {n b rest kind least ends start t' e'} hn h hf hfits _ ht' => ?_
  · have hprec := le_precedence_of_not hw
    exact ⟨Nat.le_of_succ_le hprec, htform.lt_edge_of_lt hprec (Nat.le_refl 3)⟩
  have hedge : least ≤ 2 := hfits.le_edge
  -- the consequent ends at the colon, the alternate where the conditional does
  have hstands : Punctuator.colon.Stands (' ' :: (a.placed false assignmentPrecedence ++ rest)) :=
    Punctuator.stands_blank _ _
  have hcolon : ∀ x ∈ [TokenKind.punct .colon], x.pull < 2 := by decide
  have hconsequent := hc.operand hcform hn h.unblank (follows_punct hstands).blank
    (Nat.le_refl 2) (by decide) hcolon (by decide)
  refine hconsequent.bind fun c' b₁ hb₁ hc' => ?_
  have hle := hb₁.left_le
  refine (succeeds_expectPunct hc'.stands (.blank (lexesTo_punct hstands)) rfl).bind
    fun _ b₂ _ h₂ => ?_
  have halternate := ha.operand (n := n) haform (by omega) h₂.1.unblank hf (Nat.le_refl 2)
    (by decide) (fun x hx => Nat.lt_of_lt_of_le (hfits.ends_lt x hx) hedge) hfits.pull_lt
  refine halternate.bind fun a' b₃ _ ha' => .pure ⟨?_, ha'.stands⟩
  rw [unlocated, unlocated, ht', hc'.same, ha'.same]

/-! ### Operators before and behind an operand -/

theorem reads_ident {id : Ident} (hid : IsToken .standard .ident id.name) : (ident id).Reads := by
  intro n b rest kind least ends Q hn h hf _ hres
  rw [chars_ident] at h
  have hroom : (level n).Room n b 1 := ⟨hn, by rw [level_depth]; omega⟩
  exact succeeds_operatorExpr (by omega) (succeeds_name (level_total n) hid h.near hf hroom) hres

theorem reads_this (loc : Loc) : (this loc).Reads := by
  intro n b rest kind least ends Q hn h hf _ hres
  rw [chars_this] at h
  exact succeeds_operatorExpr (by omega) (succeeds_this loc h hf) hres

theorem reads_unary (loc : Loc) {op : Operator} {e : Expr} (hop : op.isPrefix = true)
    (hform : e.IsFormula) (he : e.Reads) : (unary loc op e).Reads := by
  intro n b rest kind least ends Q hn h hf hfits hres
  have hprec := Operator.precedence_of_isPrefix hop
  rw [chars_unary, List.append_assoc] at h
  obtain ⟨sign, text, after, hl, hafter, hprefix, hhead⟩ := lexesTo_unarySign hop hform rest
  refine succeeds_operatorExpr (by omega) (succeeds_unary loc h (hl.operand hhead) hprefix
    fun b₁ _ h₁ hlt => ?_) hres
  have h₁ : b₁.At (e.placed false op.precedence ++ rest) := by
    rcases hafter with rfl | rfl
    · exact h₁
    · exact h₁.unblank
  refine he.operand hform (by omega) h₁ hf (Nat.le_max_left _ _) ?_ (fun x hx => ?_) hfits.pull_lt
  · rw [hprec]
    decide
  · exact Nat.lt_of_lt_of_le (hfits.ends_lt x hx) hfits.le_precedence

theorem reads_update (loc : Loc) {op : Operator} {e : Expr} (hop : op.isPostfix = true)
    (hform : e.IsFormula) (he : e.Reads) : (update loc op e).Reads := by
  intro n b rest kind least ends Q hn h hf hfits hres
  have hprec := Operator.precedence_of_isPostfix hop
  have hleast : least ≤ op.precedence := hfits.le_precedence
  rw [chars_update, List.append_assoc] at h
  obtain ⟨sign, text, hgo, hu⟩ := goesOn_update hop rest
  refine he.placed hform hn h hgo.follows (fun hw => ?_) fun e' b₁ m hb₁ he' hm => ?_
  · have hle := le_precedence_of_not hw
    have hedge : e.edge = 19 := hform.edge_eq (by omega)
    have hpull := TokenKind.pull_of_update hu
    exact ⟨hfits.ends_lt, by omega, by omega, by omega⟩
  refine hres.update hb₁ he'.stands hgo hu hfits.ends_lt hleast hm fun loc' => ?_
  rw [unlocated, unlocated, he'.same]

/-! ### Members -/

/-- **A link to the operand before it**, which stands bare only if it is one word or ends with a
link itself. -/
theorem reads_link (link : Link) (optional : Bool) {whole e : Expr}
    {tail after : List Char → List Char} (hprec : whole.precedence = accessPrecedence)
    (hform : e.IsFormula) (he : e.Reads)
    (hchars : ∀ rest, whole.chars ++ rest = e.placed false accessPrecedence ++ tail rest)
    (hgo : ∀ rest, GoesOn (tail rest) (.punct (link.sign optional)) (link.sign optional).spelling
      (after rest))
    (happly : ∀ {n b rest kind ends start t e'}, 2 * b.left + 2 ≤ n → b.At (after rest) →
      Follows rest kind → t.kind = .punct (link.sign optional) → e'.unlocated = e.unlocated →
      Succeeds b ((level n).applyOperator .top ends start t (link.operator optional) e')
        (whole.Reread rest)) : whole.Reads := by
  have hop := link.precedence_operator optional
  refine reads_of_operator (hprec.trans hop.symm) hform he hchars hgo
    (link.updateOperator?_sign optional) (link.infixOperator?_sign optional) (fun hw => ?_)
    fun hn h hf _ ht he' => happly hn h hf ht he'
  have hle := le_precedence_of_not hw
  rw [hop, hform.edge_eq (Nat.le_trans (by decide) hle)]
  exact ⟨hle, by decide⟩

/-- The name behind the sign of a member access. -/
theorem succeeds_memberAccess (loc : Loc) (optional : Bool) {e e' : Expr} {property : String}
    (hproperty : IsMemberName property) (hf : Follows rest kind)
    (h : b.At (property.toList ++ rest)) (he' : e'.unlocated = e.unlocated) :
    Succeeds b (memberAccess e' optional) ((member loc optional e property).Reread rest) := by
  obtain ⟨name, hname, htoken⟩ := hproperty
  have hl := lexesTo_word htoken hname hf.endsWord
  refine (succeeds_consume h hl rfl (solid_of_isMemberName hname)).bind fun t b₁ _ h₁ => ?_
  refine .ite (fun hnot => absurd ?_ Bool.false_ne_true) fun _ => .pure ⟨?_, h₁.2.1⟩
  · rw [← hnot, h₁.1.kind_eq, hname]
    rfl
  · rw [unlocated, unlocated, he', h₁.1.text_eq]

theorem reads_member (loc : Loc) (optional : Bool) {e : Expr} {property : String}
    (hform : e.IsFormula) (he : e.Reads) (hproperty : IsMemberName property) :
    (member loc optional e property).Reads := by
  have hchars : ∀ rest, (member loc optional e property).chars ++ rest =
      e.placed false accessPrecedence ++
        ((if optional then "?." else ".").toList ++ (property.toList ++ rest)) := by
    intro rest
    rw [chars_member loc optional hform, List.append_assoc, List.append_assoc]
  refine reads_link .member optional rfl hform he hchars (goesOn_member optional hproperty)
    fun {n b rest kind ends start t e'} _ h hf _ he' => ?_
  have happly : (level n).applyOperator .top ends start t (Link.member.operator optional) e' =
      memberAccess e' optional := by
    cases optional <;> rfl
  rw [happly]
  exact succeeds_memberAccess loc optional hproperty hf h he'

theorem reads_index (loc : Loc) (optional : Bool) {e k : Expr} (hform : e.IsFormula) (he : e.Reads)
    (hkform : k.IsFormula) (hk : k.Reads) : (index loc optional e k).Reads := by
  have hclose : ∀ rest, Punctuator.rBracket.Stands rest := fun _ _ _ => rfl
  have hchars : ∀ rest, (index loc optional e k).chars ++ rest =
      e.placed false accessPrecedence ++
        ((if optional then "?.".toList else []) ++ '[' :: (k.placed false 0 ++ ']' :: rest)) := by
    intro rest
    rw [chars_index, List.append_assoc, List.append_assoc, List.cons_append, List.append_assoc,
      List.singleton_append]
  refine reads_link .index optional rfl hform he hchars (fun _ => goesOn_index optional _)
    fun {n b rest kind ends start t e'} hn h _ _ he' => ?_
  have happly : (level n).applyOperator .top ends start t (Link.index.operator optional) e' =
      (level n).indexAccess .top e' optional := by
    cases optional <;> rfl
  rw [happly]
  have hends : ∀ x ∈ [TokenKind.punct .rBracket], x.pull < 1 := by decide
  have hkey := hk.operand hkform hn h (follows_punct (hclose rest)) (Nat.le_refl 1) (by decide)
    hends (by decide)
  refine hkey.bind fun k' b₁ _ hk' => ?_
  refine (succeeds_expect hk'.stands (lexesTo_punct (hclose rest)) (solid_punct _)).bind
    fun t b₂ _ h₂ => .pure ⟨?_, h₂.2.1⟩
  rw [unlocated, unlocated, he', hk'.same]

/-! ### Calls -/

end Expr

/-- The terminators of an argument bind more loosely than an assignment. -/
theorem pull_lt_of_argumentEnd :
    ∀ x ∈ [TokenKind.punct .comma, .punct .rParen], x.pull < 2 := by
  decide

/-- No argument begins like the end of the arguments. -/
theorem Arg.exists_token {a : Arg} (hform : a.value.IsFormula) (hf : Follows rest kind) :
    ∃ first text rest', LexesTo .standard (a.chars ++ rest) first text rest' ∧
      first ≠ .punct .rParen := by
  rw [Arg.chars, List.append_assoc]
  cases a.isSpread with
  | true => exact ⟨_, _, _, lexesTo_punct (p := .ellipsis) fun _ _ => rfl, by decide⟩
  | false =>
    obtain ⟨first, text, rest', hl, hopens⟩ :=
      (Expr.opening_placed (hform.opening hf) false assignmentPrecedence).exists_token
    refine ⟨first, text, rest', hl, ?_⟩
    rintro rfl
    exact absurd hopens (by decide)

/-- What was read is the argument but for its locations, and the text stands behind it. -/
structure Arg.Reread (a : Arg) (rest : List Char) (a' : Arg) (b' : TokenBuffer) : Prop where
  isSpread_eq : a'.isSpread = a.isSpread
  value : a.value.Reread rest a'.value b'

theorem argsUnlocated_cons {a a' : Arg} {as as' : List Arg} {b' : TokenBuffer}
    (h : a.Reread rest a' b') (hrest : argsUnlocated as' = argsUnlocated as) :
    argsUnlocated (a' :: as') = argsUnlocated (a :: as) := by
  obtain ⟨isSpread, value⟩ := a
  obtain ⟨isSpread', value'⟩ := a'
  obtain rfl : isSpread' = isSpread := h.isSpread_eq
  rw [argsUnlocated, argsUnlocated, h.value.same, hrest]

/-- **An argument**, with the three points before it or without. -/
theorem succeeds_argument {a : Arg} (hform : a.value.IsFormula) (ha : a.value.Reads)
    (hn : 2 * b.left + 2 ≤ n) (h : b.At (a.chars ++ rest)) (hf : Follows rest kind)
    (hend : kind.pull < 2) : Succeeds b (do
      let isSpread ← acceptPunct .ellipsis
      let value ← (level n).assignment .top [.punct .comma, .punct .rParen]
      return (⟨isSpread, value⟩ : Arg)) (a.Reread rest) := by
  have hvalue : ∀ isSpread b₁, isSpread = a.isSpread → b₁.left ≤ b.left →
      b₁.At (a.value.placed false assignmentPrecedence ++ rest) →
      Succeeds b₁ (do
        let value ← (level n).assignment .top [.punct .comma, .punct .rParen]
        return (⟨isSpread, value⟩ : Arg)) (a.Reread rest) := by
    intro isSpread b₁ hspread hle h₁
    have hread := ha.operand (n := n) hform (by omega) h₁ hf (Nat.le_refl 2) (by decide)
      pull_lt_of_argumentEnd hend
    exact hread.bind fun e' b₂ _ he' => .pure ⟨hspread, he'⟩
  rw [Arg.chars, List.append_assoc] at h
  cases hspread : a.isSpread with
  | true =>
    rw [hspread] at h
    have hstands : Punctuator.ellipsis.Stands
        (a.value.placed false assignmentPrecedence ++ rest) := fun _ _ => rfl
    have hl := lexesTo_punct hstands
    refine (succeeds_acceptPunct h hl rfl).bind fun ok b₁ _ h₁ => ?_
    exact hvalue ok b₁ (h₁.1.trans hspread.symm) (Nat.le_of_lt h₁.2.2) h₁.2.1
  | false =>
    rw [hspread] at h
    obtain ⟨first, text, rest', hl, hopens⟩ :=
      (Expr.opening_placed (hform.opening hf) false assignmentPrecedence).exists_token
    have hne : first ≠ .punct .ellipsis := by
      rintro rfl
      exact absurd hopens (by decide)
    refine (succeeds_acceptPunct_of_ne h hl hne).bind fun ok b₁ _ h₁ => ?_
    exact hvalue ok b₁ (h₁.1.trans hspread.symm) h₁.2.1.left_le h₁.2.2

/-- What is printed behind an argument that the arguments follow. -/
def argsTail (as : List Arg) (rest : List Char) : List Char :=
  match as with
  | [] => ')' :: rest
  | a :: as => ',' :: ' ' :: (argsChars (a :: as) ++ ')' :: rest)

theorem argsChars_append (a : Arg) (as : List Arg) (rest : List Char) :
    argsChars (a :: as) ++ ')' :: rest = a.chars ++ argsTail as rest := by
  cases as with
  | nil => rw [argsChars_singleton, argsTail]
  | cons b bs =>
    rw [argsChars_cons, List.append_assoc, argsTail, List.cons_append, List.cons_append]

theorem follows_argsTail (as : List Arg) (rest : List Char) :
    ∃ kind, Follows (argsTail as rest) kind ∧ kind.pull < 2 := by
  cases as with
  | nil => exact ⟨_, follows_punct (p := .rParen) fun _ _ => rfl, by decide⟩
  | cons a as => exact ⟨_, follows_punct (p := .comma) fun _ _ => rfl, by decide⟩

/-- Arguments with commas between them are read one after another.  Every comma takes a character
away, so there are rounds enough. -/
theorem succeeds_arguments {item : TokenParser Arg} {as : List Arg} {rounds : Nat}
    (hform : ∀ a ∈ as, a.value.IsFormula)
    (hitem : ∀ a ∈ as, ∀ {b₁ rest kind}, b₁.left ≤ b.left → b₁.At (a.chars ++ rest) →
      Follows rest kind → kind.pull < 2 → Succeeds b₁ item (a.Reread rest))
    (hrounds : b.left < rounds) (h : b.At (argsChars as ++ ')' :: rest)) :
    Succeeds b (separated rounds .rParen item) fun as' b' =>
      argsUnlocated as' = argsUnlocated as ∧ b'.At rest := by
  have hclose : LexesTo .standard (')' :: rest) (.punct .rParen) ")" rest :=
    lexesTo_punct (p := .rParen) fun _ _ => rfl
  induction as generalizing b rounds with
  | nil =>
    obtain ⟨rounds, rfl⟩ : ∃ k, rounds = k + 1 := Nat.exists_eq_add_of_le' (by omega)
    rw [argsChars_nil] at h
    refine (succeeds_acceptPunct h hclose rfl).bind fun ok b₁ _ h₁ => ?_
    exact .ite (fun _ => .pure ⟨rfl, h₁.2.1⟩) fun hnot => absurd h₁.1 hnot
  | cons a as ih =>
    obtain ⟨rounds, rfl⟩ : ∃ k, rounds = k + 1 := Nat.exists_eq_add_of_le' (by omega)
    obtain ⟨haform, hasform⟩ := List.forall_mem_cons.mp hform
    obtain ⟨ha, has⟩ := List.forall_mem_cons.mp hitem
    obtain ⟨kind, hf, hpull⟩ := follows_argsTail as rest
    rw [argsChars_append] at h
    obtain ⟨first, text, rest', hl, hne⟩ := Arg.exists_token haform hf
    refine (succeeds_acceptPunct_of_ne h hl hne).bind fun ok b₁ _ h₁ => ?_
    refine .ite (fun hok => absurd (h₁.1.symm.trans hok) Bool.false_ne_true) fun _ => ?_
    have hle₁ := h₁.2.1.left_le
    refine (ha hle₁ h₁.2.2 hf hpull).bind fun a' b₂ hb₂ ha' => ?_
    have hle₂ := hb₂.left_le
    cases as with
    | nil =>
      refine (succeeds_acceptPunct_of_ne (q := .comma) ha'.value.stands hclose nofun).bind
        fun ok b₃ _ h₃ => ?_
      refine .ite (fun hok => absurd (h₃.1.symm.trans hok) Bool.false_ne_true) fun _ => ?_
      refine (succeeds_expectPunct h₃.2.2 hclose rfl).bind fun _ b₄ _ h₄ => ?_
      exact .pure ⟨argsUnlocated_cons ha' rfl, h₄.1⟩
    | cons a₂ as =>
      have hstands : Punctuator.comma.Stands (' ' :: (argsChars (a₂ :: as) ++ ')' :: rest)) :=
        fun _ _ => rfl
      have hcomma := lexesTo_punct hstands
      refine (succeeds_acceptPunct ha'.value.stands hcomma rfl).bind fun ok b₃ _ h₃ => ?_
      refine .ite (fun _ => ?_) fun hnot => absurd h₃.1 hnot
      have hrest : Succeeds b₃ (separated rounds .rParen item) fun as' b' =>
          argsUnlocated as' = argsUnlocated (a₂ :: as) ∧ b'.At rest :=
        ih hasform (fun a ha b₁ rest kind hle => has a ha (by omega)) (by omega) h₃.2.1.unblank
      exact hrest.bind fun as' b₄ _ has' => .pure ⟨argsUnlocated_cons ha' has'.1, has'.2⟩

namespace Expr

theorem reads_call (loc : Loc) (optional : Bool) {f : Expr} {as : List Arg} (hform : f.IsFormula)
    (hf : f.Reads) (hasform : ∀ a ∈ as, a.value.IsFormula) (has : ∀ a ∈ as, a.value.Reads) :
    (call loc optional f as).Reads := by
  have hchars : ∀ rest, (call loc optional f as).chars ++ rest =
      f.placed false accessPrecedence ++
        ((if optional then "?.".toList else []) ++ '(' :: (argsChars as ++ ')' :: rest)) := by
    intro rest
    rw [chars_call, List.append_assoc, List.append_assoc, List.cons_append, List.append_assoc,
      List.singleton_append]
  refine reads_link .call optional rfl hform hf hchars (fun _ => goesOn_call optional _)
    fun {n b rest kind ends start t f'} hn h _ ht hf' => ?_
  have happly : (level n).applyOperator .top ends start t (Link.call.operator optional) f' = (do
      let as ← (level n).args .top
      let loc ← since start
      return .call (f'.loc.join loc) optional f' as) := by
    cases optional with
    | false => exact if_pos (by rw [ht]; rfl)
    | true => rfl
  have hargs : Succeeds b ((level n).args .top) fun as' b' =>
      argsUnlocated as' = argsUnlocated as ∧ b'.At rest := by
    refine succeeds_arguments hasform (fun a ha b₁ rest kind hle h₁ hf hend => ?_) ?_ h
    · exact succeeds_argument (hasform a ha) (has a ha) (by omega) h₁ hf hend
    · rw [level_depth]
      omega
  rw [happly]
  refine hargs.bind fun as' b₁ _ has' => ?_
  refine (succeeds_since _).bind fun loc' b₂ _ h₂ => ?_
  subst h₂
  refine .pure ⟨?_, has'.2⟩
  rw [unlocated, unlocated, hf', has'.1]

/-! ### All formulas -/

/-- **Every formula is read again** where it fits. -/
theorem IsFormula.reads {e : Expr} (h : e.IsFormula) : e.Reads := by
  induction h with
  | ident hid => exact reads_ident hid
  | this loc => exact reads_this loc
  | binary loc hop hl hr ihl ihr => exact reads_binary loc hop hl ihl hr ihr
  | assignName loc hop hid hr ihr => exact reads_assignName loc hop hid (reads_ident hid) hr ihr
  | assignAccess loc hop haccess hl hr ihl ihr =>
    exact reads_assignAccess loc hop haccess hl ihl hr ihr
  | cond loc ht hc ha iht ihc iha => exact reads_cond loc ht iht hc ihc ha iha
  | unary loc hop he ih => exact reads_unary loc hop he ih
  | update loc hop he ih => exact reads_update loc hop he ih
  | call loc optional hf hargs ih ihargs => exact reads_call loc optional hf ih hargs ihargs
  | member loc optional he hproperty ih => exact reads_member loc optional he ih hproperty
  | index loc optional he hk ihe ihk => exact reads_index loc optional he ihe hk ihk

end Expr

end ImportSeam
