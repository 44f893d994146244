import ImportSeam.Proofs.Reread.Statement

/-!
# Parentheses around a chain

Parentheses are not part of a tree: the parser drops them, and the printer writes those that
precedence asks for.  For the left side of a member access it asks for none around a chain of calls
and accesses.  But where a link of the chain is optional, parentheses end what is left out together
with it, and without them the access behind is left out too.

## Main definitions

* `Expr.isOptionalChain` — a chain with an optional link.
* `groupedMember`, `plainMember` — a member of an expression with and without parentheses around
  it.
* `statementTexts` — what is printed for the statements of a source.

## Main results

* `Expr.chars_unlocated` — what is printed does not depend on locations.
* `Expr.IsFormula.print_grouped` — **which parentheses are kept**, and that those around an optional
  chain are not.
* `optionalChain_ungrouped` — two sources for which the same is printed.
-/

namespace ImportSeam

open TokenParser Rules Layout

variable {e : Expr} {property : String}

/-! ### Printing without locations -/

namespace Expr

theorem precedence_unlocated (e : Expr) : e.unlocated.precedence = e.precedence := by
  cases e with
  | target p => cases p <;> rfl
  | _ => rfl

theorem isUnary_unlocated (e : Expr) : e.unlocated.isUnary = e.isUnary := by
  cases e with
  | target p => cases p <;> rfl
  | _ => rfl

theorem isNullish_unlocated (e : Expr) : e.unlocated.isNullish = e.isNullish := by
  cases e with
  | target p => cases p <;> rfl
  | binary loc op l r => cases op <;> rfl
  | _ => rfl

theorem isLogical_unlocated (e : Expr) : e.unlocated.isLogical = e.isLogical := by
  cases e with
  | target p => cases p <;> rfl
  | binary loc op l r => cases op <;> rfl
  | _ => rfl

theorem mixesWith_unlocated (op : Operator) (e : Expr) :
    mixesWith op e.unlocated = mixesWith op e := by
  unfold mixesWith
  rw [isLogical_unlocated, isNullish_unlocated]

theorem forcesLeft_unlocated (op : Operator) (e : Expr) :
    forcesLeft op e.unlocated = forcesLeft op e := by
  rw [forcesLeft, forcesLeft, mixesWith_unlocated, isUnary_unlocated]

theorem mergesAfter_unlocated (op : Operator) (e : Expr) :
    mergesAfter op e.unlocated = mergesAfter op e := by
  cases e with
  | target p => cases p <;> rfl
  | _ => rfl

theorem unlocated_ne_num (h : ∀ l n, e ≠ .num l n) (l : Loc) (n : Number) :
    e.unlocated ≠ .num l n := by
  cases e with
  | num l' n' => exact absurd rfl (h l' n')
  | target p => cases p <;> nofun
  | _ => nofun

theorem placed_unlocated (h : e.unlocated.chars = e.chars) (wrap : Bool) (least : Nat) :
    e.unlocated.placed wrap least = e.placed wrap least := by
  rw [placed, placed, isWrapped, isWrapped, precedence_unlocated, h]

end Expr

open ImportSeam.Expr in
mutual

/-- **What is printed** does not depend on locations. -/
theorem Expr.chars_unlocated : (e : Expr) → e.unlocated.chars = e.chars
  | .ident id => by rw [unlocated, chars_ident, chars_ident]; rfl
  | .target (.ident id) => by rw [unlocated, chars_target_ident, chars_target_ident]; rfl
  | .this _ => by rw [unlocated, chars_this, chars_this]
  | .binary _ op l r => by
    rw [unlocated, chars_binary, chars_binary, forcesLeft_unlocated, mixesWith_unlocated,
      placed_unlocated l.chars_unlocated, placed_unlocated r.chars_unlocated]
  | .cond _ t c a => by
    rw [unlocated, chars_cond, chars_cond, placed_unlocated t.chars_unlocated,
      placed_unlocated c.chars_unlocated, placed_unlocated a.chars_unlocated]
  | .unary _ op e => by
    rw [unlocated, chars_unary, chars_unary, placed_unlocated e.chars_unlocated, unarySign,
      unarySign, mergesAfter_unlocated]
  | .update _ op e => by
    rw [unlocated, chars_update, chars_update, placed_unlocated e.chars_unlocated]
  | .call _ optional f args => by
    rw [unlocated, chars_call, chars_call, placed_unlocated f.chars_unlocated,
      argsChars_unlocated args]
  | .index _ optional e k => by
    rw [unlocated, chars_index, chars_index, placed_unlocated e.chars_unlocated,
      placed_unlocated k.chars_unlocated]
  | .member _ optional e property => by
    have hsame := e.chars_unlocated
    by_cases hnum : ∀ l n, e ≠ .num l n
    · rw [unlocated, chars_member_of_ne _ _ (unlocated_ne_num hnum), chars_member_of_ne _ _ hnum,
        placed_unlocated hsame]
    · push Not at hnum
      obtain ⟨l, n, rfl⟩ := hnum
      cases optional <;> rfl
  | .target (.array _ _ _) | .target (.object _ _ _) => rfl
  | .arrow _ _ | .classExpr _ _ _ _ | .func _ _ _ | .importCall _ _ | .importMeta _ => rfl
  | .construct _ _ _ | .newTarget _ | .superRef _ | .tagged _ _ _ | .yield _ _ _ => rfl
  | .jsx _ _ | .array _ _ | .bigInt _ _ | .bool _ _ | .null _ | .num _ _ => rfl
  | .object _ _ | .regex _ _ | .str _ _ | .template _ _ => rfl

theorem argsChars_unlocated : (as : List Arg) → argsChars (argsUnlocated as) = argsChars as
  | [] => rfl
  | [⟨isSpread, e⟩] => by
    rw [argsUnlocated, argsUnlocated, argsChars_singleton, argsChars_singleton, Arg.chars,
      Arg.chars, placed_unlocated e.chars_unlocated]
  | ⟨isSpread, e⟩ :: ⟨isSpread', e'⟩ :: as => by
    have hrest := argsChars_unlocated (⟨isSpread', e'⟩ :: as)
    rw [argsUnlocated] at hrest ⊢
    rw [argsUnlocated, argsChars_cons, argsChars_cons, hrest, Arg.chars, Arg.chars,
      placed_unlocated e.chars_unlocated]

end

/-! ### The statement of a formula -/

/-- No name is spelled like a keyword. -/
theorem IsToken.ne_keyword {name : String} (h : IsToken .standard .ident name) (k : Keyword) :
    name ≠ k.spelling := by
  rintro rfl
  have hend : EndsWord [] := nofun
  have hname := (Scan.scan_word h rfl hend).1
  rw [(Scan.scan_word (isToken_keyword k) rfl hend).1] at hname
  cases hname

namespace Expr

/-- Whether a statement of the expression stands in parentheses does not depend on locations. -/
theorem isAmbiguousStart_unlocated : (e : Expr) →
    e.unlocated.isAmbiguousStart = e.isAmbiguousStart
  | .binary _ _ l _ => l.isAmbiguousStart_unlocated
  | .cond _ t _ _ => t.isAmbiguousStart_unlocated
  | .update _ _ e => e.isAmbiguousStart_unlocated
  | .call _ _ f _ => f.isAmbiguousStart_unlocated
  | .member _ _ e _ => e.isAmbiguousStart_unlocated
  | .index _ _ e _ => e.isAmbiguousStart_unlocated
  | .target (.ident _) | .target (.array _ _ _) | .target (.object _ _ _) => rfl
  | .ident _ | .this _ | .unary _ _ _ | .tagged _ _ _ => rfl
  | .arrow _ _ | .classExpr _ _ _ _ | .func _ _ _ | .importCall _ _ | .importMeta _ => rfl
  | .construct _ _ _ | .newTarget _ | .superRef _ | .yield _ _ _ => rfl
  | .jsx _ _ | .array _ _ | .bigInt _ _ | .bool _ _ | .null _ | .num _ _ => rfl
  | .object _ _ | .regex _ _ | .str _ _ | .template _ _ => rfl

/-- No formula starts like a declaration. -/
theorem IsFormula.not_ambiguous (he : e.IsFormula) : e.isAmbiguousStart = false := by
  induction he with
  | @ident id hid =>
    have hname : id.name ≠ "let" := hid.ne_keyword .kLet
    exact beq_eq_false_iff_ne.mpr hname
  | this loc => rfl
  | binary loc hop hl hr ihl => exact ihl
  | assignName => rfl
  | assignAccess loc hop haccess hl hr ihl => exact ihl
  | cond loc ht hc ha iht => exact iht
  | unary => rfl
  | update loc hop he ih => exact ih
  | call loc optional hf hargs ih => exact ih
  | member loc optional he hproperty ih => exact ih
  | index loc optional he hk ih => exact ih

end Expr

theorem Expr.toList_print (e : Expr) : e.print.toList = e.chars := by
  rw [print, toList_render, chars_operand, placed_of_not (by rw [isWrapped]; rfl)]

/-- A statement that is a formula but for its locations is printed like the formula. -/
theorem Stmt.toList_print_of_unlocated {loc : Loc} {e' : Expr} (he : e.IsFormula)
    (hsame : e'.unlocated = e.unlocated) :
    (Stmt.expr loc e').print.toList = e.chars ++ [';'] := by
  have hstart : e'.isAmbiguousStart = false := by
    rw [← Expr.isAmbiguousStart_unlocated, hsame, Expr.isAmbiguousStart_unlocated,
      he.not_ambiguous]
  have hchars : e'.chars = e.chars := by
    rw [← e'.chars_unlocated, hsame, e.chars_unlocated]
  rw [toList_print_expr, hstart, Expr.placed_of_not (by rw [Expr.isWrapped]; rfl), hchars]

/-! ### Members of a chain -/

/-- Whether the expression is a chain of calls and accesses of which a link is optional. -/
def Expr.isOptionalChain : Expr → Bool
  | .call _ optional f _ => optional || f.isOptionalChain
  | .member _ optional e _ => optional || e.isOptionalChain
  | .index _ optional e _ => optional || e.isOptionalChain
  | _ => false

/-- A statement of a member of the expression in parentheses. -/
def groupedMember (e : Expr) (property : String) : String :=
  "(" ++ e.print ++ ")." ++ property ++ ";"

/-- A statement of a member of the expression without parentheses. -/
def plainMember (e : Expr) (property : String) : String := e.print ++ "." ++ property ++ ";"

/-- What is printed for each statement of a source, if it is parsed. -/
def statementTexts (source : String) : Option (List String) :=
  (Program.parse source).toOption.map (·.body.map Stmt.print)

/-- The parentheses are read as part of the operand before the access. -/
theorem Expr.IsFormula.spelledBy_grouped (he : e.IsFormula)
    (hproperty : IsMemberName property) (loc : Loc) :
    (Expr.member loc false e property).SpelledBy
      ('(' :: (e.chars ++ ')' :: '.' :: property.toList)) where
  opening _ := .paren _
  reads {n b rest} hn h := by
    obtain ⟨n, rfl⟩ : ∃ k, n = k + 1 := Nat.exists_eq_add_of_le' (by omega)
    rw [level_expr]
    have hwrapped : e.isWrapped true 0 = true := rfl
    have hat : b.At (e.placed true 0 ++ '.' :: (property.toList ++ ';' :: rest)) := by
      rw [Expr.placed_of hwrapped]
      simpa using h
    have hgo := goesOn_member false hproperty (';' :: rest)
    have hend := follows_punct (stands_semicolon rest)
    refine he.reads.placed he (by omega) hat hgo.follows nofun fun e' b₁ m hb₁ he' hm => ?_
    refine (resumes_stop hend (by decide)).operator hb₁ he'.stands hgo rfl rfl nofun (by decide) hm
      fun t b₂ _ _ h₂ _ => ?_
    exact succeeds_memberAccess loc false hproperty hend h₂ he'.same

/-- What is printed for a source that spells a formula and a semicolon. -/
theorem statementTexts_spelled {source printed : String} {text : List Char} (he : e.IsFormula)
    (hspelled : e.SpelledBy text) (hsource : source.toList = text ++ [';']) (hplain : Plain text)
    (hprinted : printed.toList = e.chars ++ [';']) : statementTexts source = some [printed] := by
  have harrow : Arrowless source.toList := by
    rw [hsource]
    exact (hplain.append (.of_all (by decide))).arrowless
  obtain ⟨p, hparse, loc, e', hbody, hsame⟩ := parse_spelled hspelled hsource harrow
  have hprint : (Stmt.expr loc e').print = printed := by
    rw [← String.toList_inj, Stmt.toList_print_of_unlocated he hsame, hprinted]
  rw [statementTexts, hparse]
  simp only [Except.toOption, Option.map_some, hbody, List.map_cons, List.map_nil, hprint]

theorem toList_groupedMember (e : Expr) (property : String) : (groupedMember e property).toList =
    '(' :: (e.chars ++ ')' :: '.' :: property.toList) ++ [';'] := by
  simp [groupedMember, Expr.toList_print]

theorem toList_plainMember (e : Expr) (property : String) : (plainMember e property).toList =
    e.chars ++ '.' :: property.toList ++ [';'] := by
  simp [plainMember, Expr.toList_print]

/-- The place before a point asks for parentheses only because of precedence. -/
theorem Expr.IsFormula.toList_member (he : e.IsFormula) (loc : Loc) (property : String) :
    (if e.precedence < accessPrecedence then groupedMember e property
      else plainMember e property).toList =
    (Expr.member loc false e property).chars ++ [';'] := by
  rw [Expr.chars_member loc false he, Expr.placed, Expr.isWrapped, Bool.false_or]
  by_cases hlow : e.precedence < accessPrecedence
  · rw [if_pos hlow, if_pos (decide_eq_true hlow), toList_groupedMember]
    simp
  · rw [if_neg hlow, if_neg (by simpa using hlow), toList_plainMember]
    rfl

theorem Expr.precedence_of_isOptionalChain (h : e.isOptionalChain = true) :
    e.precedence = accessPrecedence := by
  cases e with
  | call | member | index => rfl
  | _ => exact absurd h Bool.false_ne_true

/-- **Which parentheses are kept** around the left side of a member access: those around an
expression that holds together less tightly than an access.  Around a chain they are dropped also
where one of its links is optional, so nothing tells the member of the whole chain from one more
link. -/
theorem Expr.IsFormula.print_grouped (he : e.IsFormula) (hproperty : IsMemberName property) :
    statementTexts (groupedMember e property) =
        some [if e.precedence < accessPrecedence then groupedMember e property
          else plainMember e property] ∧
      (e.isOptionalChain = true →
        statementTexts (plainMember e property) = statementTexts (groupedMember e property)) := by
  have hmember : (Expr.member (.point 0) false e property).IsFormula := .member _ false he hproperty
  have hname : Plain ('.' :: property.toList) := by
    obtain ⟨kind, hkind, htoken⟩ := hproperty
    exact .cons (by decide) (.of_ne_gt (htoken.ne_gt hkind))
  have hprinted := he.toList_member (.point 0) property
  -- the parser drops the parentheses, and the printer writes those that the place asks for
  have hgrouped := statementTexts_spelled hmember (he.spelledBy_grouped hproperty _)
    (toList_groupedMember e property)
    (.cons (by decide) (he.plain_chars.append (.cons (by decide) hname))) hprinted
  refine ⟨hgrouped, fun hchain => ?_⟩
  have hprec : ¬e.precedence < accessPrecedence := by
    rw [Expr.precedence_of_isOptionalChain hchain]
    exact Nat.lt_irrefl _
  rw [if_neg hprec] at hprinted
  rw [hgrouped, if_neg hprec]
  -- where the place asks for none, the source without parentheses is what is printed
  have hsame : (Expr.member (.point 0) false e property).placed false 0 =
      e.chars ++ '.' :: property.toList := by
    rw [Expr.placed_of_not (by rw [Expr.isWrapped]; rfl)]
    exact List.append_cancel_right (hprinted.symm.trans (toList_plainMember e property))
  have hspelled := hmember.spelledBy_placed false
  rw [hsame] at hspelled
  exact statementTexts_spelled hmember hspelled (toList_plainMember e property)
    (he.plain_chars.append hname) hprinted

/-- A chain with an optional link at its beginning: an access, a key and a call behind it. -/
def optionalChain : Expr :=
  let loc := Loc.point 0
  .call loc false (.index loc false (.member loc true (formulaName "a") "b") (formulaName "c"))
    [⟨false, formulaName "d"⟩]

theorem optionalChain_isFormula : optionalChain.IsFormula := by
  have name : ∀ n ∈ ["a", "b", "c", "d"], (formulaName n).IsFormula := by
    intro n hn
    have hname : ∀ n ∈ ["a", "b", "c", "d"],
        Text.isIdentifierName n = true ∧ Keyword.ofWord? n = none := by
      decide
    exact isFormula_name (hname n hn).1 (hname n hn).2
  have hb : IsMemberName "b" := ⟨.ident, rfl, isToken_ident (by decide) (by decide)⟩
  refine .call _ _ (.index _ _ (.member _ _ (name _ (by decide)) hb) (name _ (by decide))) ?_
  simpa using name "d" (by decide)

/-- The chain loses its parentheses in front of a member that is called like a keyword. -/
theorem optionalChain_print :
    statementTexts "(a?.b[c](d)).in;" = some ["a?.b[c](d).in;"] ∧
      statementTexts "a?.b[c](d).in;" = some ["a?.b[c](d).in;"] := by
  have hin : IsMemberName "in" := ⟨_, rfl, isToken_keyword .kIn⟩
  obtain ⟨hgrouped, hplain⟩ := optionalChain_isFormula.print_grouped hin
  exact ⟨hgrouped, (hplain rfl).trans hgrouped⟩

/-- The parentheses that end an optional chain do not survive: with them the access behind the chain
fails where `a` is null, and without them it is left out. -/
theorem optionalChain_ungrouped :
    (Program.parse "(a?.b).c;").toOption.map Program.print = some "a?.b.c;\n" ∧
      (Program.parse "a?.b.c;").toOption.map Program.print = some "a?.b.c;\n" := by
  decide +kernel

end ImportSeam
