import ImportSeam.Proofs.Reread.Printed

/-!
# Where operands begin and end

An operand ends in front of a text that does not go on with its last word, and the first token of
that text says whether an operator takes the operand.  The text of a formula begins with the token
of an operand; if that is a name, either the name is all of the formula, or an operator stands
behind it.

## Main definitions

* `Follows` — a text that may stand behind an operand, and the kind of its first token.
* `GoesOn` — a text that goes on behind an operand with an operator.
* `Link` — calls and member accesses by the sign that they start with.
* `Opening` — a text that begins with the token of an operand.

## Main results

* `goesOn_binary`, `goesOn_cond`, `goesOn_update`, `goesOn_call`, `goesOn_index`, `goesOn_member` —
  what is printed behind the first operand of a formula.
* `Expr.IsFormula.opening` — how the text of a formula begins.
-/

namespace ImportSeam

open Layout

variable {cs rest : List Char} {kind last : TokenKind} {text : String}

/-! ### Behind an operand -/

/-- The text may stand behind an operand: it ends a word, and it starts with a token of a kind that
makes no function of a word before it. -/
structure Follows (rest : List Char) (kind : TokenKind) : Prop where
  lexes : ∃ text rest', LexesTo .standard rest kind text rest'
  endsWord : EndsWord rest
  ne_function : kind ≠ .keyword .kFunction

theorem Follows.blank (h : Follows rest kind) : Follows (' ' :: rest) kind := by
  obtain ⟨text, rest', hl⟩ := h.lexes
  exact ⟨⟨text, rest', .blank hl⟩, endsWord_cons (by decide) _, h.ne_function⟩

theorem endsWord_punct (p : Punctuator) (rest : List Char) : EndsWord (p.chars ++ rest) := by
  obtain ⟨c, r, hc, hend⟩ : ∃ c r, p.chars = c :: r ∧ Text.isIdContinue c = false ∧ c ≠ '\\' := by
    cases p <;> exact ⟨_, _, rfl, by decide⟩
  rw [hc]
  exact endsWord_cons hend _

theorem follows_punct {p : Punctuator} (h : p.Stands rest) :
    Follows (p.chars ++ rest) (.punct p) where
  lexes := ⟨_, _, lexesTo_punct h⟩
  endsWord := endsWord_punct p rest
  ne_function := nofun

/-- The text goes on behind an operand with the token of an operator. -/
structure GoesOn (cs : List Char) (kind : TokenKind) (text : String) (rest : List Char) : Prop where
  lexes : LexesTo .standard cs kind text rest
  endsWord : EndsWord cs
  pull_pos : 0 < kind.pull

theorem GoesOn.follows (h : GoesOn cs kind text rest) : Follows cs kind where
  lexes := ⟨text, rest, h.lexes⟩
  endsWord := h.endsWord
  ne_function := by
    rintro rfl
    exact absurd h.pull_pos (by decide)

theorem goesOn_punct {p : Punctuator} (h : p.Stands rest) (hp : 0 < (TokenKind.punct p).pull) :
    GoesOn (p.chars ++ rest) (.punct p) p.spelling rest :=
  ⟨lexesTo_punct h, endsWord_punct p rest, hp⟩

theorem GoesOn.blank (h : GoesOn cs kind text rest) : GoesOn (' ' :: cs) kind text rest :=
  ⟨.blank h.lexes, endsWord_cons (by decide) cs, h.pull_pos⟩

/-- The sign of an operator between operands. -/
theorem goesOn_binary {op : Operator} (h : (op.isBinary || op.isAssignment) = true) :
    ∃ kind text, (∀ rest, GoesOn ((binarySign op).chars ++ rest) kind text (' ' :: rest)) ∧
      Rules.updateOperator? kind = none ∧ kind.infixOperator? = some op := by
  obtain ⟨kind, text, hl, hu, hi⟩ := lexesTo_binarySign h
  refine ⟨kind, text, fun rest => ⟨hl rest, ?_, ?_⟩, hu, hi⟩
  · have hhead : (binarySign op).chars.head?.any
        (fun c => !Text.isIdContinue c && c != '\\') = true := by
      cases op <;> decide
    cases hchars : (binarySign op).chars with
    | nil =>
      rw [hchars] at hhead
      exact absurd hhead Bool.false_ne_true
    | cons c r =>
      rw [hchars] at hhead
      exact endsWord_cons (by simpa using hhead) _
  · rw [TokenKind.pull_of_infix hu hi]
    rcases Bool.or_eq_true_iff.mp h with hop | hop
    · have := Operator.precedence_of_isBinary hop
      omega
    · rw [Operator.precedence_of_isAssignment hop]
      decide

theorem goesOn_cond (rest : List Char) :
    GoesOn (" ? ".toList ++ rest) (.punct .question) "?" (' ' :: rest) :=
  .blank (goesOn_punct (p := .question) (Punctuator.stands_blank _ rest) (by decide))

/-- The sign of an operator behind its operand. -/
theorem goesOn_update {op : Operator} (h : op.isPostfix = true) (rest : List Char) :
    ∃ kind text, GoesOn ((updateSign op).chars ++ rest) kind text rest ∧
      Rules.updateOperator? kind = some op := by
  cases op
  case postfixDecrement =>
    exact ⟨_, _, goesOn_punct (p := .minusMinus) (fun _ _ => rfl) (by decide), rfl⟩
  case postfixIncrement =>
    exact ⟨_, _, goesOn_punct (p := .plusPlus) (fun _ _ => rfl) (by decide), rfl⟩
  all_goals exact absurd h Bool.false_ne_true

/-- What belongs to the operand before it: the arguments of a call, a key in brackets or the name of
a member. -/
inductive Link where
  | call
  | index
  | member

namespace Link

/-- The sign that the link starts with. -/
def sign : Link → Bool → Punctuator
  | call, false => .lParen
  | call, true => .questionDotLParen
  | index, false => .lBracket
  | index, true => .questionDotLBracket
  | member, false => .dot
  | member, true => .questionDot

/-- What the sign denotes. -/
def operator : Link → Bool → Operator
  | call, false => .call
  | call, true => .optionalChainingCall
  | index, false => .computedMemberAccess
  | index, true => .optionalChainingComputedMemberAccess
  | member, false => .memberAccess
  | member, true => .optionalChainingMemberAccess

variable (link : Link) (optional : Bool)

theorem precedence_operator : (link.operator optional).precedence = accessPrecedence := by
  cases link <;> cases optional <;> rfl

theorem updateOperator?_sign : Rules.updateOperator? (.punct (link.sign optional)) = none := by
  cases link <;> cases optional <;> rfl

theorem infixOperator?_sign :
    (TokenKind.punct (link.sign optional)).infixOperator? = some (link.operator optional) := by
  cases link <;> cases optional <;> rfl

/-- A text that starts with the sign goes on behind an operand. -/
theorem goesOn (h : (link.sign optional).Stands rest) :
    GoesOn ((link.sign optional).chars ++ rest) (.punct (link.sign optional))
      (link.sign optional).spelling rest := by
  refine goesOn_punct h ?_
  rw [TokenKind.pull_of_infix (link.updateOperator?_sign optional)
    (link.infixOperator?_sign optional), link.precedence_operator]
  decide

end Link

theorem goesOn_call (optional : Bool) (rest : List Char) :
    GoesOn ((if optional then "?.".toList else []) ++ '(' :: rest)
      (.punct (Link.call.sign optional)) (Link.call.sign optional).spelling rest := by
  cases optional with
  | false => exact Link.call.goesOn false fun _ _ => rfl
  | true => exact Link.call.goesOn true fun _ _ => rfl

theorem goesOn_index (optional : Bool) (rest : List Char) :
    GoesOn ((if optional then "?.".toList else []) ++ '[' :: rest)
      (.punct (Link.index.sign optional)) (Link.index.sign optional).spelling rest := by
  cases optional with
  | false => exact Link.index.goesOn false fun _ _ => rfl
  | true => exact Link.index.goesOn true fun _ _ => rfl

/-- The sign of a member access goes on with no word. -/
theorem stands_memberSign (optional : Bool) {property : String} (h : IsMemberName property)
    (rest : List Char) : (Link.member.sign optional).Stands (property.toList ++ rest) := by
  obtain ⟨kind, hkind, htoken⟩ := h
  obtain ⟨c, r, hc, hstart⟩ := htoken.cons_of_word hkind
  rw [hc]
  refine Punctuator.stands_cons ?_ _
  have hnext : ∀ optional, ∀ q ∈ Punctuator.all,
      (Link.member.sign optional).chars.isPrefixOf q.chars = true →
      q.chars[(Link.member.sign optional).chars.length]?.all (['.', '(', '['].contains ·) := by
    decide +kernel
  have hplain : Link.member.sign optional ≠ .slash := by cases optional <;> decide
  refine Punctuator.joins_eq_false (fun q hq hstarts hchar => ?_) (fun _ => hstart.not_digit)
    fun hp => absurd hp hplain
  have hmem := hnext optional q hq hstarts
  rw [hchar] at hmem
  have hne : c ≠ '.' ∧ c ≠ '(' ∧ c ≠ '[' :=
    ⟨hstart.ne (by decide), hstart.ne (by decide), hstart.ne (by decide)⟩
  simp [hne] at hmem

theorem goesOn_member (optional : Bool) {property : String} (h : IsMemberName property)
    (rest : List Char) :
    GoesOn ((if optional then "?." else ".").toList ++ (property.toList ++ rest))
      (.punct (Link.member.sign optional)) (Link.member.sign optional).spelling
      (property.toList ++ rest) := by
  have hstands := stands_memberSign optional h rest
  cases optional with
  | false => exact Link.member.goesOn false hstands
  | true => exact Link.member.goesOn true hstands

/-! ### The beginning of an operand -/

/-- Whether an operand of a formula can start with the token. -/
def TokenKind.opens (kind : TokenKind) : Bool :=
  kind == .ident || kind == .keyword .kThis || kind == .punct .lParen ||
    kind.prefixOperator?.isSome

/-- The text begins with the token of an operand.  If that is a name, an operator stands behind it
or the token that is given. -/
inductive Opening (cs : List Char) (last : TokenKind) : Prop
  | name {text : String} {rest : List Char} {next : TokenKind}
      (hl : LexesTo .standard cs .ident text rest) (hf : Follows rest next)
      (hnext : next = last ∨ 0 < next.pull) : Opening cs last
  | other {kind : TokenKind} {text : String} {rest : List Char}
      (hl : LexesTo .standard cs kind text rest) (hk : kind.opens = true) (hne : kind ≠ .ident) :
      Opening cs last

namespace Opening

/-- Some token opens the text. -/
theorem exists_token (h : Opening cs last) :
    ∃ kind text rest, LexesTo .standard cs kind text rest ∧ kind.opens = true := by
  rcases h with ⟨hl, -, -⟩ | ⟨hl, hk, -⟩
  · exact ⟨_, _, _, hl, rfl⟩
  · exact ⟨_, _, _, hl, hk⟩

/-- An operator takes the place of the token that is given. -/
theorem of_pull (h : Opening cs kind) (hk : 0 < kind.pull) : Opening cs last := by
  rcases h with ⟨hl, hf, hnext⟩ | ⟨hl, hopens, hne⟩
  · refine .name hl hf (.inr ?_)
    rcases hnext with rfl | hpull
    · exact hk
    · exact hpull
  · exact .other hl hopens hne

theorem paren (cs : List Char) : Opening ('(' :: cs) last :=
  .other (lexesTo_punct (p := .lParen) fun _ _ => rfl) rfl nofun

end Opening

namespace Expr

/-- How an expression in its place begins. -/
theorem opening_placed {e : Expr} (h : Opening (e.chars ++ rest) last) (wrap : Bool) (least : Nat) :
    Opening (e.placed wrap least ++ rest) last := by
  unfold placed
  split
  · exact .paren _
  · exact h

/-- How an operation begins: with its first operand, which an operator stands behind. -/
theorem opening_first {l : Expr} {wrap : Bool} {least : Nat} {tail : List Char}
    (hl : ∀ {rest last}, Follows rest last → Opening (l.chars ++ rest) last)
    (htail : GoesOn tail kind text rest) : Opening (l.placed wrap least ++ tail) last :=
  (opening_placed (hl htail.follows) wrap least).of_pull htail.pull_pos

/-- **How the text of a formula begins**: its first operand stands first, with an operator behind
it. -/
theorem IsFormula.opening {e : Expr} (he : e.IsFormula) (hf : Follows rest last) :
    Opening (e.chars ++ rest) last := by
  induction he generalizing rest last with
  | ident hid =>
    rw [chars_ident]
    exact .name (lexesTo_word hid rfl hf.endsWord) hf (.inl rfl)
  | this loc =>
    rw [chars_this]
    exact .other (lexesTo_word (isToken_keyword .kThis) rfl hf.endsWord) rfl nofun
  | @binary loc op l r hop hl hr ihl ihr =>
    rw [chars_binary, List.append_assoc, List.append_assoc]
    have hsign : (op.isBinary || op.isAssignment) = true := by simp [hop]
    obtain ⟨kind, text, htail, -⟩ := goesOn_binary hsign
    exact opening_first ihl (htail _)
  | @assignName loc op id r hop hid hr ihr =>
    rw [chars_binary, List.append_assoc, List.append_assoc]
    have hsign : (op.isBinary || op.isAssignment) = true := by simp [hop]
    obtain ⟨kind, text, htail, -⟩ := goesOn_binary hsign
    refine opening_first (fun hf => ?_) (htail _)
    rw [chars_target_ident]
    exact .name (lexesTo_word hid rfl hf.endsWord) hf (.inl rfl)
  | @assignAccess loc op l r hop haccess hl hr ihl ihr =>
    rw [chars_binary, List.append_assoc, List.append_assoc]
    have hsign : (op.isBinary || op.isAssignment) = true := by simp [hop]
    obtain ⟨kind, text, htail, -⟩ := goesOn_binary hsign
    exact opening_first ihl (htail _)
  | cond loc ht hc ha iht ihc iha =>
    rw [chars_cond, List.append_assoc, List.append_assoc]
    exact opening_first iht (goesOn_cond _)
  | @unary loc op arg hop harg ih =>
    rw [chars_unary, List.append_assoc]
    obtain ⟨kind, text, after, hl, -, hprefix, -⟩ := lexesTo_unarySign hop harg rest
    have hopens : kind.opens = true := by simp [TokenKind.opens, hprefix]
    refine .other hl hopens ?_
    rintro rfl
    exact nomatch hprefix
  | update loc hop harg ih =>
    rw [chars_update, List.append_assoc]
    obtain ⟨kind, text, htail, -⟩ := goesOn_update hop rest
    exact opening_first ih htail
  | call loc optional hf' hargs ih =>
    rw [chars_call, List.append_assoc, List.append_assoc]
    exact opening_first ih (goesOn_call optional _)
  | member loc optional he hproperty ih =>
    rw [chars_member loc optional he, List.append_assoc, List.append_assoc]
    exact opening_first ih (goesOn_member optional hproperty rest)
  | index loc optional he hk ih =>
    rw [chars_index, List.append_assoc, List.append_assoc]
    exact opening_first ih (goesOn_index optional _)

end Expr

end ImportSeam
