import ImportSeam.Proofs.Reread.Control
import ImportSeam.Proofs.Reread.Statement

/-!
# Branches and loops are read again

What is printed for a statement of branches, loops, labels and blocks is read as the statement, with
the blocks that were printed around some of its branches.  A statement that ends with an `if` without
an `else` is read up to its end only if no `else` follows, and in a block none does.

## Main definitions

* `NoElse` — a text that does not start with an `else`.
* `Stmt.Reread` — a statement was read again up to a text.
* `Stmt.Reads` — wherever what is printed for a statement stands, the statement is read again.

## Main results

* `Stmt.reads_ifElse` — an `else` is read with the `if` that it was printed for.
* `Stmt.IsControl.reads` — every such statement is read again.
* `Stmt.parse_print_control` — **every `else` stays with its `if`.**
-/

namespace ImportSeam

open TokenParser Rules Layout

variable {α : Type} {b : TokenBuffer} {n depth : Nat} {cs rest : List Char} {kind : TokenKind}
  {text : String} {id : Ident}

/-- Behind blanks and line ends the text starts with a token that is not an `else`. -/
inductive NoElse : List Char → Prop
  | intro {gap cs after : List Char} {kind : TokenKind} {text : String} (hgap : IsGap gap)
      (hl : LexesTo .standard cs kind text after) (hk : kind ≠ .keyword .kElse) :
      NoElse (gap ++ cs)

theorem noElse_end : NoElse [] := by
  have hgap : IsGap [] := nofun
  have hend : NoElse ([] ++ []) := .intro hgap lexesTo_end nofun
  exact hend

theorem NoElse.upcoming_ne (h : NoElse rest) (hb : b.At rest) :
    (b.upcoming .standard).kind ≠ .keyword .kElse := by
  obtain ⟨hgap, hl, hk⟩ := h
  rw [((hb.near.of_gap hgap).upcoming_eq hl rfl).1]
  exact hk

namespace Stmt

/-- What was read is the statement in which the branches that need it stand in blocks, but for its
locations, and the text stands behind it. -/
structure Reread (s : Stmt) (rest : List Char) (s' : Stmt) (b' : TokenBuffer) : Prop where
  same : s'.unlocated = s.braced.unlocated
  stands : b'.At rest

/-- Where what is printed for the statement stands, the statement is read, provided that no `else`
that it would take stands behind it. -/
def Reads (s : Stmt) : Prop :=
  ∀ ⦃n : Nat⦄ ⦃b : TokenBuffer⦄ ⦃rest : List Char⦄ ⦃depth : Nat⦄, 2 * b.left + 2 ≤ n →
    b.Near (s.chars depth ++ rest) → (s.EndsOpen → NoElse rest) →
    Succeeds b ((level n).statement .top) (s.Reread rest)

end Stmt

/-! ### Parts of statements -/

theorem succeeds_optionally_false {p : TokenParser α} :
    Succeeds b (optionally false p) fun o b' => o = none ∧ b' = b := .pure ⟨rfl, rfl⟩

theorem succeeds_optionally_true {p : TokenParser α} {Q : α → TokenBuffer → Prop}
    (h : Succeeds b p Q) :
    Succeeds b (optionally true p) fun o b' => ∃ a, o = some a ∧ Q a b' :=
  .map (h.mono fun a _ _ hQ => ⟨a, rfl, hQ⟩)

/-- What a parser that takes characters away comes to, it comes to with fewer characters left. -/
theorem Succeeds.and_safe {p : TokenParser α} {Q R : α → TokenBuffer → Prop} (h : Succeeds b p Q)
    (hs : Safe b.source b p R) : Succeeds b p fun a b' => Q a b' ∧ R a b' := by
  intro hb
  obtain ⟨a, b', hp, hkeeps, hQ⟩ := h hb
  have hout := hs rfl hb
  rw [hp] at hout
  exact ⟨a, b', hp, hkeeps, hQ, hout.2.2⟩

namespace Rules

/-- A name in parentheses. -/
theorem succeeds_parenthesized (hid : IsToken .standard .ident id.name) (hn : 2 * b.left + 2 ≤ n)
    (h : b.At ('(' :: (id.name.toList ++ ')' :: rest))) :
    Succeeds b ((level n).parenthesized .top) ((Expr.ident id).Reread rest) := by
  have hopen : LexesTo .standard ('(' :: (id.name.toList ++ ')' :: rest)) (.punct .lParen) "("
      (id.name.toList ++ ')' :: rest) := lexesTo_punct (p := .lParen) fun _ _ => rfl
  have hclose : Punctuator.rParen.Stands rest := fun _ _ => rfl
  refine (succeeds_expectPunct h hopen rfl).bind fun _ b₁ _ h₁ => ?_
  have hname : Succeeds b₁ ((level n).sequence .top [.punct .rParen])
      ((Expr.ident id).Reread (')' :: rest)) := by
    have hat : b₁.At ((Expr.ident id).placed false 0 ++ ')' :: rest) := by
      rw [Expr.placed_of_not rfl, Expr.chars_ident]
      exact h₁.1
    exact (Expr.reads_ident hid).operand (.ident hid) (by omega) hat (follows_punct hclose)
      (by decide) (by decide) (by decide) (by decide)
  refine hname.bind fun e b₂ _ he => ?_
  exact (succeeds_expectPunct he.stands (lexesTo_punct hclose) rfl).bind fun _ b₃ _ h₃ =>
    .pure ⟨he.same, h₃.1⟩

/-- A keyword with a name in parentheses, and what is read behind it. -/
theorem succeeds_head {k : Keyword} {f : Expr → TokenParser α} {Q : α → TokenBuffer → Prop}
    (hid : IsToken .standard .ident id.name) (hn : 2 * b.left + 2 ≤ n)
    (h : b.Near (headChars k id ++ rest))
    (hf : ∀ e b₁, b₁.At rest → b₁.left < b.left → e.unlocated = (Expr.ident id).unlocated →
      Succeeds b₁ (f e) Q) :
    Succeeds b (do expectKeyword k; let e ← (level n).parenthesized .top; f e) Q := by
  refine (h.succeeds_expect (Stmt.lexesTo_head k id rest) (solid_keyword k)).bind
    fun _ b₁ _ h₁ => ?_
  refine (succeeds_parenthesized hid (by omega) h₁.1.unblank).bind fun e b₂ hb₂ he => ?_
  have hle := hb₂.left_le
  exact hf e b₂ he.stands (by omega) he.same

/-- The first tokens decide what kind of statement is read. -/
theorem succeeds_of_first {r : Rules} (p : TokenParser Stmt) {Q : Stmt → TokenBuffer → Prop}
    (h : b.Near cs) (hl : LexesTo .standard cs kind text rest)
    (hkind : kind ∉ [.keyword .kImport, .keyword .kExport])
    (hp : ∀ t, t.kind = kind → r.plainStmt .top t b.second = p)
    (hb : ∀ b₁, b.Consumes [] b₁ → Succeeds b₁ p Q) : Succeeds b (r.statement .top) Q := by
  have hfirst := (h.upcoming_eq hl rfl).1
  refine succeeds_of_plainStmt (hfirst ▸ hkind) fun b₁ h₁ => ?_
  rw [hp _ hfirst]
  exact hb b₁ h₁

end Rules

/-- A statement behind a blank, as a part of another statement. -/
theorem Stmt.Reads.nested {s : Stmt} (hs : s.Reads) (hn : 2 * b.left + 3 ≤ n)
    (h : b.Near (s.chars depth ++ rest)) (hnext : s.EndsOpen → NoElse rest) :
    Succeeds b ((level n).stmt .top) fun s' b' => s.Reread rest s' b' ∧ b'.left < b.left := by
  obtain ⟨n, rfl⟩ : ∃ k, n = k + 1 := Nat.exists_eq_add_of_le' (by omega)
  exact Succeeds.and_safe (hs (by omega) h hnext) ((level_total (n + 1) b.source).stmt hn)

namespace Stmt

/-! ### One lemma for each kind of statement -/

theorem reads_empty (loc : Loc) : (Stmt.empty loc).Reads := by
  intro n b rest depth hn h _
  have hl : LexesTo .standard (';' :: rest) (.punct .semicolon) ";" rest :=
    lexesTo_punct (stands_semicolon rest)
  refine succeeds_of_first (do return .empty (← consume).loc) h hl (by decide)
    (fun ⟨_, _, _, _⟩ hk => by cases hk; rfl) fun b₁ h₁ => ?_
  exact ((h.of_nil h₁).succeeds_consume hl (solid_punct _)).bind fun t b₂ _ h₂ =>
    .pure ⟨rfl, h₂.2.1⟩

theorem reads_expr (loc : Loc) (hid : IsToken .standard .ident id.name) :
    (Stmt.expr loc (.ident id)).Reads := by
  intro n b rest depth hn h _
  rw [chars_expr loc depth hid, List.append_assoc] at h
  have hfollows : Follows (';' :: rest) (.punct .semicolon) :=
    follows_punct (stands_semicolon rest)
  have hl := lexesTo_word hid rfl hfollows.endsWord
  obtain ⟨text, after, hl'⟩ := hfollows.lexes
  have hsecond := (h.second_matches hl hl').kind_eq
  refine succeeds_of_first ((level n).exprStmt .top) h hl (by decide) (fun t hk => ?_)
    fun b₁ h₁ => ?_
  · refine plainStmt_eq ⟨by rw [hk]; rfl, fun _ => ?_, fun _ => ?_⟩ (level n) <;> rw [hsecond] <;>
      decide
  refine succeeds_spanning ?_
  have hle := h₁.left_le
  obtain ⟨n, rfl⟩ : ∃ k, n = k + 1 := Nat.exists_eq_add_of_le' (by omega)
  have hroom : (level n).Room n b₁ 1 := ⟨by omega, by rw [level_depth]; omega⟩
  have hname : Succeeds b₁ ((level n).operandExpr .top [])
      ((Expr.ident id).Reread (';' :: rest)) :=
    succeeds_name (level_total n) hid (h.of_nil h₁) hfollows hroom
  have hexpr : Succeeds b₁ ((level n).operatorExpr .top 1 [])
      ((Expr.ident id).Reread (';' :: rest)) :=
    succeeds_operatorExpr (by omega) hname (Expr.resumes_stop hfollows (by decide))
  refine hexpr.bind fun e b₂ _ he => ?_
  exact (succeeds_semicolon he.stands).bind fun _ b₃ _ h₃ => .pure fun loc =>
    ⟨congrArg (Stmt.expr (.point 0)) he.same, h₃⟩

/-- A statement of a keyword, a name in parentheses and another statement. -/
theorem succeeds_headed {k : Keyword} {s whole : Stmt} {build : Loc → Expr → Stmt → Stmt}
    (hid : IsToken .standard .ident id.name) (hs : s.Reads) (hn : 2 * b.left + 2 ≤ n)
    (h : b.Near (headChars k id ++ ' ' :: (s.chars depth ++ rest)))
    (hnext : s.EndsOpen → NoElse rest)
    (hbuild : ∀ loc e s', (build loc e s').unlocated =
      build (.point 0) e.unlocated s'.unlocated)
    (hwhole : whole.braced = build whole.loc (.ident id) s.braced) :
    Succeeds b (spanning do
      expectKeyword k
      let e ← (level n).parenthesized .top
      let s' ← (level n).stmt .top
      return fun loc => build loc e s') (whole.Reread rest) := by
  refine succeeds_spanning (succeeds_head hid hn h fun e b₁ h₁ hlt he => ?_)
  refine (hs.nested (by omega) h₁.unblank.near hnext).bind fun s' b₂ _ hs' => .pure fun loc => ?_
  refine ⟨?_, hs'.1.stands⟩
  rw [hbuild, he, hs'.1.same, hwhole, hbuild]

theorem reads_while (loc : Loc) {s : Stmt} (hid : IsToken .standard .ident id.name)
    (hs : s.Reads) : (Stmt.while loc (.ident id) s).Reads := by
  intro n b rest depth hn h hnext
  rw [chars_while, List.append_assoc] at h
  refine succeeds_of_first ((level n).whileStmt .top) h (lexesTo_head .kWhile id _) (by decide)
    (fun ⟨_, _, _, _⟩ hk => by cases hk; rfl) fun b₁ h₁ => ?_
  have hle := h₁.left_le
  exact succeeds_headed hid hs (by omega) (h.of_nil h₁) (fun hopen => hnext (.while _ _ hopen))
    (fun _ _ _ => rfl) rfl

theorem reads_withObject (loc : Loc) {s : Stmt} (hid : IsToken .standard .ident id.name)
    (hs : s.Reads) : (Stmt.withObject loc (.ident id) s).Reads := by
  intro n b rest depth hn h hnext
  rw [chars_withObject, List.append_assoc] at h
  refine succeeds_of_first ((level n).withStmt .top) h (lexesTo_head .kWith id _) (by decide)
    (fun ⟨_, _, _, _⟩ hk => by cases hk; rfl) fun b₁ h₁ => ?_
  have hle := h₁.left_le
  exact succeeds_headed hid hs (by omega) (h.of_nil h₁)
    (fun hopen => hnext (.withObject _ _ hopen)) (fun _ _ _ => rfl) rfl

theorem reads_label (loc : Loc) {name : String} {s : Stmt} (hname : IsToken .standard .ident name)
    (hs : s.Reads) : (Stmt.label loc name s).Reads := by
  intro n b rest depth hn h hnext
  rw [chars_label, List.append_assoc] at h
  have hl := lexesTo_word hname rfl
    (endsWord_cons (c := ':') (by decide) (' ' :: (s.chars depth ++ rest)))
  have hcolon : LexesTo .standard (':' :: ' ' :: (s.chars depth ++ rest)) (.punct .colon) ":"
      (' ' :: (s.chars depth ++ rest)) := lexesTo_punct (p := .colon) fun _ _ => rfl
  have hsecond := (h.second_matches hl hcolon).kind_eq
  refine succeeds_of_first ((level n).labelStmt .top) h hl (by decide) (fun t hk => ?_)
    fun b₁ h₁ => ?_
  · obtain ⟨kind, loc, text, newline⟩ := t
    cases hk
    simp [plainStmt, startsVarDecl, startsFunc, hsecond, Context.isName]
  have hle := h₁.left_le
  refine succeeds_spanning ?_
  refine ((h.of_nil h₁).succeeds_consume hl solid_ident).bind fun t b₂ _ h₂ => ?_
  obtain ⟨⟨-, htext⟩, h₂, hlt⟩ := h₂
  refine (succeeds_expectPunct h₂ hcolon rfl).bind fun _ b₃ _ h₃ => ?_
  refine (hs.nested (by omega) h₃.1.unblank.near fun hopen => hnext (.label _ _ hopen)).bind
    fun s' b₄ _ hs' => .pure fun loc => ⟨?_, hs'.1.stands⟩
  rw [htext, unlocated_label, hs'.1.same]
  rfl

/-- The rest of a loop whose head has nothing in it. -/
theorem succeeds_forLoopTail {s : Stmt} (loc : Loc) (hs : s.Reads) (hn : 2 * b.left + 2 ≤ n)
    (h : b.At (";;) ".toList ++ (s.chars depth ++ rest))) (hnext : s.EndsOpen → NoElse rest) :
    Succeeds b ((level n).forLoopTail .top .absent) fun build b' =>
      ∀ loc', (Stmt.forLoop loc .absent none none s).Reread rest (build loc') b' := by
  have hfirst : LexesTo .standard (";;) ".toList ++ (s.chars depth ++ rest)) (.punct .semicolon)
      ";" (";) ".toList ++ (s.chars depth ++ rest)) := lexesTo_punct (stands_semicolon _)
  have hsecond : LexesTo .standard (";) ".toList ++ (s.chars depth ++ rest)) (.punct .semicolon)
      ";" (") ".toList ++ (s.chars depth ++ rest)) := lexesTo_punct (stands_semicolon _)
  have hclose : LexesTo .standard (") ".toList ++ (s.chars depth ++ rest)) (.punct .rParen) ")"
      (' ' :: (s.chars depth ++ rest)) := lexesTo_punct (p := .rParen) fun _ _ => rfl
  refine (succeeds_expectPunct h hfirst rfl).bind fun _ b₁ _ h₁ => ?_
  -- neither a test nor a last part stands between the semicolons and the parenthesis
  refine (succeeds_peekKind h₁.1 hsecond rfl).bind fun k b₂ hb₂ h₂ => ?_
  obtain ⟨rfl, h₂⟩ := h₂
  refine succeeds_optionally_false.bind fun o b₃ _ h₃ => ?_
  obtain ⟨rfl, rfl⟩ := h₃
  refine (succeeds_expectPunct h₂ hsecond rfl).bind fun _ b₄ _ h₄ => ?_
  refine (succeeds_peekKind h₄.1 hclose rfl).bind fun k b₅ hb₅ h₅ => ?_
  obtain ⟨rfl, h₅⟩ := h₅
  refine succeeds_optionally_false.bind fun o b₆ _ h₆ => ?_
  obtain ⟨rfl, rfl⟩ := h₆
  refine (succeeds_expectPunct h₅ hclose rfl).bind fun _ b₇ _ h₇ => ?_
  have hle := hb₂.left_le
  have hle' := hb₅.left_le
  refine (hs.nested (by omega) h₇.1.unblank.near hnext).bind fun s' b₈ _ hs' =>
    .pure fun loc' => ⟨?_, hs'.1.stands⟩
  exact congrArg (Stmt.forLoop (.point 0) .absent none none) hs'.1.same

theorem reads_forLoop (loc : Loc) {s : Stmt} (hs : s.Reads) :
    (Stmt.forLoop loc .absent none none s).Reads := by
  intro n b rest depth hn h hnext
  rw [chars_forLoop, List.append_assoc] at h
  have hl : LexesTo .standard ("for (;;) ".toList ++ (s.chars depth ++ rest)) (.keyword .kFor)
      "for" (" (;;) ".toList ++ (s.chars depth ++ rest)) := lexesTo_keyword .kFor _
  have hopen : LexesTo .standard (" (;;) ".toList ++ (s.chars depth ++ rest)) (.punct .lParen)
      "(" (";;) ".toList ++ (s.chars depth ++ rest)) :=
    .blank (lexesTo_punct (p := .lParen) fun _ _ => rfl)
  have hsemicolon : LexesTo .standard (";;) ".toList ++ (s.chars depth ++ rest))
      (.punct .semicolon) ";" (";) ".toList ++ (s.chars depth ++ rest)) :=
    lexesTo_punct (stands_semicolon _)
  refine succeeds_of_first ((level n).forStmt .top) h hl (by decide)
    (fun ⟨_, _, _, _⟩ hk => by cases hk; rfl) fun b₁ h₁ => ?_
  have hle := h₁.left_le
  refine succeeds_spanning ?_
  refine ((h.of_nil h₁).succeeds_expect hl (solid_keyword _)).bind fun _ b₂ _ h₂ => ?_
  have hawait : (b₂.upcoming .standard).kind ≠ .keyword .kAwait := by
    rw [(h₂.1.upcoming_matches hopen rfl).kind_eq]
    decide
  refine (succeeds_accept_of_ne hawait).bind fun isAwait b₃ hb₃ h₃ => ?_
  refine (succeeds_expectPunct (h₂.1.of_nil h₃.2) hopen rfl).bind fun _ b₄ _ h₄ => ?_
  refine (succeeds_peek h₄.1 hsemicolon rfl).bind fun first b₅ hb₅ h₅ => ?_
  -- the semicolon is the first part of the head
  have hinit : Succeeds b₅ ((level n).forInit .top) fun p b' => p.2 = .absent ∧
      b'.At (";;) ".toList ++ (s.chars depth ++ rest)) := by
    have hfirst := (h₅.2.2.upcoming_matches hsemicolon rfl).kind_eq
    refine succeeds_peekTwo.bind fun ts b₆ _ h₆ => ?_
    obtain ⟨rfl, h₆⟩ := h₆
    refine .ite (fun hdecl => absurd hdecl ?_) fun _ => .ite (fun _ => .pure ⟨rfl, ?_⟩)
      fun hne => absurd (by simp [hfirst]) hne
    · simp [startsVarDecl, hfirst]
    · exact h₅.2.2.of_nil h₆
  refine hinit.bind fun p b₆ hb₆ h₆ => ?_
  obtain ⟨place, init⟩ := p
  obtain ⟨rfl, h₆⟩ := h₆
  refine (succeeds_peek h₆ hsemicolon rfl).bind fun t b₇ hb₇ h₇ => ?_
  refine .ite (fun hin => absurd hin ?_) fun _ => ?_
  · simp [h₇.1.kind_eq, Token.isWord]
  have hle₃ := hb₃.left_le
  have hle₅ := hb₅.left_le
  have hle₆ := hb₆.left_le
  have hle₇ := hb₇.left_le
  exact succeeds_forLoopTail loc hs (by omega) h₇.2.2 fun hopen => hnext (.forLoop _ _ _ _ hopen)

theorem reads_doWhile (loc : Loc) {s : Stmt} (hid : IsToken .standard .ident id.name)
    (hs : s.Reads) : (Stmt.doWhile loc s (.ident id)).Reads := by
  intro n b rest depth hn h _
  rw [chars_doWhile, List.append_assoc] at h
  simp only [List.append_assoc, List.cons_append] at h
  have hl : LexesTo .standard
      ("do ".toList ++ (s.chars depth ++ ' ' :: (headChars .kWhile id ++ ';' :: rest)))
      (.keyword .kDo) "do" (' ' :: (s.chars depth ++ ' ' :: (headChars .kWhile id ++ ';' :: rest))) :=
    lexesTo_keyword .kDo _
  have hblank : IsGap [' '] := by simp [IsGap]
  have hwhile : NoElse (' ' :: (headChars .kWhile id ++ ';' :: rest)) :=
    .intro hblank (lexesTo_head .kWhile id _) (by decide)
  have hsemicolon : LexesTo .standard (';' :: rest) (.punct .semicolon) ";" rest :=
    lexesTo_punct (stands_semicolon rest)
  refine succeeds_of_first ((level n).doWhileStmt .top) h hl (by decide)
    (fun ⟨_, _, _, _⟩ hk => by cases hk; rfl) fun b₁ h₁ => ?_
  have hle := h₁.left_le
  refine succeeds_spanning ?_
  refine ((h.of_nil h₁).succeeds_expect hl (solid_keyword _)).bind fun _ b₂ _ h₂ => ?_
  refine (hs.nested (by omega) h₂.1.unblank.near fun _ => hwhile).bind fun s' b₃ _ hs' => ?_
  refine succeeds_head hid (by omega) hs'.1.stands.unblank.near fun e b₄ h₄ _ he => ?_
  have hend : Succeeds b₄ (Functor.discard (acceptPunct .semicolon)) fun _ b' => b'.At rest :=
    .discard ((succeeds_acceptPunct h₄ hsemicolon rfl).mono fun _ _ _ ho => ho.2.1)
  refine hend.bind fun _ b₅ _ h₅ => .pure fun loc => ⟨?_, h₅⟩
  rw [unlocated_doWhile, hs'.1.same, he]
  rfl

/-- An `if` without an `else` is read up to its end if no `else` follows. -/
theorem reads_ifThen (loc : Loc) {c : Stmt} (hid : IsToken .standard .ident id.name)
    (hc : c.Reads) : (Stmt.ifElse loc (.ident id) c none).Reads := by
  intro n b rest depth hn h hnext
  rw [chars_ifThen, List.append_assoc] at h
  have hnext := hnext (.ifThen _ _ _)
  refine succeeds_of_first ((level n).ifStmt .top) h (lexesTo_head .kIf id _) (by decide)
    (fun ⟨_, _, _, _⟩ hk => by cases hk; rfl) fun b₁ h₁ => ?_
  have hle := h₁.left_le
  refine succeeds_spanning (succeeds_head hid (by omega) (h.of_nil h₁) fun e b₂ h₂ hlt he => ?_)
  refine (hc.nested (by omega) h₂.unblank.near fun _ => hnext).bind fun c' b₃ _ hc' => ?_
  refine (succeeds_accept_of_ne (hnext.upcoming_ne hc'.1.stands)).bind fun ok b₄ _ h₄ => ?_
  obtain ⟨rfl, h₄⟩ := h₄
  refine succeeds_optionally_false.bind fun o b₅ _ h₅ => ?_
  obtain ⟨rfl, rfl⟩ := h₅
  refine .pure fun loc => ⟨?_, hc'.1.stands.of_nil h₄⟩
  rw [unlocated_ifThen, hc'.1.same, he]
  rfl

/-- **An `else` is read with the `if` that it was printed for**: the branch before it does not end
with an `if` that would take it. -/
theorem reads_ifElse (loc : Loc) {c a : Stmt} (hid : IsToken .standard .ident id.name)
    (hc : c.closed.Reads) (ha : a.Reads) : (Stmt.ifElse loc (.ident id) c (some a)).Reads := by
  intro n b rest depth hn h hnext
  rw [chars_ifElse, List.append_assoc] at h
  simp only [List.append_assoc, List.cons_append] at h
  have helse : LexesTo .standard (" else ".toList ++ (a.chars depth ++ rest)) (.keyword .kElse)
      "else" (' ' :: (a.chars depth ++ rest)) := .blank (lexesTo_keyword .kElse _)
  refine succeeds_of_first ((level n).ifStmt .top) h (lexesTo_head .kIf id _) (by decide)
    (fun ⟨_, _, _, _⟩ hk => by cases hk; rfl) fun b₁ h₁ => ?_
  have hle := h₁.left_le
  refine succeeds_spanning (succeeds_head hid (by omega) (h.of_nil h₁) fun e b₂ h₂ hlt he => ?_)
  refine (hc.nested (by omega) h₂.unblank.near
    fun hopen => absurd hopen (not_endsOpen_closed c)).bind fun c' b₃ _ hc' => ?_
  refine (succeeds_accept hc'.1.stands helse (solid_keyword _)).bind fun ok b₄ _ h₄ => ?_
  obtain ⟨rfl, h₄, hlt₄⟩ := h₄
  have halternate := ha.nested (n := n) (by omega) h₄.unblank.near
    fun hopen => hnext (.ifElse _ _ _ hopen)
  refine (succeeds_optionally_true halternate).bind fun o b₅ _ ho => ?_
  obtain ⟨a', rfl, ha'⟩ := ho
  refine .pure fun loc => ⟨?_, ha'.1.stands⟩
  rw [unlocated_ifElse, hc'.1.same, ha'.1.same, he, braced_ifElse, unlocated_ifElse]

/-! ### Blocks -/

/-- **Lines are read one after another**: behind each stands the next one or what ends them all. -/
theorem succeeds_lines {gap tail after : List Char} {stop : TokenKind} {text : String}
    (hgap : IsGap gap) (hl : LexesTo .standard tail stop text after) (hstop : stop ∈ stopKinds)
    (helse : stop ≠ .keyword .kElse) {ss : List Stmt} (hform : ∀ s ∈ ss, s.IsControl)
    (hs : ∀ s ∈ ss, s.Reads) {m : Nat} (hm : b.left < m) (hn : 2 * b.left + 3 ≤ n)
    (h : b.Near (linesChars depth ss ++ (gap ++ tail))) :
    Succeeds b (collect m ((level n).stmtBefore? .top stop)) fun ss' b' =>
      stmtsUnlocated ss' = stmtsUnlocated (stmtsBraced ss) ∧ b'.Near tail := by
  obtain ⟨m, rfl⟩ : ∃ k, m = k + 1 := Nat.exists_eq_add_of_le' (by omega)
  induction ss generalizing b m with
  | nil =>
    have htail : b.Near tail := TokenBuffer.Near.of_gap h hgap
    have hnext := succeeds_stmtBefore?_stop (r := level n) (htail.upcoming_eq hl rfl).1
    refine (succeeds_collect_none hnext).mono fun l b₁ _ h₁ => ?_
    obtain ⟨rfl, h₁⟩ := h₁
    exact ⟨rfl, htail.of_nil h₁⟩
  | cons s ss ih =>
    obtain ⟨hsform, hssform⟩ := List.forall_mem_cons.mp hform
    obtain ⟨hsreads, hssreads⟩ := List.forall_mem_cons.mp hs
    rw [linesChars, List.append_assoc, List.append_assoc] at h
    have hline := h.of_gap (isGap_lineBreak depth)
    have hfollow : NoElse (linesChars depth ss ++ (gap ++ tail)) := by
      cases ss with
      | nil =>
        have htail : NoElse (gap ++ tail) := .intro hgap hl helse
        exact htail
      | cons s' ss =>
        rw [linesChars, List.append_assoc, List.append_assoc]
        obtain ⟨kind, text, after, hl', hkind⟩ := (hssform s' List.mem_cons_self).opening depth
          (linesChars depth ss ++ (gap ++ tail))
        exact .intro (isGap_lineBreak depth) hl' fun hk => hkind (hk ▸ by decide)
    obtain ⟨kind, text, after, hl', hkind⟩ := hsform.opening depth
      (linesChars depth ss ++ (gap ++ tail))
    have hnext : (b.upcoming .standard).kind ∉ [stop, .eof] := by
      rw [(hline.upcoming_eq hl' rfl).1]
      intro hmem
      rcases List.mem_pair.mp hmem with rfl | rfl
      · exact hkind hstop
      · exact hkind (by decide)
    have hread : ∀ b₁, b.Consumes [] b₁ → Succeeds b₁ ((level n).stmt .top) fun s' b' =>
        s.Reread (linesChars depth ss ++ (gap ++ tail)) s' b' ∧ b'.left < b.left := by
      intro b₁ h₁
      have hle := h₁.left_le
      exact (hsreads.nested (by omega) (hline.of_nil h₁) fun _ => hfollow).mono
        fun _ _ _ hs' => ⟨hs'.1, by omega⟩
    refine succeeds_collect_some (succeeds_stmtBefore? hnext hread) fun s' b₁ _ hs' => ?_
    obtain ⟨m, rfl⟩ : ∃ k, m = k + 1 := Nat.exists_eq_add_of_le' (by omega)
    refine (ih hssform hssreads (by omega) hs'.1.stands.near m (by omega)).mono
      fun ss' b₂ _ hss' => ⟨?_, hss'.2⟩
    rw [stmtsUnlocated_cons, hs'.1.same, hss'.1]
    rfl

theorem reads_block (loc : Loc) {body : List Stmt} (hform : ∀ s ∈ body, s.IsControl)
    (hs : ∀ s ∈ body, s.Reads) : (Stmt.block loc body).Reads := by
  intro n b rest depth hn h _
  obtain ⟨gap, hgap, hchars⟩ := chars_block loc depth body
  rw [hchars, List.cons_append, List.append_assoc, List.append_assoc] at h
  have hopen : LexesTo .standard ('{' :: (linesChars (depth + 1) body ++ (gap ++ '}' :: rest)))
      (.punct .lBrace) "\x7b" (linesChars (depth + 1) body ++ (gap ++ '}' :: rest)) :=
    lexesTo_punct (p := .lBrace) fun _ _ => rfl
  have hclose : LexesTo .standard ('}' :: rest) (.punct .rBrace) "\x7d" rest :=
    lexesTo_punct (p := .rBrace) fun _ _ => rfl
  refine succeeds_of_first (spanning do
    let body ← (level n).block .top
    return fun loc => .block loc body) h hopen (by decide)
    (fun ⟨_, _, _, _⟩ hk => by cases hk; rfl) fun b₁ h₁ => ?_
  have hle := h₁.left_le
  have hblock : Succeeds b₁ ((level n).block .top) fun body' b' =>
      stmtsUnlocated body' = stmtsUnlocated (stmtsBraced body) ∧ b'.At rest := by
    refine ((h.of_nil h₁).succeeds_expect hopen (solid_punct _)).bind fun _ b₂ _ h₂ => ?_
    rw [stmtsUntil_eq, level_depth]
    refine (succeeds_lines hgap hclose (by decide) nofun hform hs (by omega) (by omega)
      h₂.1.near).bind fun body' b₃ _ h₃ => ?_
    exact (h₃.2.succeeds_expect hclose (solid_punct _)).bind fun _ b₄ _ h₄ =>
      .pure ⟨h₃.1, h₄.1⟩
  refine succeeds_spanning (hblock.bind fun body' b₂ _ h₂ => .pure fun loc => ⟨?_, h₂.2⟩)
  rw [unlocated_block, h₂.1]
  rfl

theorem Reads.closed {s : Stmt} (hs : s.Reads) (hform : s.IsControl) : s.closed.Reads := by
  unfold Stmt.closed
  split
  · exact reads_block s.loc (by simpa using hform) (by simpa using hs)
  · exact hs

/-- **Every statement of branches, loops, labels and blocks is read again.** -/
theorem IsControl.reads {s : Stmt} (h : s.IsControl) : s.Reads := by
  induction h with
  | empty loc => exact reads_empty loc
  | expr loc hid => exact reads_expr loc hid
  | block loc hbody ih => exact reads_block loc hbody ih
  | ifThen loc hid hc ihc => exact reads_ifThen loc hid ihc
  | ifElse loc hid hc ha ihc iha => exact reads_ifElse loc hid (ihc.closed hc) iha
  | «while» loc hid hbody ih => exact reads_while loc hid ih
  | withObject loc hid hbody ih => exact reads_withObject loc hid ih
  | doWhile loc hid hbody ih => exact reads_doWhile loc hid ih
  | label loc hname hbody ih => exact reads_label loc hname ih
  | forLoop loc hbody ih => exact reads_forLoop loc ih

/-! ### The module -/

theorem toList_print (s : Stmt) : s.print.toList = s.chars 0 := by
  rw [Stmt.print, toList_render]
  exact chars_line 0 s

/-- **Every `else` stays with its `if`.**  What is printed for a statement of names, blocks,
branches, loops and labels is read as a module of that one statement, but for its locations, and
but for the branches that end with an `if` without an `else` and have an `else` behind them, which
come back in a block. -/
theorem parse_print_control {s : Stmt} (h : s.IsControl) :
    ∃ p, Program.parse s.print = .ok p ∧
      ∃ s', p.body = [s'] ∧ s'.unlocated = s.braced.unlocated := by
  have hs : ReadAsStmt s.print.toList fun s' => s'.unlocated = s.braced.unlocated := by
    rw [toList_print, ← List.append_nil (s.chars 0)]
    refine ⟨?_, fun hn hat => ?_⟩
    · obtain ⟨kind, text, after, hl, hkind⟩ := h.opening 0 []
      exact ⟨kind, text, after, hl, fun heof => hkind (heof ▸ by decide)⟩
    · exact (h.reads hn hat.near fun _ => noElse_end).mono
        fun _ _ _ hs' => ⟨hs'.same, hs'.stands⟩
  refine parse_single hs ?_
  rw [toList_print]
  exact (h.plain_chars 0).arrowless

end Stmt

/-- An `if` whose branch ends, behind a label and a loop, with an `if` without an `else`. -/
def danglingElse : Stmt :=
  let loc := Loc.point 0
  let retry := Stmt.doWhile loc (.ifElse loc (formulaName "c") (.empty loc) none) (formulaName "d")
  let branch := Stmt.label loc "l"
    (.while loc (formulaName "a") (.ifElse loc (formulaName "b") retry none))
  .ifElse loc (formulaName "x") branch
    (some (.ifElse loc (formulaName "y") retry (some (.expr loc (formulaName "z")))))

example : danglingElse.print =
    "if (x) \x7b\n  l: while (a) if (b) do if (c) ; while (d);\n\x7d" ++
      " else if (y) do if (c) ; while (d); else z;" := by
  rfl

theorem danglingElse_isControl : danglingElse.IsControl := by
  have hname : ∀ name ∈ ["a", "b", "c", "d", "l", "x", "y", "z"],
      IsToken .standard .ident name := by
    have hplain : ∀ name ∈ ["a", "b", "c", "d", "l", "x", "y", "z"],
        Text.isIdentifierName name = true ∧ Keyword.ofWord? name = none := by decide
    exact fun name h => isToken_ident (hplain name h).1 (hplain name h).2
  have hretry : ∀ loc, (Stmt.doWhile loc (.ifElse loc (formulaName "c") (.empty loc) none)
      (formulaName "d")).IsControl := fun loc =>
    .doWhile loc (hname "d" (by decide)) (.ifThen loc (hname "c" (by decide)) (.empty loc))
  refine .ifElse _ (hname "x" (by decide)) (.label _ (hname "l" (by decide)) ?_) ?_
  · exact .while _ (hname "a" (by decide)) (.ifThen _ (hname "b" (by decide)) (hretry _))
  · exact .ifElse _ (hname "y" (by decide)) (hretry _) (.expr _ (hname "z" (by decide)))

/-- The first `else` is read with the first `if`, whose branch comes back in a block. -/
theorem danglingElse_reread : danglingElse.IsControl ∧
    ∃ p, Program.parse danglingElse.print = .ok p ∧
      ∃ s', p.body = [s'] ∧ s'.unlocated = danglingElse.braced.unlocated :=
  ⟨danglingElse_isControl, Stmt.parse_print_control danglingElse_isControl⟩

end ImportSeam
