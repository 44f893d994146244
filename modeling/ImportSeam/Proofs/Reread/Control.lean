import ImportSeam.Proofs.Reread.Follow

/-!
# Branches and loops, and what is printed for them

In a statement of branches, loops, labels and blocks there is one thing to go wrong when it is
printed: an `else` belongs to the nearest `if` that can still take it.  So a branch that ends with
an `if` without an `else` is printed in a block where an `else` follows.

## Main definitions

* `Stmt.IsControl` — statements of names, blocks, branches, loops and labels.
* `Stmt.EndsOpen` — statements that end with an `if` without an `else`.
* `Stmt.unlocated` — a statement without its locations.
* `Stmt.closed`, `Stmt.braced` — blocks around the branches that need them, at the top or everywhere.
* `Stmt.chars`, `linesChars` — what is printed for a statement, and for the lines of a block.

## Main results

* `Stmt.endsOpen_iff` — the printer decides whether a statement ends with an `if` without an `else`.
* `Stmt.chars_ifElse` — an `else` is printed behind the branch in its block.
* `Stmt.IsControl.opening` — how the text of a statement begins.
-/

namespace ImportSeam

open Layout

namespace Stmt

/-! ### The statements -/

/-- A statement of names, blocks, branches, loops and labels.  What is tested, or opened by a `with`,
is a name. -/
inductive IsControl : Stmt → Prop
  | empty (loc : Loc) : IsControl (.empty loc)
  | expr (loc : Loc) {id : Ident} (hid : IsToken .standard .ident id.name) :
      IsControl (.expr loc (.ident id))
  | block (loc : Loc) {body : List Stmt} (hbody : ∀ s ∈ body, s.IsControl) :
      IsControl (.block loc body)
  | ifThen (loc : Loc) {id : Ident} {c : Stmt} (hid : IsToken .standard .ident id.name)
      (hc : c.IsControl) : IsControl (.ifElse loc (.ident id) c none)
  | ifElse (loc : Loc) {id : Ident} {c a : Stmt} (hid : IsToken .standard .ident id.name)
      (hc : c.IsControl) (ha : a.IsControl) : IsControl (.ifElse loc (.ident id) c (some a))
  | while (loc : Loc) {id : Ident} {body : Stmt} (hid : IsToken .standard .ident id.name)
      (hbody : body.IsControl) : IsControl (.while loc (.ident id) body)
  | withObject (loc : Loc) {id : Ident} {body : Stmt} (hid : IsToken .standard .ident id.name)
      (hbody : body.IsControl) : IsControl (.withObject loc (.ident id) body)
  | doWhile (loc : Loc) {id : Ident} {body : Stmt} (hid : IsToken .standard .ident id.name)
      (hbody : body.IsControl) : IsControl (.doWhile loc body (.ident id))
  | label (loc : Loc) {name : String} {body : Stmt} (hname : IsToken .standard .ident name)
      (hbody : body.IsControl) : IsControl (.label loc name body)
  | forLoop (loc : Loc) {body : Stmt} (hbody : body.IsControl) :
      IsControl (.forLoop loc .absent none none body)

/-- The statement ends with an `if` that has no `else`: it is one, or its last part ends with one. -/
inductive EndsOpen : Stmt → Prop
  | ifThen (loc : Loc) (test : Expr) (c : Stmt) : EndsOpen (.ifElse loc test c none)
  | ifElse (loc : Loc) (test : Expr) (c : Stmt) {a : Stmt} (ha : a.EndsOpen) :
      EndsOpen (.ifElse loc test c (some a))
  | forIn (loc : Loc) (target : ForTarget) (object : Expr) {body : Stmt} (h : body.EndsOpen) :
      EndsOpen (.forIn loc target object body)
  | forOf (loc : Loc) (isAwait : Bool) (target : ForTarget) (object : Expr) {body : Stmt}
      (h : body.EndsOpen) : EndsOpen (.forOf loc isAwait target object body)
  | forLoop (loc : Loc) (init : ForInit) (test post : Option Expr) {body : Stmt}
      (h : body.EndsOpen) : EndsOpen (.forLoop loc init test post body)
  | while (loc : Loc) (test : Expr) {body : Stmt} (h : body.EndsOpen) :
      EndsOpen (.while loc test body)
  | withObject (loc : Loc) (object : Expr) {body : Stmt} (h : body.EndsOpen) :
      EndsOpen (.withObject loc object body)
  | label (loc : Loc) (name : String) {body : Stmt} (h : body.EndsOpen) :
      EndsOpen (.label loc name body)

theorem endsOpen_of_endsWithOpenIf : (s : Stmt) → s.endsWithOpenIf = true → s.EndsOpen
  | .ifElse _ _ _ none, _ => .ifThen _ _ _
  | .ifElse _ _ _ (some a), h => .ifElse _ _ _ (endsOpen_of_endsWithOpenIf a h)
  | .forIn _ _ _ body, h => .forIn _ _ _ (endsOpen_of_endsWithOpenIf body h)
  | .forOf _ _ _ _ body, h => .forOf _ _ _ _ (endsOpen_of_endsWithOpenIf body h)
  | .forLoop _ _ _ _ body, h => .forLoop _ _ _ _ (endsOpen_of_endsWithOpenIf body h)
  | .while _ _ body, h => .while _ _ (endsOpen_of_endsWithOpenIf body h)
  | .withObject _ _ body, h => .withObject _ _ (endsOpen_of_endsWithOpenIf body h)
  | .label _ _ body, h => .label _ _ (endsOpen_of_endsWithOpenIf body h)

/-- The printer decides whether a statement ends with an `if` that has no `else`. -/
theorem endsOpen_iff {s : Stmt} : s.EndsOpen ↔ s.endsWithOpenIf = true := by
  constructor
  · intro h
    induction h with
    | ifThen => rfl
    | _ => assumption
  · exact s.endsOpen_of_endsWithOpenIf

instance : DecidablePred EndsOpen := fun _ => decidable_of_iff _ endsOpen_iff.symm

/-- The statement, in a block of its own if it ends with an `if` that has no `else`. -/
def closed (s : Stmt) : Stmt := if s.EndsOpen then .block s.loc [s] else s

theorem not_endsOpen_closed (s : Stmt) : ¬s.closed.EndsOpen := by
  unfold closed
  split
  · exact nofun
  · assumption

end Stmt

mutual

/-- A statement of branches, loops, labels and blocks without its locations, and without what was
found out about its names.  Anything else is left as it is. -/
def Stmt.unlocated : Stmt → Stmt
  | .empty _ => .empty (.point 0)
  | .expr _ e => .expr (.point 0) e.unlocated
  | .block _ body => .block (.point 0) (stmtsUnlocated body)
  | .ifElse _ test c none => .ifElse (.point 0) test.unlocated c.unlocated none
  | .ifElse _ test c (some a) =>
    .ifElse (.point 0) test.unlocated c.unlocated (some a.unlocated)
  | .while _ test body => .while (.point 0) test.unlocated body.unlocated
  | .withObject _ object body => .withObject (.point 0) object.unlocated body.unlocated
  | .doWhile _ body test => .doWhile (.point 0) body.unlocated test.unlocated
  | .label _ name body => .label (.point 0) name body.unlocated
  | .forLoop _ .absent none none body => .forLoop (.point 0) .absent none none body.unlocated
  | s => s

/-- Statements without locations. -/
def stmtsUnlocated : List Stmt → List Stmt
  | [] => []
  | s :: ss => s.unlocated :: stmtsUnlocated ss

end

namespace Stmt

variable (loc : Loc) (test : Expr) (s : Stmt)

theorem unlocated_block (body : List Stmt) :
    (Stmt.block loc body).unlocated = .block (.point 0) (stmtsUnlocated body) := rfl

theorem unlocated_ifThen : (Stmt.ifElse loc test s none).unlocated =
    .ifElse (.point 0) test.unlocated s.unlocated none := rfl

theorem unlocated_ifElse (a : Stmt) : (Stmt.ifElse loc test s (some a)).unlocated =
    .ifElse (.point 0) test.unlocated s.unlocated (some a.unlocated) := rfl

theorem unlocated_doWhile : (Stmt.doWhile loc s test).unlocated =
    .doWhile (.point 0) s.unlocated test.unlocated := rfl

theorem unlocated_label (name : String) :
    (Stmt.label loc name s).unlocated = .label (.point 0) name s.unlocated := rfl

end Stmt

theorem stmtsUnlocated_cons (s : Stmt) (ss : List Stmt) :
    stmtsUnlocated (s :: ss) = s.unlocated :: stmtsUnlocated ss := rfl

mutual

/-- The statement with a block around every branch that ends with an `if` without an `else` and has
an `else` behind it. -/
def Stmt.braced : Stmt → Stmt
  | .block loc body => .block loc (stmtsBraced body)
  | .ifElse loc test c none => .ifElse loc test c.braced none
  | .ifElse loc test c (some a) =>
    .ifElse loc test (if c.EndsOpen then .block c.loc [c.braced] else c.braced) (some a.braced)
  | .while loc test body => .while loc test body.braced
  | .withObject loc object body => .withObject loc object body.braced
  | .doWhile loc body test => .doWhile loc body.braced test
  | .label loc name body => .label loc name body.braced
  | .forLoop loc init test post body => .forLoop loc init test post body.braced
  | s => s

/-- Statements with blocks around the branches that need them. -/
def stmtsBraced : List Stmt → List Stmt
  | [] => []
  | s :: ss => s.braced :: stmtsBraced ss

end

theorem Stmt.braced_closed (s : Stmt) :
    s.closed.braced = if s.EndsOpen then .block s.loc [s.braced] else s.braced := by
  unfold closed
  split <;> rfl

theorem Stmt.braced_ifElse (loc : Loc) (test : Expr) (c a : Stmt) :
    (Stmt.ifElse loc test c (some a)).braced =
      .ifElse loc test c.closed.braced (some a.braced) := by
  rw [braced_closed]
  rfl

/-! ### What is printed -/

/-- What is printed for a statement at a depth of indentation. -/
def Stmt.chars (depth : Nat) (s : Stmt) : List Char := (s.bare depth).chars

/-- What is printed for statements on lines of their own. -/
def linesChars (depth : Nat) : List Stmt → List Char
  | [] => []
  | s :: ss => (lineBreak depth).toList ++ (s.chars depth ++ linesChars depth ss)

/-- What is printed for a keyword with a name in parentheses. -/
def headChars (k : Keyword) (id : Ident) : List Char :=
  k.spelling.toList ++ ' ' :: '(' :: (id.name.toList ++ [')'])

/-- Nothing but blanks and line ends. -/
def IsGap (gap : List Char) : Prop := ∀ c ∈ gap, c = ' ' ∨ c = '\n'

theorem isGap_lineBreak (depth : Nat) : IsGap (lineBreak depth).toList := by
  intro c hc
  simp only [lineBreak, String.toList_append, String.toList_ofList, List.mem_append] at hc
  rcases hc with hc | hc
  · exact .inr (List.mem_singleton.mp hc)
  · exact .inl (List.eq_of_mem_replicate hc)

theorem Expr.chars_operand_ident (depth : Nat) (id : Ident) :
    (operand 0 (.ident id) ((Expr.ident id).bare depth)).chars = id.name.toList := by
  have hbare : (Expr.ident id).bare depth = word id.name := rfl
  rw [hbare, operand, chars_append, chars_commentsBefore, if_neg (Nat.not_lt_zero _), chars_word]
  rfl

/-- A name that is read as one is not the word `let`. -/
theorem Ident.not_isAmbiguousStart {id : Ident} (hid : IsToken .standard .ident id.name) :
    (Expr.ident id).isAmbiguousStart = false := by
  have hname : id.name ≠ "let" := by
    intro hlet
    rw [hlet] at hid
    have hend : EndsWord [] := nofun
    have hident := (Scan.scan_word hid rfl hend).1
    have hkeyword := (Scan.scan_word (isToken_keyword .kLet) rfl hend).1
    exact nomatch hident.symm.trans hkeyword
  exact beq_eq_false_iff_ne.mpr hname

namespace Stmt

variable (loc : Loc) (depth : Nat)

theorem chars_line (s : Stmt) : (line depth s (s.bare depth)).chars = s.chars depth := rfl

theorem chars_nested (s : Stmt) :
    (nested depth s (s.bare depth)).chars = ' ' :: s.chars depth := rfl

theorem chars_empty : (Stmt.empty loc).chars depth = [';'] := rfl

theorem chars_expr {id : Ident} (hid : IsToken .standard .ident id.name) :
    (Stmt.expr loc (.ident id)).chars depth = id.name.toList ++ [';'] := by
  have hbare : (Stmt.expr loc (.ident id)).bare depth =
      operandOr (Expr.ident id).isAmbiguousStart 0 (.ident id) ((Expr.ident id).bare depth) ++
        word ";" := rfl
  rw [chars, hbare, Ident.not_isAmbiguousStart hid, operandOr, if_neg Bool.false_ne_true,
    chars_append, Expr.chars_operand_ident, chars_word]
  rfl

/-- The lines of a block stand between braces, which touch if there are none. -/
theorem chars_block (body : List Stmt) : ∃ gap, IsGap gap ∧
    (Stmt.block loc body).chars depth =
      '{' :: (linesChars (depth + 1) body ++ (gap ++ ['}'])) := by
  have hlines : ∀ ss,
      Layout.chars ((stmtLayouts (depth + 1) ss).flatMap (.newline (depth + 1) :: ·)) =
        linesChars (depth + 1) ss := by
    intro ss
    induction ss with
    | nil => rfl
    | cons s ss ih =>
      have hcons : (stmtLayouts (depth + 1) (s :: ss)).flatMap (.newline (depth + 1) :: ·) =
          .newline (depth + 1) :: line (depth + 1) s (s.bare (depth + 1)) ++
            (stmtLayouts (depth + 1) ss).flatMap (.newline (depth + 1) :: ·) := rfl
      rw [hcons, chars_append, ih, linesChars, ← List.append_assoc]
      rfl
  have hbare : (Stmt.block loc body).bare depth = Layout.block depth (stmtLayouts (depth + 1) body) :=
    rfl
  cases body with
  | nil => exact ⟨[], nofun, rfl⟩
  | cons s ss =>
    refine ⟨(lineBreak depth).toList, isGap_lineBreak depth, ?_⟩
    have hblock : Layout.block depth (stmtLayouts (depth + 1) (s :: ss)) =
        braces ((stmtLayouts (depth + 1) (s :: ss)).flatMap (.newline (depth + 1) :: ·) ++
          [.newline depth]) := rfl
    have hclose : Layout.chars [.newline depth] = (lineBreak depth).toList := List.append_nil _
    rw [chars, hbare, hblock, braces, chars_append, chars_append, chars_append, hlines, hclose,
      List.append_assoc, List.append_assoc]
    rfl

theorem chars_head (before : List Char) (k : Keyword) {id : Ident} {sign : String}
    (hsign : sign.toList = before ++ (k.spelling.toList ++ [' '])) :
    (word sign ++ parens (operand 0 (.ident id) ((Expr.ident id).bare depth))).chars =
      before ++ headChars k id := by
  rw [chars_append, chars_word, hsign, chars_parens, Expr.chars_operand_ident, List.append_assoc,
    List.append_assoc]
  rfl

variable (id : Ident) (body : Stmt)

theorem chars_ifThen : (Stmt.ifElse loc (.ident id) body none).chars depth =
    headChars .kIf id ++ ' ' :: body.chars depth := by
  have hbare : (Stmt.ifElse loc (.ident id) body none).bare depth =
      word "if " ++ parens (operand 0 (.ident id) ((Expr.ident id).bare depth)) ++
        nested depth body (body.bare depth) := rfl
  rw [chars, hbare, chars_append, chars_head depth [] .kIf rfl, chars_nested]
  rfl

/-- An `else` is printed behind the branch in its block. -/
theorem chars_ifElse (c a : Stmt) : (Stmt.ifElse loc (.ident id) c (some a)).chars depth =
    headChars .kIf id ++ ' ' :: (c.closed.chars depth ++ " else ".toList ++ a.chars depth) := by
  have hbare : (Stmt.ifElse loc (.ident id) c (some a)).bare depth =
      word "if " ++ parens (operand 0 (.ident id) ((Expr.ident id).bare depth)) ++
        (if c.endsWithOpenIf then
          word " " ++ Layout.block depth [line (depth + 1) c (c.bare (depth + 1))]
        else nested depth c (c.bare depth)) ++
        word " else" ++ nested depth a (a.bare depth) := rfl
  have hbranch : (if c.endsWithOpenIf then
      word " " ++ Layout.block depth [line (depth + 1) c (c.bare (depth + 1))]
      else nested depth c (c.bare depth)).chars = ' ' :: c.closed.chars depth := by
    by_cases hopen : c.EndsOpen
    · rw [if_pos (endsOpen_iff.mp hopen), closed, if_pos hopen]
      rfl
    · rw [if_neg (mt endsOpen_iff.mpr hopen), closed, if_neg hopen, chars_nested]
  rw [chars, hbare, chars_append, chars_append, chars_append, chars_head depth [] .kIf rfl,
    hbranch, chars_word, chars_nested]
  simp

theorem chars_while : (Stmt.while loc (.ident id) body).chars depth =
    headChars .kWhile id ++ ' ' :: body.chars depth := by
  have hbare : (Stmt.while loc (.ident id) body).bare depth =
      word "while " ++ parens (operand 0 (.ident id) ((Expr.ident id).bare depth)) ++
        nested depth body (body.bare depth) := rfl
  rw [chars, hbare, chars_append, chars_head depth [] .kWhile rfl, chars_nested]
  rfl

theorem chars_withObject : (Stmt.withObject loc (.ident id) body).chars depth =
    headChars .kWith id ++ ' ' :: body.chars depth := by
  have hbare : (Stmt.withObject loc (.ident id) body).bare depth =
      word "with " ++ parens (operand 0 (.ident id) ((Expr.ident id).bare depth)) ++
        nested depth body (body.bare depth) := rfl
  rw [chars, hbare, chars_append, chars_head depth [] .kWith rfl, chars_nested]
  rfl

theorem chars_doWhile : (Stmt.doWhile loc body (.ident id)).chars depth =
    "do ".toList ++ (body.chars depth ++ ' ' :: (headChars .kWhile id ++ [';'])) := by
  have hbare : (Stmt.doWhile loc body (.ident id)).bare depth =
      word "do" ++ nested depth body (body.bare depth) ++ word " while " ++
        parens (operand 0 (.ident id) ((Expr.ident id).bare depth)) ++ word ";" := rfl
  rw [chars, hbare, List.append_assoc _ (word " while "), chars_append, chars_append, chars_append,
    chars_head depth [' '] .kWhile rfl, chars_word, chars_word, chars_nested]
  simp

theorem chars_label (name : String) : (Stmt.label loc name body).chars depth =
    name.toList ++ ':' :: ' ' :: body.chars depth := by
  have hbare : (Stmt.label loc name body).bare depth =
      word name ++ word ":" ++ nested depth body (body.bare depth) := rfl
  rw [chars, hbare, chars_append, chars_append, chars_word, chars_word, chars_nested]
  simp

theorem chars_forLoop : (Stmt.forLoop loc .absent none none body).chars depth =
    "for (;;) ".toList ++ body.chars depth := rfl

/-! ### The text of a statement -/

theorem plain_head (k : Keyword) {id : Ident} (hid : IsToken .standard .ident id.name) :
    Plain (headChars k id) := by
  have hkeyword : Plain k.spelling.toList := .of_ne_gt ((isToken_keyword k).ne_gt rfl)
  have hname : Plain id.name.toList := .of_ne_gt (hid.ne_gt rfl)
  exact hkeyword.append (.cons (by decide) (.cons (by decide)
    (hname.append (.of_all (by decide)))))

theorem plain_block {body : List Stmt} (h : ∀ s ∈ body, ∀ depth, Plain (s.chars depth)) :
    Plain ((Stmt.block loc body).chars depth) := by
  have hgap : ∀ {gap}, IsGap gap → Plain gap := fun {gap} hgap => by
    refine .of_ne_gt fun c hc => ?_
    rcases hgap c hc with rfl | rfl <;> decide
  obtain ⟨gap, hclose, hchars⟩ := chars_block loc depth body
  rw [hchars]
  refine .cons (by decide) (Plain.append ?_ ((hgap hclose).append (.of_all (by decide))))
  clear hchars
  induction body with
  | nil => exact .nil
  | cons s ss ih =>
    obtain ⟨hs, hss⟩ := List.forall_mem_cons.mp h
    exact (hgap (isGap_lineBreak _)).append ((hs _).append (ih hss))

theorem plain_closed {s : Stmt} (h : ∀ depth, Plain (s.chars depth)) :
    Plain (s.closed.chars depth) := by
  unfold closed
  split
  · exact plain_block _ _ (by simpa using h)
  · exact h depth

/-- **No arrow stands in the text.** -/
theorem IsControl.plain_chars {s : Stmt} (h : s.IsControl) : Plain (s.chars depth) := by
  induction h generalizing depth with
  | empty loc =>
    rw [chars_empty]
    exact .of_all (by decide)
  | expr loc hid =>
    rw [chars_expr loc depth hid]
    exact Plain.append (.of_ne_gt (hid.ne_gt rfl)) (.of_all (by decide))
  | block loc hbody ih => exact plain_block loc depth fun s hs depth => ih s hs depth
  | ifThen loc hid hc ihc =>
    rw [chars_ifThen]
    exact (plain_head _ hid).append (.cons (by decide) (ihc depth))
  | ifElse loc hid hc ha ihc iha =>
    rw [chars_ifElse]
    refine (plain_head _ hid).append (.cons (by decide) (Plain.append ?_ (iha depth)))
    exact (plain_closed depth ihc).append (.of_all (by decide))
  | «while» loc hid hbody ih =>
    rw [chars_while]
    exact (plain_head _ hid).append (.cons (by decide) (ih depth))
  | withObject loc hid hbody ih =>
    rw [chars_withObject]
    exact (plain_head _ hid).append (.cons (by decide) (ih depth))
  | doWhile loc hid hbody ih =>
    rw [chars_doWhile]
    exact Plain.append (.of_all (by decide)) ((ih depth).append
      (.cons (by decide) ((plain_head _ hid).append (.of_all (by decide)))))
  | label loc hname hbody ih =>
    rw [chars_label]
    exact Plain.append (.of_ne_gt (hname.ne_gt rfl)) (.cons (by decide)
      (.cons (by decide) (ih depth)))
  | forLoop loc hbody ih =>
    rw [chars_forLoop]
    exact Plain.append (.of_all (by decide)) (ih depth)

/-- The tokens that no statement starts with and that may stand behind one. -/
def stopKinds : List TokenKind := [.keyword .kElse, .punct .rBrace, .eof]

theorem lexesTo_keyword (k : Keyword) (rest : List Char) :
    LexesTo .standard (k.spelling.toList ++ ' ' :: rest) (.keyword k) k.spelling (' ' :: rest) :=
  lexesTo_word (isToken_keyword k) rfl (endsWord_cons (by decide) rest)

theorem lexesTo_head (k : Keyword) (id : Ident) (rest : List Char) :
    LexesTo .standard (headChars k id ++ rest) (.keyword k) k.spelling
      (' ' :: '(' :: (id.name.toList ++ ')' :: rest)) := by
  have hl := lexesTo_keyword k ('(' :: (id.name.toList ++ ')' :: rest))
  simpa [headChars] using hl

/-- **How the text of a statement begins**: not with what may stand behind a statement. -/
theorem IsControl.opening {s : Stmt} (h : s.IsControl) (rest : List Char) :
    ∃ kind text after, LexesTo .standard (s.chars depth ++ rest) kind text after ∧
      kind ∉ stopKinds := by
  cases h with
  | empty loc => exact ⟨_, _, _, lexesTo_punct (p := .semicolon) fun _ _ => rfl, by decide⟩
  | expr loc hid =>
    rw [chars_expr loc depth hid, List.append_assoc]
    exact ⟨_, _, _, lexesTo_word hid rfl (endsWord_cons (by decide) _), by decide⟩
  | block loc hbody =>
    obtain ⟨gap, -, hchars⟩ := chars_block loc depth _
    rw [hchars]
    exact ⟨_, _, _, lexesTo_punct (p := .lBrace) fun _ _ => rfl, by decide⟩
  | ifThen loc hid hc =>
    rw [chars_ifThen, List.append_assoc]
    exact ⟨_, _, _, lexesTo_head .kIf _ _, by decide⟩
  | ifElse loc hid hc ha =>
    rw [chars_ifElse, List.append_assoc]
    exact ⟨_, _, _, lexesTo_head .kIf _ _, by decide⟩
  | «while» loc hid hbody =>
    rw [chars_while, List.append_assoc]
    exact ⟨_, _, _, lexesTo_head .kWhile _ _, by decide⟩
  | withObject loc hid hbody =>
    rw [chars_withObject, List.append_assoc]
    exact ⟨_, _, _, lexesTo_head .kWith _ _, by decide⟩
  | doWhile loc hid hbody =>
    rw [chars_doWhile]
    exact ⟨_, _, _, lexesTo_keyword .kDo _, by decide⟩
  | label loc hname hbody =>
    rw [chars_label, List.append_assoc]
    exact ⟨_, _, _, lexesTo_word hname rfl (endsWord_cons (by decide) _), by decide⟩
  | forLoop loc hbody =>
    rw [chars_forLoop]
    exact ⟨_, _, _, lexesTo_keyword .kFor _, by decide⟩

end Stmt

end ImportSeam
