import ImportSeam.Grammar.Exchange

/-!
# Modules

The grammar feeds its productions back to themselves.  Each production either consumes a token
before it uses a rule, or passes on to a smaller part of the same place, so a bound in proportion
to the length of the source is never reached.

## Main definitions

* `Rules.step` — the productions, using the given rules for their parts.
* `grammar` — the rules for a source of bounded length.
* `Program.parse` — the module that a source denotes.
-/

namespace ImportSeam

open TokenParser

/-- The productions, using the given rules for their parts. -/
def Rules.step (r : Rules) : Rules where
  depth := r.depth + 1
  expr := r.operatorExpr
  operand := r.operandExpr
  construct := r.constructExpr
  pat := r.pattern
  stmt := r.statement
  elem := r.element

/-- The rules for a source of at most the given number of characters. -/
def grammar (length : Nat) : Rules :=
  Nat.repeat Rules.step (2 * length + 8) Rules.exhausted

/-- A whole module. -/
def Rules.program (r : Rules) : TokenParser (List Stmt) := do
  let body ← r.stmtsUntil .top .eof
  discard (expect .eof)
  return body

namespace Program

/-- The module that a source denotes. -/
def parse (source : String) : Except SyntaxError Program :=
  match (grammar source.length).program (.ofString source) with
  | .ok body buffer => .ok ⟨⟨0, source.utf8ByteSize⟩, body, buffer.comments⟩
  | .error e _ => .error e

theorem parse_of_toOption {source : String} {p : Program}
    (h : (parse source).toOption = some p) : parse source = .ok p := by
  cases hp : parse source with
  | error e =>
    rw [hp] at h
    exact absurd h.symm (Option.some_ne_none p)
  | ok p' =>
    rw [hp] at h
    exact congrArg _ (Option.some.inj h)

end Program

end ImportSeam
