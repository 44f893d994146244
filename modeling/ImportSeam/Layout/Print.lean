import ImportSeam.Layout.Tree

/-!
# Printed source

## Main definitions

* `Program.print` — a module with its comments.
* `Stmt.print`, `Expr.print` — a statement or an expression by itself, without comments.
-/

namespace ImportSeam

/-- The layout of a module: its statements, and the comments behind the last of them. -/
def Program.layout (p : Program) : Layout :=
  (stmtLayouts 0 p.body).flatMap (· ++ [.newline 0]) ++ [.lastComments]

/-- A module as source text. -/
def Program.print (p : Program) : String := p.layout.render p.comments

/-- A statement as source text. -/
def Stmt.print (s : Stmt) : String := Layout.render (Layout.line 0 s (s.bare 0)) []

/-- An expression as source text. -/
def Expr.print (e : Expr) : String := Layout.render (Layout.operand 0 e (e.bare 0)) []

end ImportSeam
