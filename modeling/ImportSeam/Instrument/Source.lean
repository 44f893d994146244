import ImportSeam.Grammar.Module
import ImportSeam.Instrument.Module
import ImportSeam.Layout.Print
import ImportSeam.Scope.Analysis

/-!
# Instrumenting source code

## Main definitions

* `Instrumented` — source code, instrumented or left alone.
* `instrumentSource` — the instrumented form of a module's source code.
-/

namespace ImportSeam

/-- Why source code cannot be instrumented. -/
inductive SourceError where
  | malformed (e : SyntaxError)
  | instrument (e : InstrumentError)
  deriving Repr, Inhabited

/-- The wording of an error. -/
def SourceError.message : SourceError → String
  | .malformed e => "syntax error: " ++ e.message
  | .instrument e => e.message

/-- Source code, and what became of it. -/
structure Instrumented where
  code : String
  outcome : Outcome
  deriving Repr, Inhabited

/-- The instrumented form of a module's source code.  Code that is left alone stays as it is, to the
letter. -/
def instrumentSource (source : String) (place : Option String) (options : Options) :
    Except SourceError Instrumented := do
  let (p, scopes) := (← (Program.parse source).mapError .malformed).analyse
  let (outcome, p) ← (p.instrument scopes.symbolOf? place options).mapError .instrument
  return { code := if outcome.isInstrumented then p.print else source, outcome }

end ImportSeam
