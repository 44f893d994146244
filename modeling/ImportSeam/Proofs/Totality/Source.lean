import ImportSeam.Proofs.Token.Slice
import ImportSeam.Proofs.Totality.Statements

/-!
# Every source is read to an end

Reading a source gives a module or an error, whatever the source is.  The bound on the depth of the
grammar is not what ends it: the error of a bound used up never comes, each rule takes characters
away, and a repetition needs no more rounds than there are characters left.

## Main definitions

* `Progresses` — a parser that consumes characters or fails at a place in the source.
* `Rules.ProgressAt` — rules that all do.

## Main results

* `parse_total` — **every source gives a module or an error in the source.**
-/

namespace ImportSeam

variable {α : Type} {source : String} {b : TokenBuffer}

/-- The error is about a slice of the source, and not about a bound that was used up. -/
def SyntaxError.Located (source : String) (e : SyntaxError) : Prop :=
  e.isExhausted = false ∧ ∃ text, e.loc.Holds source text

/-- The parser keeps the buffer in order, and either takes characters away or fails at a place in
the source. -/
def Progresses (source : String) (b : TokenBuffer) (p : TokenParser α) : Prop :=
  match p b with
  | .ok _ b' => b.Keeps b' ∧ b'.left < b.left
  | .error e b' => b.Keeps b' ∧ e.Located source

/-- Every rule makes progress at a buffer. -/
structure Rules.ProgressAt (r : Rules) (source : String) (b : TokenBuffer) : Prop where
  expr : ∀ ctx least ends, Progresses source b (r.expr ctx least ends)
  operand : ∀ ctx ends, Progresses source b (r.operand ctx ends)
  construct : ∀ ctx, Progresses source b (r.construct ctx)
  pat : ∀ ctx, Progresses source b (r.pat ctx)
  stmt : ∀ ctx, Progresses source b (r.stmt ctx)
  elem : ∀ ctx, Progresses source b (r.elem ctx)

theorem SyntaxError.Sane.located {e : SyntaxError} (h : e.Sane (.ofString source)) :
    e.Located source :=
  ⟨h.genuine, h.within.holds⟩

theorem Safe.progresses {p : TokenParser α} {Q : α → TokenBuffer → Prop}
    (h : Safe (.ofString source) b p Q) (hQ : ∀ a b', Q a b' → b'.left < b.left)
    (hs : b.source = .ofString source) (hb : b.Coherent) : Progresses source b p := by
  have hout := h hs (.refl hb)
  unfold Progresses
  cases hp : p b with
  | ok a b' =>
    rw [hp] at hout
    exact ⟨hout.1, hQ a b' hout.2.2⟩
  | error e b' =>
    rw [hp] at hout
    exact ⟨hout.1, hout.2.located⟩

theorem TokenBuffer.Coherent.left_le (hb : b.Coherent) (hs : b.source = .ofString source) :
    b.left ≤ source.length := by
  have hle := hb.reaches.length_le
  rw [hs] at hle
  exact Nat.le_trans hle (Nat.le_of_eq source.length_toList)

/-- The productions of the grammar make progress, also if a repetition may go only one round more
than there are characters left. -/
theorem progressAt_step (hs : b.source = .ofString source) (hb : b.Coherent) {rounds : Nat}
    (hrounds : b.left < rounds) :
    ({ grammar source.length with depth := rounds } : Rules).step.ProgressAt source b := by
  have hgrammar : (grammar source.length).Total (.ofString source) (2 * source.length + 8) :=
    total_grammar _
  -- being total says nothing about how often an item may be repeated
  have hr : ({ grammar source.length with depth := rounds } : Rules).Total (.ofString source)
      (2 * source.length + 8) :=
    ⟨hgrammar.expr, hgrammar.operand, hgrammar.construct, hgrammar.pat, hgrammar.stmt,
      hgrammar.elem⟩
  have hleft := hb.left_le hs
  have hd : 2 * b.left + 2 ≤ 2 * source.length + 8 ∧ b.left < rounds := by omega
  have hd' : 2 * b.left + 1 ≤ 2 * source.length + 8 ∧ b.left < rounds := by omega
  exact
    { expr := fun _ least ends =>
        (hr.operatorExpr least ends hd').progresses (fun _ _ h => h.1) hs hb
      operand := fun _ ends => (hr.operandExpr ends hd').progresses (fun _ _ h => h.1) hs hb
      construct := fun _ => (hr.constructExpr hd').progresses (fun _ _ h => h.1) hs hb
      pat := fun _ => (hr.pattern hd').progresses (fun _ _ h => h) hs hb
      stmt := fun _ => (hr.statement hd).progresses (fun _ _ h => h) hs hb
      elem := fun _ => (hr.element hd').progresses (fun _ _ h => h) hs hb }

/-- Every source gives a module, or an error that is a slice of the source.  At every buffer that
the source can lead to, each rule takes characters away or fails, no repetition needs more rounds than
there are characters left, and every token, comment and range is a slice of the source. -/
theorem parse_total (source : String) :
    (∃ b : TokenBuffer, (TokenBuffer.ofString source).Keeps b ∧
      ((∃ top, Program.parse source = .ok top ∧
          (grammar source.length).program (.ofString source) = .ok top.body b) ∨
        ∃ e, Program.parse source = .error e ∧
          (grammar source.length).program (.ofString source) = .error e b ∧ e.Located source)) ∧
    ∀ b : TokenBuffer, b.source = .ofString source → b.Coherent →
      (∀ rounds, b.left < rounds →
        ({ grammar source.length with depth := rounds } : Rules).step.ProgressAt source b) ∧
      (∀ mode, (readToken mode b.position).Sliced source) ∧
      (∀ t ∈ b.consumed.toList ++ b.ahead, t.lexeme.Sliced source) ∧
      ∀ place ≤ b.mark, ∃ text, (b.since place).Holds source text := by
  refine ⟨?_, fun b hs hb => ⟨fun _ => progressAt_step hs hb, fun mode => ?_,
    fun _ => hb.sliced hs, fun place hplace => ?_⟩⟩
  · have hout := safe_program source rfl (.refl (TokenBuffer.coherent_ofString source))
    cases hp : (grammar source.length).program (.ofString source) with
    | ok body b =>
      rw [hp] at hout
      refine ⟨b, hout.1, .inl ⟨⟨⟨0, source.utf8ByteSize⟩, body, b.comments⟩, ?_, rfl⟩⟩
      rw [Program.parse, hp]
    | error e b =>
      rw [hp] at hout
      refine ⟨b, hout.1, .inr ⟨e, ?_, rfl, hout.2.located⟩⟩
      rw [Program.parse, hp]
  · exact sliced_readToken (hs ▸ hb.reaches) mode
  · exact (hs ▸ hb.since_within hplace).holds

end ImportSeam
