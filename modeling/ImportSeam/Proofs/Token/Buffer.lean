import ImportSeam.Token.Buffer
import Mathlib.Data.List.Induction

/-!
# Reading through the buffer

The buffer keeps tokens that were read in one mode and may be asked for in another, and it goes
back over tokens that were consumed.  None of this shows: in a *coherent* buffer every token,
consumed or ahead, is the one read in its mode where the token before it ended, and every operation
keeps the buffer coherent.  So the next token in a mode is always the one read at the position.

## Main definitions

* `BufferedToken.Follow` — tokens read one after another from a position.
* `TokenBuffer.Coherent` — the invariant.
* `TokenBuffer.upcoming` — the next token in a mode, without a buffer.
* `TokenBuffer.Consumes` — one buffer is another after some more tokens.

## Main results

* `TokenBuffer.peek_eq`, `TokenBuffer.consume_eq` — what the two operations answer.
* `TokenBuffer.Consumes.restore` — going back to a mark undoes everything since.
* `TokenBuffer.Consumes.since_start` — a range starts with the first token consumed.
-/

namespace ImportSeam

namespace BufferedToken

/-- The tokens were read one after another from a position, each in its own mode. -/
def Follow : Cursor → List BufferedToken → Prop
  | _, [] => True
  | c, t :: ts => t = .read t.mode c ∧ Follow t.lexeme.stop ts

/-- The end of the last of the tokens, which start at a position. -/
def endOf : Cursor → List BufferedToken → Cursor
  | c, [] => c
  | _, t :: ts => endOf t.lexeme.stop ts

theorem follow_append (c : Cursor) (ts us : List BufferedToken) :
    Follow c (ts ++ us) ↔ Follow c ts ∧ Follow (endOf c ts) us := by
  induction ts generalizing c with
  | nil => simp [Follow, endOf]
  | cons t ts ih => simp only [List.cons_append, Follow, endOf, ih, and_assoc]

@[simp] theorem endOf_append (c : Cursor) (ts us : List BufferedToken) :
    endOf c (ts ++ us) = endOf (endOf c ts) us := by
  induction ts generalizing c with
  | nil => rfl
  | cons t ts ih => simp only [List.cons_append, endOf, ih]

theorem endOf_eq_getLast? (c : Cursor) (ts : List BufferedToken) :
    endOf c ts = match ts.getLast? with
      | some t => t.lexeme.stop
      | none => c := by
  induction ts generalizing c with
  | nil => rfl
  | cons t ts ih =>
    rw [endOf, ih]
    cases ts with
    | nil => rfl
    | cons u us => simp [List.getLast?_cons]

@[simp] theorem read_mode (mode : LexMode) (c : Cursor) : (read mode c).mode = mode := rfl

@[simp] theorem read_lexeme (mode : LexMode) (c : Cursor) :
    (read mode c).lexeme = readToken mode c := rfl

end BufferedToken

namespace TokenBuffer

open BufferedToken

/-- Every token of the buffer is the one read in its mode where the token before it ended. -/
def Coherent (b : TokenBuffer) : Prop := Follow b.source (b.consumed.toList ++ b.ahead)

/-- The next token in a mode, read at the position. -/
def upcoming (b : TokenBuffer) (mode : LexMode) : Token := (readToken mode b.position).token

theorem position_eq (b : TokenBuffer) : b.position = endOf b.source b.consumed.toList := by
  rw [endOf_eq_getLast?, Array.getLast?_toList]
  rfl

theorem coherent_iff (b : TokenBuffer) :
    b.Coherent ↔ Follow b.source b.consumed.toList ∧ Follow b.position b.ahead := by
  rw [Coherent, follow_append, position_eq]

theorem coherent_ofString (source : String) : (ofString source).Coherent := by
  simp [Coherent, ofString, Follow]

/-! ### The next token -/

theorem next_eq {b : TokenBuffer} (h : b.Coherent) (mode : LexMode) :
    (b.next mode).1 = .read mode b.position ∧
      Follow (readToken mode b.position).stop (b.next mode).2 := by
  obtain ⟨_, hahead⟩ := (coherent_iff b).1 h
  unfold next
  cases hb : b.ahead with
  | nil => exact ⟨rfl, trivial⟩
  | cons t rest =>
    rw [hb] at hahead
    obtain ⟨ht, hrest⟩ := hahead
    by_cases hm : t.mode = mode
    · subst hm
      simp only [beq_self_eq_true, if_true]
      refine ⟨ht, ?_⟩
      rw [ht] at hrest
      exact hrest
    · simp only [beq_eq_false_iff_ne.2 hm, Bool.false_eq_true, if_false]
      exact ⟨trivial, trivial⟩

/-! ### What an operation leaves -/

/-- The second buffer is the first after consuming the tokens.  What is read ahead may differ. -/
structure Consumes (b : TokenBuffer) (ts : List BufferedToken) (b' : TokenBuffer) : Prop where
  source : b'.source = b.source
  consumed : b'.consumed.toList = b.consumed.toList ++ ts
  coherent : b'.Coherent

namespace Consumes

variable {b b' b'' : TokenBuffer} {ts us : List BufferedToken}

theorem refl (h : b.Coherent) : b.Consumes [] b := ⟨rfl, by simp, h⟩

theorem trans (h : b.Consumes ts b') (h' : b'.Consumes us b'') :
    b.Consumes (ts ++ us) b'' where
  source := h'.source.trans h.source
  consumed := by rw [h'.consumed, h.consumed, List.append_assoc]
  coherent := h'.coherent

theorem position (h : b.Consumes ts b') : b'.position = endOf b.position ts := by
  rw [position_eq, position_eq, h.source, h.consumed, endOf_append]

theorem follow (h : b.Consumes ts b') : Follow b.position ts := by
  have hf := ((coherent_iff b').1 h.coherent).1
  rw [h.source, h.consumed, follow_append, ← position_eq] at hf
  exact hf.2

theorem upcoming (h : b.Consumes [] b') (mode : LexMode) :
    b'.upcoming mode = b.upcoming mode := by
  rw [TokenBuffer.upcoming, TokenBuffer.upcoming, h.position, endOf]

theorem mark (h : b.Consumes ts b') : b'.mark = b.mark + ts.length := by
  have := congrArg List.length h.consumed
  simpa [TokenBuffer.mark] using this

end Consumes

/-- Looking at the next token changes only what is read ahead. -/
theorem peek_eq {b : TokenBuffer} (h : b.Coherent) (mode : LexMode) :
    (b.peek mode).1 = b.upcoming mode ∧ b.Consumes [] (b.peek mode).2 := by
  obtain ⟨hn, hf⟩ := next_eq h mode
  refine ⟨?_, rfl, by simp [peek], ?_⟩
  · simp only [peek, hn, upcoming, token, read_lexeme]
  · have hc := ((coherent_iff b).1 h).1
    rw [Coherent]
    simp only [peek, hn]
    rw [follow_append, ← position_eq]
    exact ⟨hc, rfl, hf⟩

/-- Consuming the next token moves the position behind it. -/
theorem consume_eq {b : TokenBuffer} (h : b.Coherent) (mode : LexMode) :
    (b.consume mode).1 = b.upcoming mode ∧
      b.Consumes [.read mode b.position] (b.consume mode).2 := by
  obtain ⟨hn, hf⟩ := next_eq h mode
  refine ⟨?_, rfl, by simp [consume, hn], ?_⟩
  · simp only [consume, hn, upcoming, token, read_lexeme]
  · have hc := ((coherent_iff b).1 h).1
    rw [Coherent]
    simp only [consume, hn, Array.toList_push, List.append_assoc]
    rw [follow_append, ← position_eq]
    exact ⟨hc, rfl, hf⟩

/-! ### Going back -/

theorem back_eq (b : TokenBuffer) (ts : List BufferedToken) :
    ∀ us, b.consumed.toList = ts ++ us →
      (b.back us.length).source = b.source ∧ (b.back us.length).consumed.toList = ts ∧
        (b.back us.length).ahead = us ++ b.ahead := by
  intro us
  induction us using List.reverseRecOn generalizing b with
  | nil => intro h; simp [back, h]
  | append_singleton us u ih =>
    intro h
    have hback : b.consumed.back? = some u := by
      rw [← Array.getLast?_toList, h]; simp
    have hpop : b.consumed.pop.toList = ts ++ us := by
      rw [Array.toList_pop, h, ← List.append_assoc, List.dropLast_concat]
    obtain ⟨hs, hc, ha⟩ :=
      ih { b with consumed := b.consumed.pop, ahead := u :: b.ahead } hpop
    simp only [List.length_append, List.length_singleton, back, hback]
    exact ⟨hs, hc, by rw [ha]; simp⟩

/-- Going back to a mark undoes everything since. -/
theorem Consumes.restore {b b' : TokenBuffer} {ts : List BufferedToken} (h : b.Consumes ts b') :
    b.Consumes [] (b'.restore b.mark) := by
  obtain ⟨hs, hc, ha⟩ := back_eq b' b.consumed.toList ts h.consumed
  have hle : b.mark ≤ b'.mark := by rw [h.mark]; omega
  have hr : b'.restore b.mark = b'.back ts.length := by
    rw [TokenBuffer.restore, if_pos hle, h.mark, Nat.add_sub_cancel_left]
  rw [hr]
  refine ⟨hs.trans h.source, by simpa using hc, ?_⟩
  have hcoh := h.coherent
  rw [Coherent] at hcoh ⊢
  rw [hs, hc, ha, ← List.append_assoc, ← h.consumed]
  exact hcoh

/-! ### Ranges -/

/-- A range of consumed tokens starts with the first and ends with the last of them. -/
theorem Consumes.since_cons {b b' : TokenBuffer} {t : BufferedToken} {ts : List BufferedToken}
    (h : b.Consumes (t :: ts) b') :
    b'.since b.mark = ⟨t.token.loc.start, b'.position.offset⟩ := by
  have hm : b.mark < b'.mark := by rw [h.mark, List.length_cons]; omega
  have ht : b'.token? b.mark = some t := by
    rw [token?, if_pos hm, ← Array.getElem?_toList, h.consumed, TokenBuffer.mark,
      ← Array.length_toList, List.getElem?_append_right (Nat.le_refl _)]
    simp
  rw [since, ht]
  simp only [if_pos hm]

end TokenBuffer

end ImportSeam
