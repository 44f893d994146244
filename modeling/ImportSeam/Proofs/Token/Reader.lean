import ImportSeam.Grammar.Parser
import ImportSeam.Proofs.Token.Buffer

/-!
# The buffer as a reader without one

A grammar asks for tokens in many ways: it looks ahead, consumes, tries a kind or a word, and goes
back.  A reader that keeps no tokens ahead answers all of these by reading the source again from the
end of the last token that was consumed and not given back.  The buffer gives the same answers,
whatever was asked for before and in which modes.

## Main definitions

* `TokenRequest`, `TokenReply` — what can be asked, and the answers.
* `TokenReader` — a reader without a buffer.
* `TokenBuffer.Represents` — a buffer stands for a reader.

## Main results

* `TokenBuffer.Represents.serve` — one request.
* `TokenBuffer.Represents.serveAll` — requests one after another.
* `buffer_refines_reader` — both together for every source.
-/

namespace ImportSeam

open BufferedToken

/-! ### Requests -/

/-- What a grammar can ask for. -/
inductive TokenRequest where
  | peek (mode : LexMode)
  | consume (mode : LexMode)
  /-- The next tokens, which stay to be consumed. -/
  | peekMany (count : Nat)
  /-- A token that is consumed only if it is of the kind. -/
  | consumeIf (kind : TokenKind) (mode : LexMode)
  /-- A token that has to be of the kind. -/
  | expect (kind : TokenKind) (mode : LexMode)
  | acceptWord (word : String)
  | expectWord (word : String)
  | semicolon
  | mark
  | restore (place : Nat)

/-- What is answered. -/
inductive TokenReply where
  | token (t : Token)
  | tokens (ts : List Token)
  | perhaps (t : Option Token)
  | flag (b : Bool)
  | mark (n : Nat)
  | failed (e : SyntaxError)
  | done

/-- The parser that answers a request. -/
def TokenRequest.parser : TokenRequest → TokenParser TokenReply
  | .peek mode => return .token (← TokenParser.peek mode)
  | .consume mode => return .token (← TokenParser.consume mode)
  | .peekMany count => return .tokens (← TokenParser.peekMany count)
  | .consumeIf kind mode => return .perhaps (← TokenParser.consumeIf (·.kind == kind) mode)
  | .expect kind mode => return .token (← TokenParser.expect kind mode)
  | .acceptWord word => return .flag (← TokenParser.acceptWord word)
  | .expectWord word => return .token (← TokenParser.expectWord word)
  | .semicolon => do
    TokenParser.semicolon
    return .done
  | .mark => return .mark (← TokenParser.mark)
  | .restore place => do
    TokenParser.restore place
    return .done

namespace TokenBuffer

/-- The answer to a request, and the buffer after it.  A failure is an answer too. -/
def serve (b : TokenBuffer) (q : TokenRequest) : TokenReply × TokenBuffer :=
  match q.parser b with
  | .ok reply b' => (reply, b')
  | .error e b' => (.failed e, b')

/-- The answers to requests one after another. -/
def serveAll : TokenBuffer → List TokenRequest → List TokenReply × TokenBuffer
  | b, [] => ([], b)
  | b, q :: qs => ((b.serve q).1 :: ((b.serve q).2.serveAll qs).1, ((b.serve q).2.serveAll qs).2)

end TokenBuffer

/-! ### A reader without a buffer -/

/-- A reader that keeps only the tokens that were consumed and not given back. -/
structure TokenReader where
  /-- The beginning of the source. -/
  source : Cursor
  /-- The tokens consumed and not given back. -/
  taken : List BufferedToken

namespace TokenReader

/-- The reader at the beginning of a source. -/
def ofString (source : String) : TokenReader := ⟨.ofString source, []⟩

/-- The end of the last token that was consumed and not given back. -/
def position (r : TokenReader) : Cursor := endOf r.source r.taken

/-- The token at the position in a mode. -/
def next (r : TokenReader) (mode : LexMode) : Token := (readToken mode r.position).token

/-- The reader behind the next token. -/
def consume (r : TokenReader) (mode : LexMode) : TokenReader :=
  { r with taken := r.taken ++ [.read mode r.position] }

/-- The next tokens, each read where the one before it ends. -/
def lookAhead (r : TokenReader) : Nat → List Token
  | 0 => []
  | n + 1 => r.next .standard :: (r.consume .standard).lookAhead n

/-- The reader with the tokens after a mark given back. -/
def rewind (r : TokenReader) (place : Nat) : TokenReader := { r with taken := r.taken.take place }

/-- The range from the first to the last token consumed since a mark, if there is one. -/
def range? (r : TokenReader) (mark : Nat) : Option Loc :=
  match r.taken.drop mark with
  | [] => none
  | t :: ts => some ⟨t.token.loc.start, ((t :: ts).getLast (List.cons_ne_nil t ts)).token.loc.stop⟩

/-- The answer to a request, and the reader after it. -/
def serve (r : TokenReader) : TokenRequest → TokenReply × TokenReader
  | .peek mode => (.token (r.next mode), r)
  | .consume mode => (.token (r.next mode), r.consume mode)
  | .peekMany count => (.tokens (r.lookAhead count), r)
  | .consumeIf kind mode =>
    if (r.next mode).kind = kind then (.perhaps (some (r.next mode)), r.consume mode)
    else (.perhaps none, r)
  | .expect kind mode =>
    if (r.next mode).kind = kind then (.token (r.next mode), r.consume mode)
    else (.failed ((r.next mode).error (.requiredToken kind)), r.consume mode)
  | .acceptWord word =>
    if (r.next .standard).isWord word then (.flag true, r.consume .standard) else (.flag false, r)
  | .expectWord word =>
    if (r.next .standard).isWord word then (.token (r.next .standard), r.consume .standard)
    else (.failed ((r.next .standard).error (.expected word)), r.consume .standard)
  | .semicolon =>
    let t := r.next .standard
    if t.kind = .punct .semicolon then (.done, r.consume .standard)
    else if t.kind = .punct .rBrace ∨ t.kind = .eof ∨ t.newlineBefore = true then (.done, r)
    else (.failed (t.error (.requiredToken (.punct .semicolon))), r)
  | .mark => (.mark r.taken.length, r)
  | .restore place => (.done, r.rewind place)

/-- The answers to requests one after another. -/
def serveAll : TokenReader → List TokenRequest → List TokenReply × TokenReader
  | r, [] => ([], r)
  | r, q :: qs => ((r.serve q).1 :: ((r.serve q).2.serveAll qs).1, ((r.serve q).2.serveAll qs).2)

/-- A request may go back, but not to a mark beyond the position. -/
def Admits (r : TokenReader) : TokenRequest → Prop
  | .restore place => place ≤ r.taken.length
  | _ => True

/-- Requests one after another, none of which goes to a mark beyond the position. -/
def AdmitsAll : TokenReader → List TokenRequest → Prop
  | _, [] => True
  | r, q :: qs => r.Admits q ∧ (r.serve q).2.AdmitsAll qs

end TokenReader

/-! ### The buffer stands for the reader -/

namespace TokenBuffer

/-- The buffer is coherent, and its consumed tokens are those of the reader. -/
structure Represents (b : TokenBuffer) (r : TokenReader) : Prop where
  coherent : b.Coherent
  source : b.source = r.source
  consumed : b.consumed.toList = r.taken

namespace Represents

variable {b b' : TokenBuffer} {r : TokenReader}

theorem position (h : b.Represents r) : b.position = r.position := by
  rw [position_eq, h.source, h.consumed, TokenReader.position]

theorem upcoming (h : b.Represents r) (mode : LexMode) : b.upcoming mode = r.next mode := by
  rw [TokenBuffer.upcoming, h.position, TokenReader.next]

theorem same (h : b.Represents r) (hc : b.Consumes [] b') : b'.Represents r where
  coherent := hc.coherent
  source := hc.source.trans h.source
  consumed := by rw [hc.consumed, List.append_nil, h.consumed]

theorem step (h : b.Represents r) {mode : LexMode} (hc : b.Consumes [.read mode b.position] b') :
    b'.Represents (r.consume mode) where
  coherent := hc.coherent
  source := hc.source.trans h.source
  consumed := by rw [hc.consumed, h.consumed, h.position, TokenReader.consume]

theorem peek (h : b.Represents r) (mode : LexMode) :
    (b.peek mode).1 = r.next mode ∧ (b.peek mode).2.Represents r := by
  obtain ⟨ht, hc⟩ := peek_eq h.coherent mode
  exact ⟨ht.trans (h.upcoming mode), h.same hc⟩

theorem consume (h : b.Represents r) (mode : LexMode) :
    (b.consume mode).1 = r.next mode ∧ (b.consume mode).2.Represents (r.consume mode) := by
  obtain ⟨ht, hc⟩ := consume_eq h.coherent mode
  exact ⟨ht.trans (h.upcoming mode), h.step hc⟩

/-- Going back to a mark that is not beyond the position. -/
theorem restore (h : b.Represents r) {mark : Nat} (hm : mark ≤ r.taken.length) :
    (b.restore mark).Represents (r.rewind mark) := by
  have hsplit : b.consumed.toList = r.taken.take mark ++ r.taken.drop mark := by
    rw [List.take_append_drop, h.consumed]
  obtain ⟨hs, hc, ha⟩ := back_eq b (r.taken.take mark) (r.taken.drop mark) hsplit
  have hsize : b.mark = r.taken.length := by
    rw [TokenBuffer.mark, ← Array.length_toList, h.consumed]
  have hback : b.restore mark = b.back (r.taken.drop mark).length := by
    rw [TokenBuffer.restore, if_pos (hsize ▸ hm), hsize, List.length_drop]
  rw [hback]
  refine ⟨?_, hs.trans h.source, hc⟩
  -- the tokens given back stand in front of those ahead, so the row of all tokens is the same
  have hcoh := h.coherent
  rw [Coherent, hsplit, List.append_assoc] at hcoh
  rw [Coherent, hs, hc, ha]
  exact hcoh

/-- Looking several tokens ahead consumes them for the time being. -/
theorem consumeMany {γ : Type} (cs : List γ) {b : TokenBuffer} {r : TokenReader}
    (h : b.Represents r) :
    ∃ b' ts, cs.mapM (fun _ => TokenParser.consume) b = .ok (r.lookAhead cs.length) b' ∧
      b'.Represents { r with taken := r.taken ++ ts } := by
  induction cs generalizing b r with
  | nil => exact ⟨b, [], rfl, by simpa using h⟩
  | cons c cs ih =>
    obtain ⟨ht, hb⟩ := h.consume .standard
    obtain ⟨b', ts, hrun, hb'⟩ := ih hb
    refine ⟨b', .read .standard r.position :: ts, ?_, by simpa [TokenReader.consume] using hb'⟩
    have hfirst : TokenParser.consume .standard b =
        .ok (r.next .standard) (b.consume .standard).2 := by
      rw [← ht]
      rfl
    rw [List.mapM_cons]
    simp only [bind, EStateM.bind, hfirst, hrun]
    rfl

theorem mark (h : b.Represents r) : b.mark = r.taken.length := by
  rw [TokenBuffer.mark, ← Array.length_toList, h.consumed]

theorem peekMany (h : b.Represents r) (count : Nat) :
    ∃ b', TokenParser.peekMany count b = .ok (r.lookAhead count) b' ∧ b'.Represents r := by
  obtain ⟨b', ts, hrun, hb'⟩ := consumeMany (List.range count) h
  rw [List.length_range] at hrun
  have hstart : TokenParser.mark b = .ok b.mark b := rfl
  refine ⟨b'.restore b.mark, ?_, ?_⟩
  · simp only [TokenParser.peekMany, bind, EStateM.bind, hstart, hrun]
    rfl
  · -- what was consumed is given back, whatever it was
    have hback := hb'.restore (show r.taken.length ≤ (r.taken ++ ts).length by simp)
    rw [h.mark]
    simpa [TokenReader.rewind] using hback

theorem consumeIf (h : b.Represents r) (c : Token → Bool) (mode : LexMode) :
    ∃ b', TokenParser.consumeIf c mode b =
        .ok (if c (r.next mode) then some (r.next mode) else none) b' ∧
      b'.Represents (if c (r.next mode) then r.consume mode else r) := by
  obtain ⟨hp, hbp⟩ := h.peek mode
  obtain ⟨ht, hbc⟩ := hbp.consume mode
  have hrun : TokenParser.consumeIf c mode b =
      if c (b.peek mode).1 then
        .ok (some ((b.peek mode).2.consume mode).1) ((b.peek mode).2.consume mode).2
      else .ok none (b.peek mode).2 := by
    have hread : TokenParser.peek mode b = .ok (b.peek mode).1 (b.peek mode).2 := rfl
    simp only [TokenParser.consumeIf, bind, EStateM.bind, hread]
    split <;> rfl
  rw [hrun, hp, ht]
  by_cases hc : c (r.next mode) = true
  · exact ⟨_, by rw [if_pos hc, if_pos hc], by rwa [if_pos hc]⟩
  · exact ⟨_, by rw [if_neg hc, if_neg hc], by rwa [if_neg hc]⟩

/-! ### One request -/

/-- A token that has to satisfy a condition is consumed whether it does or not. -/
theorem serve_required (h : b.Represents r) (mode : LexMode) (ok : Token → Bool)
    (fault : Token → SyntaxError) {q : TokenRequest}
    (hq : q.parser = do
      let t ← (do
        let t ← TokenParser.consume mode
        if ok t then return t else throw (fault t))
      return .token t) :
    (b.serve q).1 = (if ok (r.next mode) then .token (r.next mode) else
        .failed (fault (r.next mode))) ∧
      (b.serve q).2.Represents (r.consume mode) := by
  obtain ⟨ht, hb⟩ := h.consume mode
  have hrun : q.parser b = if ok (b.consume mode).1 then
      .ok (.token (b.consume mode).1) (b.consume mode).2
      else .error (fault (b.consume mode).1) (b.consume mode).2 := by
    have hread : TokenParser.consume mode b = .ok (b.consume mode).1 (b.consume mode).2 := rfl
    rw [hq]
    simp only [bind, EStateM.bind, hread]
    cases ok (b.consume mode).1 <;> rfl
  rw [serve, hrun, ht]
  by_cases hok : ok (r.next mode) = true
  · rw [if_pos hok, if_pos hok]
    exact ⟨rfl, hb⟩
  · rw [if_neg hok, if_neg hok]
    exact ⟨rfl, hb⟩

theorem serve_semicolon (h : b.Represents r) :
    (b.serve .semicolon).1 = (r.serve .semicolon).1 ∧
      (b.serve .semicolon).2.Represents (r.serve .semicolon).2 := by
  obtain ⟨hp, hbp⟩ := h.peek .standard
  obtain ⟨-, hbc⟩ := hbp.consume .standard
  have hrun : TokenParser.semicolon b =
      if (b.peek .standard).1.kind == .punct .semicolon then
        .ok () ((b.peek .standard).2.consume .standard).2
      else if (b.peek .standard).1.kind == .punct .rBrace || (b.peek .standard).1.kind == .eof ||
          (b.peek .standard).1.newlineBefore then .ok () (b.peek .standard).2
      else .error ((b.peek .standard).1.error (.requiredToken (.punct .semicolon)))
        (b.peek .standard).2 := by
    have hread : TokenParser.peek .standard b =
      .ok (b.peek .standard).1 (b.peek .standard).2 := rfl
    simp only [TokenParser.semicolon, bind, EStateM.bind, hread]
    split
    · rfl
    · split <;> rfl
  have hq : TokenRequest.semicolon.parser b = (TokenParser.semicolon >>=
    fun _ => pure .done) b := rfl
  simp only [serve, TokenReader.serve, hq, bind, EStateM.bind, hrun, hp, Bool.or_eq_true,
    beq_iff_eq, or_assoc]
  split_ifs
  · exact ⟨rfl, hbc⟩
  · exact ⟨rfl, hbp⟩
  · exact ⟨rfl, hbp⟩

/-- **One request.**  The buffer and the reader it stands for give the same answer, and the buffer
still stands for the reader. -/
theorem serve (h : b.Represents r) {q : TokenRequest} (hq : r.Admits q) :
    (b.serve q).1 = (r.serve q).1 ∧ (b.serve q).2.Represents (r.serve q).2 := by
  cases q with
  | peek mode =>
    obtain ⟨ht, hb⟩ := h.peek mode
    exact ⟨congrArg TokenReply.token ht, hb⟩
  | consume mode =>
    obtain ⟨ht, hb⟩ := h.consume mode
    exact ⟨congrArg TokenReply.token ht, hb⟩
  | peekMany count =>
    obtain ⟨b', hrun, hb'⟩ := h.peekMany count
    simp only [TokenBuffer.serve, TokenRequest.parser, bind, EStateM.bind, hrun]
    exact ⟨rfl, hb'⟩
  | consumeIf kind mode =>
    obtain ⟨b', hrun, hb'⟩ := h.consumeIf (·.kind == kind) mode
    simp only [TokenBuffer.serve, TokenRequest.parser, bind, EStateM.bind, hrun, TokenReader.serve]
    simp only [beq_iff_eq] at hb' ⊢
    split_ifs at hb' ⊢ <;> exact ⟨rfl, hb'⟩
  | expect kind mode =>
    obtain ⟨ht, hb⟩ := h.serve_required mode (·.kind == kind)
      (·.error (.requiredToken kind)) (q := .expect kind mode) rfl
    simp only [TokenReader.serve]
    simp only [beq_iff_eq] at ht
    split_ifs at ht ⊢ <;> exact ⟨ht, hb⟩
  | acceptWord word =>
    obtain ⟨b', hrun, hb'⟩ := h.consumeIf (·.isWord word) .standard
    simp only [TokenBuffer.serve, TokenRequest.parser, TokenParser.acceptWord, bind, EStateM.bind,
      hrun, TokenReader.serve]
    split_ifs at hb' ⊢ <;> exact ⟨rfl, hb'⟩
  | expectWord word =>
    obtain ⟨ht, hb⟩ := h.serve_required .standard (·.isWord word)
      (·.error (.expected word)) (q := .expectWord word) rfl
    simp only [TokenReader.serve]
    split_ifs at ht ⊢ <;> exact ⟨ht, hb⟩
  | semicolon => exact h.serve_semicolon
  | mark => exact ⟨congrArg TokenReply.mark h.mark, h⟩
  | restore place => exact ⟨rfl, h.restore hq⟩

/-! ### Requests one after another -/

/-- **A run of requests.** -/
theorem serveAll {b : TokenBuffer} {r : TokenReader} (h : b.Represents r) (qs : List TokenRequest)
    (hqs : r.AdmitsAll qs) :
    (b.serveAll qs).1 = (r.serveAll qs).1 ∧ (b.serveAll qs).2.Represents (r.serveAll qs).2 := by
  induction qs generalizing b r with
  | nil => exact ⟨rfl, h⟩
  | cons q qs ih =>
    obtain ⟨hreply, hnext⟩ := h.serve hqs.1
    obtain ⟨hreplies, hlast⟩ := ih hnext hqs.2
    exact ⟨congrArg₂ List.cons hreply hreplies, hlast⟩

/-! ### The tokens of a buffer by index -/

theorem token?_eq (h : b.Represents r) {i : Nat} (hi : i < r.taken.length) :
    b.token? i = r.taken[i]? := by
  rw [token?, if_pos (h.mark ▸ hi), ← Array.getElem?_toList, h.consumed]

/-- A token ends where the position after it stands. -/
theorem loc_stop_of_follow {c : Cursor} {ts : List BufferedToken} (h : Follow c ts)
    {t : BufferedToken} (ht : t ∈ ts) : t.token.loc.stop = t.lexeme.stop.offset := by
  induction ts generalizing c with
  | nil => exact nomatch ht
  | cons u us ih =>
    rcases List.mem_cons.mp ht with rfl | ht
    · rw [h.1]
      rfl
    · exact ih h.2 ht

theorem since_eq (h : b.Represents r) {place : Nat} {l : Loc} (hl : r.range? place = some l) :
    b.since place = l := by
  unfold TokenReader.range? at hl
  split at hl
  · exact nomatch hl
  · next t ts hdrop =>
    obtain rfl := Option.some.inj hl
    have hplace : place < r.taken.length := by
      rw [← List.drop_eq_nil_iff.not.trans Nat.not_le, hdrop]
      exact List.cons_ne_nil t ts
    have hfirst : b.token? place = some t := by
      have hget : (r.taken.drop place)[0]? = r.taken[place + 0]? := List.getElem?_drop
      rw [hdrop] at hget
      rw [h.token?_eq hplace]
      exact hget.symm
    have hlast : b.position.offset =
        ((t :: ts).getLast (List.cons_ne_nil t ts)).token.loc.stop := by
      have hsplit : r.taken = r.taken.take place ++ (t :: ts) := by
        rw [← hdrop, List.take_append_drop]
      have hfollow : Follow r.source r.taken := by
        have := ((coherent_iff b).1 h.coherent).1
        rwa [h.source, h.consumed] at this
      have hmem : (t :: ts).getLast (List.cons_ne_nil t ts) ∈ r.taken := by
        rw [hsplit]
        exact List.mem_append_right _ (List.getLast_mem _)
      rw [loc_stop_of_follow hfollow hmem, h.position, TokenReader.position, hsplit, endOf_append,
        endOf_eq_getLast?, List.getLast?_eq_some_getLast (List.cons_ne_nil t ts)]
    rw [since, hfirst, if_pos (h.mark ▸ hplace), hlast]

end Represents

end TokenBuffer

end ImportSeam
