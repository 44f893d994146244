import ImportSeam.Layout.Print
import ImportSeam.Proofs.Token.Trivia
import ImportSeam.Proofs.Totality.Statements
import ImportSeam.Tree.Part

/-!
# Comments in printed source

Printing a module writes what it would write without comments, and the comments between.  When the
text is read again, a comment is skipped whole.  What it can leave behind is the end of a line, if it
stands on a line of its own or has a line terminator inside; and one that was never closed takes the
rest of the text with it.

## Main definitions

* `Written` — a piece of printed source.
* `Written.From` — a comment goes to a place of a layout.
* `Layout.Writes` — a row of pieces is what a layout writes.
* `Comment.Finished`, `Comment.Open` — a comment that ends by itself, and one that is never closed.

## Main results

* `skipTrivia_inlined` — a line comment in the middle of a line is one closed comment.
* `Program.print_written` — printed source is the source without comments, with the comments between.
* `skipTrivia_written` — what is left of comments when they are read again.
* `readToken_written` — a token behind comments.
* `Program.finished_or_open_of_parse` — a comment of a source ends by itself or is never closed.
* `printed_comments` — comments are only inserted.
-/

namespace ImportSeam

open Text

/-! ### Writing comments -/

/-- A piece of printed source. -/
inductive Written where
  /-- What is written without comments as well. -/
  | own (s : String)
  /-- A comment in the middle of a line. -/
  | inline (c : Comment)
  /-- A comment on a line of its own, with the indentation of the next one. -/
  | line (c : Comment) (depth : Nat)

namespace Written

/-- The text of the piece. -/
def text : Written → String
  | own s => s
  | inline c => c.inline ++ " "
  | line c depth => c.text ++ Layout.lineBreak depth

/-- The text of a piece that is not a comment. -/
def own? : Written → Option String
  | own s => some s
  | inline _ | line _ _ => none

/-- The comment that the piece is. -/
def comment? : Written → Option Comment
  | own _ => none
  | inline c | line c _ => some c

/-- A comment goes to a place of the layout that lies behind it. -/
def From (l : Layout) : Written → Prop
  | own _ => True
  | inline c => ∃ offset, .inlineComments offset ∈ l ∧ c.startsBefore offset = true
  | line c depth => ∃ offset, .lineComments offset depth ∈ l ∧ c.startsBefore offset = true

theorem From.cons {l : Layout} {w : Written} (h : w.From l) (piece : Piece) :
    w.From (piece :: l) := by
  cases w with
  | own _ => trivial
  | inline _ | line _ _ =>
    obtain ⟨offset, hmem, hbefore⟩ := h
    exact ⟨offset, List.mem_cons_of_mem piece hmem, hbefore⟩

end Written

namespace Layout

/-- The comments that a layout leaves over. -/
def pending : Layout → List Comment → List Comment
  | [], cs => cs
  | .text _ :: l, cs | .newline _ :: l, cs => pending l cs
  | .inlineComments offset :: l, cs | .lineComments offset _ :: l, cs =>
    pending l (cs.dropWhile (·.startsBefore offset))
  | .lastComments :: l, _ => pending l []

/-- A row of pieces is what a layout writes, with some comments left over. -/
structure Writes (l : Layout) (cs : List Comment) (ws : List Written) (rest : List Comment) :
    Prop where
  texts : l.texts cs = ws.map Written.text
  own : ws.filterMap Written.own? = l.texts []
  comments : ws.filterMap Written.comment? ++ rest = cs
  all : .lastComments ∈ l → rest = []

namespace Writes

variable {l : Layout} {cs rest : List Comment} {ws : List Written}

/-- A piece that no comments go before. -/
theorem own_cons {piece : Piece} {s : String} (h : Writes l cs ws rest)
    (htexts : ∀ cs, Layout.texts (piece :: l) cs = s :: l.texts cs) (hpiece : piece ≠ .lastComments) :
    Writes (piece :: l) cs (.own s :: ws) rest where
  texts := by rw [htexts, h.texts, List.map_cons, Written.text]
  own := by rw [htexts, ← h.own, List.filterMap_cons, Written.own?]
  comments := by rw [List.filterMap_cons, Written.comment?, h.comments]
  all hmem := h.all (List.mem_of_ne_of_mem hpiece.symm hmem)

/-- A place where some of the comments go, each written in the same way. -/
theorem comments_append {piece : Piece} {before after : List Comment} (mark : Comment → Written)
    (hown : ∀ c, (mark c).own? = none) (hcomment : ∀ c, (mark c).comment? = some c)
    (hsplit : before ++ after = cs) (h : Writes l after ws rest)
    (htexts : Layout.texts (piece :: l) cs = (before.map mark).map Written.text ++ l.texts after)
    (hnone : Layout.texts (piece :: l) [] = l.texts [])
    (hall : .lastComments ∈ piece :: l → .lastComments ∈ l ∨ after = []) :
    Writes (piece :: l) cs (before.map mark ++ ws) rest where
  texts := by rw [htexts, h.texts, List.map_append]
  own := by
    have hnothing : (before.map mark).filterMap Written.own? = [] := by simp [hown]
    rw [List.filterMap_append, hnothing, hnone, ← h.own, List.nil_append]
  comments := by
    have hbefore : (before.map mark).filterMap Written.comment? = before := by
      rw [List.filterMap_map, show Written.comment? ∘ mark = some from funext hcomment,
        List.filterMap_some]
    rw [List.filterMap_append, hbefore, List.append_assoc, h.comments, hsplit]
  all hmem := by
    obtain hmem | rfl := hall hmem
    · exact h.all hmem
    · exact (List.append_eq_nil_iff.mp h.comments).2

end Writes

/-- **What a layout writes** is what it writes without comments, and the comments between, in their
order. -/
theorem exists_writes (l : Layout) (cs : List Comment) :
    ∃ ws, Writes l cs ws (l.pending cs) ∧ (.lastComments ∉ l → ∀ w ∈ ws, w.From l) := by
  induction l generalizing cs with
  | nil => exact ⟨[], ⟨rfl, rfl, rfl, nofun⟩, nofun⟩
  | cons piece l ih =>
    -- the pieces behind this one, and the comments that go to this one
    have hbehind : ∀ {ws : List Written}, (.lastComments ∉ l → ∀ w ∈ ws, w.From l) →
        .lastComments ∉ piece :: l → ∀ w ∈ ws, w.From (piece :: l) := by
      intro ws h hlast w hw
      exact (h (mt (List.mem_cons_of_mem piece) hlast) w hw).cons piece
    cases piece with
    | text s =>
      obtain ⟨ws, h, hfrom⟩ := ih cs
      refine ⟨_, h.own_cons (fun _ => rfl) nofun, fun hlast => ?_⟩
      exact List.forall_mem_cons.mpr ⟨trivial, hbehind hfrom hlast⟩
    | newline depth =>
      obtain ⟨ws, h, hfrom⟩ := ih cs
      refine ⟨_, h.own_cons (fun _ => rfl) nofun, fun hlast => ?_⟩
      exact List.forall_mem_cons.mpr ⟨trivial, hbehind hfrom hlast⟩
    | inlineComments offset =>
      obtain ⟨ws, h, hfrom⟩ := ih (cs.dropWhile (·.startsBefore offset))
      refine ⟨_, h.comments_append .inline (fun _ => rfl) (fun _ => rfl)
        (List.takeWhile_append_dropWhile (p := (·.startsBefore offset))) ?_ rfl ?_, fun hlast => ?_⟩
      · rw [Layout.texts, List.map_map]
        rfl
      · exact fun hmem => .inl ((List.mem_cons.mp hmem).resolve_left nofun)
      · refine List.forall_mem_append.mpr ⟨?_, hbehind hfrom hlast⟩
        rw [List.forall_mem_map]
        exact fun c hc => ⟨offset, List.mem_cons_self, List.mem_takeWhile_imp hc⟩
    | lineComments offset depth =>
      obtain ⟨ws, h, hfrom⟩ := ih (cs.dropWhile (·.startsBefore offset))
      refine ⟨_, h.comments_append (.line · depth) (fun _ => rfl) (fun _ => rfl)
        (List.takeWhile_append_dropWhile (p := (·.startsBefore offset))) ?_ rfl ?_, fun hlast => ?_⟩
      · rw [Layout.texts, List.map_map]
        rfl
      · exact fun hmem => .inl ((List.mem_cons.mp hmem).resolve_left nofun)
      · refine List.forall_mem_append.mpr ⟨?_, hbehind hfrom hlast⟩
        rw [List.forall_mem_map]
        exact fun c hc => ⟨offset, List.mem_cons_self, List.mem_takeWhile_imp hc⟩
    | lastComments =>
      obtain ⟨ws, h, -⟩ := ih []
      refine ⟨_, h.comments_append (.line · 0) (fun _ => rfl) (fun _ => rfl) (List.append_nil cs) ?_
        rfl fun _ => .inr rfl, fun hlast => absurd List.mem_cons_self hlast⟩
      rw [Layout.texts, List.map_map]
      rfl

end Layout

/-- **Printing a module** writes what it would write without comments, and all comments between, in
their order. -/
theorem Program.print_written (p : Program) :
    ∃ ws : List Written,
      p.print = String.join (ws.map Written.text) ∧
      ws.filterMap Written.comment? = p.comments ∧
      { p with comments := [] }.print = String.join (ws.filterMap Written.own?) := by
  obtain ⟨ws, h, -⟩ := p.layout.exists_writes p.comments
  have hlast : .lastComments ∈ p.layout := List.mem_append_right _ List.mem_cons_self
  refine ⟨ws, ?_, ?_, ?_⟩
  · rw [print, Layout.render, h.texts]
  · rw [← h.comments, h.all hlast, List.append_nil]
  · exact congrArg String.join h.own.symm

/-! ### Reading comments -/

/-- A comment that ends by itself. -/
def Comment.Finished (c : Comment) : Prop :=
  match c.kind with
  | .line => ∃ body, c.text.toList = '/' :: '/' :: body ∧ ∀ d ∈ body, isLineTerminator d = false
  | .block => ∃ body, c.text.toList = '/' :: '*' :: (body ++ ['*', '/']) ∧ Unclosed (body ++ ['*'])

/-- A comment that is never closed. -/
def Comment.Open (c : Comment) : Prop :=
  c.kind = .block ∧ ∃ body, c.text.toList = '/' :: '*' :: body ∧ Unclosed body

theorem IsComment.finished_or_open {c : Comment} {rest : List Char}
    (h : IsComment c.kind c.text.toList rest) : c.Finished ∨ c.Open ∧ rest = [] := by
  obtain ⟨kind, loc, text⟩ := c
  generalize htext : text.toList = cs at h
  cases h with
  | line hbody hrest => exact .inl ⟨_, htext, hbody⟩
  | block hbody => exact .inl ⟨_, htext, hbody⟩
  | «open» hbody => exact .inr ⟨⟨rfl, _, htext, hbody⟩, rfl⟩

theorem skipTrivia_newline (n : Nat) (rest : List Char) :
    skipTrivia ⟨n, '\n' :: rest⟩ = (skipTrivia ⟨n + 1, rest⟩).withNewline true := by
  rw [skipTrivia.eq_def]
  rfl

theorem skipTrivia_blanks (n k : Nat) (rest : List Char) :
    skipTrivia ⟨n, List.replicate k ' ' ++ rest⟩ = skipTrivia ⟨n + k, rest⟩ := by
  induction k generalizing n with
  | zero => rfl
  | succ k ih =>
    rw [List.replicate_succ, List.cons_append, skipTrivia.eq_def]
    change skipTrivia ⟨n + 1, List.replicate k ' ' ++ rest⟩ = _
    rw [ih, Nat.add_assoc, Nat.add_comm 1]

theorem skipTrivia_lineBreak (n depth : Nat) (rest : List Char) :
    skipTrivia ⟨n, (Layout.lineBreak depth).toList ++ rest⟩ =
      (skipTrivia ⟨n + byteLength (Layout.lineBreak depth).toList, rest⟩).withNewline true := by
  have hblanks : ∀ k, byteLength (List.replicate k ' ') = k := by
    intro k
    induction k with
    | zero => rfl
    | succ k ih =>
      rw [List.replicate_succ]
      change 1 + byteLength (List.replicate k ' ') = _
      rw [ih, Nat.add_comm]
  have htext : (Layout.lineBreak depth).toList = '\n' :: List.replicate (2 * depth) ' ' := by
    simp [Layout.lineBreak]
  have hlength : byteLength ('\n' :: List.replicate (2 * depth) ' ') = 1 + 2 * depth := by
    change 1 + byteLength (List.replicate (2 * depth) ' ') = _
    rw [hblanks]
  rw [htext, hlength, List.cons_append, skipTrivia_newline, skipTrivia_blanks, Nat.add_assoc]

/-- A line comment that is written as a block comment does not close before its end. -/
theorem unclosed_defuse (cs : List Char) : Unclosed (defuse cs ++ ['*']) := by
  fun_induction defuse cs with
  | case1 cs ih =>
    have hslash : Unclosed ('/' :: (defuse cs ++ ['*'])) := unclosed_cons ih nofun
    exact unclosed_cons (unclosed_cons hslash nofun) nofun
  | case2 c cs hc ih =>
    refine unclosed_cons ih fun r heq => ?_
    -- the slash would be the next character of the comment
    obtain ⟨rfl, hrest⟩ := List.cons.inj heq
    fun_cases defuse cs with
    | case1 cs => exact absurd (List.cons.inj hrest).1 (by decide)
    | case2 d ds hd =>
      have hdefuse : defuse (d :: ds) = d :: defuse ds := by
        rw [defuse]
        exact hd
      rw [hdefuse] at hrest
      obtain ⟨rfl, -⟩ := List.cons.inj hrest
      exact hc ds rfl rfl
    | case3 => exact absurd (List.cons.inj hrest).1 (by decide)
  | case3 => decide

theorem mem_defuse {cs : List Char} {d : Char} (h : d ∈ defuse cs) : d ∈ cs ∨ d = ' ' := by
  fun_induction defuse cs with
  | case1 cs ih =>
    simp only [List.mem_cons] at h ⊢
    obtain h | h | h | h := h
    · exact .inl (.inl h)
    · exact .inr h
    · exact .inl (.inr (.inl h))
    · exact (ih h).imp_left fun h => .inr (.inr h)
  | case2 c cs hc ih =>
    obtain rfl | h := List.mem_cons.mp h
    · exact .inl List.mem_cons_self
    · exact (ih h).imp_left (List.mem_cons_of_mem _)
  | case3 => exact nomatch h

namespace Comment.Finished

variable {c : Comment} {rest : List Char}

/-- In the middle of a line every comment is a closed one. -/
theorem isComment_inline (h : c.Finished) (rest : List Char) :
    IsComment .block c.inline.toList rest := by
  obtain ⟨kind, loc, text⟩ := c
  cases kind with
  | line =>
    obtain ⟨body, htext, -⟩ := h
    simp only [Comment.inline, htext, lineCommentBody, String.toList_append, String.toList_ofList]
    exact .block (unclosed_defuse body)
  | block =>
    obtain ⟨body, htext, hbody⟩ := h
    rw [Comment.inline, htext]
    exact .block hbody

theorem any_inline (h : c.Finished) :
    c.inline.toList.any isLineTerminator = (c.kind == .block && c.text.toList.any isLineTerminator) := by
  obtain ⟨kind, loc, text⟩ := c
  cases kind with
  | line =>
    obtain ⟨body, htext, hbody⟩ := h
    have hdefused : (defuse body).any isLineTerminator = false := by
      refine List.any_eq_false.mpr fun d hd => ?_
      obtain hd | rfl := mem_defuse hd
      · simp [hbody d hd]
      · decide
    simp only [Comment.inline, htext, lineCommentBody, String.toList_append, String.toList_ofList,
      List.any_append, hdefused]
    rfl
  | block => rfl

/-- A comment before the end of a line. -/
theorem isComment (h : c.Finished) (hrest : ∀ d ∈ rest.head?, isLineTerminator d = true) :
    IsComment c.kind c.text.toList rest := by
  obtain ⟨kind, loc, text⟩ := c
  cases kind with
  | line =>
    obtain ⟨body, htext, hbody⟩ := h
    rw [htext]
    exact .line hbody hrest
  | block =>
    obtain ⟨body, htext, hbody⟩ := h
    rw [htext]
    exact .block hbody

/-- A comment in the middle of a line is skipped whole, with the blank behind it. -/
theorem skipTrivia_inline (h : c.Finished) (n : Nat) (rest : List Char) :
    skipTrivia ⟨n, (c.inline ++ " ").toList ++ rest⟩ =
      ((skipTrivia ⟨n + byteLength (c.inline ++ " ").toList, rest⟩).withNewline
        (c.kind == .block && c.text.toList.any isLineTerminator)).withComment
        ⟨.block, ⟨n, n + byteLength c.inline.toList⟩, c.inline⟩ := by
  have hlength : byteLength (c.inline ++ " ").toList = byteLength c.inline.toList + 1 := by
    rw [String.toList_append, byteLength_append]
    rfl
  have hblank : ∀ m, skipTrivia ⟨m, " ".toList ++ rest⟩ = skipTrivia ⟨m + 1, rest⟩ :=
    fun m => skipTrivia_blanks m 1 rest
  rw [hlength, String.toList_append, List.append_assoc,
    skipTrivia_of_isComment (h.isComment_inline _), h.any_inline, hblank, String.ofList_toList,
    Nat.add_assoc]
  rfl

end Comment.Finished

/-- **A line comment in the middle of a line** is written as one closed comment.  Whatever characters it
has, and whatever text follows, the comment that is read again is what was written, without a line
terminator, and the text behind it is read as if it stood there alone. -/
theorem skipTrivia_inlined {body : List Char} (hbody : ∀ d ∈ body, isLineTerminator d = false)
    {loc : Loc} {offset : Nat} (hloc : loc.start < offset) (n : Nat) (rest : List Char) :
    let c : Comment := ⟨.line, loc, String.ofList ('/' :: '/' :: body)⟩
    let written := Layout.render [.inlineComments offset] [c]
    written = c.inline ++ " " ∧
      (∀ d ∈ c.inline.toList, isLineTerminator d = false) ∧
      skipTrivia ⟨n, written.toList ++ rest⟩ =
        (skipTrivia ⟨n + byteLength written.toList, rest⟩).withComment
          ⟨.block, ⟨n, n + byteLength c.inline.toList⟩, c.inline⟩ := by
  intro c written
  have hwritten : written = c.inline ++ " " := by
    have hbefore : c.startsBefore offset = true := decide_eq_true hloc
    simp [written, Layout.render, Layout.texts, hbefore, String.join]
  have hfinished : c.Finished := ⟨body, String.toList_ofList, hbody⟩
  refine ⟨hwritten, ?_, ?_⟩
  · have hnone : c.inline.toList.any isLineTerminator = false := hfinished.any_inline
    simpa using hnone
  · rw [hwritten, hfinished.skipTrivia_inline]
    rfl

/-- A comment whose characters open and close comments in front of a word. -/
theorem closingBody_inlined :
    let body := "*/a*/*//**".toList
    let c : Comment := ⟨.line, ⟨0, 12⟩, String.ofList ('/' :: '/' :: body)⟩
    let written := Layout.render [.inlineComments 13] [c]
    (∀ d ∈ body, isLineTerminator d = false) ∧ c.loc.start < 13 ∧
      (written = c.inline ++ " " ∧
        (∀ d ∈ c.inline.toList, isLineTerminator d = false) ∧
        skipTrivia ⟨0, written.toList ++ ['b']⟩ =
          (skipTrivia ⟨0 + byteLength written.toList, ['b']⟩).withComment
            ⟨.block, ⟨0, 0 + byteLength c.inline.toList⟩, c.inline⟩) ∧
      c.inline = "/** /a* /* //***/" := by
  intro body c written
  have hplain : body.all (fun d => isLineTerminator d == false) = true := by decide
  have hbody : ∀ d ∈ body, isLineTerminator d = false := by
    intro d hd
    exact eq_of_beq (List.all_eq_true.mp hplain d hd)
  have hloc : c.loc.start < 13 := by decide
  exact ⟨hbody, hloc, skipTrivia_inlined hbody hloc 0 ['b'], by decide +kernel⟩

namespace Written

/-- Whether a comment leaves behind the end of a line. -/
def endsLine : Written → Bool
  | own _ => false
  | inline c => c.kind == .block && c.text.toList.any isLineTerminator
  | line _ _ => true

/-- The text of a comment when it is read again. -/
def reread? : Written → Option String
  | own _ => none
  | inline c => some c.inline
  | line c _ => some c.text

/-- A comment is skipped whole, with what is written behind it. -/
theorem skipTrivia_text {w : Written} {c : Comment} (hw : w.comment? = some c) (hc : c.Finished)
    (n : Nat) (rest : List Char) :
    ∃ x : Comment, w.reread? = some x.text ∧
      skipTrivia ⟨n, w.text.toList ++ rest⟩ =
        ((skipTrivia ⟨n + byteLength w.text.toList, rest⟩).withNewline w.endsLine).withComment x := by
  cases w with
  | own s => exact nomatch hw
  | inline c' =>
    obtain rfl := Option.some.inj hw
    exact ⟨⟨.block, ⟨n, n + byteLength c'.inline.toList⟩, c'.inline⟩, rfl, hc.skipTrivia_inline n rest⟩
  | line c' depth =>
    obtain rfl := Option.some.inj hw
    refine ⟨⟨c'.kind, ⟨n, n + byteLength c'.text.toList⟩, String.ofList c'.text.toList⟩,
      congrArg some String.ofList_toList.symm, ?_⟩
    have hbreak : ∀ d ∈ ((Layout.lineBreak depth).toList ++ rest).head?,
        isLineTerminator d = true := by
      intro d hd
      rw [Layout.lineBreak, String.toList_append] at hd
      obtain rfl := Option.some.inj hd
      decide
    rw [text, String.toList_append, List.append_assoc, skipTrivia_of_isComment (hc.isComment hbreak),
      skipTrivia_lineBreak, byteLength_append, ← Nat.add_assoc]
    simp [Trivia.withNewline, endsLine]

end Written

/-- **Comments that are read again** are skipped whole: the text goes on where it would go on without
them, the comments are remembered, and a line has ended if one of them leaves behind its end. -/
theorem skipTrivia_written {ws : List Written}
    (h : ∀ w ∈ ws, ∃ c, w.comment? = some c ∧ c.Finished) (n : Nat) (rest : List Char) :
    let after := skipTrivia ⟨n + byteLength (ws.flatMap (·.text.toList)), rest⟩
    let all := skipTrivia ⟨n, ws.flatMap (·.text.toList) ++ rest⟩
    all.stop = after.stop ∧
      all.newline = (ws.any Written.endsLine || after.newline) ∧
      all.comments.map (·.text) =
        ws.filterMap Written.reread? ++ after.comments.map (·.text) := by
  induction ws generalizing n with
  | nil => exact ⟨rfl, rfl, rfl⟩
  | cons w ws ih =>
    obtain ⟨c, hw, hc⟩ := h w List.mem_cons_self
    obtain ⟨x, hx, hskip⟩ := w.skipTrivia_text hw hc n (ws.flatMap (·.text.toList) ++ rest)
    obtain ⟨hstop, hnewline, hcomments⟩ :=
      ih (fun w hw => h w (List.mem_cons_of_mem _ hw)) (n + byteLength w.text.toList)
    dsimp only
    rw [List.flatMap_cons, List.append_assoc, hskip, byteLength_append, ← Nat.add_assoc]
    refine ⟨hstop, ?_, ?_⟩
    · rw [List.any_cons, Bool.or_assoc, ← hnewline]
      rfl
    · rw [List.filterMap_cons, hx, List.cons_append, ← hcomments]
      rfl

/-- **A token behind comments** is the one that is read without them, but for whether a line ended
before it. -/
theorem readToken_written {ws : List Written}
    (h : ∀ w ∈ ws, ∃ c, w.comment? = some c ∧ c.Finished) {mode : LexMode}
    (hmode : mode.skipsTrivia = true) (n : Nat) (rest : List Char) :
    let after := readToken mode ⟨n + byteLength (ws.flatMap (·.text.toList)), rest⟩
    let all := readToken mode ⟨n, ws.flatMap (·.text.toList) ++ rest⟩
    all.token =
        { after.token with newlineBefore := ws.any Written.endsLine || after.token.newlineBefore } ∧
      all.stop = after.stop := by
  obtain ⟨hstop, hnewline, -⟩ := skipTrivia_written h n rest
  simp only [readToken, LexMode.trivia, hmode, if_true, hstop, hnewline, and_self]

/-! ### The comments of a source -/

/-- A comment in a gap ends by itself or is never closed. -/
theorem finished_or_open_of_stand {n : Nat} {gaps : List Gap} {rest : List Char}
    (h : GapsStand n gaps rest) {c : Comment} (hc : c ∈ gaps.filterMap Gap.comment?) :
    c.Finished ∨ c.Open := by
  induction gaps generalizing n with
  | nil => exact nomatch hc
  | cons g gs ih =>
    obtain ⟨hstands, hgaps⟩ := h
    rw [List.filterMap_cons] at hc
    cases g with
    | blank d => exact ih hgaps hc
    | comment x =>
      obtain rfl | hc := List.mem_cons.mp hc
      · exact hstands.2.finished_or_open.imp_right And.left
      · exact ih hgaps hc

theorem finished_or_open_of_laid {n : Nat} {row : List SpacedToken} {rest : List Char}
    (h : Laid n row rest) {c : Comment} (hc : c ∈ row.flatMap SpacedToken.comments) :
    c.Finished ∨ c.Open := by
  induction row generalizing n with
  | nil => exact nomatch hc
  | cons s row ih =>
    obtain ⟨hgap, -, -, hrow⟩ := h
    obtain hc | hc := List.mem_append.mp hc
    · exact finished_or_open_of_stand hgap hc
    · exact ih hrow hc

/-- **The comments of a source** end by themselves or are never closed. -/
theorem Program.finished_or_open_of_parse {source : String} {p : Program}
    (h : Program.parse source = .ok p) {c : Comment} (hc : c ∈ p.comments) :
    c.Finished ∨ c.Open := by
  have hout := safe_program source rfl (.refl (TokenBuffer.coherent_ofString source))
  unfold Program.parse at h
  cases hread : (grammar source.length).program (.ofString source) with
  | error e b =>
    rw [hread] at h
    exact nomatch h
  | ok body b =>
    rw [hread] at h hout
    obtain rfl := Except.ok.inj h
    obtain ⟨-, ⟨ts, hts, -⟩, -⟩ := hout
    obtain ⟨hfollow, hahead⟩ := (TokenBuffer.coherent_iff b).1 hts.coherent
    change c ∈ (b.consumed.toList ++ b.ahead).flatMap (·.lexeme.comments) at hc
    rw [List.flatMap_append] at hc
    -- the tokens that were read ahead follow one another as the consumed ones do
    obtain hc | hc := List.mem_append.mp hc
    · obtain ⟨row, -, -, hlaid, hcomments⟩ := follow_laid hfollow
      exact finished_or_open_of_laid hlaid (hcomments ▸ hc)
    · obtain ⟨row, -, -, hlaid, hcomments⟩ := follow_laid hahead
      exact finished_or_open_of_laid hlaid (hcomments ▸ hc)

/-- **Comments are only inserted.**  Printed source with the comments of a source that was read is
what is printed without them, and the comments between, in their order.  Wherever closed comments
stand in a row, the next token is the one that would be read without them, and reading goes on behind
it; only a line may have ended before it. -/
theorem printed_comments {source : String} {p q : Program} (hp : Program.parse source = .ok p)
    (hq : q.comments = p.comments) :
    ∃ ws : List Written,
      q.print = String.join (ws.map Written.text) ∧
      { q with comments := [] }.print = String.join (ws.filterMap Written.own?) ∧
      ws.filterMap Written.comment? = p.comments ∧
      ∀ row, row <:+: ws → (∀ w ∈ row, ∃ c, w.comment? = some c ∧ ¬ c.Open) →
        ∀ mode : LexMode, mode.skipsTrivia = true → ∀ n rest,
          let after := readToken mode ⟨n + byteLength (row.flatMap (·.text.toList)), rest⟩
          let all := readToken mode ⟨n, row.flatMap (·.text.toList) ++ rest⟩
          all.token =
              { after.token with
                newlineBefore := row.any Written.endsLine || after.token.newlineBefore } ∧
            all.stop = after.stop := by
  obtain ⟨ws, hprint, hcomments, hwithout⟩ := q.print_written
  refine ⟨ws, hprint, hwithout, hcomments.trans hq, fun row hrow hclosed mode hmode n rest => ?_⟩
  have hfinished : ∀ w ∈ row, ∃ c, w.comment? = some c ∧ c.Finished := by
    intro w hw
    obtain ⟨c, hc, hnot⟩ := hclosed w hw
    have hmem : c ∈ p.comments := by
      rw [← hq, ← hcomments]
      exact List.mem_filterMap.mpr ⟨w, hrow.subset hw, hc⟩
    exact ⟨c, hc, (Program.finished_or_open_of_parse hp hmem).resolve_right hnot⟩
  exact readToken_written hfinished hmode n rest

/-- A function that returns a value behind a comment of two lines. -/
def splitSource : String := "function f() \x7b return (/* a\n b */ x); \x7d"

/-- The comment brings the end of a line between the value and what returns it. -/
theorem splitSource_splits :
    ∃ p q q', Program.parse splitSource = .ok p ∧ Program.parse p.print = .ok q ∧
      Program.parse { p with comments := [] }.print = .ok q' ∧
      q.parts.length ≠ q'.parts.length := by
  have hsource : (Program.parse splitSource).toOption.any (fun p =>
      (Program.parse p.print).toOption.any fun q =>
        (Program.parse { p with comments := [] }.print).toOption.any fun q' =>
          decide (q.parts.length ≠ q'.parts.length)) = true := by decide +kernel
  obtain ⟨p, hp, hsource⟩ := (Option.any_eq_true _ _).mp hsource
  obtain ⟨q, hq, hsource⟩ := (Option.any_eq_true _ _).mp hsource
  obtain ⟨q', hq', hlength⟩ := (Option.any_eq_true _ _).mp hsource
  exact ⟨p, q, q', Program.parse_of_toOption hp, Program.parse_of_toOption hq, Program.parse_of_toOption hq',
    of_decide_eq_true hlength⟩

end ImportSeam
