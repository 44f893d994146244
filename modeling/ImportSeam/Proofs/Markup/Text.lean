import ImportSeam.Proofs.Require.Reading

/-!
# Text inside an element

Three modes meet around the text of an element.  The tag before it is read in tag mode, the text in a
mode of its own, in which nothing is skipped, and the closing tag in tag mode again; the statement
that the element is was looked at before, as if it were any other source.  The text is one token,
which runs up to the closing tag, so it is kept as it was written.

Only its first character can do harm.  The sign that ends the opening tag is read in tag mode, where
the longest sign counts, and an equals sign behind it makes it another sign.

## Main definitions

* `IsPlainText` — a text without the characters of tags and braces.
* `taggedText` — an element with a text, as a source.
* `Refuses` — a parser fails, and with what.

## Main results

* `IsPlainText.answers_element` — an element with a text is read.
* `refuses_element` — an element whose text starts with an equals sign is not.
* `IsPlainText.parse_tagged` — which of the sources are read, and as what.
* `equalsText_refused` — a source that is refused.
-/

namespace ImportSeam

open Text TokenParser Rules

variable {α β : Type} {b : TokenBuffer} {cs rest : List Char} {kind : TokenKind} {text : String}

/-! ### Tokens at the border of a tag -/

/-- Outside names and strings, a token is the same inside a tag. -/
theorem LexesTo.tag (h : LexesTo .standard cs kind text rest)
    (hc : ∃ c r, text.toList = c :: r ∧ c ≠ '"' ∧ c ≠ '\'' ∧ c ≠ '\\' ∧ isIdStart c = false) :
    LexesTo .jsxTag cs kind text rest := by
  obtain ⟨c, r, hc, hdouble, hsingle, hback, hname⟩ := hc
  induction h with
  | token hgap hscan =>
    apply LexesTo.token hgap
    rw [← hscan, hc, List.cons_append]
    have hslash : (LexMode.standard == LexMode.operand) = (LexMode.jsxTag == LexMode.operand) := rfl
    simp [scan, Scan.ordinary, hdouble, hsingle, hback, hname, hslash]
  | blank _ ih => exact .blank (ih hc)

/-- A sign inside a tag that what follows does not go on with. -/
theorem reads_tagSign {p : Punctuator} (h : p.Stands rest) :
    Reads .jsxTag (p.chars ++ rest) (.punct p) p.spelling rest := by
  have htag : LexesTo .jsxTag (p.chars ++ rest) (.punct p) p.spelling rest := by
    apply (lexesTo_punct h).tag
    rw [p.toList_spelling]
    cases p <;> exact ⟨_, _, rfl, by decide⟩
  exact htag.reads rfl

/-- The name `a` inside a tag. -/
theorem reads_tagWord (h : ∀ c ∈ rest.head?, isTagNameContinue c = false ∧ c ≠ '\\') :
    Reads .jsxTag ('a' :: rest) .ident "a" rest := by
  have hrun : Scan.nameRun isTagNameContinue ('a' :: rest) = (1, false, true) := by
    rw [Scan.nameRun_cons rest (by decide) (by decide), Scan.nameRun_of_ends h]
  have hscan : scan .jsxTag ('a' :: rest) = ⟨some .ident, 1⟩ := by
    show Scan.word true ('a' :: rest) = _
    simp [Scan.word, hrun]
  have hgap : NoTrivia ('a' :: rest) := noTrivia_of_ne_slash (by decide) (by decide)
  have hl : LexesTo .jsxTag ("a".toList ++ rest) .ident "a" rest := .token hgap hscan
  exact hl.reads rfl

/-- The text could stand between two tags: it is not empty, and no character of it is one that tags
and braces are made of. -/
structure IsPlainText (text : String) : Prop where
  ne_empty : text ≠ ""
  plain : ∀ c ∈ text.toList, c ∉ ['\x7b', '\x7d', '<', '>']

namespace IsPlainText

theorem exists_cons (h : IsPlainText text) : ∃ c cs, text.toList = c :: cs := by
  cases hcs : text.toList with
  | nil =>
    apply absurd _ h.ne_empty
    rw [← String.ofList_toList (s := text), hcs]
  | cons c cs => exact ⟨c, cs, rfl⟩

/-- The end of a tag in front of the text, unless that starts with an equals sign. -/
theorem stands_gt (h : IsPlainText text) (hfirst : text.toList.head? ≠ some '=') :
    Punctuator.gt.Stands text.toList := by
  -- the signs that start with the end of a tag go on with one of two characters
  have hlonger : ∀ q ∈ Punctuator.all, Punctuator.gt.chars.isPrefixOf q.chars = true →
      q.chars[1]? ∈ [none, some '=', some '>'] := by decide
  intro c hc
  refine Punctuator.joins_eq_false (fun q hq hprefix hjoin => ?_) (by simp) (by simp)
  have hmem := hlonger q hq hprefix
  rw [show q.chars[1]? = some c from hjoin] at hmem
  rcases (by simpa using hmem : c = '=' ∨ c = '>') with rfl | rfl
  · exact hfirst hc
  · exact h.plain '>' (List.mem_of_mem_head? hc) (by decide)

/-- The text is a single token between two tags, blanks and all. -/
theorem reads (h : IsPlainText text) (rest : List Char) :
    Reads .jsxText (text.toList ++ '<' :: rest) .jsxText text ('<' :: rest) := by
  obtain ⟨c, cs, hcs⟩ := h.exists_cons
  have hrun : Scan.run (fun c => c != '\x7b' && c != '<') (text.toList ++ '<' :: rest) =
      text.toList.length := by
    apply Scan.run_append
    · intro d hd
      have hplain := h.plain d hd
      simp only [List.mem_cons, List.not_mem_nil, or_false, not_or] at hplain
      simp [hplain]
    · intro d hd
      obtain rfl := Option.some.inj hd
      rfl
  apply reads_verbatim rfl
  show Scan.jsxText _ = _
  have hplain := h.plain c (by rw [hcs]; exact List.mem_cons_self)
  simp only [List.mem_cons, List.not_mem_nil, or_false, not_or] at hplain
  rw [Scan.jsxText, hrun]
  · rw [hcs]
    simp
  all_goals
    rw [hcs]
    simp [hplain]

end IsPlainText

/-- The opening of a closing tag. -/
theorem reads_closeStart (rest : List Char) :
    Reads .jsxText ('<' :: '/' :: rest) .jsxCloseStart "</" rest := by
  show Reads .jsxText ("</".toList ++ rest) .jsxCloseStart "</" rest
  exact reads_verbatim rfl rfl

/-! ### An element with text -/

variable {r : Rules} {ctx : Context} {ends : List TokenKind} {least : Nat}

/-- The tag of the element. -/
def plainTag : JsxTag := .name ⟨none, "a"⟩

/-- The name in a tag ends where neither a colon nor a point follows. -/
theorem answers_tagName (h : b.Before ('a' :: cs))
    (hword : Reads .jsxTag ('a' :: cs) .ident "a" cs) (hl : Reads .jsxTag cs kind text rest)
    (hcolon : kind ≠ .punct .colon) (hdot : kind ≠ .punct .dot) (bound : Nat) :
    Answers (TokenBuffer.Before cs) (· = some plainTag) (tagName bound b) := by
  have hpath : ∀ {c}, c.Before cs → Answers (TokenBuffer.Before cs) (· = []) (tagPath bound c) := by
    intro c hc
    apply Answers.collect_none
    refine (hl.answers_acceptPunct_of_ne hc hdot).bind fun flag d hno hd => ?_
    subst hno
    exact .pure rfl hd
  refine (hword.answers_peekKind h).bind fun k b₁ hk h₁ => ?_
  subst hk
  refine (hword.answers_expect h₁).bind fun first b₂ hfirst h₂ => ?_
  refine (hl.answers_acceptPunct_of_ne h₂ hcolon).bind fun flag b₃ hno h₃ => ?_
  subst hno
  refine (hpath h₃).bind fun path b₄ hpath h₄ => ?_
  subst hpath
  simp only [Bool.false_eq_true, if_false, List.isEmpty_nil, Bool.not_true, hfirst.text_eq]
  exact .pure rfl h₄

/-- A tag that ends has no further attributes. -/
theorem answers_attrs (h : b.Before cs) (hl : Reads .jsxTag cs (.punct .gt) text rest) :
    Answers (TokenBuffer.Before cs) (· = []) (r.attrs ctx b) := by
  apply Answers.collect_none
  refine (hl.answers_peek h).bind fun t c ht hc => ?_
  rw [ht.kind_eq]
  exact .pure rfl hc

/-- Text is the only child in front of a closing tag. -/
theorem IsPlainText.answers_children (ht : IsPlainText text)
    (h : b.Before (text.toList ++ '<' :: '/' :: rest)) (bound : Nat) :
    Answers (TokenBuffer.Before ('<' :: '/' :: rest)) (∃ child, · = [child] ∧ child = .text text)
      (collect bound (r.child? ctx) b) := by
  have htext := ht.reads ('/' :: rest)
  have hclose := reads_closeStart rest
  refine Answers.collect_one (E := TokenBuffer.Before ('<' :: '/' :: rest)) ?_ (fun c hc => ?_) _
  · refine (htext.answers_peek h).bind fun t c ht hc => ?_
    rw [ht.kind_eq]
    refine (htext.answers_skip hc).bind fun _ d _ hd => ?_
    exact .pure ⟨_, rfl, by rw [ht.text_eq]⟩ hd
  · refine (hclose.answers_peek hc).bind fun t d ht hd => ?_
    rw [ht.kind_eq]
    exact .pure rfl hd

/-- **An element with text.** -/
theorem IsPlainText.answers_element (ht : IsPlainText text)
    (hfirst : Punctuator.gt.Stands text.toList) (hrest : Punctuator.gt.Stands rest)
    (h : b.Before ('<' :: 'a' :: '>' :: (text.toList ++ '<' :: '/' :: 'a' :: '>' :: rest))) :
    Answers (TokenBuffer.Before rest) (· = ⟨some plainTag, [], [.text text]⟩)
      (r.element ctx b) := by
  have hopen : LexesTo .standard
      ('<' :: 'a' :: '>' :: (text.toList ++ '<' :: '/' :: 'a' :: '>' :: rest)) (.punct .lt) "<"
      ('a' :: '>' :: (text.toList ++ '<' :: '/' :: 'a' :: '>' :: rest)) :=
    lexesTo_punct (p := .lt) (Punctuator.stands_cons (by decide) _)
  have hword : ∀ cs, Reads .jsxTag ('a' :: '>' :: cs) .ident "a" ('>' :: cs) :=
    fun cs => reads_tagWord (by rintro c ⟨⟩; decide)
  have hstart : Punctuator.gt.Stands (text.toList ++ '<' :: '/' :: 'a' :: '>' :: rest) := by
    obtain ⟨c, cs, hcs⟩ := ht.exists_cons
    rw [hcs] at hfirst ⊢
    exact Punctuator.stands_cons (hfirst c rfl) _
  have hgt := reads_tagSign hstart
  have hend := reads_tagSign hrest
  refine (h.answers_expectPunct hopen rfl).bind fun _ b₁ _ h₁ => ?_
  refine (answers_tagName h₁ (hword _) hgt (by decide) (by decide) _).bind fun tag b₂ htag h₂ => ?_
  subst htag
  refine (answers_attrs h₂ hgt).bind fun attrs b₃ hattrs h₃ => ?_
  subst hattrs
  refine (hgt.answers_acceptPunct_of_ne h₃ (by decide)).bind fun slash b₄ hslash h₄ => ?_
  subst hslash
  refine (hgt.answers_expectPunct h₄ rfl).bind fun _ b₅ _ h₅ => ?_
  refine (ht.answers_children h₅ _).bind fun children b₆ hchildren h₆ => ?_
  obtain ⟨child, rfl, rfl⟩ := hchildren
  refine ((reads_closeStart _).answers_consume h₆).bind fun close b₇ _ h₇ => ?_
  refine (answers_tagName h₇ (hword _) hend (by decide) (by decide) _).bind fun tag b₈ htag h₈ => ?_
  subst htag
  refine (hend.answers_expectPunct h₈ rfl).bind fun _ b₉ _ h₉ => ?_
  exact .pure rfl h₉

/-! ### The element as a statement -/

/-- The source `<a>text</a>;`. -/
def taggedText (text : String) : String := "<a>" ++ text ++ "</a>;"

theorem toList_taggedText (text : String) : (taggedText text).toList =
    '<' :: 'a' :: '>' :: (text.toList ++ '<' :: '/' :: 'a' :: '>' :: [';']) := by
  simp [taggedText]

theorem opens_tag (rest : List Char) :
    Opens ('<' :: 'a' :: rest) (.punct .lt) "<" ('a' :: rest) := by
  have hl : LexesTo .standard ('<' :: 'a' :: rest) (.punct .lt) "<" ('a' :: rest) :=
    lexesTo_punct (p := .lt) (Punctuator.stands_cons (by decide) _)
  exact ⟨hl, hl.operand ⟨'<', [], rfl, by decide⟩⟩

/-- A tag where an operand is expected is read as an element. -/
theorem Rules.primaryExpr_tag {t : Token} (ht : t.kind = .punct .lt) :
    r.primaryExpr ctx ends t = spanning (do
      let elem ← r.element ctx
      return fun loc => .jsx loc elem) := by
  unfold primaryExpr
  rw [ht]

/-- A statement that starts with a tag is an expression. -/
theorem Rules.plainStmt_tag {t next : Token} (ht : t.Matches (.punct .lt) "<") :
    r.plainStmt ctx t next = r.exprStmt ctx := by
  have hasync : t.isWord "async" = false := by simp [Token.isWord, ht.text_eq]
  unfold plainStmt
  rw [startsVarDecl, startsFunc, ht.kind_eq, hasync]
  rfl

/-- The statement is the element with the text. -/
def Stmt.IsTagged (text : String) (s : Stmt) : Prop :=
  ∃ loc exprLoc, s = .expr loc (.jsx exprLoc ⟨some plainTag, [], [.text text]⟩)

/-- The element is a whole expression. -/
theorem IsPlainText.answers_sequence (ht : IsPlainText text)
    (hfirst : Punctuator.gt.Stands text.toList)
    (h : b.Before ('<' :: 'a' :: '>' :: (text.toList ++ '<' :: '/' :: 'a' :: '>' :: ';' :: rest)))
    (n : Nat) :
    Answers (TokenBuffer.Before (';' :: rest))
      (∃ loc, · = .jsx loc ⟨some plainTag, [], [.text text]⟩) ((level n).sequence ctx [] b) := by
  apply answers_level
  intro n
  have hend : Punctuator.gt.Stands (';' :: rest) := Punctuator.stands_cons (by decide) _
  refine ((level n).answers_operandExpr h (opens_tag _) rfl rfl fun t c ht' hc => ?_).bind
    fun e c he hc => answers_stop hc (lexesTo_semicolon rest) (.inr ⟨rfl, rfl⟩) he _
  rw [primaryExpr_tag ht'.kind_eq]
  apply Answers.spanning
  refine (ht.answers_element hfirst hend hc).bind fun elem d helem hd => ?_
  subst helem
  exact .pure (fun loc => ⟨loc, rfl⟩) hd

theorem IsPlainText.answers_stmt (ht : IsPlainText text)
    (hfirst : Punctuator.gt.Stands text.toList)
    (h : b.Before ('<' :: 'a' :: '>' :: (text.toList ++ '<' :: '/' :: 'a' :: '>' :: ';' :: rest))) :
    ∀ n, Answers (TokenBuffer.Before rest) (Stmt.IsTagged text) ((level n).stmt ctx b)
  | 0 => rfl
  | n + 1 => by
    refine (h.answers_peekFirst (opens_tag _).standard).bind fun ts c hts hc => ?_
    obtain ⟨t, next⟩ := ts
    dsimp only
    rw [hts.kind_eq, plainStmt_tag hts]
    apply Answers.spanning
    refine (ht.answers_sequence hfirst hc n).bind fun e d he hd => ?_
    obtain ⟨exprLoc, rfl⟩ := he
    exact (answers_semicolon hd).bind fun _ f _ hf => .pure (fun loc => ⟨loc, exprLoc, rfl⟩) hf

/-! ### Refusals -/

/-- The result is an error with the property, or the bound was used up. -/
def Refuses (V : SyntaxError → Prop) : EStateM.Result SyntaxError TokenBuffer α → Prop
  | .ok _ _ => False
  | .error e _ => e.isExhausted = true ∨ V e

namespace Refuses

variable {V : SyntaxError → Prop} {E : TokenBuffer → Prop} {P : α → Prop} {p : TokenParser α}
  {f : α → TokenParser β}

/-- What a first parser refuses, nothing after it makes good. -/
theorem first (h : Refuses V (p b)) : Refuses V ((p >>= f) b) := by
  cases hp : p b with
  | ok a c =>
    rw [hp] at h
    exact h.elim
  | error e c =>
    rw [hp] at h
    rw [bind_of_error hp]
    exact h

/-- A refusal after a first parser has answered. -/
theorem after (hp : Answers E P (p b)) (hf : ∀ a c, P a → E c → Refuses V (f a c)) :
    Refuses V ((p >>= f) b) := by
  cases hpb : p b with
  | ok a c =>
    rw [hpb] at hp
    rw [bind_of_ok hpb]
    exact hf a c hp.1 hp.2
  | error e c =>
    rw [hpb] at hp
    rw [bind_of_error hpb]
    exact .inl hp

theorem spanning {p : TokenParser (Loc → α)} (h : Refuses V (p b)) :
    Refuses V (TokenParser.spanning p b) :=
  h.first (p := p)

/-- The first item is refused. -/
theorem collect {item? : TokenParser (Option α)} (h : Refuses V (item? b)) :
    ∀ bound, Refuses V (TokenParser.collect bound item? b)
  | 0 => .inl rfl
  | _ + 1 => h.first

end Refuses

/-- The error is about another token than the one that is required. -/
def SyntaxError.Misses (wanted found : TokenKind) (e : SyntaxError) : Prop :=
  e.cause = .requiredToken wanted ∧ e.token = some found

theorem Reads.refuses_expect {mode : LexMode} {wanted : TokenKind}
    (hr : Reads mode cs kind text rest) (h : b.Before cs) (hk : kind ≠ wanted) :
    Refuses (SyntaxError.Misses wanted kind) (expect wanted mode b) := by
  refine .after (hr.answers_consume h) fun t c ht hc => ?_
  rw [if_neg (by simpa [ht.kind_eq] using hk)]
  exact .inr ⟨rfl, congrArg some ht.kind_eq⟩

/-! ### A text that goes on with the end of the tag -/

/-- A longer sign than the end of the tag is no attribute. -/
theorem refuses_attrs (h : b.Before cs) (hl : Reads .jsxTag cs (.punct .gtEq) text rest) :
    Refuses (SyntaxError.Misses .ident (.punct .gtEq)) (r.attrs ctx b) := by
  apply Refuses.collect
  refine .after (hl.answers_peek h) fun t c ht hc => ?_
  rw [ht.kind_eq]
  refine Refuses.first (.after (hl.answers_peekKind hc) fun k d hk hd => ?_)
  subst hk
  exact .first (.first (hl.refuses_expect hd (by decide)))

theorem refuses_element (h : b.Before ('<' :: 'a' :: '>' :: '=' :: cs)) :
    Refuses (SyntaxError.Misses .ident (.punct .gtEq)) (r.element ctx b) := by
  have hword : Reads .jsxTag ('a' :: '>' :: '=' :: cs) .ident "a" ('>' :: '=' :: cs) :=
    reads_tagWord (by rintro c ⟨⟩; decide)
  have hsign : Reads .jsxTag ('>' :: '=' :: cs) (.punct .gtEq) ">=" cs :=
    reads_tagSign (p := .gtEq) fun _ _ => rfl
  refine .after (h.answers_expectPunct (opens_tag _).standard rfl) fun _ b₁ _ h₁ => ?_
  refine .after (answers_tagName h₁ hword hsign (by decide) (by decide) _) fun tag b₂ htag h₂ => ?_
  subst htag
  exact .first (refuses_attrs h₂ hsign)

theorem refuses_sequence (h : b.Before ('<' :: 'a' :: '>' :: '=' :: cs)) :
    ∀ n, Refuses (SyntaxError.Misses .ident (.punct .gtEq)) ((level n).sequence ctx [] b)
  | 0 => .inl rfl
  | n + 1 => by
    apply Refuses.first
    refine .after (h.answers_peek (opens_tag _).operand rfl) fun t c ht hc => ?_
    rw [ht.kind_eq, primaryExpr_tag ht.kind_eq]
    exact .spanning (refuses_element hc).first

theorem refuses_stmt (h : b.Before ('<' :: 'a' :: '>' :: '=' :: cs)) :
    ∀ n, Refuses (SyntaxError.Misses .ident (.punct .gtEq)) ((level n).stmt ctx b)
  | 0 => .inl rfl
  | n + 1 => by
    refine .after (h.answers_peekFirst (opens_tag _).standard) fun ts c hts hc => ?_
    obtain ⟨t, next⟩ := ts
    dsimp only
    rw [hts.kind_eq, plainStmt_tag hts]
    exact .spanning (refuses_sequence hc n).first

/-- A module whose first statement is refused. -/
theorem refuses_program {V : SyntaxError → Prop} (h : b.Before cs)
    (hl : LexesTo .standard cs kind text rest) (hk : kind ≠ .eof)
    (hstmt : ∀ {c}, c.Before cs → ∀ n, Refuses V ((level n).stmt .top c)) (n : Nat) :
    Refuses V ((level n).program b) := by
  apply Refuses.first
  apply Refuses.collect
  refine .after (h.answers_peek hl rfl) fun t c ht hc => ?_
  have hne : ¬ (t.kind == .eof) = true := by simpa [ht.kind_eq] using hk
  rw [if_neg hne, if_neg hne]
  exact (hstmt hc n).first

/-- **A source whose module is refused** is a syntax error. -/
theorem parse_of_refuses {V : SyntaxError → Prop} {source : String}
    (h : ∀ n, Refuses V ((level n).program (.ofString source))) :
    ∃ e, Program.parse source = .error e ∧ V e := by
  obtain ⟨⟨b, -, hparse⟩, -⟩ := parse_total source
  have hrefuses : Refuses V ((grammar source.length).program (.ofString source)) := h _
  rcases hparse with ⟨p, -, hbody⟩ | ⟨e, he, herror, hlocated⟩
  · rw [hbody] at hrefuses
    exact hrefuses.elim
  · rw [herror] at hrefuses
    rcases hrefuses with hexhausted | hv
    · exact absurd (hlocated.1.symm.trans hexhausted) Bool.false_ne_true
    · exact ⟨e, he, hv⟩

/-! ### The element as a module -/

/-- **Text inside an element is taken as it is written**, unless it starts with an equals sign: the
sign would make the end of the tag a longer sign, which is a syntax error. -/
theorem IsPlainText.parse_tagged (ht : IsPlainText text) :
    (text.toList.head? ≠ some '=' → ∃ p loc exprLoc, Program.parse (taggedText text) = .ok p ∧
      p.body = [.expr loc (.jsx exprLoc ⟨some plainTag, [], [.text text]⟩)]) ∧
    (text.toList.head? = some '=' → ∃ e, Program.parse (taggedText text) = .error e ∧
      e.Misses .ident (.punct .gtEq)) := by
  have hbefore : (TokenBuffer.ofString (taggedText text)).Before _ :=
    ⟨TokenBuffer.coherent_ofString _, toList_taggedText text⟩
  constructor
  · intro hfirst
    have hstands := ht.stands_gt hfirst
    obtain ⟨p, hp, s, hbody, loc, exprLoc, rfl⟩ := parse_of_answers (E := fun _ => True)
      (V := fun body => ∃ s, body = [s] ∧ s.IsTagged text) fun n =>
        answers_program hbefore (opens_tag _).standard (by decide)
          (fun hc n => ht.answers_stmt hstands hc n) n
    exact ⟨p, loc, exprLoc, hp, hbody⟩
  · intro hfirst
    obtain ⟨cs, hcs⟩ := List.head?_eq_some_iff.mp hfirst
    rw [hcs] at hbefore
    apply parse_of_refuses
    intro n
    exact refuses_program hbefore (opens_tag _).standard (by decide)
      (fun hc n => refuses_stmt hc n) n

/-- Blanks, quotes and entities are kept; an equals sign is refused in front only. -/
theorem spacedText_tagged :
    (IsPlainText " it's &amp; =\n" ∧ ∃ p loc exprLoc,
      Program.parse (taggedText " it's &amp; =\n") = .ok p ∧
        p.body = [.expr loc (.jsx exprLoc ⟨some plainTag, [], [.text " it's &amp; =\n"]⟩)]) ∧
    IsPlainText "=1" ∧ ∃ e, Program.parse (taggedText "=1") = .error e ∧
      e.Misses .ident (.punct .gtEq) := by
  have hspaced : IsPlainText " it's &amp; =\n" := ⟨by decide, by simp⟩
  have hequals : IsPlainText "=1" := ⟨by decide, by simp⟩
  exact ⟨⟨hspaced, hspaced.parse_tagged.1 (by decide)⟩, hequals,
    hequals.parse_tagged.2 (by decide)⟩

theorem equalsText_refused : IsPlainText "=" ∧
    Program.parse (taggedText "=") =
      .error ⟨.requiredToken .ident, ⟨2, 4⟩, some (.punct .gtEq)⟩ := by
  have herror : (match Program.parse (taggedText "=") with
      | .ok _ => none
      | .error e => some e) =
        some (⟨.requiredToken .ident, ⟨2, 4⟩, some (.punct .gtEq)⟩ : SyntaxError) := by
    decide +kernel
  refine ⟨⟨by decide, by simp⟩, ?_⟩
  cases hparse : Program.parse (taggedText "=") with
  | ok p =>
    rw [hparse] at herror
    cases herror
  | error e =>
    rw [hparse] at herror
    rw [Option.some.inj herror]

end ImportSeam
