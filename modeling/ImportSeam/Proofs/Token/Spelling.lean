import ImportSeam.Token.Scan

/-!
# What a token is read from

Each form of token is read by a function of its own, and gives tokens of a few kinds only; so the
kind tells which function read it, and from which characters.

## Main results

* `Scan.number_kind`, `Scan.word_kind`, … — the kinds that each function gives.
* `Scan.ordinary_template` — a template starts with its quote.
* `Scan.ordinary_cases` — what the first character of a token decides.
* `Scan.ordinary_str` — a string has both its quotes.
* `Scan.template_eq` — the raw text of a template and what ends it.
-/

namespace ImportSeam

namespace Scan

open Text

/-! ### Kinds -/

theorem number_kind (cs : List Char) :
    (number cs).kind = some .num ∨ (number cs).kind = some .bigInt := by
  have hdec : (decimal cs).kind = some .num ∨ (decimal cs).kind = some .bigInt := by
    unfold decimal
    dsimp only
    split <;> simp
  unfold number
  split
  · split
    · simp only [after, radixDigits]
      split <;> simp
    · exact hdec
  · exact hdec

theorem word_kind (inTag : Bool) (cs : List Char) :
    (word inTag cs).kind = none ∨ (word inTag cs).kind = some .ident ∨
      ∃ k, (word inTag cs).kind = some (.keyword k) := by
  unfold word
  split
  · simp
  · split
    · simp
    · split <;> simp

theorem punctuator_kind (cs : List Char) :
    (punctuator cs).kind = none ∨ ∃ p, (punctuator cs).kind = some (.punct p) := by
  unfold punctuator
  split
  · split <;> simp
  · simp
  · simp

theorem string_kind (quote : Char) (r : List Char) :
    (string quote r).kind = none ∨ (string quote r).kind = some .str := by
  unfold string
  dsimp only
  split <;> simp

theorem attributeString_kind (quote : Char) (r : List Char) :
    (attributeString quote r).kind = none ∨ (attributeString quote r).kind = some .str := by
  unfold attributeString
  dsimp only
  split <;> simp

theorem privateName_kind (cs : List Char) :
    (privateName cs).kind = none ∨ (privateName cs).kind = some .privateName := by
  unfold privateName
  split
  · split <;> simp
  · simp

theorem regex_kind (r : List Char) :
    (regex r).kind = none ∨ (regex r).kind = some .regex := by
  unfold regex
  split <;> simp

theorem template_kind (cs : List Char) :
    (template cs).kind = none ∨ (template cs).kind = some .templateChunk ∨
      (template cs).kind = some .templateEnd := by
  fun_induction template cs with
  | case3 c r ih => exact ih
  | case6 c r _ _ _ _ ih => exact ih
  | _ => simp

@[simp] theorem after_kind (n : Nat) (s : Scan) : (s.after n).kind = s.kind := rfl

@[simp] theorem after_length (n : Nat) (s : Scan) : (s.after n).length = n + s.length := rfl

/-- The kinds that have no delimiters around them. -/
def IsBare (kind : TokenKind) : Prop :=
  kind ≠ .eof ∧ kind ≠ .str ∧ kind ≠ .templateChunk ∧ kind ≠ .templateEnd

/-- A quote starts a string, a backquote a template, anything else a token without delimiters. -/
theorem ordinary_cases (mode : LexMode) (c : Char) (r : List Char) :
    ((c = '"' ∨ c = '\'') ∧ (ordinary mode (c :: r) = attributeString c r ∨
      ordinary mode (c :: r) = string c r)) ∨
    (c = '\x60' ∧ ordinary mode (c :: r) = (template r).after 1) ∨
    ∀ kind ∈ (ordinary mode (c :: r)).kind, IsBare kind := by
  unfold ordinary
  dsimp only
  split
  · next hc =>
    refine .inl ⟨by simpa using hc, ?_⟩
    split
    · exact .inl rfl
    · exact .inr rfl
  split
  · next hc => exact .inr (.inl ⟨by simpa using hc, rfl⟩)
  refine .inr (.inr ?_)
  split
  · rcases number_kind (c :: r) with h | h <;> simp [h, IsBare]
  split
  · rcases number_kind (c :: r) with h | h <;> simp [h, IsBare]
  split
  · rcases privateName_kind r with h | h <;> simp [h, IsBare]
  split
  · rcases regex_kind r with h | h <;> simp [h, IsBare]
  split
  · rcases word_kind (mode == .jsxTag) (c :: r) with h | h | ⟨k, h⟩ <;> simp [h, IsBare]
  · rcases punctuator_kind (c :: r) with h | ⟨p, h⟩ <;> simp [h, IsBare]

/-- Outside the tails of templates, template text is read only after a quote. -/
theorem ordinary_template {mode : LexMode} {cs : List Char} {kind : TokenKind}
    (h : (ordinary mode cs).kind = some kind)
    (hk : kind = .templateChunk ∨ kind = .templateEnd) :
    ∃ r, cs = '\x60' :: r ∧ ordinary mode cs = (template r).after 1 := by
  cases cs with
  | nil => rcases hk with rfl | rfl <;> simp [ordinary] at h
  | cons c r =>
    rcases ordinary_cases mode c r with ⟨-, hs | hs⟩ | ⟨rfl, hs⟩ | hbare
    · rw [hs] at h
      rcases attributeString_kind c r with h' | h' <;> rcases hk with rfl | rfl <;> simp [h'] at h
    · rw [hs] at h
      rcases string_kind c r with h' | h' <;> rcases hk with rfl | rfl <;> simp [h'] at h
    · exact ⟨r, rfl, hs⟩
    · rcases hk with rfl | rfl
      · exact absurd rfl (hbare _ h).2.2.1
      · exact absurd rfl (hbare _ h).2.2.2

/-! ### Element text -/

/-- Whether a character can stand in the text of an element. -/
def isTextChar (c : Char) : Bool := c != '{' && c != '<'

theorem drop_run (p : Char → Bool) (cs : List Char) : cs.drop (run p cs) = cs.dropWhile p := by
  induction cs with
  | nil => rfl
  | cons c cs ih => by_cases h : p c <;> simp_all [run]

/-- Text runs up to the next brace or tag. -/
theorem jsxText_eq {cs : List Char} (h : (jsxText cs).kind = some .jsxText) :
    (∃ c r, cs = c :: r ∧ isTextChar c = true) ∧ (jsxText cs).length = run isTextChar cs := by
  unfold jsxText at h ⊢
  split at h
  · simp at h
  · simp at h
  · simp at h
  · simp at h
  · next hnil hbrace _ hlt =>
    refine ⟨?_, rfl⟩
    cases cs with
    | nil => exact absurd rfl hnil
    | cons c cs =>
      refine ⟨c, cs, rfl, ?_⟩
      simp only [isTextChar, Bool.and_eq_true, bne_iff_ne, ne_eq]
      exact ⟨fun h => hbrace cs (by rw [h]), fun h => hlt cs (by rw [h])⟩

/-! ### Strings -/

/-- The rest of a string takes `n` characters, of which the last is the quote. -/
def Quoted (quote : Char) (cs : List Char) (n : Nat) : Prop :=
  ∃ body rest, cs = body ++ quote :: rest ∧ n = body.length + 1

theorem Quoted.append {quote : Char} {cs : List Char} {n : Nat} (h : Quoted quote cs n)
    (before : List Char) : Quoted quote (before ++ cs) (n + before.length) := by
  obtain ⟨body, rest, rfl, rfl⟩ := h
  refine ⟨before ++ body, rest, (List.append_assoc _ _ _).symm, ?_⟩
  rw [List.length_append]
  omega

theorem quoted_stringRest {quote : Char} {cs : List Char} (h : (stringRest quote cs).1 = true) :
    Quoted quote cs (stringRest quote cs).2 := by
  fun_induction stringRest quote cs with
  | case1 => exact nomatch h
  | case2 => exact nomatch h
  | case3 r ok n heq ih =>
    rw [heq] at ih
    exact (ih h).append ['\\', '\r', '\n']
  | case4 c r _ ok n heq ih =>
    rw [heq] at ih
    exact (ih h).append ['\\', c]
  | case5 c r _ _ _ hc =>
    obtain rfl : c = quote := by simpa using hc
    exact ⟨[], r, rfl, rfl⟩
  | case6 => exact nomatch h
  | case7 c r _ _ _ _ _ ok n heq ih =>
    rw [heq] at ih
    exact (ih h).append [c]

theorem quoted_string {quote : Char} {r : List Char} (h : (string quote r).kind = some .str) :
    Quoted quote r ((string quote r).length - 1) := by
  unfold string at h ⊢
  dsimp only at h ⊢
  split at h
  · next hok => exact quoted_stringRest hok
  · exact nomatch h

theorem quoted_attributeString {quote : Char} {r : List Char}
    (h : (attributeString quote r).kind = some .str) :
    Quoted quote r ((attributeString quote r).length - 1) := by
  unfold attributeString at h ⊢
  dsimp only at h ⊢
  split at h
  · next hlt =>
    rw [if_pos hlt]
    have hne : r.dropWhile (· != quote) ≠ [] := by
      rw [← drop_run]
      intro hnil
      rw [List.drop_eq_nil_iff] at hnil
      omega
    obtain ⟨d, rest, hd⟩ := List.exists_cons_of_ne_nil hne
    have hhead := List.head_dropWhile_not (· != quote) hne
    obtain rfl : d = quote := by simpa [hd] using hhead
    refine ⟨r.takeWhile (· != d), rest, ?_, rfl⟩
    rw [← hd, List.takeWhile_append_dropWhile]
  · exact nomatch h

/-- A string takes its two quotes and what stands between them. -/
theorem ordinary_str {mode : LexMode} {cs : List Char} (h : (ordinary mode cs).kind = some .str) :
    ∃ quote r, (quote = '"' ∨ quote = '\'') ∧ cs = quote :: r ∧
      Quoted quote r ((ordinary mode cs).length - 1) := by
  cases cs with
  | nil => exact nomatch h
  | cons c r =>
    rcases ordinary_cases mode c r with ⟨hc, hs | hs⟩ | ⟨-, hs⟩ | hbare
    · rw [hs] at h ⊢
      exact ⟨c, r, hc, rfl, quoted_attributeString h⟩
    · rw [hs] at h ⊢
      exact ⟨c, r, hc, rfl, quoted_string h⟩
    · rw [hs, after_kind] at h
      rcases template_kind r with h' | h' | h' <;> simp [h'] at h
    · exact absurd rfl (hbare _ h).2.1

/-! ### Template text -/

theorem template_escape (c : Char) (r : List Char) :
    template ('\\' :: c :: r) = (template r).after 2 := by
  rw [template]

theorem template_cons {c : Char} {r : List Char} (hb : c ≠ '\\') (hq : c ≠ '\x60')
    (hs : c = '$' → ∀ t, r ≠ '{' :: t) : template (c :: r) = (template r).after 1 := by
  rw [template.eq_def]
  split
  · next h => exact absurd h (List.cons_ne_nil _ _)
  · next h => exact absurd (List.cons.inj h).1 hb
  · next h => exact absurd (List.cons.inj h).1 hb
  · next t h =>
    obtain ⟨rfl, rfl⟩ := List.cons.inj h
    exact absurd rfl (hs rfl t)
  · next h =>
    obtain ⟨rfl, rfl⟩ := List.cons.inj h
    simp [hq]

/-- Raw text of a template: whatever ends it, a quote or the opening of a substitution, is read as
its end. -/
def Raw (raw : List Char) : Prop :=
  ∀ rest, template (raw ++ '\x60' :: rest) = ⟨some .templateEnd, raw.length + 1⟩ ∧
    template (raw ++ '$' :: '{' :: rest) = ⟨some .templateChunk, raw.length + 2⟩

theorem raw_nil : Raw [] := fun _ => ⟨by simp [template], by simp [template]⟩

theorem raw_escape {raw : List Char} (h : Raw raw) (c : Char) : Raw ('\\' :: c :: raw) := by
  intro rest
  obtain ⟨hend, hchunk⟩ := h rest
  simp only [List.cons_append, template_escape, hend, hchunk, after, List.length_cons]
  constructor <;> congr 1 <;> omega

theorem raw_cons {raw : List Char} (h : Raw raw) {c : Char} (hb : c ≠ '\\') (hq : c ≠ '\x60')
    (hs : c = '$' → ∀ t, raw ≠ '{' :: t) : Raw (c :: raw) := by
  have hnext : ∀ d rest, d ≠ '{' → c = '$' → ∀ t, raw ++ d :: rest ≠ '{' :: t := by
    intro d rest hd hc t ht
    cases raw with
    | nil => exact hd (List.cons.inj ht).1
    | cons e raw =>
      obtain ⟨rfl, -⟩ := List.cons.inj ht
      exact hs hc raw rfl
  intro rest
  obtain ⟨hend, hchunk⟩ := h rest
  rw [List.cons_append, List.cons_append, template_cons hb hq (hnext _ _ (by decide)),
    template_cons hb hq (hnext _ _ (by decide)), hend, hchunk]
  simp only [after, List.length_cons]
  constructor <;> congr 1 <;> omega

/-- Template text is raw text and what ends it. -/
theorem template_eq {cs : List Char} {kind : TokenKind} (h : (template cs).kind = some kind) :
    ∃ raw rest, Raw raw ∧
      ((kind = .templateEnd ∧ cs = raw ++ '\x60' :: rest ∧
          (template cs).length = raw.length + 1) ∨
        (kind = .templateChunk ∧ cs = raw ++ '$' :: '{' :: rest ∧
          (template cs).length = raw.length + 2)) := by
  fun_induction template cs with
  | case1 => simp at h
  | case2 => simp at h
  | case3 c r ih =>
    obtain ⟨raw, rest, hraw, hcases⟩ := ih h
    refine ⟨'\\' :: c :: raw, rest, raw_escape hraw c, ?_⟩
    rcases hcases with ⟨hk, rfl, hl⟩ | ⟨hk, rfl, hl⟩
    · exact .inl ⟨hk, rfl, by rw [after_length, hl]; simp only [List.length_cons]; omega⟩
    · exact .inr ⟨hk, rfl, by rw [after_length, hl]; simp only [List.length_cons]; omega⟩
  | case4 r => exact ⟨[], r, raw_nil, .inr ⟨(Option.some.inj h).symm, rfl, rfl⟩⟩
  | case5 c r _ _ _ hc =>
    obtain rfl : c = '\x60' := by simpa using hc
    exact ⟨[], r, raw_nil, .inl ⟨(Option.some.inj h).symm, rfl, rfl⟩⟩
  | case6 c r hlast hesc hsub hq ih =>
    obtain ⟨raw, rest, hraw, hcases⟩ := ih h
    have hb : c ≠ '\\' := by
      rintro rfl
      cases r with
      | nil => exact hlast rfl rfl
      | cons d t => exact hesc d t rfl rfl
    have hraw' : ∀ us, r = raw ++ us → Raw (c :: raw) := by
      rintro us rfl
      refine raw_cons hraw hb (by simpa using hq) fun hc t ht => ?_
      exact hsub (t ++ us) hc (by rw [ht]; rfl)
    rcases hcases with ⟨hk, hr, hl⟩ | ⟨hk, hr, hl⟩
    · refine ⟨c :: raw, rest, hraw' _ hr, .inl ⟨hk, by rw [hr]; rfl, ?_⟩⟩
      rw [after_length, hl, List.length_cons]
      omega
    · refine ⟨c :: raw, rest, hraw' _ hr, .inr ⟨hk, by rw [hr]; rfl, ?_⟩⟩
      rw [after_length, hl, List.length_cons]
      omega

end Scan

end ImportSeam
