import Directory.Proofs.FilterText.Sealed
import Directory.Proofs.Query.Program

/-!
# Escaped values and plain names

What is escaped is sealed: it holds no parenthesis and no asterisk. A plain name needs no escapes,
so an attribute with such a name stands in a filter as it is.
-/

namespace Directory

open FilterText

/-- A text without parentheses and asterisks. -/
def IsSealedText (cs : List Char) : Prop :=
  ∀ c ∈ cs, c ≠ '(' ∧ c ≠ ')' ∧ c ≠ '*'

theorem isReserved_eq_false_iff {c : Char} :
    isReserved c = false ↔ c ≠ '\\' ∧ c ≠ '*' ∧ c ≠ '(' ∧ c ≠ ')' ∧ c ≠ '\x00' := by
  simp [isReserved, and_assoc]

/-! ## Escapes -/

theorem isSealedText_hexDigits (width n : Nat) : IsSealedText (hexDigits width n) := by
  have hdigit : ∀ m < 16, hexDigit m ≠ '(' ∧ hexDigit m ≠ ')' ∧ hexDigit m ≠ '*' := by decide
  induction width generalizing n with
  | zero => simp [hexDigits, IsSealedText]
  | succ width ih =>
      intro c hc
      rw [hexDigits, List.mem_append, List.mem_singleton] at hc
      rcases hc with hc | rfl
      · exact ih _ c hc
      · exact hdigit _ (Nat.mod_lt _ (by decide))

theorem isSealedText_escapeCode (n : Nat) : IsSealedText (escapeCode n) := by
  intro c hc
  rcases List.mem_cons.1 hc with rfl | hc
  · decide
  · exact isSealedText_hexDigits 2 n c hc

theorem isSealedText_escapeChars (cs : List Char) : IsSealedText (escapeChars cs) := by
  intro c hc
  obtain ⟨d, -, hc⟩ := List.mem_flatMap.1 hc
  split at hc
  next => exact isSealedText_escapeCode _ c hc
  next hplain =>
    rw [List.mem_singleton] at hc
    rw [Bool.not_eq_true, isReserved_eq_false_iff] at hplain
    rw [hc]
    exact ⟨hplain.2.2.1, hplain.2.2.2.1, hplain.2.1⟩

theorem isSealedText_escapeBytes (bs : List UInt8) : IsSealedText (escapeBytes bs) := by
  intro c hc
  obtain ⟨b, -, hc⟩ := List.mem_flatMap.1 hc
  exact isSealedText_escapeCode _ c hc

/-- Whatever is escaped is sealed. -/
theorem isSealedText_escape {value : Value} {text : String} (h : escape value = .ok text) :
    IsSealedText text.toList := by
  unfold escape at h
  split at h
  next =>
    cases h
    rw [String.toList_ofList]
    exact isSealedText_escapeBytes _
  next =>
    cases hvalue : value.text with
    | error failure =>
        rw [hvalue] at h
        cases h
    | ok s =>
        rw [hvalue] at h
        cases h
        rw [String.toList_ofList]
        exact isSealedText_escapeChars _

/-- A text with nothing to escape in it stays as it is. -/
theorem escapeChars_eq_self {cs : List Char} (h : ∀ c ∈ cs, isReserved c = false) :
    escapeChars cs = cs := by
  induction cs with
  | nil => rfl
  | cons c cs ih =>
      obtain ⟨hc, hcs⟩ := List.forall_mem_cons.1 h
      have hrest := ih hcs
      unfold escapeChars at hrest ⊢
      rw [List.flatMap_cons, hrest, hc]
      rfl

/-! ## Plain names -/

/-- A name that is told from everything around it in a filter and has nothing to escape in it. -/
structure IsPlainName (name : String) : Prop where
  isAttribute : IsAttribute name.toList
  unreserved : ∀ c ∈ name.toList, isReserved c = false

/-- A letter, a digit, a hyphen, a semicolon or a dot. Every character outside of ASCII that is not
blank counts as a letter. -/
def isNameChar (c : Char) : Bool :=
  if c.toNat < 128 then c.isAlphanum || c == '-' || c == ';' || c == '.' else !isBlank c

/-- The characters that have a meaning in a filter string. -/
def specialChars : List Char :=
  ['(', ')', '=', '&', '|', '!', '>', '<', '~', '\\', '*', '\x00']

theorem isBlank_of_isNameChar {c : Char} (h : isNameChar c = true) : isBlank c = false := by
  have hascii : ∀ n < 128, isNameChar (Char.ofNat n) = true → isBlank (Char.ofNat n) = false := by
    decide +kernel
  by_cases hn : c.toNat < 128
  · have hc := hascii c.toNat hn
    rw [Char.ofNat_toNat] at hc
    exact hc h
  · rw [isNameChar, if_neg hn] at h
    simpa using h

theorem ne_of_isNameChar {c d : Char} (h : isNameChar c = true) (hd : d ∈ specialChars) :
    c ≠ d := by
  have hspecial : specialChars.all (!isNameChar ·) = true := by decide
  rintro rfl
  simpa [h] using List.all_eq_true.1 hspecial c hd

/-- Letters, digits, hyphens, semicolons and dots make a plain name. -/
theorem isPlainName_of_isNameChar {name : String} (hne : name ≠ "")
    (h : ∀ c ∈ name.toList, isNameChar c = true) : IsPlainName name := by
  have hspecial (c : Char) (hc : c ∈ name.toList) (d : Char) (hd : d ∈ specialChars) : c ≠ d :=
    ne_of_isNameChar (h c hc) hd
  have hblank (c : Char) (hc : c ∈ name.toList) : isBlank c = false :=
    isBlank_of_isNameChar (h c hc)
  refine ⟨⟨by simpa using hne, fun c hc => ?_, ⟨fun c hc => ?_, fun c hc => ?_⟩, fun c hc => ?_,
    fun c hc => ?_⟩, fun c hc => ?_⟩
  · exact ⟨hspecial c hc _ (by decide), hspecial c hc _ (by decide), hspecial c hc _ (by decide)⟩
  · exact hblank c (List.mem_of_mem_head? hc)
  · exact hblank c (List.mem_of_getLast? hc)
  · have hmem := List.mem_of_mem_head? hc
    exact ⟨hspecial c hmem _ (by decide), hspecial c hmem _ (by decide),
      hspecial c hmem _ (by decide)⟩
  · have hmem := List.mem_of_getLast? hc
    exact ⟨hspecial c hmem _ (by decide), hspecial c hmem _ (by decide),
      hspecial c hmem _ (by decide)⟩
  · rw [isReserved_eq_false_iff]
    exact ⟨hspecial c hc _ (by decide), hspecial c hc _ (by decide), hspecial c hc _ (by decide),
      hspecial c hc _ (by decide), hspecial c hc _ (by decide)⟩

/-- The value is a plain name. -/
def Value.IsPlainName (attr : Value) : Prop :=
  ∃ name, attr = .str name ∧ Directory.IsPlainName name

namespace Value

theorem isPlainName_str (name : String) (hne : name ≠ "")
    (h : name.toList.all isNameChar = true) : (str name).IsPlainName :=
  ⟨name, rfl, isPlainName_of_isNameChar hne (List.all_eq_true.1 h)⟩

theorem IsPlainName.exists_escaped {attr : Value} (h : attr.IsPlainName) :
    ∃ name, attr.escaped = .str name ∧ IsAttribute name.toList := by
  obtain ⟨name, rfl, hname⟩ := h
  refine ⟨name, ?_, hname.isAttribute⟩
  have hescape : escape (.str name) = .ok name := by
    have htext : (Value.str name).text = .ok name := by
      unfold text
      rfl
    have hself := escapeChars_eq_self hname.unreserved
    simp [escape, htext, hself, bind, Except.bind, pure, Except.pure]
  rw [escaped, hescape]

/-- A value that is escaped is sealed as it stands in a filter. -/
theorem IsOperand.exists_text_operand {value : Value} (h : value.IsOperand false) :
    ∃ text, (value.operand false).text = .ok text ∧ IsSealedText text.toList := by
  by_cases hnull : value = .null
  · rw [hnull]
    refine ⟨"None", ?_, by simp [IsSealedText]⟩
    unfold operand Value.text Value.shown
    rfl
  · have hoperand : value.operand false = value.escaped := by
      cases value <;> first | rfl | exact absurd rfl hnull
    obtain ⟨text, hescape, hescaped⟩ := (h rfl).exists_escape
    refine ⟨text, ?_, isSealedText_escape hescape⟩
    rw [hoperand, hescaped]
    unfold Value.text
    rfl

end Value

end Directory
