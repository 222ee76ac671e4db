import Directory.FilterText.Parser

/-!
# The operator of a condition

Where a condition is taken apart. `splitCondition_eq_some_iff` says that the scanner splits a text
at the leftmost place where an operator stands, and `exists_splitCondition` that it does so in every
text with an operator in it.
-/

namespace Directory.FilterText

/-- A text is an operator with something before and after it, no operator stands further left, and
none that is longer stands at the same place. -/
structure Split (content attr : List Char) (comparator : Comparator) (value : List Char) :
    Prop where
  eq : content = attr ++ comparator.sign ++ value
  leftmost : ∀ attr' comparator' value', content = attr' ++ Comparator.sign comparator' ++ value' →
    attr.length ≤ attr'.length
  longest : ∀ comparator' value', content = attr ++ Comparator.sign comparator' ++ value' →
    comparator'.sign.length ≤ comparator.sign.length

theorem dropStart?_eq_some_iff {start cs rest : List Char} :
    dropStart? start cs = some rest ↔ cs = start ++ rest := by
  induction start generalizing cs with
  | nil => simp [dropStart?, eq_comm]
  | cons p ps ih =>
      cases cs with
      | nil => simp [dropStart?]
      | cons c cs =>
          by_cases hp : p = c
          · simp [dropStart?, hp, ih]
          · simp [dropStart?, hp, Ne.symm hp]

/-- At most one operator stands at the start of a text. -/
theorem Comparator.atStart?_eq_some_iff {cs rest : List Char} {comparator : Comparator} :
    Comparator.atStart? cs = some (comparator, rest) ↔ cs = comparator.sign ++ rest := by
  constructor
  · intro h
    obtain ⟨found, _, hfound⟩ := List.exists_of_findSome?_eq_some h
    obtain ⟨rest', hrest, heq⟩ := Option.map_eq_some_iff.1 hfound
    cases heq
    exact dropStart?_eq_some_iff.1 hrest
  · rintro rfl
    cases comparator <;> simp [atStart?, all, sign, dropStart?]

/-- The parts of a text that begins with an operator are settled. -/
theorem Comparator.sign_append_inj {c d : Comparator} {v w : List Char}
    (h : c.sign ++ v = d.sign ++ w) : c = d ∧ v = w := by
  have hc := atStart?_eq_some_iff.2 (rfl : c.sign ++ v = c.sign ++ v)
  rw [h, atStart?_eq_some_iff.2 rfl] at hc
  simpa using hc.symm

/-- Every operator is an equals sign, by itself or with a character before it. -/
theorem Comparator.sign_eq (comparator : Comparator) :
    comparator.sign = ['='] ∨ ∃ c, comparator.sign = [c, '='] := by
  cases comparator <;> simp [sign]

/-- A text is split in one way only. -/
theorem Split.unique {content a b v w : List Char} {c d : Comparator}
    (h : Split content a c v) (h' : Split content b d w) : a = b ∧ c = d ∧ v = w := by
  have hlength : a.length = b.length :=
    Nat.le_antisymm (h.leftmost _ _ _ h'.eq) (h'.leftmost _ _ _ h.eq)
  have heq := h.eq.symm.trans h'.eq
  rw [List.append_assoc, List.append_assoc] at heq
  obtain ⟨rfl, hsigns⟩ := List.append_inj heq hlength
  exact ⟨rfl, Comparator.sign_append_inj hsigns⟩

/-- What the scanner finds is the leftmost operator. -/
theorem split_of_splitCondition {content attr value : List Char} {comparator : Comparator}
    (h : splitCondition content = some (attr, comparator, value)) :
    Split content attr comparator value := by
  induction content generalizing attr with
  | nil => cases h
  | cons c cs ih =>
      unfold splitCondition at h
      split at h
      · next found rest hstart =>
        cases h
        have heq := Comparator.atStart?_eq_some_iff.1 hstart
        refine ⟨heq, fun _ _ _ _ => Nat.zero_le _, fun comparator' value' heq' => ?_⟩
        obtain ⟨rfl, -⟩ := Comparator.sign_append_inj (heq.symm.trans heq')
        exact Nat.le_refl _
      · next hstart =>
        obtain ⟨⟨a, d, v⟩, hrest, heq⟩ := Option.map_eq_some_iff.1 h
        cases heq
        have hsplit := ih hrest
        -- no operator stands at the start, so that the leftmost one is that of the rest
        have hnone (comparator' : Comparator) (value' : List Char) :
            c :: cs ≠ comparator'.sign ++ value' := by
          intro heq'
          rw [Comparator.atStart?_eq_some_iff.2 heq'] at hstart
          cases hstart
        refine ⟨by rw [hsplit.eq]; rfl, fun attr' comparator' value' heq' => ?_,
          fun comparator' value' heq' => ?_⟩
        · cases attr' with
          | nil => exact absurd heq' (hnone comparator' value')
          | cons c' attr' =>
              simp only [List.cons_append, List.cons.injEq] at heq'
              simpa using hsplit.leftmost attr' comparator' value' heq'.2
        · simp only [List.cons_append, List.cons.injEq, true_and] at heq'
          exact hsplit.longest comparator' value' heq'

/-- The scanner finds an operator if there is one. -/
theorem exists_splitCondition (attr : List Char) (comparator : Comparator) (value : List Char) :
    ∃ parts, splitCondition (attr ++ comparator.sign ++ value) = some parts := by
  induction attr with
  | nil =>
      rw [List.nil_append]
      have hstart := Comparator.atStart?_eq_some_iff.2
        (rfl : comparator.sign ++ value = comparator.sign ++ value)
      cases hcs : comparator.sign ++ value with
      | nil => cases comparator <;> cases hcs
      | cons c cs =>
          rw [hcs] at hstart
          exact ⟨([], comparator, value), by simp [splitCondition, hstart]⟩
  | cons c attr ih =>
      obtain ⟨⟨a, d, v⟩, hparts⟩ := ih
      simp only [List.cons_append]
      unfold splitCondition
      split
      · exact ⟨_, rfl⟩
      · exact ⟨_, by rw [hparts]; rfl⟩

theorem splitCondition_eq_some_iff {content attr value : List Char} {comparator : Comparator} :
    splitCondition content = some (attr, comparator, value) ↔
      Split content attr comparator value := by
  constructor
  · exact split_of_splitCondition
  · intro h
    obtain ⟨⟨a, d, v⟩, hparts⟩ := exists_splitCondition attr comparator value
    rw [← h.eq] at hparts
    obtain ⟨rfl, rfl, rfl⟩ := h.unique (split_of_splitCondition hparts)
    exact hparts

/-- A condition is read exactly if its text can be split after something that is not blank. -/
theorem parseCondition_eq_ok_iff {content : List Char} {node : Node} :
    parseCondition content = .ok node ↔
      ∃ attr comparator value, Split content attr comparator value ∧ allBlank attr = false ∧
        node = .condition (String.ofList (trim attr)) comparator (String.ofList value) := by
  unfold parseCondition
  cases hsplit : splitCondition content with
  | none =>
      simp only [reduceCtorEq, false_iff, not_exists]
      rintro attr comparator value ⟨h, -⟩
      rw [splitCondition_eq_some_iff.2 h] at hsplit
      cases hsplit
  | some parts =>
      obtain ⟨attr, comparator, value⟩ := parts
      have hfound := splitCondition_eq_some_iff.1 hsplit
      cases hblank : allBlank attr with
      | true =>
          simp only [hblank, if_true, reduceCtorEq, false_iff, not_exists]
          rintro attr' comparator' value' ⟨h, hnot, -⟩
          obtain ⟨rfl, -, -⟩ := hfound.unique h
          cases hblank.symm.trans hnot
      | false =>
          simp only [hblank, Bool.false_eq_true, if_false, Except.ok.injEq]
          constructor
          · rintro rfl
            exact ⟨attr, comparator, value, hfound, hblank, rfl⟩
          · intro hparts
            obtain ⟨attr', comparator', value', h, -, rfl⟩ := hparts
            obtain ⟨rfl, rfl, rfl⟩ := hfound.unique h
            rfl

end Directory.FilterText
