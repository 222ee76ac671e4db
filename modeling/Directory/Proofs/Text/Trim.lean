import Mathlib.Data.List.DropRight
import Directory.Text.Blank

/-!
# Trimmed texts

What trimming does to a text: it takes blanks off both ends and nothing else, and it stops at a
character that is not blank. `IsTrimmed` says that there is nothing to take off.
-/

namespace Directory

/-- A text that neither begins nor ends with a blank. -/
@[mk_iff]
structure IsTrimmed (cs : List Char) : Prop where
  head : ∀ c ∈ cs.head?, isBlank c = false
  last : ∀ c ∈ cs.getLast?, isBlank c = false

instance (cs : List Char) : Decidable (IsTrimmed cs) :=
  decidable_of_iff (cs.head?.all (!isBlank ·) = true ∧ cs.getLast?.all (!isBlank ·) = true)
    (by simp [isTrimmed_iff, Option.all_eq_true])

theorem allBlank_iff {cs : List Char} : allBlank cs = true ↔ ∀ c ∈ cs, isBlank c = true := by
  simp [allBlank]

theorem trimEnd_eq_rdropWhile (cs : List Char) : trimEnd cs = cs.rdropWhile isBlank :=
  rfl

/-- Trimming takes blanks off both ends, and nothing else. -/
theorem exists_trim (cs : List Char) :
    ∃ before after, allBlank before = true ∧ allBlank after = true ∧
      cs = before ++ trim cs ++ after := by
  refine ⟨cs.takeWhile isBlank, (trimStart cs).rtakeWhile isBlank, ?_, ?_, ?_⟩
  · exact List.all_takeWhile
  · rw [allBlank_iff]
    exact fun c hc => List.mem_rtakeWhile_imp hc
  · have hend := List.rdropWhile_append_rtakeWhile (p := isBlank) (l := trimStart cs)
    rw [List.append_assoc, trim, trimEnd_eq_rdropWhile, hend, trimStart,
      List.takeWhile_append_dropWhile]

/-- A trimmed text is left as it is. -/
theorem IsTrimmed.trim_eq {cs : List Char} (h : IsTrimmed cs) : trim cs = cs := by
  have hstart : trimStart cs = cs := by
    cases cs with
    | nil => rfl
    | cons c cs => simp [trimStart, h.head c rfl]
  rw [trim, hstart, trimEnd_eq_rdropWhile, List.rdropWhile_eq_self_iff]
  intro hne
  simp [h.last _ (List.getLast?_eq_getLast_of_ne_nil hne)]

/-- What is left when blanks are dropped from the end has no blank there. -/
theorem isBlank_getLast?_rdropWhile (cs : List Char) :
    ∀ c ∈ (cs.rdropWhile isBlank).getLast?, isBlank c = false := by
  intro c hc
  have hne : cs.rdropWhile isBlank ≠ [] := by
    intro hnil
    simp [hnil] at hc
  have hlast := List.rdropWhile_last_not isBlank cs hne
  rw [List.getLast?_eq_getLast_of_ne_nil hne, Option.mem_some_iff] at hc
  rw [← hc]
  exact Bool.eq_false_iff.2 hlast

/-- What is left after trimming is trimmed. -/
theorem isTrimmed_trim (cs : List Char) : IsTrimmed (trim cs) where
  head := by
    intro c hc
    obtain ⟨rest, hrest⟩ := List.rdropWhile_prefix isBlank (l := trimStart cs)
    have hstart : c ∈ (trimStart cs).head? := by
      rw [← hrest]
      exact List.mem_head?_append_of_mem_head? hc
    have hnot := List.head?_dropWhile_not isBlank cs
    rw [show cs.dropWhile isBlank = trimStart cs from rfl, hstart] at hnot
    simpa using hnot
  last := isBlank_getLast?_rdropWhile (trimStart cs)

/-- Trimming a second time changes nothing. -/
@[simp] theorem trim_trim (cs : List Char) : trim (trim cs) = trim cs :=
  (isTrimmed_trim cs).trim_eq

/-- Nothing is left of blanks, and of nothing else. -/
theorem trim_eq_nil_iff {cs : List Char} : trim cs = [] ↔ allBlank cs = true := by
  rw [trim, trimEnd_eq_rdropWhile, List.rdropWhile_eq_nil_iff, allBlank_iff]
  constructor
  · intro h c hc
    rw [← List.takeWhile_append_dropWhile (p := isBlank) (l := cs), List.mem_append] at hc
    rcases hc with hc | hc
    · exact List.mem_takeWhile_imp hc
    · exact h c hc
  · exact fun h c hc => h c (List.dropWhile_subset isBlank hc)

/-! ## Blanks at the end -/

theorem trimEnd_append_of_allBlank {blanks : List Char} (cs : List Char)
    (h : allBlank blanks = true) : trimEnd (cs ++ blanks) = trimEnd cs := by
  have hblanks : ∀ c ∈ blanks.reverse, isBlank c = true := by
    intro c hc
    exact allBlank_iff.1 h c (List.mem_reverse.1 hc)
  rw [trimEnd, List.reverse_append, List.dropWhile_append_of_pos hblanks, trimEnd]

/-- Blanks after a trimmed text are taken off, and nothing else. -/
theorem IsTrimmed.trim_append {cs blanks : List Char} (h : IsTrimmed cs) (hne : cs ≠ [])
    (hblanks : allBlank blanks = true) : trim (cs ++ blanks) = cs := by
  obtain ⟨c, rest, rfl⟩ := List.exists_cons_of_ne_nil hne
  have hstart (tail : List Char) : trimStart (c :: tail) = c :: tail := by
    rw [trimStart, List.dropWhile_cons_of_neg]
    simp [h.head c rfl]
  have htrim := h.trim_eq
  rw [trim, hstart] at htrim
  rw [trim, List.cons_append, hstart, ← List.cons_append, trimEnd_append_of_allBlank _ hblanks,
    htrim]

/-- A text is a text without a blank at its end, followed by blanks. -/
theorem exists_eq_append_blanks (cs : List Char) :
    ∃ kept blanks, cs = kept ++ blanks ∧ allBlank blanks = true ∧
      ∀ c ∈ kept.getLast?, isBlank c = false := by
  refine ⟨cs.rdropWhile isBlank, cs.rtakeWhile isBlank,
    (List.rdropWhile_append_rtakeWhile ..).symm, ?_, isBlank_getLast?_rdropWhile cs⟩
  exact allBlank_iff.2 fun c hc => List.mem_rtakeWhile_imp hc

end Directory
