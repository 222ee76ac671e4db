import Directory.FilterText.Groups
import Directory.Proofs.Text.Trim

/-!
# Balanced texts

When a text closes exactly the groups that it opens, in terms of how often each parenthesis occurs
in it and in its prefixes. `takeGroup_eq_some_iff` says that the scanner for a group, which counts
how deep it is, takes the balanced content of the group and nothing else.
-/

namespace Directory.FilterText

/-- A text without parentheses. -/
def NoParens (cs : List Char) : Prop :=
  ∀ c ∈ cs, isParen c = false

/-- No prefix of the text closes more than `depth` groups that it has not opened, and the whole
text closes exactly so many. -/
structure Closes (depth : Nat) (cs : List Char) : Prop where
  bounded : ∀ start, start <+: cs → start.count ')' ≤ start.count '(' + depth
  settled : cs.count ')' = cs.count '(' + depth

/-- No prefix of the text has more closing than opening parentheses, and the whole text has as many
of the one as of the other. -/
abbrev Balanced (cs : List Char) : Prop :=
  Closes 0 cs

theorem isParen_eq_false_iff {c : Char} : isParen c = false ↔ c ≠ '(' ∧ c ≠ ')' := by
  simp [isParen]

theorem isParen_of_isBlank {c : Char} (h : isBlank c = true) : isParen c = false := by
  rw [isParen_eq_false_iff]
  constructor <;> rintro rfl <;> exact absurd h (by decide)

/-- Blanks are no parentheses. -/
theorem noParens_of_allBlank {cs : List Char} (h : allBlank cs = true) : NoParens cs :=
  fun c hc => isParen_of_isBlank (allBlank_iff.1 h c hc)

theorem noParens_append_iff {as bs : List Char} :
    NoParens (as ++ bs) ↔ NoParens as ∧ NoParens bs := by
  simp only [NoParens, List.mem_append, or_imp, forall_and]

/-! ## One character at a time -/

theorem closes_nil_iff {depth : Nat} : Closes depth [] ↔ depth = 0 := by
  constructor
  · intro h
    simpa using h.settled.symm
  · rintro rfl
    exact ⟨fun start hstart => by simp [List.prefix_nil.1 hstart], rfl⟩

/-- It is enough to look at the prefixes that have the first character. -/
theorem closes_cons_iff_forall {depth : Nat} {c : Char} {cs : List Char} :
    Closes depth (c :: cs) ↔
      (∀ start, start <+: cs → (c :: start).count ')' ≤ (c :: start).count '(' + depth) ∧
        (c :: cs).count ')' = (c :: cs).count '(' + depth := by
  constructor
  · exact fun h => ⟨fun start hstart => h.bounded _ (by simpa using hstart), h.settled⟩
  · intro hparts
    obtain ⟨hbounded, hsettled⟩ := hparts
    refine ⟨fun start hstart => ?_, hsettled⟩
    rcases List.prefix_cons_iff.1 hstart with rfl | ⟨tail, rfl, htail⟩
    · simp
    · exact hbounded tail htail

/-- An opening parenthesis leaves one more to be closed. -/
theorem closes_open_iff {depth : Nat} {cs : List Char} :
    Closes depth ('(' :: cs) ↔ Closes (depth + 1) cs := by
  rw [closes_cons_iff_forall]
  simp only [List.count_cons_self, List.count_cons_of_ne (show '(' ≠ ')' by decide)]
  constructor
  · intro hparts
    obtain ⟨hbounded, hsettled⟩ := hparts
    exact ⟨fun start hstart => by have := hbounded start hstart; omega, by omega⟩
  · intro h
    have hsettled := h.settled
    exact ⟨fun start hstart => by have := h.bounded start hstart; omega, by omega⟩

/-- A closing parenthesis uses up one of those that are still to come. -/
theorem closes_close_iff {depth : Nat} {cs : List Char} :
    Closes depth (')' :: cs) ↔ ∃ d, depth = d + 1 ∧ Closes d cs := by
  rw [closes_cons_iff_forall]
  simp only [List.count_cons_self, List.count_cons_of_ne (show ')' ≠ '(' by decide)]
  constructor
  · intro hparts
    obtain ⟨hbounded, hsettled⟩ := hparts
    have hnil := hbounded [] List.nil_prefix
    simp only [List.count_nil] at hnil
    refine ⟨depth - 1, by omega, fun start hstart => ?_, by omega⟩
    have := hbounded start hstart
    omega
  · intro hparts
    obtain ⟨d, rfl, h⟩ := hparts
    have hsettled := h.settled
    exact ⟨fun start hstart => by have := h.bounded start hstart; omega, by omega⟩

/-- Any other character changes nothing. -/
theorem closes_cons_iff {depth : Nat} {c : Char} {cs : List Char} (hc : isParen c = false) :
    Closes depth (c :: cs) ↔ Closes depth cs := by
  obtain ⟨hopen, hclose⟩ := isParen_eq_false_iff.1 hc
  rw [closes_cons_iff_forall]
  simp only [List.count_cons_of_ne hopen, List.count_cons_of_ne hclose]
  exact ⟨fun h => ⟨h.1, h.2⟩, fun h => ⟨h.bounded, h.settled⟩⟩

/-- Only the parentheses of a text count. -/
theorem closes_filter_iff {depth : Nat} {cs : List Char} :
    Closes depth (cs.filter isParen) ↔ Closes depth cs := by
  induction cs generalizing depth with
  | nil => rfl
  | cons c cs ih =>
      cases hc : isParen c with
      | false => rw [List.filter_cons_of_neg (by simp [hc]), closes_cons_iff hc, ih]
      | true =>
          rw [List.filter_cons_of_pos hc]
          obtain rfl | rfl : c = '(' ∨ c = ')' := by simpa [isParen] using hc
          · rw [closes_open_iff, closes_open_iff, ih]
          · simp only [closes_close_iff, ih]

/-! ## Texts put together -/

/-- After a text that closes `taken` groups, the rest has that many fewer to close. -/
theorem closes_append_iff {depth taken : Nat} {cs rest : List Char} (h : Closes taken cs) :
    Closes (depth + taken) (cs ++ rest) ↔ Closes depth rest := by
  -- `taken` follows the parentheses of `cs`, and `depth` is what is left for the rest
  induction cs generalizing taken with
  | nil => rw [closes_nil_iff.1 h, List.nil_append, Nat.add_zero]
  | cons c cs ih =>
      rw [List.cons_append]
      cases hc : isParen c with
      | false => rw [closes_cons_iff hc, ih ((closes_cons_iff hc).1 h)]
      | true =>
          obtain rfl | rfl : c = '(' ∨ c = ')' := by simpa [isParen] using hc
          · rw [closes_open_iff, Nat.add_assoc, ih (closes_open_iff.1 h)]
          · obtain ⟨d, rfl, hd⟩ := closes_close_iff.1 h
            rw [closes_close_iff, ← ih hd]
            constructor
            · intro hparts
              obtain ⟨e, he, hclose⟩ := hparts
              rwa [show depth + d = e by omega]
            · exact fun hclose => ⟨depth + d, rfl, hclose⟩

/-- A balanced text at the start does not matter. -/
theorem Balanced.closes_append_iff {depth : Nat} {cs rest : List Char} (h : Balanced cs) :
    Closes depth (cs ++ rest) ↔ Closes depth rest :=
  FilterText.closes_append_iff h

/-- Two texts with the same parentheses are balanced together. -/
theorem closes_congr {depth : Nat} {cs ds : List Char} (h : cs.filter isParen = ds.filter isParen) :
    Closes depth cs ↔ Closes depth ds := by
  rw [← closes_filter_iff, h, closes_filter_iff]

theorem NoParens.filter_eq_nil {cs : List Char} (h : NoParens cs) : cs.filter isParen = [] := by
  rw [List.filter_eq_nil_iff]
  intro c hc
  simp [h c hc]

/-- A text without parentheses is balanced. -/
theorem NoParens.balanced {cs : List Char} (h : NoParens cs) : Balanced cs := by
  rw [Balanced, ← closes_filter_iff, h.filter_eq_nil, closes_nil_iff]

/-- A group around a balanced text does not matter. -/
theorem Balanced.closes_group_iff {depth : Nat} {content rest : List Char} (h : Balanced content) :
    Closes depth ('(' :: content ++ ')' :: rest) ↔ Closes depth rest := by
  rw [List.cons_append, closes_open_iff, h.closes_append_iff, closes_close_iff]
  constructor
  · intro hparts
    obtain ⟨d, hd, hclose⟩ := hparts
    rwa [show depth = d by omega]
  · exact fun hclose => ⟨depth, rfl, hclose⟩

/-- Trimming keeps the parentheses. -/
theorem filter_isParen_trim (cs : List Char) :
    (trim cs).filter isParen = cs.filter isParen := by
  obtain ⟨before, after, hbefore, hafter, heq⟩ := exists_trim cs
  conv_rhs => rw [heq]
  simp [(noParens_of_allBlank hbefore).filter_eq_nil, (noParens_of_allBlank hafter).filter_eq_nil]

theorem balanced_trim_iff {cs : List Char} : Balanced (trim cs) ↔ Balanced cs :=
  closes_congr (filter_isParen_trim cs)

/-! ## Taking a group -/

/-- A group that was taken closes what is open at its start. -/
theorem closes_of_takeGroup {depth : Nat} {cs group rest : List Char}
    (h : takeGroup depth cs = some (group, rest)) : Closes depth group := by
  -- the scanner counts the same depth as `Closes`, one character at a time
  induction cs generalizing depth group with
  | nil => simp [takeGroup] at h
  | cons c cs ih =>
      unfold takeGroup at h
      split at h
      · next hopen =>
        obtain ⟨⟨g, r⟩, hg, heq⟩ := Option.map_eq_some_iff.1 h
        cases heq
        rw [hopen, closes_open_iff]
        exact ih hg
      · next hopen =>
        split at h
        · next hclose =>
          split at h
          · cases h
            exact closes_nil_iff.2 rfl
          · obtain ⟨⟨g, r⟩, hg, heq⟩ := Option.map_eq_some_iff.1 h
            cases heq
            rw [hclose, closes_close_iff]
            exact ⟨_, rfl, ih hg⟩
        · next hclose =>
          obtain ⟨⟨g, r⟩, hg, heq⟩ := Option.map_eq_some_iff.1 h
          cases heq
          rw [closes_cons_iff (isParen_eq_false_iff.2 ⟨hopen, hclose⟩)]
          exact ih hg

/-- Whatever closes the open groups is taken, up to the next closing parenthesis. -/
theorem Closes.takeGroup_eq {depth : Nat} {group : List Char} (rest : List Char)
    (h : Closes depth group) : takeGroup depth (group ++ ')' :: rest) = some (group, rest) := by
  induction group generalizing depth with
  | nil =>
      obtain rfl := closes_nil_iff.1 h
      simp [takeGroup]
  | cons c cs ih =>
      cases hc : isParen c with
      | false =>
          obtain ⟨hopen, hclose⟩ := isParen_eq_false_iff.1 hc
          simp [takeGroup, hopen, hclose, ih ((closes_cons_iff hc).1 h)]
      | true =>
          obtain rfl | rfl : c = '(' ∨ c = ')' := by simpa [isParen] using hc
          · simp [takeGroup, ih (closes_open_iff.1 h)]
          · obtain ⟨d, rfl, hd⟩ := closes_close_iff.1 h
            simp [takeGroup, ih hd]

/-- The scanner takes the text that closes the open groups but one, which the parenthesis after it
closes. -/
theorem takeGroup_eq_some_iff {depth : Nat} {cs group rest : List Char} :
    takeGroup depth cs = some (group, rest) ↔ Closes depth group ∧ cs = group ++ ')' :: rest := by
  constructor
  · exact fun h => ⟨closes_of_takeGroup h, FilterText.takeGroup_eq h⟩
  · intro hparts
    obtain ⟨h, rfl⟩ := hparts
    exact h.takeGroup_eq rest

/-- In a text that closes one more group than `depth`, there is a group to take. -/
theorem Closes.exists_takeGroup {depth : Nat} {cs : List Char} (h : Closes (depth + 1) cs) :
    ∃ group rest, takeGroup depth cs = some (group, rest) := by
  induction cs generalizing depth with
  | nil => exact absurd (closes_nil_iff.1 h) (Nat.succ_ne_zero depth)
  | cons c cs ih =>
      cases hc : isParen c with
      | false =>
          obtain ⟨hopen, hclose⟩ := isParen_eq_false_iff.1 hc
          obtain ⟨group, rest, heq⟩ := ih ((closes_cons_iff hc).1 h)
          exact ⟨c :: group, rest, by simp [takeGroup, hopen, hclose, heq]⟩
      | true =>
          obtain rfl | rfl : c = '(' ∨ c = ')' := by simpa [isParen] using hc
          · obtain ⟨group, rest, heq⟩ := ih (closes_open_iff.1 h)
            exact ⟨'(' :: group, rest, by simp [takeGroup, heq]⟩
          · obtain ⟨d, hd, hclose⟩ := closes_close_iff.1 h
            obtain rfl : depth = d := by omega
            cases depth with
            | zero => exact ⟨[], cs, by simp [takeGroup]⟩
            | succ depth =>
                obtain ⟨group, rest, heq⟩ := ih hclose
                exact ⟨')' :: group, rest, by simp [takeGroup, heq]⟩

end Directory.FilterText
