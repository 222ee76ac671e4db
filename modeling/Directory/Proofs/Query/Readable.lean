import Directory.Proofs.Query.Skeleton

/-!
# Guarded programs that run through

A value that has no text cannot be escaped, and the clause that is given it fails. So a guarded
program runs through just when it is readable, and then its query is read as one node
(`exists_readsAs_iff`). The values without a text are an integer with too many digits, a blank node,
and what has one of them in it.
-/

namespace Directory

/-! ## Values without a text -/

/-- A number with more digits than a numeral may have is not written. -/
theorem intText?_eq_none {n : Int} (h : Nat.pow 10 maxNumeralDigits ≤ n.natAbs) :
    intText? n = none := by
  -- for any bound, so that the power is not computed
  have hlength {digits : Nat} (hdigits : 0 < digits) (h : Nat.pow 10 digits ≤ n.natAbs) :
      ¬ (Nat.toDigits 10 n.natAbs).length ≤ digits := by
    rw [Nat.length_toDigits_le_iff (by decide) hdigits]
    exact Nat.not_lt.2 h
  exact if_neg (hlength (by decide) h)

namespace Value

theorem text_int_eq_error {n : Int} (h : Nat.pow 10 maxNumeralDigits ≤ n.natAbs) :
    (int n).text = .error Failure.wrongValue := by
  unfold text shown
  rw [intText?_eq_none h]
  rfl

/-- A value without a text is not written into a filter. -/
theorem operandText_eq_error {value : Value} {failure : Failure} (h : value.text = .error failure) :
    value.operandText (.bool false) = .error failure := by
  have hescape : escape value = .error failure := by
    unfold escape
    split
    next =>
      unfold text shown at h
      cases h
    next =>
      rw [h]
      rfl
  have hoperand : value.operandText (.bool false) = str <$> escape value := by
    cases value with
    | null =>
        unfold text shown at h
        cases h
    | _ => rfl
  rw [hoperand, hescape]
  rfl

/-- A plain name stands for one attribute and has a text. -/
theorem IsPlainName.isName {attr : Value} (h : attr.IsPlainName) : attr.IsName := by
  obtain ⟨name, rfl, -⟩ := h
  exact ⟨rfl, isReadable_str name⟩

end Value

/-! ## Actions that give a result -/

namespace Building

variable {α β : Type} {builder after : Builder}

theorem run_bind_eq_ok_iff {action : Building α} {next : α → Building β} {b : β} :
    (action >>= next).run.run builder = (.ok b, after) ↔
      ∃ a between, action.run.run builder = (.ok a, between) ∧
        (next a).run.run between = (.ok b, after) := by
  rw [run_bind]
  rcases action.run.run builder with ⟨failure | a, between⟩
  · constructor
    · intro h
      cases h
    · rintro ⟨a, between, h, -⟩
      cases h
  · constructor
    · exact fun h => ⟨a, between, rfl, h⟩
    · rintro ⟨a, between, heq, h⟩
      cases heq
      exact h

theorem run_onOther_eq_ok_iff {other collected : Builder} {action : Building Unit} :
    (onOther other action).run.run builder = (.ok collected, after) ↔
      action.run.run other = (.ok (), collected) ∧ after = builder := by
  rw [run_onOther]
  rcases action.run.run other with ⟨failure | a, between⟩
  · constructor
    · intro h
      cases h
    · rintro ⟨h, -⟩
      cases h
  · constructor
    · intro h
      cases h
      exact ⟨rfl, rfl⟩
    · rintro ⟨h, rfl⟩
      cases h
      rfl

/-- A criterion whose value has no text fails and changes nothing. -/
theorem run_addCriterion_of_text {value : Value} {failure : Failure}
    (h : value.text = .error failure) (attr token bucket : Value) (builder : Builder) :
    (addCriterion attr (some token) (some value) bucket (.bool false)).run.run builder =
      (.error failure, builder) := by
  unfold addCriterion update
  rw [run_bind, run_get]
  dsimp only
  rw [Builder.criterion_eq, Value.operandText_eq_error h]
  rfl

theorem isOperand_of_addCriterion {attr token value bucket : Value}
    (h : (addCriterion attr (some token) (some value) bucket (.bool false)).run.run builder =
      (.ok (), after)) : value.IsOperand false := by
  intro _
  cases htext : value.text with
  | error failure =>
      rw [run_addCriterion_of_text htext] at h
      cases h
  | ok text => exact ⟨text, htext⟩

end Building

open Building

namespace Value

variable {attr bucket : Value} {builder after : Builder}

theorem isOperand_of_addWhere {token value : Value} (hattr : attr.IsPlainName)
    (h : (attr.addWhere (some token) (some value) bucket (.bool false)).run.run builder =
      (.ok (), after)) : value.IsOperand false := by
  rw [addWhere_of_isSingle hattr.isName.single] at h
  exact isOperand_of_addCriterion h

theorem isOperand_of_addWhereEntries {entries : List (Value × Value)}
    (hattrs : ∀ entry ∈ entries, entry.1.IsPlainName)
    (h : (addWhereEntries entries bucket (.bool false)).run.run builder = (.ok (), after)) :
    ∀ entry ∈ entries, entry.1.IsName ∧ entry.2.IsOperand false := by
  induction entries generalizing builder with
  | nil => simp
  | cons entry entries ih =>
      obtain ⟨attr, value⟩ := entry
      obtain ⟨hattr, hrest⟩ := List.forall_mem_cons.1 hattrs
      rw [addWhereEntries, run_bind_eq_ok_iff] at h
      obtain ⟨_, between, hfirst, hentries⟩ := h
      exact List.forall_mem_cons.2
        ⟨⟨hattr.isName, isOperand_of_addWhere hattr hfirst⟩, ih hrest hentries⟩

theorem isOperand_of_listed {token : Value} (hattr : attr.IsPlainName) {values : List Value}
    (h : (do
      for value in values do
        attr.addWhere (some token) (some value) bucket (.bool false) : Building Unit).run.run
          builder = (.ok (), after)) : ∀ value ∈ values, value.IsOperand false := by
  induction values generalizing builder with
  | nil => simp
  | cons value values ih =>
      rw [List.forIn_cons] at h
      simp only [bind_assoc, pure_bind] at h
      rw [run_bind_eq_ok_iff] at h
      obtain ⟨_, between, hfirst, hvalues⟩ := h
      exact List.forall_mem_cons.2 ⟨isOperand_of_addWhere hattr hfirst, ih hvalues⟩

end Value

/-!
## Programs that run through

By recursion on the program, as for `collects_clauses` but the other way round: what has run through
has added each of its criteria, and its callbacks have run through on nested builders.
-/

/-- A test whose value has no text fails, and nothing is added. -/
theorem FilterClause.run_test_of_text {attr value : Value} {failure : Failure}
    (hattr : attr.IsPlainName) (h : value.text = .error failure) (isAlternative : Bool)
    (op : Operator) (builder : Builder) :
    (FilterClause.where_ isAlternative false (.test attr op value)).clause.run.run.run builder =
      (.error failure, builder) := by
  unfold FilterClause.clause Clause.run Criteria.attr
  rw [Value.addWhere_of_isSingle hattr.isName.single, run_bind]
  simp only [Criteria.operator?, Criteria.value?]
  rw [run_addCriterion_of_text h]

theorem FilterClause.isReadable_of_whereIn {attr : Value} (hattr : attr.IsPlainName)
    {values : List Value} {builder after : Builder} {reply : Reply}
    (h : (Clause.whereIn attr (.list values)).run.run.run builder = (.ok reply, after)) :
    (FilterClause.whereIn attr values).IsReadable := by
  unfold FilterClause.IsReadable
  refine ⟨hattr.isName, ?_⟩
  match values with
  | [] => simp
  | value :: values =>
      unfold Clause.run at h
      simp only [Value.items, Value.items?] at h
      rw [run_bind, run_lift] at h
      dsimp only at h
      rw [run_bind, run_get] at h
      dsimp only at h
      rw [run_bind_eq_ok_iff] at h
      obtain ⟨collected, _, hnested, -⟩ := h
      exact Value.isOperand_of_listed hattr (run_onOther_eq_ok_iff.1 hnested).1

mutual

/-- Guarded criteria that are added are readable. -/
theorem Criteria.isReadable_of_run {bucket : Value} :
    ∀ (criteria : Criteria) {builder after : Builder}, criteria.IsGuarded →
      (criteria.attr.addWhere criteria.operator? criteria.value? bucket (.bool false)).run.run
        builder = (.ok (), after) → criteria.IsReadable false
  | .test attr op value, _, _, hguarded, h => by
    unfold Criteria.IsGuarded at hguarded
    unfold Criteria.IsReadable
    exact ⟨hguarded.isName, Value.isOperand_of_addWhere hguarded h⟩
  | .presence attr isNegated, _, _, hguarded, _ => by
    unfold Criteria.IsGuarded at hguarded
    unfold Criteria.IsReadable
    exact hguarded.isName
  | .equality attr value, _, _, hguarded, _ => by
    unfold Criteria.IsGuarded at hguarded
    exact hguarded.elim
  | .entries entries, _, _, hguarded, h => by
    unfold Criteria.IsGuarded at hguarded
    unfold Criteria.IsReadable
    unfold Criteria.attr Value.addWhere at h
    exact Value.isOperand_of_addWhereEntries hguarded h
  | .rows rows, _, _, hguarded, h => by
    unfold Criteria.IsGuarded at hguarded
    unfold Criteria.IsReadable
    unfold Criteria.attr Value.addWhere at h
    exact Criteria.areReadable_of_run rows hguarded h
  | .nested number program, _, _, hguarded, h => by
    unfold Criteria.IsGuarded at hguarded
    unfold Criteria.IsReadable
    -- the callback has run through on the nested builder
    unfold Criteria.attr Value.addWhere at h
    simp only [run_bind_eq_ok_iff, run_onOther_eq_ok_iff] at h
    obtain ⟨_, _, _, collected, _, ⟨hrun, -⟩, -⟩ := h
    exact FilterClause.areReadable_of_run program hguarded hrun

/-- Guarded argument lists that are added are readable. -/
theorem Criteria.areReadable_of_run {bucket : Value} :
    ∀ (rows : List Criteria) {builder after : Builder}, Criteria.AreGuarded rows →
      (Value.addWhereRows (Criteria.argumentLists rows) bucket (.bool false)).run.run builder =
        (.ok (), after) → Criteria.AreReadable false rows
  | [], _, _, _, _ => by
    unfold Criteria.AreReadable
    trivial
  | criteria :: rows, _, _, hguarded, h => by
    unfold Criteria.AreGuarded at hguarded
    unfold Criteria.AreReadable
    unfold Criteria.argumentLists Value.addWhereRows at h
    rw [Value.addWhereRow_argumentList, run_bind_eq_ok_iff] at h
    obtain ⟨_, between, hfirst, hrows⟩ := h
    exact ⟨criteria.isReadable_of_run hguarded.1 hfirst,
      Criteria.areReadable_of_run rows hguarded.2 hrows⟩

/-- A guarded clause that runs through is readable. -/
theorem FilterClause.isReadable_of_run :
    ∀ (clause : FilterClause) {builder after : Builder} {reply : Reply}, clause.IsGuarded →
      clause.clause.run.run.run builder = (.ok reply, after) → clause.IsReadable
  | .where_ isAlternative isRaw criteria, _, _, _, hguarded, h => by
    unfold FilterClause.IsGuarded at hguarded
    unfold FilterClause.IsReadable
    obtain ⟨rfl, hcriteria⟩ := hguarded
    unfold FilterClause.clause Clause.run at h
    rw [run_bind_eq_ok_iff] at h
    obtain ⟨_, between, hcriterion, -⟩ := h
    exact criteria.isReadable_of_run hcriteria hcriterion
  | .whereIn attr values, _, _, _, hguarded, h => by
    unfold FilterClause.IsGuarded at hguarded
    exact FilterClause.isReadable_of_whereIn hguarded h
  | .whereBetween attr low high, _, _, _, hguarded, h => by
    unfold FilterClause.IsGuarded at hguarded
    unfold FilterClause.IsReadable
    have hpair : (Value.tuple [low, high]).pair = .ok (low, high) := rfl
    unfold FilterClause.clause Clause.run at h
    rw [hpair, run_bind, run_lift] at h
    simp only [run_bind_eq_ok_iff] at h
    obtain ⟨_, between, hlow, _, last, hhigh, -⟩ := h
    exact ⟨hguarded.isName, Value.isOperand_of_addWhere hguarded hlow,
      Value.isOperand_of_addWhere hguarded hhigh⟩
  | .nest nesting number program, _, _, _, hguarded, h => by
    unfold FilterClause.IsGuarded at hguarded
    unfold FilterClause.IsReadable
    unfold FilterClause.clause Clause.run Value.collect at h
    simp only [run_bind_eq_ok_iff, run_onOther_eq_ok_iff] at h
    obtain ⟨collected, _, ⟨_, _, _, hrun, -⟩, -⟩ := h
    exact FilterClause.areReadable_of_run program hguarded hrun
  | .addFilter bucket node, _, _, _, hguarded, _ => by
    unfold FilterClause.IsGuarded at hguarded
    exact hguarded.elim
  | .rawFilter texts, _, _, _, hguarded, _ => by
    unfold FilterClause.IsGuarded at hguarded
    exact hguarded.elim
  | .clear, _, _, _, _, _ => by
    unfold FilterClause.IsReadable
    trivial

/-- A guarded program that runs through is readable. -/
theorem FilterClause.areReadable_of_run :
    ∀ (program : List FilterClause) {builder after : Builder}, FilterClause.AreGuarded program →
      (Clause.runAll (FilterClause.clauses program)).run.run builder = (.ok (), after) →
      FilterClause.AreReadable program
  | [], _, _, _, _ => by
    unfold FilterClause.AreReadable
    trivial
  | clause :: program, _, _, hguarded, h => by
    unfold FilterClause.AreGuarded at hguarded
    unfold FilterClause.AreReadable
    unfold FilterClause.clauses Clause.runAll at h
    rw [run_bind_eq_ok_iff] at h
    obtain ⟨reply, between, hfirst, hprogram⟩ := h
    exact ⟨clause.isReadable_of_run hguarded.1 hfirst,
      FilterClause.areReadable_of_run program hguarded.2 hprogram⟩

end

/-- The values are all that a guarded program can fail for. -/
theorem FilterClause.runs_iff {program : List FilterClause}
    (hguarded : FilterClause.AreGuarded program) (builder : Builder) :
    (∃ after, (Clause.runAll (FilterClause.clauses program)).run.run builder = (.ok (), after)) ↔
      FilterClause.AreReadable program := by
  constructor
  · rintro ⟨after, hrun⟩
    exact FilterClause.areReadable_of_run program hguarded hrun
  · intro hreadable
    exact ⟨_, FilterClause.collects_clauses program hreadable builder⟩

/-- The query of a guarded program is read as one node just when each of its values has a text. -/
theorem exists_readsAs_iff (base isNested : Value) {program : List FilterClause}
    (hguarded : FilterClause.AreGuarded program) :
    (∃ node, ReadsAs base isNested program node) ↔ FilterClause.AreReadable program := by
  constructor
  · rintro ⟨node, builder, text, hrun, -⟩
    exact (FilterClause.runs_iff hguarded _).1 ⟨builder, hrun⟩
  · intro hreadable
    exact exists_readsAs base isNested hreadable hguarded

/-- For the least number with too many digits, and for a list with a blank node in it, a guarded
program fails, and it has no query to read. -/
theorem unwritable_value_fails :
    let program (value : Value) : List FilterClause :=
      [.where_ false false (.test (.str "cn") .equals value)]
    let run (value : Value) :=
      (Clause.runAll (FilterClause.clauses (program value))).run.run (.new (.str "") (.bool false))
    let number : Value := .int (.ofNat (Nat.pow 10 maxNumeralDigits))
    let blank : Value := .list [.filter .blank]
    (FilterClause.AreGuarded (program number) ∧
        run number = (.error Failure.wrongValue, .new (.str "") (.bool false)) ∧
        ¬ ∃ node, ReadsAs (.str "") (.bool false) (program number) node) ∧
      (FilterClause.AreGuarded (program blank) ∧
        run blank = (.error Refusal.blankNode.toFailure, .new (.str "") (.bool false)) ∧
        ¬ ∃ node, ReadsAs (.str "") (.bool false) (program blank) node) := by
  intro program run number blank
  have hcn := Value.isPlainName_str "cn" (by decide) (by decide)
  have hfails {value : Value} {failure : Failure} (htext : value.text = .error failure) :
      FilterClause.AreGuarded (program value) ∧
        run value = (.error failure, .new (.str "") (.bool false)) ∧
        ¬ ∃ node, ReadsAs (.str "") (.bool false) (program value) node := by
    have hguarded : FilterClause.AreGuarded (program value) := by
      simp [program, FilterClause.AreGuarded, FilterClause.IsGuarded, Criteria.IsGuarded, hcn]
    have hrun : run value = (.error failure, .new (.str "") (.bool false)) := by
      simp only [run, program]
      unfold FilterClause.clauses Clause.runAll
      rw [run_bind, FilterClause.run_test_of_text hcn htext]
    refine ⟨hguarded, hrun, ?_⟩
    rintro ⟨node, builder, text, hok, -⟩
    cases hrun.symm.trans hok
  -- for any number, for the same reason as in `intText?_eq_none`
  have hlarge {n : Nat} (hn : Nat.pow 10 maxNumeralDigits = n) :
      (Value.int (.ofNat n)).text = .error Failure.wrongValue :=
    Value.text_int_eq_error (Nat.le_of_eq hn)
  have hblank : (Value.list [.filter .blank]).text = .error Refusal.blankNode.toFailure := by
    unfold Value.text Value.shown Value.shownAll Value.shown Filter.shown
    rfl
  exact ⟨hfails (hlarge rfl), hfails hblank⟩

end Directory
