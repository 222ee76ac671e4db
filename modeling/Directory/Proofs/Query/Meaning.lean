import Directory.Proofs.Query.Collecting

/-!
# The meaning of a program of filter clauses

A filter is true or false once it is known of each of its conditions whether it holds. The meaning
of a program is said without filters: a clause adds truth values to the three buckets, and
`Verdicts.holds` combines them. The filter which a builder makes of a readable program has this
meaning, however deep callbacks are nested: `Fragments.Mean` is what every clause keeps.
-/

namespace Directory

/-! ## Truth of filters -/

mutual

/-- The truth of a filter under a truth assignment to what is no combination of filters. -/
def Filter.holds (truth : Filter → Bool) : Filter → Bool
  | .not child => !child.holds truth
  | .group .all children => (Filter.truths truth children).all id
  | .group .any children => (Filter.truths truth children).any id
  | leaf => truth leaf

/-- The truth of filters, one by one. -/
def Filter.truths (truth : Filter → Bool) : List Filter → List Bool
  | [] => []
  | node :: nodes => node.holds truth :: Filter.truths truth nodes

end

/-! ## The meaning of a program -/

/-- Whether the fragments in each bucket are true. -/
structure Verdicts where
  raw : List Bool := []
  all : List Bool := []
  any : List Bool := []

namespace Verdicts

/-- Every raw and every plain fragment is true, and one of the alternatives if there are any. -/
def holds (verdicts : Verdicts) : Bool :=
  verdicts.raw.all id && verdicts.all.all id && (verdicts.any.isEmpty || verdicts.any.any id)

/-- The fragments of all buckets. -/
def every (verdicts : Verdicts) : List Bool :=
  verdicts.raw ++ verdicts.all ++ verdicts.any

/-- Add to one of the buckets. -/
def add (verdicts : Verdicts) (bucket : Bucket) (truths : List Bool) : Verdicts :=
  match bucket with
  | .raw => { verdicts with raw := verdicts.raw ++ truths }
  | .all => { verdicts with all := verdicts.all ++ truths }
  | .any => { verdicts with any := verdicts.any ++ truths }

/-- What a callback says, given what it collected: its meaning, that one of its fragments in any
bucket is true, or that its meaning is false. -/
def combined (verdicts : Verdicts) : Nesting → Bool
  | .all => verdicts.holds
  | .any => verdicts.every.any id
  | .negated => !verdicts.holds

/-- Add what a callback says. A callback that collected nothing says nothing. -/
def addNested (verdicts : Verdicts) (nesting : Nesting) (nested : Verdicts) : Verdicts :=
  if nested.every.isEmpty then verdicts else verdicts.add .all [nested.combined nesting]

end Verdicts

mutual

/-- The truth of criteria, added to a bucket. -/
def Criteria.judge (truth : Filter → Bool) (isAlternative isRaw : Bool) (verdicts : Verdicts) :
    Criteria → Verdicts
  | .test attr op value =>
    verdicts.add (.ofCriteria isAlternative)
      [(op.filter attr.escaped (value.operand isRaw)).holds truth]
  | .presence attr isNegated =>
    verdicts.add (.ofCriteria isAlternative) [truth (.has attr.escaped) ^^ isNegated]
  | .equality attr value =>
    verdicts.add (.ofCriteria isAlternative) [truth (attr.equalTo isRaw value)]
  | .entries entries =>
    verdicts.add (.ofCriteria isAlternative)
      (entries.map fun (attr, value) => truth (attr.equalTo isRaw value))
  | .rows rows => Criteria.judgeAll truth isAlternative isRaw verdicts rows
  | .nested _ program =>
    verdicts.addNested (if isAlternative then .any else .all)
      (FilterClause.judgeAll truth {} program)

/-- The truth of several criteria, added to a bucket. -/
def Criteria.judgeAll (truth : Filter → Bool) (isAlternative isRaw : Bool) (verdicts : Verdicts) :
    List Criteria → Verdicts
  | [] => verdicts
  | criteria :: rows =>
    Criteria.judgeAll truth isAlternative isRaw
      (criteria.judge truth isAlternative isRaw verdicts) rows

/-- What a clause adds: of a list of values one is equal, both bounds of a range are kept, a filter
holds, or what its callback says. -/
def FilterClause.judge (truth : Filter → Bool) (verdicts : Verdicts) : FilterClause → Verdicts
  | .where_ isAlternative isRaw criteria => criteria.judge truth isAlternative isRaw verdicts
  | .whereIn attr values =>
    verdicts.add .all [values.any fun value => truth (attr.equalTo false value)]
  | .whereBetween attr low high =>
    (verdicts.add .all [truth (.condition .atLeast attr.escaped (low.operand false))]).add .all
      [truth (.condition .atMost attr.escaped (high.operand false))]
  | .nest nesting _ program => verdicts.addNested nesting (FilterClause.judgeAll truth {} program)
  | .addFilter bucket node => verdicts.add bucket [node.holds truth]
  | .rawFilter texts => verdicts.add .raw ((Builder.rawFilters texts).map (Filter.holds truth))
  | .clear => {}

/-- What the clauses of a program add, one after the other. -/
def FilterClause.judgeAll (truth : Filter → Bool) (verdicts : Verdicts) :
    List FilterClause → Verdicts
  | [] => verdicts
  | clause :: program => FilterClause.judgeAll truth (clause.judge truth verdicts) program

end

/-! ## Fragments and their truth -/

variable {truth : Filter → Bool}

theorem Filter.truths_eq_map (nodes : List Filter) :
    truths truth nodes = nodes.map (holds truth) := by
  induction nodes with
  | nil => rw [truths, List.map_nil]
  | cons node nodes ih => rw [truths, ih, List.map_cons]

@[simp] theorem Filter.holds_condition (test : Test) (attr value : Value) :
    (Filter.condition test attr value).holds truth = truth (.condition test attr value) := by
  rw [holds] <;> simp

@[simp] theorem Filter.holds_has (attr : Value) :
    (Filter.has attr).holds truth = truth (.has attr) := by
  rw [holds] <;> simp

@[simp] theorem Filter.holds_not (child : Filter) :
    (Filter.not child).holds truth = !child.holds truth := by
  rw [holds]

@[simp] theorem Filter.holds_all (children : List Filter) :
    (Filter.group .all children).holds truth = children.all (holds truth) := by
  rw [holds, truths_eq_map, List.all_map]
  rfl

@[simp] theorem Filter.holds_any (children : List Filter) :
    (Filter.group .any children).holds truth = children.any (holds truth) := by
  rw [holds, truths_eq_map, List.any_map]
  rfl

namespace Fragments

/-- The truth of the fragments in each bucket. -/
def verdicts (truth : Filter → Bool) (fragments : Fragments) : Verdicts where
  raw := fragments.raw.map (Filter.holds truth)
  all := fragments.all.map (Filter.holds truth)
  any := fragments.any.map (Filter.holds truth)

/-- The fragments are nodes with the given truth. -/
structure Mean (truth : Filter → Bool) (fragments : Fragments) (verdicts : Verdicts) : Prop where
  areNodes : fragments.Forall (·.isNode = true)
  truths : fragments.verdicts truth = verdicts

variable {fragments nested : Fragments} {verdicts : Verdicts}

theorem mean_empty : Mean truth {} {} where
  areNodes := forall_empty
  truths := rfl

/-- Fragments that are added bring their truth along. -/
theorem Mean.pushAll (h : fragments.Mean truth verdicts) (bucket : Bucket) {nodes : List Filter}
    (hnodes : ∀ node ∈ nodes, node.isNode = true) :
    (fragments.pushAll bucket nodes).Mean truth
      (verdicts.add bucket (nodes.map (Filter.holds truth))) where
  areNodes := h.areNodes.pushAll bucket hnodes
  truths := by
    rw [← h.truths]
    cases bucket <;>
      simp [Fragments.pushAll, setBucket, Fragments.bucket, Fragments.verdicts, Verdicts.add]

theorem Mean.push (h : fragments.Mean truth verdicts) (bucket : Bucket) {node : Filter}
    (hnode : node.isNode = true) :
    (fragments.push bucket node).Mean truth (verdicts.add bucket [node.holds truth]) :=
  h.pushAll bucket (by simpa using hnode)

/-! ## Combining fragments -/

/-- One of the alternatives holds if there are any. -/
theorem all_alternatives (fragments : Fragments) :
    fragments.alternatives.all (Filter.holds truth) =
      (fragments.any.isEmpty || fragments.any.any (Filter.holds truth)) := by
  unfold alternatives
  match fragments.any with
  | [] => rfl
  | [node] => simp
  | first :: second :: nodes => simp

/-- There is nothing to combine if and only if no bucket has a fragment. -/
theorem combined_eq_none_iff :
    fragments.combined = none ↔ (fragments.verdicts truth).every = [] := by
  have hnone : fragments.combined = none ↔
      fragments.raw ++ fragments.all ++ fragments.alternatives = [] := by
    unfold combined
    split <;> simp_all
  have halternatives : fragments.alternatives = [] ↔ fragments.any = [] := by
    unfold alternatives
    split <;> simp_all
  simp [hnone, halternatives, Verdicts.every, verdicts]

/-- The combined filter says what the buckets say. -/
theorem holds_combined {node : Filter} (h : fragments.combined = some node) :
    node.holds truth = (fragments.verdicts truth).holds := by
  have hall : (fragments.verdicts truth).holds =
      (fragments.raw ++ fragments.all ++ fragments.alternatives).all (Filter.holds truth) := by
    simp [Verdicts.holds, verdicts, all_alternatives, List.all_map, List.any_map, Bool.and_assoc]
  rw [hall]
  unfold combined at h
  split at h
  next => cases h
  next heq =>
    cases h
    simp [heq]
  next =>
    cases h
    rw [Filter.holds_all]

theorem isClosed_isNode : Filter.IsClosed (·.isNode = true) where
  group := fun _ _ _ => rfl
  not := fun _ _ => rfl

/-- Nodes stand for something, so they are not dropped when they are combined. -/
theorem toFilter?_eq_combined (h : fragments.Forall (·.isNode = true)) :
    fragments.toFilter? = fragments.combined := by
  unfold toFilter?
  cases hcombined : fragments.combined with
  | none => rfl
  | some node =>
      have hnode := h.combined isClosed_isNode hcombined
      have hnothing : node.isNothing = false := by
        cases node <;> first | rfl | cases hnode
      rw [Option.filter_some, hnothing]
      rfl

/-- What is combined says what the buckets say, and there is nothing to combine if no bucket has a
fragment. -/
theorem Mean.toFilter? (h : fragments.Mean truth verdicts) :
    (verdicts.every = [] ∧ fragments.toFilter? = none) ∨
      (verdicts.every ≠ [] ∧
        ∃ node, fragments.toFilter? = some node ∧ node.holds truth = verdicts.holds) := by
  rw [toFilter?_eq_combined h.areNodes, ← h.truths]
  cases hcombined : fragments.combined with
  | none => exact .inl ⟨combined_eq_none_iff.1 hcombined, rfl⟩
  | some node =>
      refine .inr ⟨fun hevery => ?_, node, rfl, holds_combined hcombined⟩
      cases hcombined.symm.trans (combined_eq_none_iff.2 hevery)

/-- A callback gives one fragment that says what the callback says, or none if it collected
none. -/
theorem Mean.nestedFilter? (h : nested.Mean truth verdicts) (nesting : Nesting) :
    (verdicts.every = [] ∧ Builder.nestedFilter? nesting { fragments := nested } = none) ∨
      (verdicts.every ≠ [] ∧
        ∃ node, Builder.nestedFilter? nesting { fragments := nested } = some node ∧
          node.holds truth = verdicts.combined nesting) := by
  unfold Builder.nestedFilter?
  cases nesting with
  | all =>
      rcases h.toFilter? with ⟨hevery, hnone⟩ | ⟨hevery, node, hsome, hholds⟩
      · exact .inl ⟨hevery, by simp [hnone]⟩
      · refine .inr ⟨hevery, _, by simp only [hsome]; rfl, ?_⟩
        rw [Verdicts.combined, ← hholds]
        dsimp only
        split <;> simp
  | any =>
      have hlist : (nested.raw ++ nested.all ++ nested.any).map (Filter.holds truth) =
          verdicts.every := by
        rw [← h.truths]
        simp [Verdicts.every, Fragments.verdicts]
      cases hnodes : nested.raw ++ nested.all ++ nested.any with
      | nil => exact .inl ⟨by rw [← hlist, hnodes]; rfl, rfl⟩
      | cons node nodes =>
          refine .inr ⟨by rw [← hlist, hnodes]; simp, _, rfl, ?_⟩
          rw [Filter.holds_any, Verdicts.combined, ← hlist, hnodes, List.any_map]
          rfl
  | negated =>
      rcases h.toFilter? with ⟨hevery, hnone⟩ | ⟨hevery, node, hsome, hholds⟩
      · exact .inl ⟨hevery, by simp [hnone]⟩
      · exact .inr ⟨hevery, _, by simp only [hsome]; rfl, by simp [Verdicts.combined, hholds]⟩

/-- What a callback adds to the fragments says what the callback adds to the truth. -/
theorem Mean.addNested {inner : Verdicts} (h : fragments.Mean truth verdicts)
    (hnested : nested.Mean truth inner) (nesting : Nesting) :
    (fragments.addNested nesting nested).Mean truth (verdicts.addNested nesting inner) := by
  unfold Fragments.addNested Verdicts.addNested
  rcases hnested.nestedFilter? nesting with ⟨hevery, hnone⟩ | ⟨hevery, node, hsome, hholds⟩
  · rw [hnone, hevery]
    simpa using h
  · have hne : inner.every.isEmpty = false := by simpa using hevery
    rw [hsome, hne, ← hholds]
    exact h.push .all (hnested.areNodes.nestedFilter? isClosed_isNode nesting hsome)

theorem holds_oneOf (nodes : List Filter) :
    (oneOf nodes).holds truth = nodes.any (Filter.holds truth) := by
  match nodes with
  | [] => simp [oneOf]
  | [node] => simp [oneOf]
  | first :: second :: nodes => simp [oneOf]

end Fragments

theorem Operator.isNode_filter (op : Operator) (attr value : Value) :
    (op.filter attr value).isNode = true := by
  cases op <;> rfl

@[simp] theorem Value.holds_equalTo (isRaw : Bool) (attr value : Value) :
    (attr.equalTo isRaw value).holds truth = truth (attr.equalTo isRaw value) :=
  Filter.holds_condition ..

/-! ## Programs -/

open Fragments

mutual

/-- Criteria mean what is judged of them. -/
theorem Criteria.mean_collect {isRaw : Bool} (isAlternative : Bool) {fragments : Fragments}
    {verdicts : Verdicts} (hmean : fragments.Mean truth verdicts) :
    ∀ criteria : Criteria, criteria.IsReadable isRaw →
      (criteria.collect isAlternative isRaw fragments).Mean truth
        (criteria.judge truth isAlternative isRaw verdicts)
  | .test attr op value, _ => by
    unfold Criteria.collect Criteria.judge
    exact hmean.push _ (op.isNode_filter _ _)
  | .presence attr isNegated, _ => by
    unfold Criteria.collect Criteria.judge
    have hpush := hmean.push (.ofCriteria isAlternative)
      ((presenceOperator isNegated).isNode_filter attr.escaped .null)
    cases isNegated <;>
      simpa [presenceOperator, Operator.filter] using hpush
  | .equality attr value, _ => by
    unfold Criteria.collect Criteria.judge
    have hnode : (attr.equalTo isRaw value).isNode = true := rfl
    simpa using hmean.push (.ofCriteria isAlternative) hnode
  | .entries entries, _ => by
    unfold Criteria.collect Criteria.judge
    have hnodes : ∀ node ∈ entries.map fun (attr, value) => attr.equalTo isRaw value,
        node.isNode = true := List.forall_mem_map.2 fun _ _ => rfl
    simpa [Function.comp_def] using hmean.pushAll (.ofCriteria isAlternative) hnodes
  | .rows rows, h => by
    unfold Criteria.IsReadable at h
    unfold Criteria.collect Criteria.judge
    exact Criteria.mean_collectAll isAlternative hmean rows h
  | .nested number program, h => by
    unfold Criteria.IsReadable at h
    unfold Criteria.collect Criteria.judge
    exact hmean.addNested (FilterClause.mean_collectAll mean_empty program h) _

/-- Argument lists mean what is judged of them. -/
theorem Criteria.mean_collectAll {isRaw : Bool} (isAlternative : Bool) {fragments : Fragments}
    {verdicts : Verdicts} (hmean : fragments.Mean truth verdicts) :
    ∀ rows : List Criteria, Criteria.AreReadable isRaw rows →
      (Criteria.collectAll isAlternative isRaw fragments rows).Mean truth
        (Criteria.judgeAll truth isAlternative isRaw verdicts rows)
  | [], _ => by
    unfold Criteria.collectAll Criteria.judgeAll
    exact hmean
  | criteria :: rows, h => by
    unfold Criteria.AreReadable at h
    unfold Criteria.collectAll Criteria.judgeAll
    exact Criteria.mean_collectAll isAlternative
      (Criteria.mean_collect isAlternative hmean criteria h.1) rows h.2

/-- A clause means what is judged of it. -/
theorem FilterClause.mean_collect {fragments : Fragments} {verdicts : Verdicts}
    (hmean : fragments.Mean truth verdicts) :
    ∀ clause : FilterClause, clause.IsReadable →
      (clause.collect fragments).Mean truth (clause.judge truth verdicts)
  | .where_ isAlternative isRaw criteria, h => by
    unfold FilterClause.IsReadable at h
    unfold FilterClause.collect FilterClause.judge
    exact Criteria.mean_collect isAlternative hmean criteria h
  | .whereIn attr values, _ => by
    unfold FilterClause.collect FilterClause.judge
    have hpush := hmean.push .all (Value.isNode_oneOf_equalTo attr values)
    simpa [holds_oneOf, List.any_map, Function.comp_def] using hpush
  | .whereBetween attr low high, _ => by
    unfold FilterClause.collect FilterClause.judge
    have hlow : (Filter.condition .atLeast attr.escaped (low.operand false)).isNode = true := rfl
    have hhigh : (Filter.condition .atMost attr.escaped (high.operand false)).isNode = true := rfl
    simpa using (hmean.push .all hlow).push .all hhigh
  | .nest nesting number program, h => by
    unfold FilterClause.IsReadable at h
    unfold FilterClause.collect FilterClause.judge
    exact hmean.addNested (FilterClause.mean_collectAll mean_empty program h) nesting
  | .addFilter bucket node, h => by
    unfold FilterClause.IsReadable at h
    unfold FilterClause.collect FilterClause.judge
    exact hmean.push bucket h
  | .rawFilter texts, h => by
    unfold FilterClause.IsReadable at h
    unfold FilterClause.collect FilterClause.judge
    exact hmean.pushAll .raw h
  | .clear, _ => by
    unfold FilterClause.collect FilterClause.judge
    exact mean_empty

/-- A program means what is judged of it. -/
theorem FilterClause.mean_collectAll {fragments : Fragments} {verdicts : Verdicts}
    (hmean : fragments.Mean truth verdicts) :
    ∀ program : List FilterClause, FilterClause.AreReadable program →
      (FilterClause.collectAll fragments program).Mean truth
        (FilterClause.judgeAll truth verdicts program)
  | [], _ => by
    unfold FilterClause.collectAll FilterClause.judgeAll
    exact hmean
  | clause :: program, h => by
    unfold FilterClause.AreReadable at h
    unfold FilterClause.collectAll FilterClause.judgeAll
    exact FilterClause.mean_collectAll (FilterClause.mean_collect hmean clause h.1) program h.2

end

theorem Value.isName_str (s : String) : (str s).IsName :=
  ⟨rfl, isReadable_str s⟩

theorem Value.isOperand_str (isRaw : Bool) (s : String) : (str s).IsOperand isRaw :=
  fun _ => isReadable_str s

end Directory
