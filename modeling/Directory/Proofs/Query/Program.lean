import Directory.Proofs.Legible
import Directory.Query.Builder

/-!
# Programs of filter clauses

A program is a sequence of the clauses that add filters to a query, with callbacks that are programs
themselves. `FilterClause.clauses` gives the clauses of a builder that a program stands for, and
`FilterClause.collectAll` the fragments that it leaves if it is readable, without a builder to run
it on.
-/

namespace Directory

mutual

/-- What a clause asks of entries: a test of an attribute, the presence of an attribute, equality
without an operator, an equality for each entry of a dictionary, several argument lists, or what a
callback collects. -/
inductive Criteria where
  | test (attr : Value) (operator : Operator) (value : Value)
  | presence (attr : Value) (isNegated : Bool)
  | equality (attr value : Value)
  | entries (entries : List (Value × Value))
  | rows (rows : List Criteria)
  | nested (number : Nat) (program : List FilterClause)

/-- A clause that adds filters, or that takes all of them away. Criteria may be alternatives, and
their values may be left unescaped. -/
inductive FilterClause where
  | where_ (isAlternative isRaw : Bool) (criteria : Criteria)
  | whereIn (attr : Value) (values : List Value)
  | whereBetween (attr low high : Value)
  | nest (nesting : Nesting) (number : Nat) (program : List FilterClause)
  | addFilter (bucket : Bucket) (node : Filter)
  | rawFilter (texts : List Value)
  | clear

end

/-! ## The clauses of a program -/

/-- The operator that asks for the presence of an attribute, or for its absence. -/
def presenceOperator (isNegated : Bool) : Operator :=
  if isNegated then .notHas else .has

/-- The bucket of criteria. -/
def Bucket.ofCriteria (isAlternative : Bool) : Bucket :=
  if isAlternative then .any else .all

namespace Criteria

/-- The second argument of a clause with the criteria. -/
def operator? : Criteria → Option Value
  | test _ op _ => some (.str op.token)
  | presence _ isNegated => some (.str (presenceOperator isNegated).token)
  | equality _ value => some value
  | _ => none

/-- The third argument of a clause with the criteria. -/
def value? : Criteria → Option Value
  | test _ _ value => some value
  | _ => none

end Criteria

mutual

/-- The first argument of a clause with the criteria. -/
def Criteria.attr : Criteria → Value
  | .test attr _ _ | .presence attr _ | .equality attr _ => attr
  | .entries entries => .dict entries
  | .rows rows => .list (Criteria.argumentLists rows)
  | .nested number program => .callback number (FilterClause.clauses program)

/-- Criteria as argument lists. -/
def Criteria.argumentLists : List Criteria → List Value
  | [] => []
  | criteria :: rows =>
    .tuple (criteria.attr :: (criteria.operator?.toList ++ criteria.value?.toList)) ::
      Criteria.argumentLists rows

/-- The clause of a builder. -/
def FilterClause.clause : FilterClause → Clause
  | .where_ isAlternative isRaw criteria =>
    .where_ criteria.attr criteria.operator? criteria.value?
      (.str (Bucket.ofCriteria isAlternative).name) (.bool isRaw)
  | .whereIn attr values => .whereIn attr (.list values)
  | .whereBetween attr low high => .whereBetween attr (.tuple [low, high])
  | .nest nesting number program => .nest nesting (.callback number (FilterClause.clauses program))
  | .addFilter bucket node => .addFilter node.toValue (.str bucket.name)
  | .rawFilter texts => .rawFilter texts
  | .clear => .clearFilters

/-- The clauses of a builder, in order. -/
def FilterClause.clauses : List FilterClause → List Clause
  | [] => []
  | clause :: program => clause.clause :: FilterClause.clauses program

end

/-! ## Programs that run through -/

namespace Value

/-- The value stands for one attribute and not for several criteria. -/
def isSingle : Value → Bool
  | callback .. | dict _ | list _ | tuple _ | set _ | bytes _ => false
  | _ => true

/-- An attribute that can be written into a filter. -/
structure IsName (attr : Value) : Prop where
  single : attr.isSingle = true
  readable : attr.IsReadable

/-- A value that can be written into a filter; one that is not escaped is not looked at. -/
def IsOperand (isRaw : Bool) (value : Value) : Prop :=
  isRaw = false → value.IsReadable

end Value

mutual

/-- The attributes and values of the criteria have texts, and what is given without an operator is
not taken for one. -/
def Criteria.IsReadable (isRaw : Bool) : Criteria → Prop
  | .test attr _ value => attr.IsName ∧ value.IsOperand isRaw
  | .presence attr _ => attr.IsName
  | .equality attr value =>
    attr.IsName ∧ value.IsOperand isRaw ∧ requiresValue value = .ok true
  | .entries entries => ∀ entry ∈ entries, entry.1.IsName ∧ entry.2.IsOperand isRaw
  | .rows rows => Criteria.AreReadable isRaw rows
  | .nested _ program => FilterClause.AreReadable program

/-- All of the criteria are readable. -/
def Criteria.AreReadable (isRaw : Bool) : List Criteria → Prop
  | [] => True
  | criteria :: rows => criteria.IsReadable isRaw ∧ Criteria.AreReadable isRaw rows

/-- The attributes and values of the clause have texts, and filters are nodes. -/
def FilterClause.IsReadable : FilterClause → Prop
  | .where_ _ isRaw criteria => criteria.IsReadable isRaw
  | .whereIn attr values => attr.IsName ∧ ∀ value ∈ values, value.IsOperand false
  | .whereBetween attr low high => attr.IsName ∧ low.IsOperand false ∧ high.IsOperand false
  | .nest _ _ program => FilterClause.AreReadable program
  | .addFilter _ node => node.isNode = true
  | .rawFilter texts => ∀ node ∈ Builder.rawFilters texts, node.isNode = true
  | .clear => True

/-- All of the clauses are readable. -/
def FilterClause.AreReadable : List FilterClause → Prop
  | [] => True
  | clause :: program => clause.IsReadable ∧ FilterClause.AreReadable program

end

/-! ## The fragments that a program collects -/

namespace Value

/-- The escaped text of a value. -/
def escaped (value : Value) : Value :=
  match escape value with
  | .ok text => .str text
  | .error _ => .null

/-- A value with a text has an escaped text. -/
theorem IsReadable.exists_escape {value : Value} (h : value.IsReadable) :
    ∃ text, escape value = .ok text ∧ value.escaped = .str text := by
  obtain ⟨text, htext⟩ := h
  have hescape : ∃ text, escape value = .ok text := by
    unfold escape
    split
    · exact ⟨_, rfl⟩
    · exact ⟨_, by rw [htext]; rfl⟩
  obtain ⟨text, hescape⟩ := hescape
  exact ⟨text, hescape, by rw [escaped, hescape]⟩

/-- A value as it stands in a filter. -/
def operand (isRaw : Bool) : Value → Value
  | null => null
  | value => if isRaw then value else value.escaped

/-- The filter of an equality criterion. -/
def equalTo (isRaw : Bool) (attr value : Value) : Filter :=
  .condition .equals attr.escaped (value.operand isRaw)

end Value

namespace Fragments

/-- Add fragments to one of the buckets, in order. -/
def pushAll (fragments : Fragments) (bucket : Bucket) (nodes : List Filter) : Fragments :=
  fragments.setBucket bucket (fragments.bucket bucket ++ nodes)

/-- Add what a nested builder collected. -/
def addNested (fragments : Fragments) (nesting : Nesting) (nested : Fragments) : Fragments :=
  fragments.pushAll .all (Builder.nestedFilter? nesting { fragments := nested }).toList

/-- The fragment of which one of several filters must hold. -/
def oneOf : List Filter → Filter
  | [node] => node
  | nodes => .group .any nodes

@[simp] theorem pushAll_nil (fragments : Fragments) (bucket : Bucket) :
    fragments.pushAll bucket [] = fragments := by
  cases bucket <;> simp [pushAll, setBucket, Fragments.bucket]

@[simp] theorem push_pushAll (fragments : Fragments) (bucket : Bucket) (node : Filter)
    (nodes : List Filter) :
    (fragments.push bucket node).pushAll bucket nodes =
      fragments.pushAll bucket (node :: nodes) := by
  cases bucket <;> simp [push, pushAll, setBucket, Fragments.bucket]

end Fragments

mutual

/-- The fragments after criteria were added to a bucket. -/
def Criteria.collect (isAlternative isRaw : Bool) (fragments : Fragments) : Criteria → Fragments
  | .test attr op value =>
    fragments.push (.ofCriteria isAlternative) (op.filter attr.escaped (value.operand isRaw))
  | .presence attr isNegated =>
    fragments.push (.ofCriteria isAlternative)
      ((presenceOperator isNegated).filter attr.escaped .null)
  | .equality attr value => fragments.push (.ofCriteria isAlternative) (attr.equalTo isRaw value)
  | .entries entries =>
    fragments.pushAll (.ofCriteria isAlternative)
      (entries.map fun (attr, value) => attr.equalTo isRaw value)
  | .rows rows => Criteria.collectAll isAlternative isRaw fragments rows
  | .nested _ program =>
    fragments.addNested (if isAlternative then .any else .all) (FilterClause.collectAll {} program)

/-- The fragments after several criteria were added to a bucket. -/
def Criteria.collectAll (isAlternative isRaw : Bool) (fragments : Fragments) :
    List Criteria → Fragments
  | [] => fragments
  | criteria :: rows =>
    Criteria.collectAll isAlternative isRaw (criteria.collect isAlternative isRaw fragments) rows

/-- The fragments after a clause. -/
def FilterClause.collect (fragments : Fragments) : FilterClause → Fragments
  | .where_ isAlternative isRaw criteria => criteria.collect isAlternative isRaw fragments
  | .whereIn attr values => fragments.push .all (Fragments.oneOf (values.map (attr.equalTo false)))
  | .whereBetween attr low high =>
    (fragments.push .all (.condition .atLeast attr.escaped (low.operand false))).push .all
      (.condition .atMost attr.escaped (high.operand false))
  | .nest nesting _ program => fragments.addNested nesting (FilterClause.collectAll {} program)
  | .addFilter bucket node => fragments.push bucket node
  | .rawFilter texts => fragments.pushAll .raw (Builder.rawFilters texts)
  | .clear => {}

/-- The fragments after all clauses of a program. -/
def FilterClause.collectAll (fragments : Fragments) : List FilterClause → Fragments
  | [] => fragments
  | clause :: program => FilterClause.collectAll (clause.collect fragments) program

end

/-! ## What is true of every fragment -/

/-- Groups and negations have the property if what they are made of does. -/
structure Filter.IsClosed (p : Filter → Prop) : Prop where
  group : ∀ junction children, (∀ child ∈ children, p child) → p (.group junction children)
  not : ∀ child, p child → p (.not child)

theorem Filter.IsClosed.oneOf {p : Filter → Prop} (hclosed : IsClosed p) {nodes : List Filter}
    (h : ∀ node ∈ nodes, p node) : p (Fragments.oneOf nodes) := by
  match nodes with
  | [] => exact hclosed.group .any [] h
  | [node] => exact h node List.mem_cons_self
  | first :: second :: nodes => exact hclosed.group .any _ h

namespace Fragments

/-- All fragments in the three buckets have a property. -/
def Forall (p : Filter → Prop) (fragments : Fragments) : Prop :=
  ∀ bucket, ∀ node ∈ fragments.bucket bucket, p node

variable {p : Filter → Prop} {fragments nested : Fragments}

theorem forall_empty : Forall p {} := by
  intro bucket node hmem
  cases bucket <;> cases hmem

theorem Forall.pushAll (h : fragments.Forall p) (bucket : Bucket) {nodes : List Filter}
    (hnodes : ∀ node ∈ nodes, p node) : (fragments.pushAll bucket nodes).Forall p := by
  intro other node hmem
  by_cases heq : other = bucket
  · have hown : (fragments.pushAll bucket nodes).bucket bucket =
        fragments.bucket bucket ++ nodes := by
      cases bucket <;> rfl
    rw [heq, hown, List.mem_append] at hmem
    rcases hmem with hmem | hmem
    · exact h bucket node hmem
    · exact hnodes node hmem
  · have hother : (fragments.pushAll bucket nodes).bucket other = fragments.bucket other := by
      cases bucket <;> cases other <;> first | rfl | exact absurd rfl heq
    exact h other node (hother ▸ hmem)

theorem Forall.push (h : fragments.Forall p) (bucket : Bucket) {node : Filter} (hnode : p node) :
    (fragments.push bucket node).Forall p :=
  h.pushAll bucket (by simpa using hnode)

/-- What is combined has the property of the fragments. -/
theorem Forall.combined (h : fragments.Forall p) (hclosed : Filter.IsClosed p) {node : Filter}
    (hnode : fragments.combined = some node) : p node := by
  have halternatives : ∀ node ∈ fragments.alternatives, p node := by
    unfold alternatives
    have hany := h .any
    unfold Fragments.bucket at hany
    split
    next => simp
    next heq => simpa [heq] using hany
    next => simpa using hclosed.group .any _ hany
  have hall : ∀ node ∈ fragments.raw ++ fragments.all ++ fragments.alternatives, p node := by
    simp only [List.mem_append, or_imp, forall_and]
    exact ⟨⟨h .raw, h .all⟩, halternatives⟩
  unfold Fragments.combined at hnode
  split at hnode
  next => cases hnode
  next heq =>
    cases hnode
    exact hall node (by simp [heq])
  next =>
    cases hnode
    exact hclosed.group .all _ hall

theorem Forall.toFilter? (h : fragments.Forall p) (hclosed : Filter.IsClosed p) {node : Filter}
    (hnode : fragments.toFilter? = some node) : p node :=
  h.combined hclosed (Option.eq_some_of_filter_eq_some hnode)

/-- What a callback gives has the property of what it collected. -/
theorem Forall.nestedFilter? (h : nested.Forall p) (hclosed : Filter.IsClosed p) (nesting : Nesting)
    {node : Filter} (hnode : Builder.nestedFilter? nesting { fragments := nested } = some node) :
    p node := by
  unfold Builder.nestedFilter? at hnode
  cases nesting with
  | all =>
      obtain ⟨inner, hinner, rfl⟩ := Option.map_eq_some_iff.1 hnode
      have hp := h.toFilter? hclosed hinner
      split
      next => exact hp
      next => exact hclosed.group .all _ (by simpa using hp)
  | any =>
      have hall : ∀ node ∈ nested.raw ++ nested.all ++ nested.any, p node := by
        simp only [List.mem_append, or_imp, forall_and]
        exact ⟨⟨h .raw, h .all⟩, h .any⟩
      dsimp only at hnode
      split at hnode
      next => cases hnode
      next =>
        cases hnode
        exact hclosed.group .any _ hall
  | negated =>
      obtain ⟨inner, hinner, rfl⟩ := Option.map_eq_some_iff.1 hnode
      exact hclosed.not inner (h.toFilter? hclosed hinner)

theorem Forall.addNested (h : fragments.Forall p) (hnested : nested.Forall p)
    (hclosed : Filter.IsClosed p) (nesting : Nesting) :
    (fragments.addNested nesting nested).Forall p := by
  refine h.pushAll .all fun node hmem => ?_
  exact hnested.nestedFilter? hclosed nesting (Option.mem_toList.1 hmem)

end Fragments

end Directory
