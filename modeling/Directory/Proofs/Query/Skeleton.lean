import Directory.Proofs.Query.Collecting
import Directory.Proofs.Query.Escape

/-!
# What values cannot change

A guarded program names its attributes and operators and escapes its values. `exists_readsAs` says
that its query is read as one node, of the form of the filter that was asked for, if each of its
values has a text. So programs which differ in nothing but such values have the same skeleton: no
value can add, move or change a condition of the query.
-/

namespace Directory

open FilterText Fragments

/-! ## Guarded programs -/

mutual

/-- The criteria have plain names and come with their operators. -/
def Criteria.IsGuarded : Criteria → Prop
  | .test attr _ _ | .presence attr _ => attr.IsPlainName
  | .equality _ _ => False
  | .entries entries => ∀ entry ∈ entries, entry.1.IsPlainName
  | .rows rows => Criteria.AreGuarded rows
  | .nested _ program => FilterClause.AreGuarded program

/-- All of the criteria are guarded. -/
def Criteria.AreGuarded : List Criteria → Prop
  | [] => True
  | criteria :: rows => criteria.IsGuarded ∧ Criteria.AreGuarded rows

/-- The criteria of the clause are guarded and escaped, and no filter is given as it is. -/
def FilterClause.IsGuarded : FilterClause → Prop
  | .where_ _ isRaw criteria => isRaw = false ∧ criteria.IsGuarded
  | .whereIn attr _ | .whereBetween attr _ _ => attr.IsPlainName
  | .nest _ _ program => FilterClause.AreGuarded program
  | .addFilter _ _ | .rawFilter _ => False
  | .clear => True

/-- All of the clauses are guarded. -/
def FilterClause.AreGuarded : List FilterClause → Prop
  | [] => True
  | clause :: program => clause.IsGuarded ∧ FilterClause.AreGuarded program

end

/-! ## The filter of a guarded program is sealed -/

theorem isClosed_sealed : Filter.IsClosed Sealed where
  group := fun _ _ => Sealed.group
  not := fun _ => Sealed.not

theorem sealed_condition (test : Test) {attr value : Value} (hattr : attr.IsPlainName)
    (hvalue : value.IsOperand false) :
    Sealed (.condition test attr.escaped (value.operand false)) := by
  obtain ⟨name, hname, hisAttribute⟩ := hattr.exists_escaped
  obtain ⟨text, htext, hsealed⟩ := hvalue.exists_text_operand
  rw [hname]
  exact Sealed.condition hisAttribute htext hsealed

theorem sealed_has {attr : Value} (hattr : attr.IsPlainName) : Sealed (.has attr.escaped) := by
  obtain ⟨name, hname, hisAttribute⟩ := hattr.exists_escaped
  rw [hname]
  exact Sealed.has hisAttribute

/-- Whatever the operator, its filter is sealed. -/
theorem sealed_filter (op : Operator) {attr value : Value} (hattr : attr.IsPlainName)
    (hvalue : value.IsOperand false) :
    Sealed (op.filter attr.escaped (value.operand false)) := by
  have hcondition (test : Test) := sealed_condition test hattr hvalue
  have hhas := sealed_has hattr
  cases op with
  | has => exact hhas
  | notHas => exact hhas.not
  | bang | notEquals | notStartsWith | notEndsWith | notContains => exact (hcondition _).not
  | _ => exact hcondition _

mutual

/-- Guarded criteria keep the fragments sealed. -/
theorem Criteria.sealed_collect (isAlternative : Bool) {fragments : Fragments}
    (h : fragments.Forall Sealed) :
    ∀ criteria : Criteria, criteria.IsReadable false → criteria.IsGuarded →
      (criteria.collect isAlternative false fragments).Forall Sealed
  | .test attr op value, hreadable, hguarded => by
    unfold Criteria.IsReadable at hreadable
    unfold Criteria.IsGuarded at hguarded
    unfold Criteria.collect
    exact h.push _ (sealed_filter op hguarded hreadable.2)
  | .presence attr isNegated, _, hguarded => by
    unfold Criteria.IsGuarded at hguarded
    unfold Criteria.collect
    exact h.push _ (sealed_filter _ hguarded fun _ => Value.isReadable_null)
  | .equality attr value, _, hguarded => by
    unfold Criteria.IsGuarded at hguarded
    exact hguarded.elim
  | .entries entries, hreadable, hguarded => by
    unfold Criteria.IsReadable at hreadable
    unfold Criteria.IsGuarded at hguarded
    unfold Criteria.collect
    exact h.pushAll _ (List.forall_mem_map.2 fun entry hmem =>
      sealed_condition .equals (hguarded entry hmem) (hreadable entry hmem).2)
  | .rows rows, hreadable, hguarded => by
    unfold Criteria.IsReadable at hreadable
    unfold Criteria.IsGuarded at hguarded
    unfold Criteria.collect
    exact Criteria.sealed_collectAll isAlternative h rows hreadable hguarded
  | .nested number program, hreadable, hguarded => by
    unfold Criteria.IsReadable at hreadable
    unfold Criteria.IsGuarded at hguarded
    unfold Criteria.collect
    exact h.addNested (FilterClause.sealed_collectAll forall_empty program hreadable hguarded)
      isClosed_sealed _

/-- Guarded argument lists keep the fragments sealed. -/
theorem Criteria.sealed_collectAll (isAlternative : Bool) {fragments : Fragments}
    (h : fragments.Forall Sealed) :
    ∀ rows : List Criteria, Criteria.AreReadable false rows → Criteria.AreGuarded rows →
      (Criteria.collectAll isAlternative false fragments rows).Forall Sealed
  | [], _, _ => by
    unfold Criteria.collectAll
    exact h
  | criteria :: rows, hreadable, hguarded => by
    unfold Criteria.AreReadable at hreadable
    unfold Criteria.AreGuarded at hguarded
    unfold Criteria.collectAll
    exact Criteria.sealed_collectAll isAlternative
      (Criteria.sealed_collect isAlternative h criteria hreadable.1 hguarded.1) rows
      hreadable.2 hguarded.2

/-- A guarded clause keeps the fragments sealed. -/
theorem FilterClause.sealed_collect {fragments : Fragments} (h : fragments.Forall Sealed) :
    ∀ clause : FilterClause, clause.IsReadable → clause.IsGuarded →
      (clause.collect fragments).Forall Sealed
  | .where_ isAlternative isRaw criteria, hreadable, hguarded => by
    unfold FilterClause.IsReadable at hreadable
    unfold FilterClause.IsGuarded at hguarded
    unfold FilterClause.collect
    obtain ⟨rfl, hcriteria⟩ := hguarded
    exact Criteria.sealed_collect isAlternative h criteria hreadable hcriteria
  | .whereIn attr values, hreadable, hguarded => by
    unfold FilterClause.IsReadable at hreadable
    unfold FilterClause.IsGuarded at hguarded
    unfold FilterClause.collect
    exact h.push .all (isClosed_sealed.oneOf (List.forall_mem_map.2 fun value hmem =>
      sealed_condition .equals hguarded (hreadable.2 value hmem)))
  | .whereBetween attr low high, hreadable, hguarded => by
    unfold FilterClause.IsReadable at hreadable
    unfold FilterClause.IsGuarded at hguarded
    unfold FilterClause.collect
    exact (h.push .all (sealed_condition .atLeast hguarded hreadable.2.1)).push .all
      (sealed_condition .atMost hguarded hreadable.2.2)
  | .nest nesting number program, hreadable, hguarded => by
    unfold FilterClause.IsReadable at hreadable
    unfold FilterClause.IsGuarded at hguarded
    unfold FilterClause.collect
    exact h.addNested (FilterClause.sealed_collectAll forall_empty program hreadable hguarded)
      isClosed_sealed nesting
  | .addFilter bucket node, _, hguarded => by
    unfold FilterClause.IsGuarded at hguarded
    exact hguarded.elim
  | .rawFilter texts, _, hguarded => by
    unfold FilterClause.IsGuarded at hguarded
    exact hguarded.elim
  | .clear, _, _ => by
    unfold FilterClause.collect
    exact forall_empty

/-- A guarded program keeps the fragments sealed. -/
theorem FilterClause.sealed_collectAll {fragments : Fragments} (h : fragments.Forall Sealed) :
    ∀ program : List FilterClause, FilterClause.AreReadable program →
      FilterClause.AreGuarded program →
      (FilterClause.collectAll fragments program).Forall Sealed
  | [], _, _ => by
    unfold FilterClause.collectAll
    exact h
  | clause :: program, hreadable, hguarded => by
    unfold FilterClause.AreReadable at hreadable
    unfold FilterClause.AreGuarded at hguarded
    unfold FilterClause.collectAll
    exact FilterClause.sealed_collectAll
      (FilterClause.sealed_collect h clause hreadable.1 hguarded.1) program
      hreadable.2 hguarded.2

end

/-! ## Forgetting the values -/

mutual

/-- The criteria with null for each value. -/
def Criteria.forgotten : Criteria → Criteria
  | .test attr op _ => .test attr op .null
  | .presence attr isNegated => .presence attr isNegated
  | .equality attr _ => .equality attr .null
  | .entries entries => .entries (entries.map fun (attr, _) => (attr, .null))
  | .rows rows => .rows (Criteria.forgottenAll rows)
  | .nested _ program => .nested 0 (FilterClause.forgottenAll program)

/-- Criteria with null for each value, one by one. -/
def Criteria.forgottenAll : List Criteria → List Criteria
  | [] => []
  | criteria :: rows => criteria.forgotten :: Criteria.forgottenAll rows

/-- The clause with null for each value. The number of its values and the filters that it is given
stay. -/
def FilterClause.forgotten : FilterClause → FilterClause
  | .where_ isAlternative isRaw criteria => .where_ isAlternative isRaw criteria.forgotten
  | .whereIn attr values => .whereIn attr (values.map fun _ => .null)
  | .whereBetween attr _ _ => .whereBetween attr .null .null
  | .nest nesting _ program => .nest nesting 0 (FilterClause.forgottenAll program)
  | clause => clause

/-- The clauses with null for each value, one by one. -/
def FilterClause.forgottenAll : List FilterClause → List FilterClause
  | [] => []
  | clause :: program => clause.forgotten :: FilterClause.forgottenAll program

end

mutual

/-- The filter with null for the value of each condition. -/
def Filter.forgotten : Filter → Filter
  | .condition test attr _ => .condition test attr .null
  | .not child => .not child.forgotten
  | .group junction children => .group junction (Filter.forgottenAll children)
  | node => node

/-- Filters with null for the value of each condition, one by one. -/
def Filter.forgottenAll : List Filter → List Filter
  | [] => []
  | node :: nodes => node.forgotten :: Filter.forgottenAll nodes

end

namespace Filter

theorem forgottenAll_eq_map (nodes : List Filter) : forgottenAll nodes = nodes.map forgotten := by
  induction nodes with
  | nil => rw [forgottenAll, List.map_nil]
  | cons node nodes ih => rw [forgottenAll, ih, List.map_cons]

@[simp] theorem forgotten_group (junction : Junction) (children : List Filter) :
    (Filter.group junction children).forgotten = .group junction (children.map forgotten) := by
  rw [forgotten, forgottenAll_eq_map]

@[simp] theorem forgotten_not (child : Filter) :
    (Filter.not child).forgotten = .not child.forgotten := by
  rw [forgotten]

@[simp] theorem isNothing_forgotten (node : Filter) :
    node.forgotten.isNothing = node.isNothing := by
  cases node <;> (unfold forgotten; rfl)

/-- Whatever the operator, its filter forgets its value. -/
theorem forgotten_filter (op : Operator) (attr value : Value) :
    (op.filter attr value).forgotten = op.filter attr .null := by
  cases op <;> simp [Operator.filter, forgotten]

end Filter

@[simp] theorem Value.forgotten_equalTo (isRaw : Bool) (attr value : Value) :
    (attr.equalTo isRaw value).forgotten = attr.equalTo isRaw .null :=
  Filter.forgotten_filter .equals attr.escaped _

namespace Fragments

/-- The fragments with null for the value of each condition. -/
def forgotten (fragments : Fragments) : Fragments :=
  { fragments with
    raw := fragments.raw.map Filter.forgotten
    all := fragments.all.map Filter.forgotten
    any := fragments.any.map Filter.forgotten }

variable (fragments nested : Fragments)

theorem forgotten_pushAll (bucket : Bucket) (nodes : List Filter) :
    (fragments.pushAll bucket nodes).forgotten =
      fragments.forgotten.pushAll bucket (nodes.map Filter.forgotten) := by
  cases bucket <;> simp [forgotten, pushAll, setBucket, Fragments.bucket]

theorem forgotten_push (bucket : Bucket) (node : Filter) :
    (fragments.push bucket node).forgotten = fragments.forgotten.push bucket node.forgotten :=
  fragments.forgotten_pushAll bucket [node]

theorem forgotten_oneOf (nodes : List Filter) :
    (oneOf nodes).forgotten = oneOf (nodes.map Filter.forgotten) := by
  match nodes with
  | [] => simp [oneOf]
  | [node] => simp [oneOf]
  | first :: second :: nodes => simp [oneOf]

theorem alternatives_forgotten :
    fragments.forgotten.alternatives = fragments.alternatives.map Filter.forgotten := by
  unfold alternatives forgotten
  dsimp only
  match fragments.any with
  | [] => simp
  | [node] => simp
  | first :: second :: nodes => simp

theorem combined_forgotten :
    fragments.forgotten.combined = fragments.combined.map Filter.forgotten := by
  have hlist : fragments.forgotten.raw ++ fragments.forgotten.all ++
      fragments.forgotten.alternatives =
        (fragments.raw ++ fragments.all ++ fragments.alternatives).map Filter.forgotten := by
    rw [alternatives_forgotten, List.map_append, List.map_append]
    rfl
  unfold combined
  rw [hlist]
  match fragments.raw ++ fragments.all ++ fragments.alternatives with
  | [] => simp
  | [node] => simp
  | first :: second :: nodes => simp

theorem toFilter?_forgotten :
    fragments.forgotten.toFilter? = fragments.toFilter?.map Filter.forgotten := by
  unfold toFilter?
  rw [combined_forgotten]
  cases fragments.combined with
  | none => rfl
  | some node =>
      rw [Option.map_some, Option.filter_some, Option.filter_some, Filter.isNothing_forgotten]
      split <;> rfl

theorem nestedFilter?_forgotten (nesting : Nesting) :
    Builder.nestedFilter? nesting { fragments := nested.forgotten } =
      (Builder.nestedFilter? nesting { fragments := nested }).map Filter.forgotten := by
  unfold Builder.nestedFilter?
  cases nesting with
  | all =>
      dsimp only
      rw [toFilter?_forgotten]
      rcases nested.toFilter? with - | node
      · rfl
      · cases node with
        | group junction children => cases junction <;> simp
        | _ => simp [Filter.forgotten, Filter.forgottenAll_eq_map]
  | any =>
      have hlist : nested.forgotten.raw ++ nested.forgotten.all ++ nested.forgotten.any =
          (nested.raw ++ nested.all ++ nested.any).map Filter.forgotten := by
        simp [forgotten]
      dsimp only
      rw [hlist]
      cases nested.raw ++ nested.all ++ nested.any with
      | nil => rfl
      | cons node nodes => simp
  | negated =>
      dsimp only
      rw [toFilter?_forgotten]
      cases nested.toFilter? <;> simp

theorem forgotten_addNested (nesting : Nesting) :
    (fragments.addNested nesting nested).forgotten =
      fragments.forgotten.addNested nesting nested.forgotten := by
  unfold addNested
  rw [forgotten_pushAll, nestedFilter?_forgotten]
  cases Builder.nestedFilter? nesting { fragments := nested } <;> rfl

end Fragments

open Fragments

mutual

/-- Criteria without values collect filters without values. -/
theorem Criteria.collect_forgotten (isAlternative isRaw : Bool) (fragments : Fragments) :
    ∀ criteria : Criteria, criteria.IsGuarded →
      (criteria.collect isAlternative isRaw fragments).forgotten =
        criteria.forgotten.collect isAlternative isRaw fragments.forgotten
  | .test attr op value, _ => by
    unfold Criteria.forgotten Criteria.collect
    rw [forgotten_push, Filter.forgotten_filter]
    rfl
  | .presence attr isNegated, _ => by
    unfold Criteria.forgotten Criteria.collect
    rw [forgotten_push, Filter.forgotten_filter]
  | .equality attr value, _ => by
    unfold Criteria.forgotten Criteria.collect
    rw [forgotten_push, Value.forgotten_equalTo]
  | .entries entries, _ => by
    unfold Criteria.forgotten Criteria.collect
    rw [forgotten_pushAll, List.map_map, List.map_map]
    simp [Function.comp_def]
  | .rows rows, h => by
    unfold Criteria.IsGuarded at h
    unfold Criteria.forgotten Criteria.collect
    exact Criteria.collectAll_forgotten isAlternative isRaw fragments rows h
  | .nested number program, h => by
    unfold Criteria.IsGuarded at h
    unfold Criteria.forgotten Criteria.collect
    rw [forgotten_addNested, FilterClause.collectAll_forgotten {} program h]
    rfl

/-- Argument lists without values collect filters without values. -/
theorem Criteria.collectAll_forgotten (isAlternative isRaw : Bool) (fragments : Fragments) :
    ∀ rows : List Criteria, Criteria.AreGuarded rows →
      (Criteria.collectAll isAlternative isRaw fragments rows).forgotten =
        Criteria.collectAll isAlternative isRaw fragments.forgotten (Criteria.forgottenAll rows)
  | [], _ => by
    unfold Criteria.forgottenAll Criteria.collectAll
    rfl
  | criteria :: rows, h => by
    unfold Criteria.AreGuarded at h
    unfold Criteria.forgottenAll Criteria.collectAll
    rw [Criteria.collectAll_forgotten isAlternative isRaw _ rows h.2,
      Criteria.collect_forgotten isAlternative isRaw fragments criteria h.1]

/-- A clause without values collects filters without values. -/
theorem FilterClause.collect_forgotten (fragments : Fragments) :
    ∀ clause : FilterClause, clause.IsGuarded →
      (clause.collect fragments).forgotten = clause.forgotten.collect fragments.forgotten
  | .where_ isAlternative isRaw criteria, h => by
    unfold FilterClause.IsGuarded at h
    unfold FilterClause.forgotten FilterClause.collect
    exact Criteria.collect_forgotten isAlternative isRaw fragments criteria h.2
  | .whereIn attr values, _ => by
    unfold FilterClause.forgotten FilterClause.collect
    rw [forgotten_push, forgotten_oneOf, List.map_map, List.map_map]
    simp [Function.comp_def]
  | .whereBetween attr low high, _ => by
    unfold FilterClause.forgotten FilterClause.collect
    rw [forgotten_push, forgotten_push]
    simp [Filter.forgotten, Value.operand]
  | .nest nesting number program, h => by
    unfold FilterClause.IsGuarded at h
    unfold FilterClause.forgotten FilterClause.collect
    rw [forgotten_addNested, FilterClause.collectAll_forgotten {} program h]
    rfl
  | .addFilter bucket node, h => by
    unfold FilterClause.IsGuarded at h
    exact h.elim
  | .rawFilter texts, h => by
    unfold FilterClause.IsGuarded at h
    exact h.elim
  | .clear, _ => by
    unfold FilterClause.forgotten FilterClause.collect
    rfl

/-- A program without values collects filters without values. -/
theorem FilterClause.collectAll_forgotten (fragments : Fragments) :
    ∀ program : List FilterClause, FilterClause.AreGuarded program →
      (FilterClause.collectAll fragments program).forgotten =
        FilterClause.collectAll fragments.forgotten (FilterClause.forgottenAll program)
  | [], _ => by
    unfold FilterClause.forgottenAll FilterClause.collectAll
    rfl
  | clause :: program, h => by
    unfold FilterClause.AreGuarded at h
    unfold FilterClause.forgottenAll FilterClause.collectAll
    rw [FilterClause.collectAll_forgotten _ program h.2,
      FilterClause.collect_forgotten fragments clause h.1]

end

/-! ## Skeletons -/

namespace FilterText

mutual

/-- A parsed node with nothing for the value of each condition. -/
def Node.skeleton : Node → Node
  | .condition attr comparator _ => .condition attr comparator ""
  | .group sign children => .group sign (Node.skeletons children)

/-- Parsed nodes with nothing for the value of each condition, one by one. -/
def Node.skeletons : List Node → List Node
  | [] => []
  | node :: nodes => node.skeleton :: Node.skeletons nodes

end

mutual

/-- Nodes of the form of filters that differ in nothing but values have the same skeleton. -/
theorem Fits.skeleton_congr {f g : Filter} (hsame : f.forgotten = g.forgotten) {other : Node}
    (hother : Fits other g) : ∀ {node : Node}, Fits node f → node.skeleton = other.skeleton
  | _, .condition _ _ _ => by
    cases hother <;> simp [Filter.forgotten] at hsame
    obtain ⟨rfl, rfl⟩ := hsame
    simp [Node.skeleton]
  | _, .has => by
    cases hother <;> simp [Filter.forgotten] at hsame
    subst hsame
    rfl
  | _, .not hchild => by
    cases hother <;> simp [Filter.forgotten] at hsame
    next hother =>
      rw [Node.skeleton, Node.skeleton, Node.skeletons, Node.skeletons,
        Fits.skeleton_congr hsame hother hchild]
      rfl
  | _, .group hchildren => by
    cases hother <;> simp [Filter.forgotten, Filter.forgottenAll_eq_map] at hsame
    next hothers =>
      obtain ⟨rfl, hsame⟩ := hsame
      rw [Node.skeleton, Node.skeleton, Fits.skeletons_congr hsame hothers hchildren]

/-- What holds of each node of a list holds of the list. -/
theorem Fits.skeletons_congr {fs gs : List Filter}
    (hsame : fs.map Filter.forgotten = gs.map Filter.forgotten) {others : List Node}
    (hothers : List.Forall₂ Fits others gs) :
    ∀ {nodes : List Node}, List.Forall₂ Fits nodes fs →
      Node.skeletons nodes = Node.skeletons others
  | _, .nil => by
    cases hothers <;> simp at hsame
    rfl
  | _, .cons hnode hnodes => by
    cases hothers <;> simp at hsame
    next hother hothers =>
      rw [Node.skeletons, Node.skeletons, Fits.skeleton_congr hsame.1 hother hnode,
        Fits.skeletons_congr hsame.2 hothers hnodes]

end

end FilterText

/-! ## The query of a guarded program -/

/-- The filter that fragments ask for: the combined filter, or the presence of an object class,
which every entry has. -/
def Fragments.asked (fragments : Fragments) : Filter :=
  fragments.toFilter?.getD (.has (.str "objectclass"))

/-- The filter string of a query is that of the filter that is asked for. -/
theorem Builder.query_eq {builder : Builder} {text : String}
    (htext : builder.fragments.asked.text = .ok text) (hne : text ≠ "") :
    builder.query = .ok text := by
  unfold query Fragments.compile
  unfold Fragments.asked at htext
  cases hfilter : builder.fragments.toFilter? with
  | none =>
      rw [hfilter] at htext
      simp only [Option.getD_none, Filter.text, Value.text] at htext
      cases htext
      rfl
  | some node =>
      rw [hfilter, Option.getD_some] at htext
      simp [htext, hne, bind, Except.bind, pure, Except.pure]

/-- The program runs through, and its query is read as one node, of the form of the filter that is
asked for. -/
def ReadsAs (base isNested : Value) (program : List FilterClause) (node : Node) : Prop :=
  ∃ builder text,
    (Clause.runAll (FilterClause.clauses program)).run.run (.new base isNested) =
      (.ok (), builder) ∧
    builder.query = .ok text ∧ parse text = .ok [node] ∧ Fits node builder.fragments.asked

variable {base isNested : Value} {program : List FilterClause}

/-- The builder has what the program collects. -/
theorem ReadsAs.fits {node : Node} (h : ReadsAs base isNested program node)
    (hreadable : FilterClause.AreReadable program) :
    Fits node (FilterClause.collectAll {} program).asked := by
  obtain ⟨builder, text, hrun, -, -, hfits⟩ := h
  cases hrun.symm.trans (FilterClause.collects_clauses program hreadable (.new base isNested))
  exact hfits

theorem exists_readsAs (base isNested : Value) (hreadable : FilterClause.AreReadable program)
    (hguarded : FilterClause.AreGuarded program) : ∃ node, ReadsAs base isNested program node := by
  have hrun := FilterClause.collects_clauses program hreadable (.new base isNested)
  have hcollected := FilterClause.sealed_collectAll forall_empty program hreadable hguarded
  have hsealed : Sealed (FilterClause.collectAll {} program).asked := by
    unfold Fragments.asked
    cases hfilter : (FilterClause.collectAll {} program).toFilter? with
    | none => exact Sealed.has (by decide)
    | some node => exact hcollected.toFilter? isClosed_sealed hfilter
  obtain ⟨text, node, htext, hne, hparse, hfits⟩ := hsealed.exists_fits
  exact ⟨node, _, text, hrun, Builder.query_eq htext hne, hparse, hfits⟩

/-- Programs that differ in nothing but values ask for filters that differ in nothing but values. -/
theorem forgotten_asked {other : List FilterClause} (hprogram : FilterClause.AreGuarded program)
    (hother : FilterClause.AreGuarded other)
    (hsame : FilterClause.forgottenAll program = FilterClause.forgottenAll other) :
    (FilterClause.collectAll {} program).asked.forgotten =
      (FilterClause.collectAll {} other).asked.forgotten := by
  have hasked (fragments : Fragments) : fragments.asked.forgotten = fragments.forgotten.asked := by
    unfold Fragments.asked
    rw [toFilter?_forgotten]
    cases fragments.toFilter? <;> rfl
  rw [hasked, hasked, FilterClause.collectAll_forgotten {} program hprogram,
    FilterClause.collectAll_forgotten {} other hother, hsame]

/-- The query of a guarded program is read as one node, of the form of the filter that is asked for.
A program that differs from it in nothing but values gives a node with the same skeleton. -/
theorem query_skeleton_eq (base isNested : Value) {other : List FilterClause}
    (hprogram : FilterClause.AreReadable program ∧ FilterClause.AreGuarded program)
    (hother : FilterClause.AreReadable other ∧ FilterClause.AreGuarded other)
    (hsame : FilterClause.forgottenAll program = FilterClause.forgottenAll other) :
    ∃ node again, ReadsAs base isNested program node ∧ ReadsAs base isNested other again ∧
      node.skeleton = again.skeleton := by
  obtain ⟨node, hnode⟩ := exists_readsAs base isNested hprogram.1 hprogram.2
  obtain ⟨again, hagain⟩ := exists_readsAs base isNested hother.1 hother.2
  have hforgotten := forgotten_asked hprogram.2 hother.2 hsame
  exact ⟨node, again, hnode, hagain,
    Fits.skeleton_congr hforgotten (hagain.fits hother.1) (hnode.fits hprogram.1)⟩

/-- Values with parentheses and asterisks, blank values, bytes and a list have no effect on the
form of the query. -/
theorem query_skeleton_eq_nested :
    let program (value first second low : Value) : List FilterClause :=
      [.where_ false false (.test (.str "cn") .notContains value),
        .nest .any 0 [.whereIn (.str "ou;lang-de") [first, second],
          .where_ true false (.rows [.presence (.str "mail") true,
            .entries [(.str "2.5.4.4", value)]])],
        .whereBetween (.str "age") low .null]
    let plain := program (.str "Doe") (.str "a") (.str "b") (.str "18")
    let hostile := program (.str "x)(|(uid=*") (.bytes [40, 42]) (.str " ") (.list [.str "*)"])
    (FilterClause.AreReadable plain ∧ FilterClause.AreGuarded plain) ∧
      (FilterClause.AreReadable hostile ∧ FilterClause.AreGuarded hostile) ∧
      FilterClause.forgottenAll plain = FilterClause.forgottenAll hostile ∧
      ∃ node again, ReadsAs (.str "") .null plain node ∧ ReadsAs (.str "") .null hostile again ∧
        node.skeleton = again.skeleton := by
  intro program plain hostile
  have hguarded (value first second low : Value) :
      FilterClause.AreGuarded (program value first second low) := by
    have hcn := Value.isPlainName_str "cn" (by decide) (by decide)
    have hou := Value.isPlainName_str "ou;lang-de" (by decide) (by decide)
    have hmail := Value.isPlainName_str "mail" (by decide) (by decide)
    have hoid := Value.isPlainName_str "2.5.4.4" (by decide) (by decide)
    have hage := Value.isPlainName_str "age" (by decide) (by decide)
    simp [program, FilterClause.AreGuarded, FilterClause.IsGuarded, Criteria.IsGuarded,
      Criteria.AreGuarded, hcn, hou, hmail, hoid, hage]
  have hreadable {value first second low : Value} (hvalue : value.IsReadable)
      (hfirst : first.IsReadable) (hsecond : second.IsReadable) (hlow : low.IsReadable) :
      FilterClause.AreReadable (program value first second low) := by
    have hattr (name : String) : (Value.str name).IsName := ⟨rfl, Value.isReadable_str name⟩
    simp [program, FilterClause.AreReadable, FilterClause.IsReadable, Criteria.IsReadable,
      Criteria.AreReadable, Value.IsOperand, Value.isReadable_null, hattr, hvalue, hfirst, hsecond,
      hlow]
  have hstr (s : String) := Value.isReadable_str s
  have hbytes : (Value.bytes [40, 42]).IsReadable := ⟨_, by unfold Value.text Value.shown; rfl⟩
  have hlist : (Value.list [.str "*)"]).IsReadable :=
    ⟨_, by unfold Value.text Value.shown Value.shownAll Value.shown Value.shownAll; rfl⟩
  have hplain : FilterClause.AreReadable plain ∧ FilterClause.AreGuarded plain :=
    ⟨hreadable (hstr _) (hstr _) (hstr _) (hstr _), hguarded _ _ _ _⟩
  have hhostile : FilterClause.AreReadable hostile ∧ FilterClause.AreGuarded hostile :=
    ⟨hreadable (hstr _) hbytes (hstr _) hlist, hguarded _ _ _ _⟩
  have hsame : FilterClause.forgottenAll plain = FilterClause.forgottenAll hostile := by
    simp [plain, hostile, program, FilterClause.forgottenAll, FilterClause.forgotten,
      Criteria.forgotten, Criteria.forgottenAll]
  exact ⟨hplain, hhostile, hsame, query_skeleton_eq (.str "") .null hplain hhostile hsame⟩

end Directory
