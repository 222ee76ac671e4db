import Directory.Proofs.Query.Program

/-!
# Running a program of filter clauses

A readable program runs through on every builder and leaves the fragments that it collects
(`collects_clauses`). So what is true of `FilterClause.collectAll` is true of builders.
-/

namespace Directory

/-! ## Criteria -/

namespace Value

/-- What a criterion makes of its value. -/
def operandText (value raw : Value) : Except Failure Value :=
  match value with
  | null => .ok null
  | value => if raw.isTrue then .ok value else str <$> escape value

theorem IsOperand.operandText_eq {isRaw : Bool} {value : Value} (h : value.IsOperand isRaw) :
    value.operandText (.bool isRaw) = .ok (value.operand isRaw) := by
  by_cases hnull : value = .null
  · rw [hnull]
    rfl
  · have htext : value.operandText (.bool isRaw) =
        if isRaw then .ok value else str <$> escape value := by
      cases value <;> first | rfl | exact absurd rfl hnull
    have hoperand : value.operand isRaw = if isRaw then value else value.escaped := by
      cases value <;> first | rfl | exact absurd rfl hnull
    rw [htext, hoperand]
    cases isRaw with
    | true => rfl
    | false =>
        obtain ⟨text, hescape, hescaped⟩ := (h rfl).exists_escape
        rw [hescape, hescaped]
        rfl

end Value

namespace Operator

theorem ofToken?_token (op : Operator) : ofToken? op.token = some op := by
  cases op <;> decide

/-- The token of an operator is read as the operator. -/
theorem ofValue?_token (op : Operator) : ofValue? (.str op.token) = .ok (some op) :=
  congrArg Except.ok op.ofToken?_token

theorem makeFilter_token (op : Operator) (attr value : Value) :
    makeFilter (.str op.token) attr value = .ok (op.filter attr value) := by
  rw [makeFilter, op.ofValue?_token]
  rfl

theorem requiresValue_token (op : Operator) :
    requiresValue (.str op.token) = .ok (!op.isPresence) := by
  rw [requiresValue, op.ofValue?_token]
  rfl

end Operator

namespace Builder

variable {isRaw : Bool} {attr value : Value}

theorem criterion_eq (attr token value raw : Value) :
    criterion attr (some token) (some value) raw = (do
      let value ← value.operandText raw
      makeFilter token (.str (← escape attr)) value) := by
  simp only [criterion, Value.operandText, Option.getD_some, pure_bind]
  cases value with
  | null => rfl
  | _ => cases raw.isTrue <;> rfl

/-- A criterion with an operator and a value. -/
theorem criterion_test (op : Operator) (hattr : attr.IsReadable) (hvalue : value.IsOperand isRaw) :
    criterion attr (some (.str op.token)) (some value) (.bool isRaw) =
      .ok (op.filter attr.escaped (value.operand isRaw)) := by
  obtain ⟨name, hname, hescaped⟩ := hattr.exists_escape
  rw [criterion_eq, hvalue.operandText_eq, hname, hescaped]
  exact op.makeFilter_token _ _

/-- A criterion without an operator asks for equality. -/
theorem criterion_equality (hattr : attr.IsReadable) (hvalue : value.IsOperand isRaw)
    (hrequires : requiresValue value = .ok true) :
    criterion attr (some value) none (.bool isRaw) = .ok (attr.equalTo isRaw value) := by
  have hequal : criterion attr (some value) none (.bool isRaw) =
      criterion attr (some (.str Operator.equals.token)) (some value) (.bool isRaw) := by
    simp only [criterion, hrequires]
    rfl
  rw [hequal]
  exact criterion_test .equals hattr hvalue

/-- A criterion that asks for presence or absence. -/
theorem criterion_presence (isNegated : Bool) (hattr : attr.IsReadable) :
    criterion attr (some (.str (presenceOperator isNegated).token)) none (.bool isRaw) =
      .ok ((presenceOperator isNegated).filter attr.escaped .null) := by
  have hrequires : requiresValue (.str (presenceOperator isNegated).token) = .ok false := by
    rw [Operator.requiresValue_token]
    cases isNegated <;> rfl
  have hequal :
      criterion attr (some (.str (presenceOperator isNegated).token)) none (.bool isRaw) =
        criterion attr (some (.str (presenceOperator isNegated).token)) (some .null)
          (.bool isRaw) := by
    simp only [criterion, hrequires]
    rfl
  rw [hequal]
  exact criterion_test _ hattr fun _ => Value.isReadable_null

end Builder

/-! ## Running a program -/

namespace Building

variable {α β : Type}

/-- The action gives a result and changes the fragments of its builder, and nothing else of it. -/
def Collects (action : Building α) (a : α) (change : Fragments → Fragments) : Prop :=
  ∀ builder : Builder,
    action.run.run builder = (.ok a, { builder with fragments := change builder.fragments })

/-- The second of two actions runs where the first leaves off, unless that fails. -/
theorem run_bind (action : Building α) (next : α → Building β) (builder : Builder) :
    (action >>= next).run.run builder =
      match action.run.run builder with
      | (.ok a, between) => (next a).run.run between
      | (.error failure, between) => (.error failure, between) := by
  show (ExceptT.bindCont next (action.run.run builder).1).run (action.run.run builder).2 = _
  rcases action.run.run builder with ⟨_ | a, between⟩ <;> rfl

@[simp] theorem run_get (builder : Builder) :
    (get : Building Builder).run.run builder = (.ok builder, builder) :=
  rfl

@[simp] theorem run_lift (result : Except Failure α) (builder : Builder) :
    (liftM result : Building α).run.run builder = (result, builder) :=
  rfl

/-- What is done to another builder leaves the builder as it is, also if it fails. -/
theorem run_onOther (other : Builder) (action : Building Unit) (builder : Builder) :
    (onOther other action).run.run builder =
      match action.run.run other with
      | (.ok (), other) => (.ok other, builder)
      | (.error failure, _) => (.error failure, builder) := by
  unfold onOther
  rcases action.run.run other with ⟨_ | _, other⟩ <;> rfl

theorem collects_pure (a : α) : (pure a : Building α).Collects a id :=
  fun _ => rfl

/-- The fragments go from one action to the next. -/
theorem Collects.bind {action : Building α} {next : α → Building β} {a : α} {b : β}
    {first second : Fragments → Fragments} (haction : action.Collects a first)
    (hnext : (next a).Collects b second) : (action >>= next).Collects b (second ∘ first) := by
  intro builder
  rw [run_bind, haction builder]
  exact hnext _

theorem Collects.andThen {action : Building α} {other : Building β} {a : α} {b : β}
    {first second : Fragments → Fragments} (haction : action.Collects a first)
    (hother : other.Collects b second) :
    (action >>= fun _ => other).Collects b (second ∘ first) :=
  haction.bind hother

theorem collects_modify (bucket : Bucket) (node : Filter) :
    (modify (·.push bucket node) : Building Unit).Collects () (·.push bucket node) :=
  fun _ => rfl

theorem collects_update {change : Builder → Except Failure Builder}
    {collected : Fragments → Fragments}
    (h : ∀ builder,
      change builder = .ok { builder with fragments := collected builder.fragments }) :
    (update change).Collects () collected := by
  intro builder
  unfold update
  rw [run_bind, run_get]
  dsimp only
  rw [h]
  rfl

/-- An action on another builder leaves that builder with what it collects. -/
theorem Collects.run_onOther {action : Building Unit} {change : Fragments → Fragments}
    (h : action.Collects () change) (other builder : Builder) :
    (onOther other action).run.run builder =
      (.ok { other with fragments := change other.fragments }, builder) := by
  rw [Building.run_onOther, h other]

theorem collects_addCriterion {attr raw : Value} {operator value : Option Value} {node : Filter}
    (isAlternative : Bool) (h : Builder.criterion attr operator value raw = .ok node) :
    (addCriterion attr operator value (.str (Bucket.ofCriteria isAlternative).name) raw).Collects ()
      (·.push (.ofCriteria isAlternative) node) := by
  have hbucket : Builder.criterionBucket (.str (Bucket.ofCriteria isAlternative).name) =
      .ofCriteria isAlternative := by
    cases isAlternative <;> decide
  refine collects_update fun builder => ?_
  rw [h, hbucket]
  rfl

/-- What a nested builder collected is added as one fragment, if there is any. -/
theorem collects_addNested (nesting : Nesting) (nested : Builder) :
    (addNested nesting nested).Collects () (·.addNested nesting nested.fragments) := by
  have hnested : Builder.nestedFilter? nesting { fragments := nested.fragments } =
      Builder.nestedFilter? nesting nested := by
    cases nesting <;> rfl
  intro builder
  unfold addNested Fragments.addNested
  rw [hnested]
  cases Builder.nestedFilter? nesting nested with
  | none => simp; rfl
  | some node => rfl

/-- What an action on a nested builder collects is added to the outer builder. -/
theorem Collects.nested {action : Building Unit} {change : Fragments → Fragments}
    (h : action.Collects () change) (nesting : Nesting) :
    (do addNested nesting (← onOther (← get).newNested action) : Building Unit).Collects ()
      (·.addNested nesting (change {})) := by
  intro builder
  simp only [run_bind, run_get]
  rw [h.run_onOther builder.newNested builder]
  exact collects_addNested nesting _ builder

end Building

theorem Bucket.ofValue?_name (bucket : Bucket) : ofValue? (.str bucket.name) = some bucket := by
  cases bucket <;> decide

namespace Value

open Building

/-- A single attribute has a single criterion. -/
theorem addWhere_of_isSingle {attr : Value} (h : attr.isSingle = true)
    (operator value : Option Value) (bucket raw : Value) :
    attr.addWhere operator value bucket raw = addCriterion attr operator value bucket raw := by
  unfold addWhere
  cases attr <;> first | rfl | cases h

variable {isRaw : Bool}

theorem collects_addWhere_equal {attr value : Value} (hattr : attr.IsName)
    (hvalue : value.IsOperand isRaw) (isAlternative : Bool) :
    (attr.addWhere (some (.str Operator.equals.token)) (some value)
        (.str (Bucket.ofCriteria isAlternative).name) (.bool isRaw)).Collects ()
      (·.push (.ofCriteria isAlternative) (attr.equalTo isRaw value)) := by
  rw [addWhere_of_isSingle hattr.single]
  exact collects_addCriterion isAlternative (Builder.criterion_test .equals hattr.readable hvalue)

theorem collects_addWhereEntries {entries : List (Value × Value)} (isAlternative : Bool)
    (h : ∀ entry ∈ entries, entry.1.IsName ∧ entry.2.IsOperand isRaw) :
    (Value.addWhereEntries entries (.str (Bucket.ofCriteria isAlternative).name)
        (.bool isRaw)).Collects ()
      (·.pushAll (.ofCriteria isAlternative)
        (entries.map fun (attr, value) => attr.equalTo isRaw value)) := by
  induction entries with
  | nil =>
      rw [addWhereEntries]
      intro builder
      simp
      rfl
  | cons entry entries ih =>
      obtain ⟨⟨hattr, hvalue⟩, hentries⟩ := List.forall_mem_cons.1 h
      obtain ⟨attr, value⟩ := entry
      rw [addWhereEntries]
      have hbind := (collects_addWhere_equal hattr hvalue isAlternative).andThen (ih hentries)
      simpa [Function.comp_def] using hbind

/-- Each listed value is one alternative. -/
theorem collects_listed {attr : Value} (hattr : attr.IsName) {values : List Value}
    (h : ∀ value ∈ values, value.IsOperand false) :
    (do
      for value in values do
        attr.addWhere (some (.str Operator.equals.token)) (some value) (.str Bucket.any.name)
          (.bool false) : Building Unit).Collects ()
      (·.pushAll .any (values.map (attr.equalTo false))) := by
  induction values with
  | nil =>
      intro builder
      simp
      rfl
  | cons value values ih =>
      obtain ⟨hvalue, hvalues⟩ := List.forall_mem_cons.1 h
      have hbind := (collects_addWhere_equal hattr hvalue true).andThen (ih hvalues)
      rw [List.forIn_cons]
      simpa [Function.comp_def, Bucket.ofCriteria] using hbind

/-- The arguments of criteria as one argument list. -/
theorem addWhereRow_argumentList (criteria : Criteria) (bucket raw : Value) :
    (tuple (criteria.attr ::
        (criteria.operator?.toList ++ criteria.value?.toList))).addWhereRow bucket raw =
      criteria.attr.addWhere criteria.operator? criteria.value? bucket raw := by
  unfold addWhereRow
  cases criteria <;> (simp only [Criteria.operator?, Criteria.value?]; unfold addWhereArgs; rfl)

end Value

theorem Filter.toFilter_toValue {node : Filter} (h : node.isNode = true) :
    node.toValue.toFilter = node := by
  cases node <;> first | rfl | cases h

/-- The alternatives of a builder that has nothing else are one fragment. -/
theorem Fragments.combined_alternatives {nodes : List Filter} (h : nodes ≠ []) :
    (({} : Fragments).pushAll .any nodes).combined = some (oneOf nodes) := by
  match nodes with
  | [] => exact absurd rfl h
  | [_] => rfl
  | _ :: _ :: _ => rfl

theorem Value.isNode_oneOf_equalTo (attr : Value) (values : List Value) :
    (Fragments.oneOf (values.map (attr.equalTo false))).isNode = true := by
  match values with
  | [] => rfl
  | [_] => rfl
  | _ :: _ :: _ => rfl

open Building

/-- A node goes to the bucket that is named. -/
theorem collects_addFilter {node : Filter} (h : node.isNode = true) (bucket : Bucket) :
    (update (·.addFilter node.toValue (.str bucket.name))).Collects () (·.push bucket node) := by
  refine collects_update fun builder => ?_
  have hadd : builder.fragments.add node (.str bucket.name) =
      .ok (builder.fragments.push bucket node) := by
    have hkey : (Value.str bucket.name).requireKey = .ok (.str bucket.name) := rfl
    unfold Fragments.add
    rw [hkey]
    dsimp only [Bind.bind, Except.bind]
    rw [bucket.ofValue?_name]
    rfl
  rw [Builder.addFilter, Filter.toFilter_toValue h, hadd]
  rfl

/-- The bounds of a range are two fragments. -/
theorem collects_whereBetween {attr low high : Value} (hattr : attr.IsName)
    (hlow : low.IsOperand false) (hhigh : high.IsOperand false) :
    (Clause.whereBetween attr (.tuple [low, high])).run.Collects .self fun fragments =>
      (fragments.push .all (.condition .atLeast attr.escaped (low.operand false))).push .all
        (.condition .atMost attr.escaped (high.operand false)) := by
  have hlow := collects_addCriterion false (Builder.criterion_test .atLeast hattr.readable hlow)
  have hhigh := collects_addCriterion false (Builder.criterion_test .atMost hattr.readable hhigh)
  have hpair : (Value.tuple [low, high]).pair = .ok (low, high) := rfl
  intro builder
  unfold Clause.run
  simp only [Value.addWhere_of_isSingle hattr.single, hpair]
  exact hlow.andThen (hhigh.andThen (collects_pure Reply.self)) builder

/-- Filters are collected one after the other. -/
theorem collects_rawFilters (nodes : List Filter) :
    (forIn nodes PUnit.unit fun node _ => do
      modify (·.push .raw node)
      pure (ForInStep.yield PUnit.unit) : Building PUnit).Collects PUnit.unit
      (·.pushAll .raw nodes) := by
  induction nodes with
  | nil =>
      intro builder
      simp
      rfl
  | cons node nodes ih =>
      have hbind := (collects_modify .raw node).andThen ih
      rw [List.forIn_cons]
      simpa [Function.comp_def] using hbind

/-- A list of values is one fragment. -/
theorem collects_whereIn {attr : Value} (hattr : attr.IsName) {values : List Value}
    (h : ∀ value ∈ values, value.IsOperand false) :
    (Clause.whereIn attr (.list values)).run.Collects .self
      (·.push .all (Fragments.oneOf (values.map (attr.equalTo false)))) := by
  intro builder
  unfold Clause.run
  match values with
  | [] => rfl
  | value :: values =>
      have hnested := (Value.collects_listed hattr h).run_onOther builder.newNested builder
      simp only [run_bind, run_lift, run_get, Value.items, Value.items?]
      rw [hnested]
      dsimp only
      rw [Builder.newNested, Builder.new, Fragments.combined_alternatives (by simp),
        Option.getD_some]
      rw [collects_addFilter (Value.isNode_oneOf_equalTo attr (value :: values)) .all]
      rfl

mutual

/-- Criteria are collected as they say. -/
theorem Criteria.collects {isRaw : Bool} (isAlternative : Bool) :
    ∀ criteria : Criteria, criteria.IsReadable isRaw →
      (criteria.attr.addWhere criteria.operator? criteria.value?
        (.str (Bucket.ofCriteria isAlternative).name) (.bool isRaw)).Collects ()
        fun fragments => criteria.collect isAlternative isRaw fragments
  | .test attr op value, h => by
    unfold Criteria.IsReadable at h
    unfold Criteria.collect Criteria.attr
    rw [Value.addWhere_of_isSingle h.1.single]
    exact collects_addCriterion isAlternative (Builder.criterion_test op h.1.readable h.2)
  | .presence attr isNegated, h => by
    unfold Criteria.IsReadable at h
    unfold Criteria.collect Criteria.attr
    rw [Value.addWhere_of_isSingle h.single]
    exact collects_addCriterion isAlternative (Builder.criterion_presence isNegated h.readable)
  | .equality attr value, h => by
    unfold Criteria.IsReadable at h
    unfold Criteria.collect Criteria.attr
    rw [Value.addWhere_of_isSingle h.1.single]
    exact collects_addCriterion isAlternative
      (Builder.criterion_equality h.1.readable h.2.1 h.2.2)
  | .entries entries, h => by
    unfold Criteria.IsReadable at h
    unfold Criteria.collect Criteria.attr Value.addWhere
    exact Value.collects_addWhereEntries isAlternative h
  | .rows rows, h => by
    unfold Criteria.IsReadable at h
    unfold Criteria.collect Criteria.attr Value.addWhere
    exact Criteria.collects_rows isAlternative rows h
  | .nested number program, h => by
    unfold Criteria.IsReadable at h
    unfold Criteria.collect Criteria.attr Value.addWhere
    have hnested := FilterClause.collects_clauses program h
    cases isAlternative with
    | true => exact hnested.nested .any
    | false => exact hnested.nested .all

/-- Argument lists are collected one after the other. -/
theorem Criteria.collects_rows {isRaw : Bool} (isAlternative : Bool) :
    ∀ rows : List Criteria, Criteria.AreReadable isRaw rows →
      (Value.addWhereRows (Criteria.argumentLists rows)
        (.str (Bucket.ofCriteria isAlternative).name) (.bool isRaw)).Collects ()
        fun fragments => Criteria.collectAll isAlternative isRaw fragments rows
  | [], _ => by
    unfold Criteria.argumentLists Value.addWhereRows Criteria.collectAll
    exact collects_pure ()
  | criteria :: rows, h => by
    unfold Criteria.AreReadable at h
    unfold Criteria.argumentLists Value.addWhereRows Criteria.collectAll
    rw [Value.addWhereRow_argumentList]
    exact (criteria.collects isAlternative h.1).andThen
      (Criteria.collects_rows isAlternative rows h.2)

/-- A clause gives the builder itself with what it collects. -/
theorem FilterClause.collects_clause :
    ∀ clause : FilterClause, clause.IsReadable →
      clause.clause.run.Collects .self fun fragments => clause.collect fragments
  | .where_ isAlternative isRaw criteria, h => by
    unfold FilterClause.IsReadable at h
    unfold FilterClause.clause FilterClause.collect Clause.run
    exact (criteria.collects isAlternative h).andThen (collects_pure Reply.self)
  | .whereIn attr values, h => by
    unfold FilterClause.IsReadable at h
    unfold FilterClause.clause FilterClause.collect
    exact collects_whereIn h.1 h.2
  | .whereBetween attr low high, h => by
    unfold FilterClause.IsReadable at h
    unfold FilterClause.clause FilterClause.collect
    exact collects_whereBetween h.1 h.2.1 h.2.2
  | .nest nesting number program, h => by
    unfold FilterClause.IsReadable at h
    unfold FilterClause.clause FilterClause.collect Clause.run Value.collect
    have hnested := ((FilterClause.collects_clauses program h).nested nesting).andThen
      (collects_pure Reply.self)
    simp only [bind_assoc] at hnested ⊢
    exact hnested
  | .addFilter bucket node, h => by
    unfold FilterClause.IsReadable at h
    unfold FilterClause.clause FilterClause.collect Clause.run
    exact (collects_addFilter h bucket).andThen (collects_pure Reply.self)
  | .rawFilter texts, _ => by
    unfold FilterClause.clause FilterClause.collect Clause.run
    exact (collects_rawFilters _).andThen (collects_pure Reply.self)
  | .clear, _ => by
    unfold FilterClause.clause FilterClause.collect Clause.run
    exact fun _ => rfl

/-- A program runs through and leaves its fragments behind. -/
theorem FilterClause.collects_clauses :
    ∀ program : List FilterClause, FilterClause.AreReadable program →
      (Clause.runAll (FilterClause.clauses program)).Collects ()
        fun fragments => FilterClause.collectAll fragments program
  | [], _ => by
    unfold FilterClause.clauses Clause.runAll FilterClause.collectAll
    exact collects_pure ()
  | clause :: program, h => by
    unfold FilterClause.AreReadable at h
    unfold FilterClause.clauses Clause.runAll FilterClause.collectAll
    exact (clause.collects_clause h.1).andThen (FilterClause.collects_clauses program h.2)

end

end Directory
