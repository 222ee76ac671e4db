import Directory.Filter.Operator
import Directory.Query.Escape
import Directory.Query.Fragments
import Directory.Value.Access

/-!
# Query builders

A query builder collects filters and options. A clause is one call on a builder; running it changes
the builder and may fail on the way, in which case what was done before the failure stays. A
callback runs its clauses on a nested builder, whose filters are then added to the outer one as a
whole.
-/

namespace Directory

/-- A query under construction: where to search, for what, and how much of it to return. Whether it
is nested is kept as it was given. -/
structure Builder where
  base : Value := .str ""
  isNested : Value := .bool false
  fragments : Fragments := {}
  selected : Option (List Value) := none
  limit : Int := 0
  scope : Scope := .subtree

namespace Builder

/-- A new builder for a base; no base is the empty one. -/
def new (base isNested : Value) : Builder :=
  { base := base.orElse (.str ""), isNested }

/-- The filter used when no filter was given. -/
def defaultFilter : String :=
  "(objectclass=*)"

/-- The filter string of the query. -/
def query (builder : Builder) : Except Failure String := do
  let compiled ← builder.fragments.compile
  return if compiled = "" then defaultFilter else compiled

/-- The attributes to return. Unless all attributes are asked for, the object class is among
them. -/
def selects (builder : Builder) : Except Failure (List Value) := do
  let attrs :=
    match builder.selected with
    | some (attr :: attrs) => attr :: attrs
    | _ => [.str "*"]
  if attrs.any (·.isStr "*") then return attrs
  if ← Value.anyIsWord "objectclass" attrs then return attrs
  return attrs ++ [.str "objectclass"]

/-- At least one attribute is asked for. -/
theorem selects_ne_nil {builder : Builder} {attrs : List Value}
    (h : builder.selects = .ok attrs) : attrs ≠ [] := by
  have hcons (attr : Value) (rest : List Value) (h : (do
      if (attr :: rest).any (·.isStr "*") then return attr :: rest
      if ← Value.anyIsWord "objectclass" (attr :: rest) then return attr :: rest
      return attr :: rest ++ [.str "objectclass"] : Except Failure (List Value)) = .ok attrs) :
      attrs ≠ [] := by
    split at h
    · cases h
      exact List.cons_ne_nil _ _
    · cases hword : Value.anyIsWord "objectclass" (attr :: rest) with
      | error failure =>
          rw [hword] at h
          cases h
      | ok isListed =>
          rw [hword] at h
          cases isListed <;> cases h <;> exact List.cons_ne_nil _ _
  unfold selects at h
  split at h
  · exact hcons _ _ h
  · exact hcons _ _ h

/-- Ask for attributes, given one by one or as a single value that has them as members. Asking for
none changes nothing. -/
def select (builder : Builder) (attrs : List Value) : Except Failure Builder := do
  let attrs ←
    match attrs with
    | [.str s] => pure [.str s]
    | [value] => value.items
    | attrs => pure attrs
  return if attrs.isEmpty then builder else { builder with selected := some attrs }

/-- Bound the number of entries to return; zero is no bound. -/
def withLimit (builder : Builder) (count : Value) : Except Failure Builder :=
  return { builder with limit := ← count.toInt }

/-- Search under another base. -/
def under (builder : Builder) (base : Value) : Builder :=
  { builder with base := base.orElse (.str "") }

/-- A new builder for the same connection. -/
def newInstance (builder : Builder) (base : Value) : Builder :=
  match base with
  | .null => new builder.base (.bool false)
  | base => new base (.bool false)

/-- A new nested builder for the same connection. -/
def newNested (builder : Builder) : Builder :=
  new builder.base (.bool true)

/-- A copy of the builder, if its fragments can be copied. -/
def clone (builder : Builder) : Except Failure Builder :=
  return { builder with fragments := ← builder.fragments.copy }

/-- A copy has the fragments that can be copied, and everything else of the builder. -/
theorem clone_eq_ok_iff {builder copied : Builder} :
    builder.clone = .ok copied ↔
      (∀ entry ∈ builder.fragments.others, entry.2 = []) ∧
        copied = { builder with fragments := { builder.fragments with others := [] } } := by
  unfold clone
  constructor
  · intro h
    cases hcopy : builder.fragments.copy with
    | error failure =>
        rw [hcopy] at h
        cases h
    | ok fragments =>
        rw [hcopy] at h
        obtain ⟨hothers, rfl⟩ := Fragments.copy_eq_ok_iff.1 hcopy
        exact ⟨hothers, (Except.ok.inj h).symm⟩
  · rintro ⟨hothers, rfl⟩
    rw [Fragments.copy_eq_ok_iff.2 ⟨hothers, rfl⟩]
    rfl

/-- Add a filter to the bucket that a value names. -/
def addFilter (builder : Builder) (node bucket : Value) : Except Failure Builder :=
  return { builder with fragments := ← builder.fragments.add node.toFilter bucket }

/-- Add a filter to one of the buckets. -/
def push (builder : Builder) (bucket : Bucket) (node : Filter) : Builder :=
  { builder with fragments := builder.fragments.push bucket node }

/-- Filter strings that are used as they are. -/
def rawFilters (texts : List Value) : List Filter :=
  let texts :=
    match texts with
    | [.list texts] | [.tuple texts] => texts
    | texts => texts
  texts.map fun text =>
    match text with
    | .filter node => node
    | text => .raw text

/-- The filter of a simple criterion: an attribute with an operator and a value, or with one of the
two. A value without an operator asks for equality. The value is escaped unless it is raw. -/
def criterion (attr : Value) (operator value : Option Value) (raw : Value) :
    Except Failure Filter := do
  let (token, value) ←
    match operator, value with
    | operator, some value => pure (operator.getD .null, value)
    | none, none => throw Refusal.bareAttribute.toFailure
    | some operator, none =>
      if ← requiresValue operator then pure (.str Operator.equals.token, operator)
      else pure (operator, .null)
  let value ←
    match value with
    | .null => pure Value.null
    | value => if raw.isTrue then pure value else Value.str <$> escape value
  makeFilter token (.str (← escape attr)) value

/-- The bucket of the criteria of one call. -/
def criterionBucket (bucket : Value) : Bucket :=
  if bucket.isStr Bucket.any.name then .any else .all

/-- What a nested builder adds to the outer one. All its fragments in any bucket are alternatives
under `any`; otherwise its combined filter counts. -/
def nestedFilter? (nesting : Nesting) (nested : Builder) : Option Filter :=
  match nesting with
  | .all =>
    nested.fragments.toFilter?.map fun node =>
      match node with
      | .group .all children => .group .all children
      | node => .group .all [node]
  | .any =>
    match nested.fragments.raw ++ nested.fragments.all ++ nested.fragments.any with
    | [] => none
    | nodes => some (.group .any nodes)
  | .negated => nested.fragments.toFilter?.map .not

end Builder

/-- An action on a builder. What was done before a failure stays. -/
abbrev Building := ExceptT Failure (StateM Builder)

namespace Building

/-- Change the builder, or leave it as it is and fail. -/
def update (change : Builder → Except Failure Builder) : Building Unit := do
  match change (← get) with
  | .ok builder => set builder
  | .error failure => throw failure

/-- Run an action on another builder. The outer builder stays as it is, and a failure passes. -/
def onOther (other : Builder) (action : Building Unit) : Building Builder := do
  match action.run.run other with
  | (.ok (), other) => return other
  | (.error failure, _) => throw failure

/-- Add a criterion to the builder. -/
def addCriterion (attr : Value) (operator value : Option Value) (bucket raw : Value) :
    Building Unit :=
  update fun builder => do
    let node ← Builder.criterion attr operator value raw
    return builder.push (Builder.criterionBucket bucket) node

/-- Add what a nested builder collected. -/
def addNested (nesting : Nesting) (nested : Builder) : Building Unit :=
  match Builder.nestedFilter? nesting nested with
  | some node => modify (·.push .all node)
  | none => pure ()

/-- The arguments of a criterion that are the members of a text or of bytes: the members are plain,
so the criterion is a simple one. -/
def addCriterionOf (args : List Value) (bucket raw : Value) : Building Unit :=
  match args with
  | [attr] => addCriterion attr none none bucket raw
  | [attr, operator] => addCriterion attr (some operator) none bucket raw
  | [attr, operator, value] => addCriterion attr (some operator) (some value) bucket raw
  | _ => throw Failure.wrongType

end Building

/-- What a clause gives: the builder itself, another builder, or a value. -/
inductive Reply where
  | self
  | builder (builder : Builder)
  | value (value : Value)

open Building in
mutual

/-- Add criteria. The attribute may also be a callback, a dictionary of attributes and values, or a
row of argument lists; each of these stands for several criteria. -/
def Value.addWhere (attr : Value) (operator value : Option Value) (bucket raw : Value) :
    Building Unit :=
  match attr with
  | .callback _ clauses => do
    let nested ← onOther (← get).newNested (Clause.runAll clauses)
    addNested (if bucket.isStr Bucket.any.name then .any else .all) nested
  | .dict entries => Value.addWhereEntries entries bucket raw
  | .list rows | .tuple rows | .set rows => Value.addWhereRows rows bucket raw
  | .bytes [] => pure ()
  | .bytes (_ :: _) => throw Failure.wrongType
  | attr => addCriterion attr operator value bucket raw

/-- Add an equality criterion for each entry of a dictionary. -/
def Value.addWhereEntries (entries : List (Value × Value)) (bucket raw : Value) : Building Unit :=
  match entries with
  | [] => pure ()
  | (attr, value) :: entries => do
    attr.addWhere (some (.str Operator.equals.token)) (some value) bucket raw
    Value.addWhereEntries entries bucket raw

/-- Add criteria for each of several argument lists. -/
def Value.addWhereRows (rows : List Value) (bucket raw : Value) : Building Unit :=
  match rows with
  | [] => pure ()
  | row :: rows => do
    row.addWhereRow bucket raw
    Value.addWhereRows rows bucket raw

/-- Add criteria for one argument list. -/
def Value.addWhereRow (row : Value) (bucket raw : Value) : Building Unit :=
  match row with
  | .list args | .tuple args | .set args => Value.addWhereArgs args bucket raw
  | .dict entries => Value.addWhereKeys entries bucket raw
  | .str s => addCriterionOf (Value.characters s) bucket raw
  | .bytes bs => addCriterionOf (bs.map fun b => .int b.toNat) bucket raw
  | _ => throw Failure.wrongType

/-- Add criteria for the members of one argument list. -/
def Value.addWhereArgs (args : List Value) (bucket raw : Value) : Building Unit :=
  match args with
  | attr :: [] => attr.addWhere none none bucket raw
  | attr :: [operator] => attr.addWhere (some operator) none bucket raw
  | attr :: [operator, value] => attr.addWhere (some operator) (some value) bucket raw
  | _ => throw Failure.wrongType

/-- Add criteria for an argument list that is given by the keys of a dictionary. -/
def Value.addWhereKeys (entries : List (Value × Value)) (bucket raw : Value) : Building Unit :=
  match entries with
  | (attr, _) :: [] => attr.addWhere none none bucket raw
  | (attr, _) :: [(operator, _)] => attr.addWhere (some operator) none bucket raw
  | (attr, _) :: [(operator, _), (value, _)] =>
    attr.addWhere (some operator) (some value) bucket raw
  | _ => throw Failure.wrongType

/-- Collect the filters of a callback in a nested builder. No callback collects none. -/
def Value.collect (callback : Value) : Building Builder :=
  match callback with
  | .null => return (← get).newNested
  | .callback _ clauses => do onOther (← get).newNested (Clause.runAll clauses)
  | _ => throw Failure.wrongType

/-- Run clauses in order. -/
def Clause.runAll (clauses : List Clause) : Building Unit :=
  match clauses with
  | [] => pure ()
  | clause :: clauses => do
    let _ ← clause.run
    Clause.runAll clauses

/-- Run a clause. -/
def Clause.run (clause : Clause) : Building Reply :=
  match clause with
  | .where_ attr operator value bucket raw => do
    attr.addWhere operator value bucket raw
    return .self
  | .whereIn attr values => do
    match ← values.items with
    | [] => modify (·.push .all (.group .any []))
    | values =>
      let nested ← onOther (← get).newNested do
        for value in values do
          attr.addWhere (some (.str Operator.equals.token)) (some value) (.str Bucket.any.name)
            (.bool false)
      update (·.addFilter ((nested.fragments.combined.getD (.foreign .null)).toValue)
        (.str Bucket.all.name))
    return .self
  | .whereBetween attr values => do
    let (low, high) ← values.pair
    attr.addWhere (some (.str Operator.atLeast.token)) (some low) (.str Bucket.all.name)
      (.bool false)
    attr.addWhere (some (.str Operator.atMost.token)) (some high) (.str Bucket.all.name)
      (.bool false)
    return .self
  | .nest nesting callback => do
    addNested nesting (← callback.collect)
    return .self
  | .addFilter node bucket => do
    update (·.addFilter node bucket)
    return .self
  | .rawFilter texts => do
    for node in Builder.rawFilters texts do
      modify (·.push .raw node)
    return .self
  | .clearFilters => do
    modify fun builder => { builder with fragments := {} }
    return .self
  | .select attrs => do
    update (·.select attrs)
    return .self
  | .under base => do
    modify (·.under base)
    return .self
  | .limit count => do
    update (·.withLimit count)
    return .self
  | .scope scope => do
    modify fun builder => { builder with scope }
    return .self
  | .query => return .value (.str (← (← get).query))
  | .selects => return .value (.list (← (← get).selects))
  | .nested => return .value (← get).isNested
  | .clone clauses => return .builder (← onOther (← (← get).clone) (Clause.runAll clauses))
  | .newInstance base clauses =>
    return .builder (← onOther ((← get).newInstance base) (Clause.runAll clauses))
  | .newNested callback clauses => do
    let nested ← callback.collect
    return .builder (← onOther nested (Clause.runAll clauses))
  | .misfit => throw Failure.wrongType
  | .unknown => throw (Failure.misuse .unknownMember)

end

end Directory
