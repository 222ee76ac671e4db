import Directory.Proofs.Query.Collecting

/-!
# What a failing call leaves behind

The rows and dictionaries that a call for criteria takes may be nested in each other and hold
callbacks. `Value.additions` lists what the call works through at their leaves. If it fails at one
of these, then the fragments of those before it are added to the builder, and nothing else of the
builder changes (`Clause.where_leaves_additions`). A callback that fails adds nothing.
-/

namespace Directory

/-! ## What a call adds -/

/-- What a call for criteria works through: single criteria, callbacks, and arguments that do not
fit. -/
inductive Addition where
  | criterion (attr : Value) (operator value : Option Value)
  | callback (clauses : List Clause)
  | misfit

/-- The arguments of a single criterion, if they are of the right number. -/
def Addition.ofArguments : List Value → Addition
  | [attr] => .criterion attr none none
  | [attr, operator] => .criterion attr (some operator) none
  | [attr, operator, value] => .criterion attr (some operator) (some value)
  | _ => .misfit

mutual

/-- What a call works through for its arguments. -/
def Value.additions (attr : Value) (operator value : Option Value) : List Addition :=
  match attr with
  | .callback _ clauses => [.callback clauses]
  | .dict entries => Value.entryAdditions entries
  | .list rows | .tuple rows | .set rows => Value.rowAdditions rows
  | .bytes [] => []
  | .bytes (_ :: _) => [.misfit]
  | attr => [.criterion attr operator value]

/-- What a call works through for the entries of a dictionary, each of which asks for equality. -/
def Value.entryAdditions : List (Value × Value) → List Addition
  | [] => []
  | (attr, value) :: entries =>
    attr.additions (some (.str Operator.equals.token)) (some value) ++ Value.entryAdditions entries

/-- What a call works through for several argument lists. -/
def Value.rowAdditions : List Value → List Addition
  | [] => []
  | row :: rows => row.argumentAdditions ++ Value.rowAdditions rows

/-- What a call works through for one argument list. -/
def Value.argumentAdditions : Value → List Addition
  | .list args | .tuple args | .set args => Value.memberAdditions args
  | .dict entries => Value.keyAdditions entries
  | .str s => [.ofArguments (Value.characters s)]
  | .bytes bs => [.ofArguments (bs.map fun b => .int b.toNat)]
  | _ => [.misfit]

/-- What a call works through for the members of an argument list. -/
def Value.memberAdditions : List Value → List Addition
  | [attr] => attr.additions none none
  | [attr, operator] => attr.additions (some operator) none
  | [attr, operator, value] => attr.additions (some operator) (some value)
  | _ => [.misfit]

/-- What a call works through for the keys of a dictionary in the place of an argument list. -/
def Value.keyAdditions : List (Value × Value) → List Addition
  | [(attr, _)] => attr.additions none none
  | [(attr, _), (operator, _)] => attr.additions (some operator) none
  | [(attr, _), (operator, _), (value, _)] => attr.additions (some operator) (some value)
  | _ => [.misfit]

end

/-- How a callback is nested in a call for criteria. -/
def Nesting.ofCriteria (bucket : Value) : Nesting :=
  if bucket.isStr Bucket.any.name then .any else .all

namespace Addition

/-- The fragments of an addition, each with its bucket. A callback starts from a nested builder, and
what it collects there is one requirement. -/
def fragments (nested : Builder) (bucket raw : Value) :
    Addition → Except Failure (List (Bucket × Filter))
  | .criterion attr operator value => do
    return [(Builder.criterionBucket bucket, ← Builder.criterion attr operator value raw)]
  | .callback clauses =>
    match (Clause.runAll clauses).run.run nested with
    | (.ok (), nested) =>
      .ok ((Builder.nestedFilter? (.ofCriteria bucket) nested).toList.map (Prod.mk .all))
    | (.error failure, _) => .error failure
  | .misfit => .error Failure.wrongType

/-- The fragments of several additions, in order. -/
def allFragments (nested : Builder) (bucket raw : Value) (additions : List Addition) :
    Except Failure (List (Bucket × Filter)) :=
  List.flatten <$> additions.mapM (fragments nested bucket raw)

/-- Add what is to be added. -/
def add (bucket raw : Value) : Addition → Building Unit
  | .criterion attr operator value => Building.addCriterion attr operator value bucket raw
  | .callback clauses => do
    Building.addNested (.ofCriteria bucket)
      (← Building.onOther (← get).newNested (Clause.runAll clauses))
  | .misfit => throw Failure.wrongType

end Addition

/-- The fragments for one bucket. -/
def Bucket.fragments (bucket : Bucket) (added : List (Bucket × Filter)) : List Filter :=
  (added.filter (·.1 = bucket)).map Prod.snd

/-- The builder with more fragments at the end of its buckets. -/
def Builder.followedBy (builder : Builder) (added : List (Bucket × Filter)) : Builder :=
  { builder with
    fragments :=
      { builder.fragments with
        raw := builder.fragments.raw ++ Bucket.raw.fragments added
        all := builder.fragments.all ++ Bucket.all.fragments added
        any := builder.fragments.any ++ Bucket.any.fragments added } }

/-- Of the additions to a builder, those before one that fails have been made, and nothing else of
the builder has changed. -/
def Builder.IsLeftBy (builder : Builder) (additions : List Addition) (bucket raw : Value)
    (failure : Failure) (after : Builder) : Prop :=
  ∃ done failing rest added, additions = done ++ failing :: rest ∧
    Addition.allFragments builder.newNested bucket raw done = .ok added ∧
    failing.fragments builder.newNested bucket raw = .error failure ∧
    after = builder.followedBy added

/-! ## Adding fragments -/

namespace Builder

variable (builder : Builder)

theorem followedBy_nil : builder.followedBy [] = builder := by
  simp [followedBy, Bucket.fragments]

theorem followedBy_append (first second : List (Bucket × Filter)) :
    builder.followedBy (first ++ second) = (builder.followedBy first).followedBy second := by
  simp [followedBy, Bucket.fragments]

theorem push_eq_followedBy (bucket : Bucket) (node : Filter) :
    builder.push bucket node = builder.followedBy [(bucket, node)] := by
  cases bucket <;>
    simp [push, followedBy, Fragments.push, Fragments.setBucket, Fragments.bucket, Bucket.fragments]

end Builder

namespace Addition

variable {nested : Builder} {bucket raw : Value} {addition : Addition} {additions : List Addition}
  {failure : Failure} {first added : List (Bucket × Filter)}

theorem allFragments_nil : allFragments nested bucket raw [] = .ok [] :=
  rfl

theorem allFragments_cons_eq_ok_iff (h : addition.fragments nested bucket raw = .ok first) :
    allFragments nested bucket raw (addition :: additions) = .ok added ↔
      ∃ rest, allFragments nested bucket raw additions = .ok rest ∧ added = first ++ rest := by
  have hcons : allFragments nested bucket raw (addition :: additions) =
      (first ++ ·) <$> allFragments nested bucket raw additions := by
    unfold allFragments
    rw [List.mapM_cons, h]
    cases additions.mapM (fragments nested bucket raw) <;> rfl
  rw [hcons]
  cases allFragments nested bucket raw additions <;> simp [Functor.map, Except.map, eq_comm]

theorem allFragments_cons_of_error (h : addition.fragments nested bucket raw = .error failure) :
    allFragments nested bucket raw (addition :: additions) = .error failure := by
  unfold allFragments
  rw [List.mapM_cons, h]
  rfl

end Addition

/-! ## One addition after the other -/

namespace Building

theorem outcome_inj {α : Type} {result other : Except Failure α} {builder after : Builder} :
    ((result, builder) : Id (Except Failure α × Builder)) = (other, after) ↔
      result = other ∧ builder = after :=
  Iff.of_eq (Prod.mk.injEq ..)

theorem run_addNested (nesting : Nesting) (nested builder : Builder) :
    (addNested nesting nested).run.run builder =
      (.ok (), builder.followedBy
        ((Builder.nestedFilter? nesting nested).toList.map (Prod.mk .all))) := by
  unfold addNested
  cases Builder.nestedFilter? nesting nested with
  | none =>
      simp only [Option.toList_none, List.map_nil, builder.followedBy_nil]
      rfl
  | some node =>
      simp only [Option.toList_some, List.map_cons, List.map_nil, ← builder.push_eq_followedBy]
      rfl

end Building

/-! ## The additions of a call -/

section Additions

open Building Addition

/-- Plain arguments are a single criterion, if they are of the right number. -/
theorem addCriterionOf_eq (args : List Value) (bucket raw : Value) :
    addCriterionOf args bucket raw = (ofArguments args).add bucket raw := by
  match args with
  | [] | [_] | [_, _] | [_, _, _] | _ :: _ :: _ :: _ :: _ => rfl

theorem forM_add_singleton (bucket raw : Value) (addition : Addition) :
    forM [addition] (add bucket raw) = addition.add bucket raw := by
  simp

mutual

/-- A call works through its additions, one after the other. -/
theorem Value.addWhere_eq : ∀ (attr : Value) (operator value : Option Value) (bucket raw : Value),
    attr.addWhere operator value bucket raw = forM (attr.additions operator value) (add bucket raw)
  | .callback number clauses, operator, value, bucket, raw => by
    unfold Value.addWhere Value.additions
    exact (forM_add_singleton bucket raw (.callback clauses)).symm
  | .dict entries, operator, value, bucket, raw => by
    unfold Value.addWhere Value.additions
    exact Value.addWhereEntries_eq entries bucket raw
  | .list rows, operator, value, bucket, raw | .tuple rows, operator, value, bucket, raw
  | .set rows, operator, value, bucket, raw => by
    unfold Value.addWhere Value.additions
    exact Value.addWhereRows_eq rows bucket raw
  | .bytes [], operator, value, bucket, raw => by
    unfold Value.addWhere Value.additions
    rfl
  | .bytes (_ :: _), operator, value, bucket, raw => by
    unfold Value.addWhere Value.additions
    exact (forM_add_singleton bucket raw .misfit).symm
  | .null, operator, value, bucket, raw | .bool _, operator, value, bucket, raw
  | .int _, operator, value, bucket, raw | .float _, operator, value, bucket, raw
  | .str _, operator, value, bucket, raw | .filter _, operator, value, bucket, raw => by
    unfold Value.addWhere Value.additions
    exact (forM_add_singleton bucket raw (.criterion _ operator value)).symm

theorem Value.addWhereEntries_eq : ∀ (entries : List (Value × Value)) (bucket raw : Value),
    Value.addWhereEntries entries bucket raw =
      forM (Value.entryAdditions entries) (add bucket raw)
  | [], bucket, raw => by
    unfold Value.addWhereEntries Value.entryAdditions
    rfl
  | (attr, value) :: entries, bucket, raw => by
    unfold Value.addWhereEntries Value.entryAdditions
    rw [List.forM_append, attr.addWhere_eq, Value.addWhereEntries_eq entries]

theorem Value.addWhereRows_eq : ∀ (rows : List Value) (bucket raw : Value),
    Value.addWhereRows rows bucket raw = forM (Value.rowAdditions rows) (add bucket raw)
  | [], bucket, raw => by
    unfold Value.addWhereRows Value.rowAdditions
    rfl
  | row :: rows, bucket, raw => by
    unfold Value.addWhereRows Value.rowAdditions
    rw [List.forM_append, row.addWhereRow_eq, Value.addWhereRows_eq rows]

theorem Value.addWhereRow_eq : ∀ (row bucket raw : Value),
    row.addWhereRow bucket raw = forM row.argumentAdditions (add bucket raw)
  | .list args, bucket, raw | .tuple args, bucket, raw | .set args, bucket, raw => by
    unfold Value.addWhereRow Value.argumentAdditions
    exact Value.addWhereArgs_eq args bucket raw
  | .dict entries, bucket, raw => by
    unfold Value.addWhereRow Value.argumentAdditions
    exact Value.addWhereKeys_eq entries bucket raw
  | .str s, bucket, raw | .bytes bs, bucket, raw => by
    unfold Value.addWhereRow Value.argumentAdditions
    rw [addCriterionOf_eq, forM_add_singleton]
  | .null, bucket, raw | .bool _, bucket, raw | .int _, bucket, raw | .float _, bucket, raw
  | .filter _, bucket, raw | .callback _ _, bucket, raw => by
    unfold Value.addWhereRow Value.argumentAdditions
    exact (forM_add_singleton bucket raw .misfit).symm

theorem Value.addWhereArgs_eq : ∀ (args : List Value) (bucket raw : Value),
    Value.addWhereArgs args bucket raw = forM (Value.memberAdditions args) (add bucket raw)
  | [attr], bucket, raw | [attr, _], bucket, raw | [attr, _, _], bucket, raw => by
    unfold Value.addWhereArgs Value.memberAdditions
    exact attr.addWhere_eq _ _ bucket raw
  | [], bucket, raw | _ :: _ :: _ :: _ :: _, bucket, raw => by
    unfold Value.addWhereArgs Value.memberAdditions
    exact (forM_add_singleton bucket raw .misfit).symm

theorem Value.addWhereKeys_eq : ∀ (entries : List (Value × Value)) (bucket raw : Value),
    Value.addWhereKeys entries bucket raw = forM (Value.keyAdditions entries) (add bucket raw)
  | [(attr, _)], bucket, raw | [(attr, _), (_, _)], bucket, raw
  | [(attr, _), (_, _), (_, _)], bucket, raw => by
    unfold Value.addWhereKeys Value.keyAdditions
    exact attr.addWhere_eq _ _ bucket raw
  | [], bucket, raw | _ :: _ :: _ :: _ :: _, bucket, raw => by
    unfold Value.addWhereKeys Value.keyAdditions
    exact (forM_add_singleton bucket raw .misfit).symm

end

/-- What is nested is listed in its place, and null in the place of a row does not fit. -/
example : (Value.list [.tuple [.str "cn", .str "a"],
    .tuple [.list [.tuple [.dict [(.str "sn", .str "b")]], .null]]]).additions none none =
      [.criterion (.str "cn") (some (.str "a")) none,
        .criterion (.str "sn") (some (.str "=")) (some (.str "b")), .misfit] :=
  rfl

end Additions

/-! ## Where a call stops -/

namespace Addition

variable {bucket raw : Value} {addition : Addition} {additions : List Addition}
  {failure other : Failure} {builder after : Builder} {first : List (Bucket × Filter)}

/-- An addition adds its fragments, or it fails and changes nothing. -/
theorem run_add (addition : Addition) (bucket raw : Value) (builder : Builder) :
    (addition.add bucket raw).run.run builder =
      match addition.fragments builder.newNested bucket raw with
      | .ok added => (.ok (), builder.followedBy added)
      | .error failure => (.error failure, builder) := by
  cases addition with
  | criterion attr operator value =>
      unfold add fragments Building.addCriterion Building.update
      rw [Building.run_bind, Building.run_get]
      dsimp only
      cases Builder.criterion attr operator value raw with
      | error failure => rfl
      | ok node =>
          exact congrArg (Prod.mk (Except.ok ()))
            (builder.push_eq_followedBy (Builder.criterionBucket bucket) node)
  | callback clauses =>
      unfold add fragments
      rw [Building.run_bind, Building.run_get]
      dsimp only
      rw [Building.run_bind, Building.run_onOther]
      rcases (Clause.runAll clauses).run.run builder.newNested with ⟨_ | _, nested⟩
      · rfl
      · exact Building.run_addNested _ nested builder
  | misfit => rfl

theorem run_forM_add_nil :
    (forM [] (add bucket raw)).run.run builder = (.ok (), builder) :=
  rfl

theorem run_forM_add_cons :
    (forM (addition :: additions) (add bucket raw)).run.run builder =
      match addition.fragments builder.newNested bucket raw with
      | .ok added => (forM additions (add bucket raw)).run.run (builder.followedBy added)
      | .error failure => (.error failure, builder) := by
  rw [List.forM_cons, Building.run_bind, run_add]
  cases addition.fragments builder.newNested bucket raw <;> rfl

/-- All additions are made just when each of them has its fragments. -/
theorem run_forM_add_eq_ok_iff :
    (forM additions (add bucket raw)).run.run builder = (.ok (), after) ↔
      ∃ added, allFragments builder.newNested bucket raw additions = .ok added ∧
        after = builder.followedBy added := by
  induction additions generalizing builder with
  | nil =>
      rw [run_forM_add_nil, Building.outcome_inj, allFragments_nil]
      simp [builder.followedBy_nil, eq_comm]
  | cons addition additions ih =>
      rw [run_forM_add_cons]
      cases h : addition.fragments builder.newNested bucket raw with
      | error failure =>
          rw [Building.outcome_inj, allFragments_cons_of_error h]
          simp
      | ok first =>
          simp only [allFragments_cons_eq_ok_iff h]
          refine ih.trans ⟨?_, ?_⟩
          · rintro ⟨rest, hrest, rfl⟩
            exact ⟨first ++ rest, ⟨rest, hrest, rfl⟩, (builder.followedBy_append first rest).symm⟩
          · rintro ⟨_, ⟨rest, hrest, rfl⟩, rfl⟩
            exact ⟨rest, hrest, builder.followedBy_append first rest⟩

theorem isLeftBy_cons_of_error
    (h : addition.fragments builder.newNested bucket raw = .error other) :
    builder.IsLeftBy (addition :: additions) bucket raw failure after ↔
      other = failure ∧ builder = after := by
  constructor
  · rintro ⟨done, failing, rest, added, hadditions, hdone, hfailing, rfl⟩
    rcases List.cons_eq_append_iff.1 hadditions with ⟨rfl, hfirst⟩ | ⟨done, rfl, -⟩
    · cases hfirst
      cases hdone
      rw [h] at hfailing
      exact ⟨Except.error.inj hfailing, builder.followedBy_nil.symm⟩
    · rw [allFragments_cons_of_error h] at hdone
      cases hdone
  · rintro ⟨rfl, rfl⟩
    exact ⟨[], addition, additions, [], rfl, allFragments_nil, h, builder.followedBy_nil.symm⟩

theorem isLeftBy_cons_of_ok (h : addition.fragments builder.newNested bucket raw = .ok first) :
    builder.IsLeftBy (addition :: additions) bucket raw failure after ↔
      (builder.followedBy first).IsLeftBy additions bucket raw failure after := by
  constructor
  · rintro ⟨done, failing, rest, added, hadditions, hdone, hfailing, rfl⟩
    rcases List.cons_eq_append_iff.1 hadditions with ⟨rfl, hfirst⟩ | ⟨done, rfl, hrest⟩
    · cases hfirst
      rw [h] at hfailing
      cases hfailing
    · obtain ⟨others, hothers, rfl⟩ := (allFragments_cons_eq_ok_iff h).1 hdone
      -- what is added leaves the builder that callbacks start from as it is
      exact ⟨done, failing, rest, others, hrest, hothers, hfailing,
        builder.followedBy_append first others⟩
  · rintro ⟨done, failing, rest, added, rfl, hdone, hfailing, rfl⟩
    exact ⟨addition :: done, failing, rest, first ++ added, rfl,
      (allFragments_cons_eq_ok_iff h).2 ⟨added, hdone, rfl⟩, hfailing,
      (builder.followedBy_append first added).symm⟩

/-- The additions fail just when one of them fails after those before it are made. -/
theorem run_forM_add_eq_error_iff :
    (forM additions (add bucket raw)).run.run builder = (.error failure, after) ↔
      builder.IsLeftBy additions bucket raw failure after := by
  induction additions generalizing builder with
  | nil =>
      rw [run_forM_add_nil, Building.outcome_inj]
      simp [Builder.IsLeftBy]
  | cons addition additions ih =>
      rw [run_forM_add_cons]
      cases h : addition.fragments builder.newNested bucket raw with
      | error other =>
          rw [Building.outcome_inj, isLeftBy_cons_of_error h, Except.error.injEq]
      | ok first =>
          rw [isLeftBy_cons_of_ok h]
          exact ih

end Addition

namespace Building

variable {α : Type} {action : Building Unit} {reply : α} {failure : Failure}
  {builder after : Builder}

/-- An action with a reply runs through just when the action does. -/
theorem run_reply_eq_ok_iff :
    (do action; pure reply : Building α).run.run builder = (.ok reply, after) ↔
      action.run.run builder = (.ok (), after) := by
  rw [run_bind]
  rcases action.run.run builder with ⟨other | _, left⟩ <;>
    exact outcome_inj.trans (.trans (by simp) outcome_inj.symm)

/-- An action with a reply fails just when the action does. -/
theorem run_reply_eq_error_iff :
    (do action; pure reply : Building α).run.run builder = (.error failure, after) ↔
      action.run.run builder = (.error failure, after) := by
  rw [run_bind]
  rcases action.run.run builder with ⟨other | _, left⟩ <;>
    exact outcome_inj.trans (.trans (by simp) outcome_inj.symm)

end Building

namespace Clause

/-- A callback that fails adds nothing, whatever it collected before. -/
theorem run_nest_callback_eq_error_iff {nesting : Nesting} {number : Nat} {clauses : List Clause}
    {failure : Failure} {builder after : Builder} :
    (Clause.nest nesting (.callback number clauses)).run.run.run builder = (.error failure, after) ↔
      after = builder ∧ ∃ nested, (Clause.runAll clauses).run.run builder.newNested =
        (.error failure, nested) := by
  unfold Clause.run Value.collect
  rw [Building.run_bind, Building.run_bind, Building.run_get]
  dsimp only
  rw [Building.run_onOther]
  rcases (Clause.runAll clauses).run.run builder.newNested with ⟨other | _, collected⟩
  · refine Building.outcome_inj.trans ⟨?_, ?_⟩
    · rintro ⟨hfailure, rfl⟩
      cases hfailure
      exact ⟨rfl, collected, rfl⟩
    · rintro ⟨rfl, nested, hnested⟩
      cases hnested
      exact ⟨rfl, rfl⟩
  · dsimp only
    rw [Building.run_reply_eq_error_iff, Building.run_addNested, Building.outcome_inj]
    constructor
    · rintro ⟨hfailure, -⟩
      cases hfailure
    · rintro ⟨-, nested, hnested⟩
      cases hnested

/-- A call for criteria, whatever its arguments hold, makes all its additions or fails at one of
them and leaves those before it. A callback that fails leaves the builder as it is. -/
theorem where_leaves_additions (attr : Value) (operator value : Option Value) (bucket raw : Value)
    (failure : Failure) (builder after : Builder) :
    ((Clause.where_ attr operator value bucket raw).run.run.run builder = (.ok .self, after) ↔
      ∃ added, Addition.allFragments builder.newNested bucket raw (attr.additions operator value) =
        .ok added ∧ after = builder.followedBy added) ∧
    ((Clause.where_ attr operator value bucket raw).run.run.run builder = (.error failure, after) ↔
      builder.IsLeftBy (attr.additions operator value) bucket raw failure after) ∧
    ∀ nesting number clauses,
      (Clause.nest nesting (.callback number clauses)).run.run.run builder =
          (.error failure, after) ↔
        after = builder ∧ ∃ nested, (Clause.runAll clauses).run.run builder.newNested =
          (.error failure, nested) := by
  have hrun : (Clause.where_ attr operator value bucket raw).run = (do
      forM (attr.additions operator value) (Addition.add bucket raw)
      return .self) := by
    unfold Clause.run
    rw [attr.addWhere_eq]
  rw [hrun, Building.run_reply_eq_ok_iff, Building.run_reply_eq_error_iff]
  exact ⟨Addition.run_forM_add_eq_ok_iff, Addition.run_forM_add_eq_error_iff,
    fun _ _ _ => run_nest_callback_eq_error_iff⟩

end Clause

end Directory
