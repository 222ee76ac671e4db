import Directory.Proofs.Query.Meaning

/-!
# Alternatives

A call that adds alternatives takes a criterion, a dictionary, argument lists or a callback.
`MeansOneOf` says that the query then asks for what it required before and for one of everything
that was said as an alternative, so that a further alternative can only widen it. What the query
really asks for is said by `parts`: plain alternatives are one part, and every callback is a part of
its own, which is required and not an alternative. So the two agree just when all parts do.
-/

namespace Directory

/-! ## What alternatives say -/

/-- A call that adds alternatives, and whether their values are left unescaped. -/
structure AlternativeCall where
  isRaw : Bool
  criteria : Criteria

/-- The clause of a call. -/
def AlternativeCall.clause (call : AlternativeCall) : FilterClause :=
  .where_ true call.isRaw call.criteria

/-- A piece of what is said as an alternative: whether a criterion is true, or which of the
fragments that a callback collected are true. -/
inductive Piece where
  | plain (truth : Bool)
  | callback (truths : List Bool)

namespace Piece

/-- The truth of everything in a piece. -/
def truths : Piece → List Bool
  | plain truth => [truth]
  | callback truths => truths

/-- One of everything that is said is true, if anything is said. -/
def oneOf (pieces : List Piece) : Bool :=
  (pieces.flatMap truths).isEmpty || (pieces.flatMap truths).any id

/-- Whether the criterion is true, if the piece is not what a callback collected. -/
def plain? : Piece → Option Bool
  | plain truth => some truth
  | callback _ => none

/-- Whether one fragment of the callback is true, if the piece is what a callback collected and it
collected something. -/
def callback? : Piece → Option Bool
  | plain _ => none
  | callback truths => if truths.isEmpty then none else some (truths.any id)

/-- The criteria outside of callbacks. -/
def plains (pieces : List Piece) : List Bool :=
  pieces.filterMap plain?

/-- Whether one fragment is true, for each callback that collected something. -/
def callbacks (pieces : List Piece) : List Bool :=
  pieces.filterMap callback?

/-- The parts of what is said: one of the criteria outside of callbacks is true, if there are any,
and one fragment of each callback. -/
def parts (pieces : List Piece) : List Bool :=
  (if (plains pieces).isEmpty then [] else [(plains pieces).any id]) ++ callbacks pieces

/-- All parts are true, or all are false. -/
def Agree (pieces : List Piece) : Prop :=
  ∀ part ∈ parts pieces, ∀ other ∈ parts pieces, part = other

end Piece

mutual

/-- The pieces that criteria say. -/
def Criteria.pieces (truth : Filter → Bool) (isRaw : Bool) : Criteria → List Piece
  | .test attr op value =>
    [.plain ((op.filter attr.escaped (value.operand isRaw)).holds truth)]
  | .presence attr isNegated => [.plain (truth (.has attr.escaped) ^^ isNegated)]
  | .equality attr value => [.plain (truth (attr.equalTo isRaw value))]
  | .entries pairs => pairs.map fun (attr, value) => .plain (truth (attr.equalTo isRaw value))
  | .rows lists => Criteria.piecesAll truth isRaw lists
  | .nested _ program => [.callback (FilterClause.judgeAll truth {} program).every]

/-- The pieces that several criteria say. -/
def Criteria.piecesAll (truth : Filter → Bool) (isRaw : Bool) : List Criteria → List Piece
  | [] => []
  | criteria :: lists => criteria.pieces truth isRaw ++ Criteria.piecesAll truth isRaw lists

end

namespace Builder

/-- The query asks for an entry of which the given is true. Without a filter it asks for all
entries. -/
def admits (truth : Filter → Bool) (builder : Builder) : Bool :=
  builder.fragments.toFilter?.all (Filter.holds truth)

/-- Everything that is no alternative is true. -/
def required (truth : Filter → Bool) (builder : Builder) : Bool :=
  (builder.fragments.raw ++ builder.fragments.all).all (Filter.holds truth)

/-- Everything that was said as an alternative, before the calls and by them. -/
def pieces (truth : Filter → Bool) (builder : Builder) (calls : List AlternativeCall) :
    List Piece :=
  (builder.fragments.any.map fun node => .plain (node.holds truth)) ++
    calls.flatMap fun call => call.criteria.pieces truth call.isRaw

/-- Call a builder to add alternatives. -/
def orWhere (builder : Builder) (calls : List AlternativeCall) : Except Failure Unit × Builder :=
  (Clause.runAll (FilterClause.clauses (calls.map AlternativeCall.clause))).run.run builder

/-- The calls run through, and the query asks for what was required and for one of everything that
was said as an alternative. An alternative after another one only widens the query. -/
structure MeansOneOf (truth : Filter → Bool) (builder : Builder) (calls : List AlternativeCall) :
    Prop where
  admits : ∃ after, builder.orWhere calls = (.ok (), after) ∧
    after.admits truth = (builder.required truth && Piece.oneOf (builder.pieces truth calls))
  widens : ∀ earlier later, calls = earlier ++ later →
    (builder.pieces truth earlier).flatMap Piece.truths ≠ [] →
    ∀ before after, builder.orWhere earlier = (.ok (), before) →
      builder.orWhere calls = (.ok (), after) →
      before.admits truth = true → after.admits truth = true

end Builder

/-! ## Parts -/

namespace Piece

variable {pieces more : List Piece}

theorem plains_append : plains (pieces ++ more) = plains pieces ++ plains more :=
  List.filterMap_append

theorem callbacks_append : callbacks (pieces ++ more) = callbacks pieces ++ callbacks more :=
  List.filterMap_append

theorem plains_map {α : Type} (f : α → Bool) (items : List α) :
    plains (items.map fun item => .plain (f item)) = items.map f := by
  simp [plains, plain?, List.filterMap_map, Function.comp_def]

theorem callbacks_map {α : Type} (f : α → Bool) (items : List α) :
    callbacks (items.map fun item => .plain (f item)) = [] := by
  simp [callbacks, callback?]

theorem truths_eq_nil_iff (piece : Piece) :
    piece.truths = [] ↔ piece.plain? = none ∧ piece.callback? = none := by
  cases piece with
  | plain truth => simp [truths, plain?]
  | callback truths => simp [Piece.truths, plain?, callback?]

theorem true_mem_truths_iff (piece : Piece) :
    true ∈ piece.truths ↔ piece.plain? = some true ∨ piece.callback? = some true := by
  cases piece with
  | plain truth => simp [truths, plain?, callback?, eq_comm]
  | callback truths =>
      have hne (h : true ∈ truths) : truths ≠ [] := List.ne_nil_of_mem h
      simp only [Piece.truths, plain?, callback?]
      cases truths <;> simp

theorem parts_all : (parts pieces).all id =
    (((plains pieces).isEmpty || (plains pieces).any id) && (callbacks pieces).all id) := by
  unfold parts
  cases plains pieces <;> simp

/-- There are no parts just when nothing is said. -/
theorem parts_eq_nil_iff : parts pieces = [] ↔ pieces.flatMap truths = [] := by
  have hparts : parts pieces = [] ↔ plains pieces = [] ∧ callbacks pieces = [] := by
    unfold parts
    cases plains pieces <;> simp
  rw [hparts]
  simp [plains, callbacks, truths_eq_nil_iff, forall_and]

/-- A part is true just when something that is said is. -/
theorem true_mem_parts_iff : true ∈ parts pieces ↔ true ∈ pieces.flatMap truths := by
  have hparts : true ∈ parts pieces ↔ true ∈ plains pieces ∨ true ∈ callbacks pieces := by
    unfold parts
    cases plains pieces <;> simp
  rw [hparts]
  simp [plains, callbacks, true_mem_truths_iff, and_or_left, exists_or]

theorem oneOf_iff : oneOf pieces = true ↔ parts pieces = [] ∨ true ∈ parts pieces := by
  rw [parts_eq_nil_iff, true_mem_parts_iff]
  simp [oneOf]

/-- That all parts are true is the same as that one of everything is, just when the parts agree. -/
theorem parts_all_eq_oneOf_iff : (parts pieces).all id = oneOf pieces ↔ Agree pieces := by
  rw [Bool.eq_iff_iff, oneOf_iff, List.all_eq_true]
  constructor
  · intro h part hpart other hother
    have hall (hmem : true ∈ parts pieces) : part = other :=
      (h.2 (.inr hmem) part hpart).trans (h.2 (.inr hmem) other hother).symm
    cases part with
    | true => exact hall hpart
    | false =>
        cases other with
        | true => exact hall hother
        | false => rfl
  · intro hagree
    constructor
    · intro hall
      cases hparts : parts pieces with
      | nil => exact .inl rfl
      | cons part rest =>
          have hpart : part ∈ parts pieces := hparts ▸ List.mem_cons_self
          exact .inr (List.mem_cons.2 (.inl (hall part hpart).symm))
    · rintro (hnil | htrue) part hpart
      · rw [hnil] at hpart
        cases hpart
      · exact hagree part hpart true htrue

end Piece

/-! ## What a call adds -/

namespace Verdicts

/-- Add pieces: what is said outside of callbacks is an alternative, and what a callback says is
required. -/
def addPieces (verdicts : Verdicts) (pieces : List Piece) : Verdicts :=
  { verdicts with
    all := verdicts.all ++ Piece.callbacks pieces
    any := verdicts.any ++ Piece.plains pieces }

theorem addPieces_append (verdicts : Verdicts) (pieces more : List Piece) :
    verdicts.addPieces (pieces ++ more) = (verdicts.addPieces pieces).addPieces more := by
  simp [addPieces, Piece.plains_append, Piece.callbacks_append]

theorem addPieces_nil (verdicts : Verdicts) : verdicts.addPieces [] = verdicts := by
  simp [addPieces, Piece.plains, Piece.callbacks]

theorem addPieces_plain {α : Type} (verdicts : Verdicts) (f : α → Bool) (items : List α) :
    verdicts.addPieces (items.map fun item => .plain (f item)) =
      verdicts.add .any (items.map f) := by
  rw [addPieces, Piece.plains_map, Piece.callbacks_map, List.append_nil]
  rfl

theorem addPieces_callback (verdicts nested : Verdicts) :
    verdicts.addPieces [.callback nested.every] = verdicts.addNested .any nested := by
  have hplains : Piece.plains [.callback nested.every] = [] := rfl
  have hcallbacks : Piece.callbacks [.callback nested.every] =
      if nested.every.isEmpty then [] else [nested.every.any id] := by
    cases nested.every <;> rfl
  unfold addPieces addNested
  rw [hplains, hcallbacks, List.append_nil]
  cases nested.every.isEmpty with
  | true => simp
  | false => rfl

end Verdicts

variable {truth : Filter → Bool}

mutual

/-- Alternatives say their pieces. -/
theorem Criteria.judge_alternative (isRaw : Bool) (verdicts : Verdicts) :
    ∀ criteria : Criteria, criteria.judge truth true isRaw verdicts =
      verdicts.addPieces (criteria.pieces truth isRaw)
  | .test attr op value => by
    unfold Criteria.judge Criteria.pieces
    exact (verdicts.addPieces_plain id [_]).symm
  | .presence attr isNegated => by
    unfold Criteria.judge Criteria.pieces
    exact (verdicts.addPieces_plain id [_]).symm
  | .equality attr value => by
    unfold Criteria.judge Criteria.pieces
    exact (verdicts.addPieces_plain id [_]).symm
  | .entries pairs => by
    unfold Criteria.judge Criteria.pieces
    exact (verdicts.addPieces_plain _ pairs).symm
  | .rows lists => by
    unfold Criteria.judge Criteria.pieces
    exact Criteria.judgeAll_alternative isRaw verdicts lists
  | .nested _ program => by
    unfold Criteria.judge Criteria.pieces
    exact (verdicts.addPieces_callback _).symm

/-- Argument lists say their pieces one after the other. -/
theorem Criteria.judgeAll_alternative (isRaw : Bool) (verdicts : Verdicts) :
    ∀ lists : List Criteria, Criteria.judgeAll truth true isRaw verdicts lists =
      verdicts.addPieces (Criteria.piecesAll truth isRaw lists)
  | [] => by
    unfold Criteria.judgeAll Criteria.piecesAll
    exact verdicts.addPieces_nil.symm
  | criteria :: lists => by
    unfold Criteria.judgeAll Criteria.piecesAll
    rw [Verdicts.addPieces_append, Criteria.judge_alternative isRaw verdicts criteria]
    exact Criteria.judgeAll_alternative isRaw _ lists

end

theorem FilterClause.judgeAll_alternatives (calls : List AlternativeCall) (verdicts : Verdicts) :
    FilterClause.judgeAll truth verdicts (calls.map AlternativeCall.clause) =
      verdicts.addPieces (calls.flatMap fun call => call.criteria.pieces truth call.isRaw) := by
  induction calls generalizing verdicts with
  | nil =>
      rw [List.map_nil, FilterClause.judgeAll]
      exact verdicts.addPieces_nil.symm
  | cons call calls ih =>
      rw [List.map_cons, FilterClause.judgeAll, ih, List.flatMap_cons, Verdicts.addPieces_append]
      unfold AlternativeCall.clause FilterClause.judge
      rw [Criteria.judge_alternative]

theorem FilterClause.areReadable_alternatives {calls : List AlternativeCall}
    (h : ∀ call ∈ calls, call.criteria.IsReadable call.isRaw) :
    FilterClause.AreReadable (calls.map AlternativeCall.clause) := by
  induction calls with
  | nil =>
      rw [List.map_nil, FilterClause.AreReadable]
      trivial
  | cons call calls ih =>
      obtain ⟨hcall, hcalls⟩ := List.forall_mem_cons.1 h
      rw [List.map_cons, FilterClause.AreReadable]
      unfold AlternativeCall.clause FilterClause.IsReadable
      exact ⟨hcall, ih hcalls⟩

namespace Builder

variable {builder : Builder} {calls : List AlternativeCall}

/-- The query asks for what the fragments of the builder say. -/
theorem admits_eq {verdicts : Verdicts} (h : builder.fragments.Mean truth verdicts) :
    builder.admits truth = verdicts.holds := by
  unfold admits
  rcases h.toFilter? with ⟨hevery, hnone⟩ | ⟨-, node, hsome, hholds⟩
  · obtain ⟨hothers, hany⟩ := List.append_eq_nil_iff.1 hevery
    obtain ⟨hraw, hall⟩ := List.append_eq_nil_iff.1 hothers
    rw [hnone, Verdicts.holds, hraw, hall, hany]
    rfl
  · rw [hsome, ← hholds]
    rfl

/-- What was said as an alternative stays when further alternatives are added. -/
theorem pieces_append (earlier later : List AlternativeCall) :
    builder.pieces truth (earlier ++ later) = builder.pieces truth earlier ++
      later.flatMap fun call => call.criteria.pieces truth call.isRaw := by
  simp [pieces]

/-- Plain alternatives are one part of the query, and callbacks are parts of their own. -/
theorem orWhere_eq (hnodes : builder.fragments.Forall (·.isNode = true))
    (h : ∀ call ∈ calls, call.criteria.IsReadable call.isRaw) :
    ∃ after, builder.orWhere calls = (.ok (), after) ∧ ∀ truth,
      after.admits truth =
        (builder.required truth && (Piece.parts (builder.pieces truth calls)).all id) := by
  have hreadable := FilterClause.areReadable_alternatives h
  refine ⟨_, FilterClause.collects_clauses _ hreadable builder, fun truth => ?_⟩
  have hmean : builder.fragments.Mean truth (builder.fragments.verdicts truth) := ⟨hnodes, rfl⟩
  have hafter := FilterClause.mean_collectAll hmean _ hreadable
  rw [FilterClause.judgeAll_alternatives] at hafter
  rw [admits_eq hafter, Piece.parts_all, pieces, Piece.plains_append, Piece.callbacks_append,
    Piece.plains_map, Piece.callbacks_map]
  simp only [Verdicts.holds, Verdicts.addPieces, Fragments.verdicts, required, List.all_append,
    List.all_map, List.nil_append, Function.id_comp]
  ac_rfl

/-- The alternatives mean that one of them is asked for just when all parts agree, wherever
everything that is no alternative is true. -/
theorem orWhere_meansOneOf_iff (hnodes : builder.fragments.Forall (·.isNode = true))
    (h : ∀ call ∈ calls, call.criteria.IsReadable call.isRaw) (truth : Filter → Bool) :
    MeansOneOf truth builder calls ↔
      (builder.required truth = true → Piece.Agree (builder.pieces truth calls)) := by
  obtain ⟨after, hafter, hadmits⟩ := orWhere_eq hnodes h
  rw [← Piece.parts_all_eq_oneOf_iff]
  constructor
  · rintro ⟨⟨other, hother, hmeans⟩, -⟩ hrequired
    cases hafter.symm.trans hother
    rw [hadmits, hrequired] at hmeans
    simpa using hmeans
  · intro hagree
    refine ⟨⟨after, hafter, ?_⟩, ?_⟩
    · rw [hadmits]
      cases hrequired : builder.required truth with
      | false => rfl
      | true => rw [hagree hrequired]
    · rintro earlier later rfl hsaid before other hbefore hother hholds
      cases hafter.symm.trans hother
      obtain ⟨first, hfirst, hearlier⟩ :=
        orWhere_eq hnodes fun call hmem => h call (List.mem_append_left later hmem)
      cases hfirst.symm.trans hbefore
      rw [hearlier, Bool.and_eq_true, List.all_eq_true] at hholds
      obtain ⟨hrequired, hparts⟩ := hholds
      rw [hadmits, hrequired, hagree hrequired, Bool.true_and, Piece.oneOf_iff,
        Piece.true_mem_parts_iff, pieces_append, List.flatMap_append]
      refine .inr (List.mem_append_left _ (Piece.true_mem_parts_iff.1 ?_))
      -- Some part of the earlier alternatives exists, and it is true.
      obtain ⟨part, hpart⟩ :=
        List.exists_mem_of_ne_nil _ fun hnil => hsaid (Piece.parts_eq_nil_iff.1 hnil)
      exact hparts part hpart ▸ hpart

/-- A test of one attribute is true. -/
def truthOf (attr : String) : Filter → Bool
  | .condition _ name _ => name.isStr attr
  | _ => false

/-- Alternatives in each form, of which the plain one and one that the callback collected are true,
so that the parts agree. -/
theorem orWhere_meansOneOf_forms :
    let builder : Builder := {
      fragments := { all := [.condition .equals (.str "cn") (.str "Jane")] } }
    let calls : List AlternativeCall := [⟨false, .test (.str "cn") .startsWith (.str "J")⟩,
      ⟨true, .entries [(.str "sn", .str "D*")]⟩, ⟨false, .rows [.presence (.str "mail") true]⟩,
      ⟨false, .nested 0 [.where_ false false (.equality (.str "sn") (.str "Doe")),
        .where_ false false (.equality (.str "cn") (.str "Jane"))]⟩]
    builder.fragments.Forall (·.isNode = true) ∧
      (∀ call ∈ calls, call.criteria.IsReadable call.isRaw) ∧
      MeansOneOf (truthOf "cn") builder calls := by
  intro builder calls
  have hnodes : builder.fragments.Forall (·.isNode = true) :=
    Fragments.forall_empty.push .all rfl
  have hreadable : ∀ call ∈ calls, call.criteria.IsReadable call.isRaw := by
    simp [calls, FilterClause.AreReadable, FilterClause.IsReadable, Criteria.IsReadable,
      Criteria.AreReadable, Value.isName_str, Value.isOperand_str]
    exact ⟨rfl, rfl⟩
  have hparts : Piece.parts (builder.pieces (truthOf "cn") calls) = [true, true] := rfl
  refine ⟨hnodes, hreadable, (orWhere_meansOneOf_iff hnodes hreadable _).2 fun _ => ?_⟩
  rw [Piece.Agree, hparts]
  decide

/-- After a plain alternative a callback is required, so what the plain alternative alone asked for
is no longer asked for. -/
theorem callback_narrows :
    let plain : AlternativeCall := ⟨false, .equality (.str "cn") (.str "a")⟩
    let callback : AlternativeCall :=
      ⟨false, .nested 0 [.where_ false false (.equality (.str "sn") (.str "b"))]⟩
    (∃ before, ({} : Builder).orWhere [plain] = (.ok (), before) ∧
      before.admits (truthOf "cn") = true) ∧
    (∃ after, ({} : Builder).orWhere [plain, callback] = (.ok (), after) ∧
      after.admits (truthOf "cn") = false) ∧
    ¬ MeansOneOf (truthOf "cn") {} [plain, callback] := by
  intro plain callback
  have hplain : plain.criteria.IsReadable plain.isRaw := by
    unfold Criteria.IsReadable
    exact ⟨Value.isName_str "cn", Value.isOperand_str false "a", rfl⟩
  have hcallback : callback.criteria.IsReadable callback.isRaw := by
    simp only [callback, FilterClause.AreReadable, FilterClause.IsReadable, Criteria.IsReadable]
    exact ⟨⟨Value.isName_str "sn", Value.isOperand_str false "b", rfl⟩, trivial⟩
  have hone : ∀ call ∈ [plain], call.criteria.IsReadable call.isRaw :=
    List.forall_mem_singleton.2 hplain
  have hboth : ∀ call ∈ [plain, callback], call.criteria.IsReadable call.isRaw :=
    List.forall_mem_cons.2 ⟨hplain, List.forall_mem_singleton.2 hcallback⟩
  have hnodes : ({} : Builder).fragments.Forall (·.isNode = true) := Fragments.forall_empty
  obtain ⟨before, hbefore, hadmits⟩ := orWhere_eq hnodes hone
  obtain ⟨after, hafter, hnarrow⟩ := orWhere_eq hnodes hboth
  have hwide : before.admits (truthOf "cn") = true := (hadmits _).trans rfl
  have hempty : after.admits (truthOf "cn") = false := (hnarrow _).trans rfl
  refine ⟨⟨before, hbefore, hwide⟩, ⟨after, hafter, hempty⟩, fun h => ?_⟩
  have hsaid : (pieces (truthOf "cn") {} [plain]).flatMap Piece.truths ≠ [] := by
    simp [pieces, plain, Criteria.pieces, Piece.truths]
  have hwidens := h.widens [plain] [callback] rfl hsaid before after hbefore hafter hwide
  rw [hempty] at hwidens
  cases hwidens

end Builder

end Directory
