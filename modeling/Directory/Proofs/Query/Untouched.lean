import Directory.Proofs.Query.Chunk

/-!
# What executing a query leaves alone

Executing a query works on a builder of its own. `Query.Untouched` says that the builder of the
query is as it was, and that what was searched for in between is what a builder asks for. A query
that is executed in chunks lets a callback have the query while pages are still to come;
`Query.Reached` takes such an execution apart into the calls of the callback and what is done
between them. The query is untouched between the calls, whatever the calls do to its builder, and
every search is for what the builder asked for at the start.
-/

namespace Directory

open Directory.Action

/-- What is searched for: where, by which filter, for which attributes and for how many entries. -/
structure SearchRequest where
  scope : Scope
  base : Value
  filter : Value
  attrs : Value
  limit : Value

/-- What was searched for, if the record is of a search. -/
def Record.search? : Record → Option SearchRequest
  | .direct _ (.search scope base filter attrs limit _)
  | .wire (.search scope base filter attrs limit _ _) => some ⟨scope, base, filter, attrs, limit⟩
  | _ => none

/-- What was searched for so far. -/
def World.searches (world : World) : List SearchRequest :=
  world.records.filterMap Record.search?

/-- The search for everything that a builder asks for. -/
def Builder.unbounded (builder : Builder) : Except Failure SearchRequest :=
  return ⟨builder.scope, builder.base, .str (← builder.query), .list (← builder.selects), .int 0⟩

/-! ## The searches of an action -/

theorem World.searches_append (world : World) (record : Record) :
    ({ world with records := world.records ++ [record] } : World).searches =
      world.searches ++ record.search?.toList := by
  unfold searches
  rw [List.filterMap_append, List.filterMap_cons, List.filterMap_nil]
  cases record.search? <;> rfl

theorem World.searches_of_none (world : World) {record : Record} (h : record.search? = none) :
    ({ world with records := world.records ++ [record] } : World).searches = world.searches := by
  rw [searches_append, h, Option.toList_none, List.append_nil]

theorem Record.search?_eq_none {record : Record} (h : record.isSearch = false) :
    record.search? = none := by
  cases record with
  | direct number request => cases request <;> first | rfl | cases h
  | wire request => cases request <;> first | rfl | cases h
  | _ => rfl

/-- Nothing is searched for by what goes on between transports, servers and listeners but
searches. -/
theorem Effect.isAloof_searches : Effect.IsAloof World.searches where
  records := fun world record hheard =>
    world.searches_of_none (by cases record <;> first | rfl | cases hheard)
  dispatchers := fun _ _ => rfl
  heard := fun _ _ => rfl
  loggers := fun _ _ => rfl
  requests := fun world _ _ hsearch => world.searches_of_none (Record.search?_eq_none hsearch)
  script := fun _ _ => rfl
  clock := fun _ _ => rfl
  announced := fun _ _ => rfl

/-- Between two worlds nothing else was searched for. -/
def World.SearchesOnly (asked : SearchRequest) (before after : World) : Prop :=
  ∃ made, after.searches = before.searches ++ made ∧ ∀ request ∈ made, request = asked

namespace World.SearchesOnly

variable {asked : SearchRequest} {before between after : World}

theorem of_eq (h : after.searches = before.searches) : SearchesOnly asked before after :=
  ⟨[], by rw [h, List.append_nil], by simp⟩

theorem trans (h : SearchesOnly asked before between) (hnext : SearchesOnly asked between after) :
    SearchesOnly asked before after := by
  obtain ⟨made, hmade, hasked⟩ := h
  obtain ⟨more, hmore, hagain⟩ := hnext
  refine ⟨made ++ more, by rw [hmore, hmade, List.append_assoc], fun request hmem => ?_⟩
  rcases List.mem_append.1 hmem with hmem | hmem
  · exact hasked request hmem
  · exact hagain request hmem

/-- A search that is recorded, and answered by the script. -/
theorem of_record {record : Record} (h : record.search? = some asked)
    (script : Queue → List Outcome) :
    SearchesOnly asked before { before with records := before.records ++ [record], script } :=
  ⟨[asked], (before.searches_append record).trans (by rw [h]; rfl), by simp⟩

end World.SearchesOnly

namespace Transport

variable {asked : SearchRequest} {before : World} {α : Type}

theorem upholds_of_spares {action : Action Transport α} (h : Spares World.searches action) :
    Upholds (fun state => World.SearchesOnly asked before state.2) action :=
  fun start hstart => hstart.trans (.of_eq (h start))

theorem upholds_directAsk {request : Request}
    (h : ∀ number, (Record.direct number request).search? = some asked) :
    Upholds (fun state => World.SearchesOnly asked before state.2) (Direct.ask request) := by
  refine Upholds.bind Upholds.state fun transport => ?_
  split
  next number _ _ _ =>
    intro start hstart
    have hrecord : (Effect.record (.direct number request)).run.run start.2 =
      (.ok (), { start.2 with records := start.2.records ++ [.direct number request] }) := rfl
    rw [exec_outside, Effect.run_bind, hrecord]
    dsimp only
    rw [Effect.run_take]
    exact hstart.trans (.of_record (h number) _)
  next => exact Upholds.pure _

theorem upholds_wireAsk {request : WireRequest}
    (h : (Record.wire request).search? = some asked) :
    Upholds (fun state => World.SearchesOnly asked before state.2) (Wire.ask request) := by
  intro start hstart
  rw [exec_ask]
  refine World.SearchesOnly.trans hstart ?_
  show World.SearchesOnly asked start.2 (start.2.afterCall request)
  unfold World.afterCall
  cases request.queue? with
  | none => exact .of_record h start.2.script
  | some queue => exact .of_record h _

/-- A search asks for what it is given to search for, and for nothing else. -/
theorem searchesOnly_search (scope : Scope) (base filter : Value) {attrs : List Value}
    (hattrs : attrs ≠ []) (limit : Value) (controls : Option (List Control))
    (start : Transport × World) :
    World.SearchesOnly ⟨scope, base, filter, .list attrs, limit⟩ start.2
      (exec (search scope base filter (.list attrs) limit controls) start).2.2 := by
  let asked : SearchRequest := ⟨scope, base, filter, .list attrs, limit⟩
  let inv (state : Transport × World) : Prop := World.SearchesOnly asked start.2 state.2
  have hshown : (Value.list attrs).orElse (.str "*") = .list attrs := Value.orElse_list hattrs _
  have hdirect : Upholds inv (Direct.search scope base filter (.list attrs) limit controls) :=
    Upholds.bind (upholds_directAsk fun _ => rfl) fun _ => Upholds.pure _
  have hwire : Upholds inv (Wire.search scope base filter (.list attrs) limit controls) := by
    refine Upholds.bind (Upholds.lift _) fun _ => Upholds.bind (Upholds.lift _) fun parts => ?_
    have hasked : Upholds inv (Wire.ask (.search scope base filter ((Value.list attrs).orElse
        (.str "*")) limit parts.1 parts.2)) :=
      upholds_wireAsk (by rw [hshown]; rfl)
    have hoperation := Upholds.bind hasked fun _ => upholds_of_spares (spares_readFound scope)
    exact Meets.upholds (meets_guarded ((Meets.of_ends hoperation).restrict fun _ h => h.1)
      (fun _ h _ => h) fun _ _ h => h)
  have hsearch := Meets.upholds (meets_choose
    ((Meets.of_ends hdirect).restrict fun _ h => h.1)
    ((Meets.of_ends hwire).restrict fun _ h => h.1))
  exact hsearch start (World.SearchesOnly.of_eq rfl)

end Transport

namespace Query

variable {callback : Nat → Value → Action Query Value} {start between ending : Query × World}
  {α : Type}

/-! ## Between the calls of a callback -/

/-- The builder of the query is as it was, and the searches that were made are those that a builder
asks for. -/
structure Untouched (asking : Builder) (start ending : Query × World) : Prop where
  builder : ending.1.builder = start.1.builder
  searches : ∃ made, ending.2.searches = start.2.searches ++ made ∧
    ∀ request ∈ made, asking.unbounded = .ok request

namespace Untouched

variable {asking : Builder}

theorem refl (asking : Builder) (start : Query × World) : Untouched asking start start :=
  ⟨rfl, [], (List.append_nil _).symm, by simp⟩

theorem trans (h : Untouched asking start between) (hnext : Untouched asking between ending) :
    Untouched asking start ending where
  builder := hnext.builder.trans h.builder
  searches := by
    obtain ⟨made, hmade, hasked⟩ := h.searches
    obtain ⟨more, hmore, hagain⟩ := hnext.searches
    refine ⟨made ++ more, by rw [hmore, hmade, List.append_assoc], fun request hmem => ?_⟩
    rcases List.mem_append.1 hmem with hmem | hmem
    · exact hasked request hmem
    · exact hagain request hmem

theorem of_spares {action : Action Query α} (hbuilder : Keeps Query.builder action)
    (h : Spares World.searches action) (start : Query × World) :
    Untouched asking start (exec action start).2 where
  builder := hbuilder start
  searches := ⟨[], by rw [h start, List.append_nil], by simp⟩

/-- What is done with the connection of a query does not touch its builder. -/
theorem of_link {action : Action Connection α} (h : Spares World.searches action)
    (start : Query × World) : Untouched asking start (exec (action.on link) start).2 :=
  of_spares (Keeps.on fun _ _ => rfl) (Spares.on h) start

end Untouched

/-- A search with the options of a builder, but for its limit, is one that the builder asks for. -/
theorem untouched_fetching {asking copied : Builder} {filter : String}
    (hclone : asking.clone = .ok copied) (hfilter : asking.query = .ok filter)
    (controls : Option (List Control)) (start : Query × World) :
    Untouched asking start
      (exec (fetching { copied with limit := 0 } (.str filter) controls) start).2 := by
  obtain ⟨-, rfl⟩ := Builder.clone_eq_ok_iff.1 hclone
  refine ⟨rfl, ?_⟩
  unfold fetching execute
  rw [exec_on, exec_bind, exec_lift]
  cases hselects : Builder.selects { asking with
      fragments := { asking.fragments with others := [] }, limit := 0 } with
  | error failure => exact ⟨[], (List.append_nil _).symm, by simp⟩
  | ok attrs =>
      obtain ⟨made, hmade, hasked⟩ := Transport.searchesOnly_search asking.scope asking.base
        (.str filter) (Builder.selects_ne_nil hselects) (.int 0) controls
        ((link.andThen Connection.link).get start.1, start.2)
      refine ⟨made, hmade, fun request hmem => ?_⟩
      have hattrs : asking.selects = .ok attrs := hselects
      rw [hasked request hmem, Builder.unbounded, hfilter, hattrs]
      rfl

/-- A state that an execution in chunks gets to: the callback is called with pages, and before,
between and after its calls the query is untouched. -/
inductive Reached (callback : Nat → Value → Action Query Value) (start : Query × World) :
    List (Nat × Value) → Query × World → Prop
  | untouched {ending : Query × World} (h : Untouched start.1.builder start ending) :
      Reached callback start [] ending
  | called {calls : List (Nat × Value)} {number : Nat} {entries : Value}
      {between ending : Query × World} (hbefore : Reached callback start calls between)
      (h : Untouched start.1.builder (exec (callback number entries) between).2 ending) :
      Reached callback start (calls ++ [(number, entries)]) ending

namespace Reached

variable {calls : List (Nat × Value)}

theorem refl (callback : Nat → Value → Action Query Value) (start : Query × World) :
    Reached callback start [] start :=
  .untouched (.refl _ start)

theorem andThen (h : Reached callback start calls between)
    (hnext : Untouched start.1.builder between ending) : Reached callback start calls ending := by
  cases h with
  | untouched huntouched => exact .untouched (huntouched.trans hnext)
  | called hbefore huntouched => exact .called hbefore (huntouched.trans hnext)

/-- A callback that leaves the builder alone is the only one that could touch it. -/
theorem builder_eq (h : Reached callback start calls ending)
    (hcallback : ∀ number entries, Keeps Query.builder (callback number entries)) :
    ending.1.builder = start.1.builder := by
  induction h with
  | untouched huntouched => exact huntouched.builder
  | called _ huntouched ih => exact huntouched.builder.trans ((hcallback _ _ _).trans ih)

end Reached

/-- The state is one that an execution in chunks gets to. -/
def IsReached (callback : Nat → Value → Action Query Value) (start state : Query × World) : Prop :=
  ∃ calls, Reached callback start calls state

theorem upholds_of_untouched {action : Action Query α}
    (h : ∀ state, Untouched start.1.builder state (exec action state).2) :
    Upholds (IsReached callback start) action :=
  fun state ⟨calls, hreached⟩ => ⟨calls, hreached.andThen (h state)⟩

theorem upholds_callback (number : Nat) (entries : Value) :
    Upholds (IsReached callback start) (callback number entries) :=
  fun _ ⟨_, hreached⟩ => ⟨_, .called hreached (.refl _ _)⟩

/-! ## Executing in chunks -/

theorem upholds_handing (number : Nat) (entries : Value) (result : Bool) :
    Upholds (IsReached callback start) (handing callback number entries result) := by
  refine Upholds.bind (upholds_callback number entries) fun answer => ?_
  split
  · exact Upholds.pure _
  · exact Upholds.pure _

theorem upholds_chunking {copied : Builder} {filter : String}
    (hclone : start.1.builder.clone = .ok copied) (hfilter : start.1.builder.query = .ok filter)
    (perPage critical : Value) :
    Upholds (IsReached callback start) (chunking { copied with limit := 0 } filter perPage critical
      callback) := by
  unfold chunking
  intro state hstate
  rw [exec_bind, exec_lift]
  cases hpaging : Paging.make (.str filter) perPage critical with
  | error failure => exact hstate
  | ok paging =>
      obtain rfl := Paging.eq_of_make hpaging
      have hmost : Upholds (IsReached callback start)
          (Action.outside (Paging.mostPages copied.scope)) :=
        upholds_of_untouched (.of_spares (Keeps.outside _) (Spares.outside fun _ => rfl))
      exact Upholds.bind hmost (fun rounds => Paging.upholds_foldFrom_of
        (fun controls => upholds_of_untouched (untouched_fetching hclone hfilter controls))
        upholds_handing rounds 1 _ true) state hstate

/-- A query that is executed in chunks gets to such states only. -/
theorem isReached_chunk (perPage critical : Value)
    (callback : Nat → Value → Action Query Value) (start : Query × World) :
    IsReached callback start (exec (chunk perPage critical callback) start).2 := by
  have haloof := Effect.isAloof_searches
  have hlink {α : Type} {action : Action Connection α} (h : Spares World.searches action) :
      Upholds (IsReached callback start) (action.on link) :=
    upholds_of_untouched (.of_link h)
  have hstart : IsReached callback start start := ⟨[], .refl callback start⟩
  rw [chunk_eq, exec_bind, exec_state]
  dsimp only
  rw [exec_bind, exec_lift]
  cases hclone : start.1.builder.clone with
  | error failure => exact hstart
  | ok copied =>
      have hquery : Builder.query { copied with limit := 0 } = start.1.builder.query := by
        obtain ⟨-, rfl⟩ := Builder.clone_eq_ok_iff.1 hclone
        rfl
      dsimp only
      rw [exec_bind, exec_lift, hquery]
      cases hfilter : start.1.builder.query with
      | error failure => exact hstart
      | ok filter =>
          have hrun := Connection.upholds_runWithin_of isLawful_link
            (fun hostname => hlink (Connection.spares_noteAttempt hostname))
            (fun hostname => hlink (Connection.spares_reconnectTo haloof hostname))
            (upholds_chunking hclone hfilter perPage critical)
            (hlink (Connection.spares_connect haloof .null .null))
          have hnow : Upholds (IsReached callback start) (Action.outside Effect.now) :=
            upholds_of_untouched (.of_spares (Keeps.outside _) (Spares.outside haloof.now))
          exact Upholds.bind hnow (fun started => Upholds.bind hrun fun isComplete =>
            Upholds.bind Upholds.state fun query => Upholds.bind
              (hlink (spares_announce haloof "chunk" query.builder filter started)) fun _ =>
              Upholds.pure isComplete) start hstart

/-! ## Executing at once -/

theorem keeps_builder_on_link (action : Action Connection α) :
    Keeps Query.builder (action.on link) :=
  Keeps.on fun _ _ => rfl

theorem keeps_builder_get (attrs : List Value) : Keeps Query.builder (get attrs) :=
  Keeps.bind Keeps.state fun _ => Keeps.bind (Keeps.lift _) fun _ => keeps_builder_on_link _

theorem keeps_builder_first (attrs : List Value) : Keeps Query.builder (first attrs) :=
  Keeps.bind Keeps.state fun _ => keeps_builder_on_link _

theorem keeps_builder_find (name : Value) (attrs : List Value) :
    Keeps Query.builder (find name attrs) :=
  Keeps.bind Keeps.state fun _ => Keeps.bind (Keeps.lift _) fun _ => keeps_builder_on_link _

theorem keeps_builder_findBy (attr value : Value) (attrs : List Value) :
    Keeps Query.builder (findBy attr value attrs) :=
  Keeps.bind Keeps.state fun _ => Keeps.bind (Keeps.lift _) fun _ =>
    Keeps.bind (Keeps.lift _) fun _ => keeps_builder_on_link _

theorem keeps_builder_paginate (perPage critical : Value) :
    Keeps Query.builder (paginate perPage critical) :=
  Keeps.bind Keeps.state fun _ => Keeps.bind (Keeps.lift _) fun _ =>
    Keeps.bind (Keeps.outside _) fun _ => Keeps.bind (keeps_builder_on_link _) fun _ =>
    Keeps.bind (keeps_builder_on_link _) fun _ => Keeps.bind (Keeps.lift _) fun _ => Keeps.pure _

/-- Executing a query leaves its builder as it was, whether or not it fails. In chunks, nothing but
the callback touches the builder, and whatever the callback makes of it, all that is searched for
between the calls is what the builder asked for at the start, without a bound. -/
theorem execution_leaves_builder (start : Query × World) :
    (∀ attrs, (exec (get attrs) start).2.1.builder = start.1.builder) ∧
    (∀ attrs, (exec (first attrs) start).2.1.builder = start.1.builder) ∧
    (∀ name attrs, (exec (find name attrs) start).2.1.builder = start.1.builder) ∧
    (∀ attr value attrs, (exec (findBy attr value attrs) start).2.1.builder = start.1.builder) ∧
    (∀ perPage critical, (exec (paginate perPage critical) start).2.1.builder = start.1.builder) ∧
    ∀ perPage critical callback,
      (∃ calls, Reached callback start calls (exec (chunk perPage critical callback) start).2) ∧
      ((∀ number entries, Keeps Query.builder (callback number entries)) →
        (exec (chunk perPage critical callback) start).2.1.builder = start.1.builder) := by
  refine ⟨fun attrs => keeps_builder_get attrs start, fun attrs => keeps_builder_first attrs start,
    fun name attrs => keeps_builder_find name attrs start,
    fun attr value attrs => keeps_builder_findBy attr value attrs start,
    fun perPage critical => keeps_builder_paginate perPage critical start,
    fun perPage critical callback => ?_⟩
  obtain ⟨calls, hreached⟩ := isReached_chunk perPage critical callback start
  exact ⟨⟨calls, hreached⟩, hreached.builder_eq⟩

/-- A callback that moves the query to another base. -/
def moveAway (_ : Nat) (_ : Value) : Action Query Value := do
  Action.change fun query => { query with builder := query.builder.under (.str "ou=b") }
  return .null

-- the second page is still searched for under the first base
example :
    let ended := exec (chunk (.int 1) (.bool false) moveAway)
      (unopened, searched [firstPage, secondPage])
    ended.2.1.builder.base.isStr "ou=b" ∧
      ended.2.2.searches.map (·.base.isStr "") = [true, true] := by
  decide +kernel

end Query

end Directory
