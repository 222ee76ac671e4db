import Directory.Query.Execution
import Directory.Proofs.Connection.Recovery
import Directory.Proofs.Paging
import Directory.Proofs.Value.Plain

/-!
# Pages that are handed over again

A query that is executed in chunks hands each page to a callback as soon as it is there, and does so
inside the operation that is run again when the server is lost. The pages of an attempt that was
abandoned have been handed over by then, and the next attempt begins with the first page. So each
page of the result is handed over once just when no attempt was abandoned after its first page.
-/

namespace Directory.Query

open Directory.Action Connection

variable {builder : Builder} {filter : String} {perPage critical : Value}
  {callback : Nat → Value → Action Query Value} {start ending : Query × World}

theorem isLawful_link : link.IsLawful where
  get_put := fun _ _ => rfl
  put_get := fun _ => rfl

/-- A callback, with a record of each page that it is given. -/
def recorded (callback : Nat → Value → Action Query Value) (number : Nat) (entries : Value) :
    Action Query Value := do
  Action.outside (Effect.record (.page number entries))
  callback number entries

/-- Fetch a page with the options of a builder. -/
def fetching (builder : Builder) : Paging.Fetch Query := fun filter controls =>
  (execute builder filter controls).on (link.andThen Connection.link)

/-- Hand a page to a callback, which ends the search by giving `false`. -/
def handing (callback : Nat → Value → Action Query Value) (number : Nat) (entries : Value)
    (_ : Bool) : Action Query (ForInStep Bool) := do
  match ← callback number entries with
  | .bool false => return .done false
  | _ => return .yield true

/-- What is run to execute a query in chunks. -/
def chunking (builder : Builder) (filter : String) (perPage critical : Value)
    (callback : Nat → Value → Action Query Value) : Action Query Bool := do
  let paging ← Paging.make (.str filter) perPage critical
  paging.fold builder.scope (fetching builder) (handing callback) true

theorem chunk_eq (perPage critical : Value) (callback : Nat → Value → Action Query Value) :
    chunk perPage critical callback = (do
      let copied ← (← Action.state).builder.clone
      let builder := { copied with limit := 0 }
      let filter ← builder.query
      let started ← Action.outside Effect.now
      let isComplete ← Connection.runWithin link (chunking builder filter perPage critical callback)
      (announce "chunk" (← Action.state).builder filter started).on link
      return isComplete) :=
  rfl

/-! ## Attempts -/

theorem spares_fetching (filter : Value) (controls : Option (List Control)) :
    Spares World.pages (fetching builder filter controls) :=
  Spares.on <| Spares.bind (Spares.lift _) fun _ =>
    Transport.spares_search Effect.isAloof_pages.isRemote Effect.showsNoSearch_pages _ _ _ _ _ _

theorem handing_ne_done (number : Nat) (entries : Value) (result : Bool)
    (start used : Query × World) :
    exec (handing callback number entries result) start ≠ (.ok (.done true), used) := by
  intro h
  obtain ⟨_, _, -, h⟩ := exec_bind_eq_ok_iff.1 h
  split at h
  · cases h
  · cases h

theorem hands_handing (hcallback : ∀ number entries, Spares World.pages (callback number entries)) :
    Paging.Hands (handing (recorded callback)) := by
  intro number entries result start
  have hrest : Spares World.pages (do
      match ← callback number entries with
      | .bool false => return ForInStep.done false
      | _ => return ForInStep.yield true) := by
    refine Spares.bind (hcallback number entries) fun answer => ?_
    split
    · exact Spares.pure _
    · exact Spares.pure _
  unfold handing recorded
  rw [bind_assoc, exec_bind, exec_outside]
  refine (hrest _).trans ?_
  show List.filterMap Record.page? (start.2.records ++ [.page number entries]) = _
  rw [List.filterMap_append]
  rfl

theorem spares_announce {υ : Type} {view : World → υ} (h : Effect.IsAloof view) (name : String)
    (builder : Builder) (filter : String) (started : Value) :
    Spares view (announce name builder filter started) :=
  Spares.bind (Spares.outside h.now) fun _ => Spares.bind (Spares.lift _)
    fun _ => Spares.bind Spares.state fun _ => Spares.bind (Spares.lift _) fun _ =>
    Connection.spares_announce h _

/-- However an attempt ends, it hands over pages from the first one on. -/
theorem chunking_handsInRow
    (hcallback : ∀ number entries, Spares World.pages (callback number entries))
    (start : Query × World) : World.HandsInRow 1 start.2
      (exec (chunking builder filter perPage critical (recorded callback)) start).2.2 := by
  unfold chunking
  rw [exec_bind, exec_lift]
  cases Paging.make (.str filter) perPage critical with
  | error failure => exact .nil rfl
  | ok paging =>
      exact Paging.foldFrom_handsInRow spares_fetching (hands_handing hcallback) _ 1 _ true start

/-- An attempt that is not abandoned and not ended by the callback hands over the whole result. -/
theorem chunking_delivers
    (h : exec (chunking builder filter perPage critical callback) start = (.ok true, ending)) :
    ∃ pages, Paging.Delivers ⟨.str filter, perPage, critical⟩ (fetching builder)
      (handing callback) 1 (.bytes []) true start pages true ending := by
  obtain ⟨paging, _, hread, h⟩ := exec_bind_eq_ok_iff.1 h
  obtain ⟨hmake, rfl⟩ := exec_lift_eq_ok_iff.1 hread
  obtain rfl := Paging.eq_of_make hmake
  exact Paging.exists_delivers handing_ne_done h

/-! ## The pages of all attempts -/

/-- The pages that are handed over when an operation is run. -/
def handedBy {σ α : Type} (operation : Action σ α) (start : σ × World) : List (Nat × Value) :=
  start.2.handed (exec operation start).2.2

section Attempts

variable {σ α : Type} {focus : Focus σ Connection} {operation : Action σ α}
  {first last : σ × World} {abandoned : List (σ × World)}
  (hrow : ∀ start : σ × World, World.HandsInRow 1 start.2 (exec operation start).2.2)
include hrow

/-- The pages handed over before the last attempt are those of the abandoned ones. -/
theorem pages_of_recovers (h : Recovers focus operation first abandoned last) :
    last.2.pages = first.2.pages ++ abandoned.flatMap (handedBy operation) := by
  induction h with
  | settled last => exact (List.append_nil _).symm
  | lost _ hagain _ ih =>
      rw [ih, hagain.spares Effect.isAloof_pages, (hrow _).pages_eq, List.append_assoc,
        List.flatMap_cons]
      rfl

/-- Every attempt that hands over a page hands over the first one, and so the numbers of all pages
are in a row just when no attempt before the last one handed over any. -/
theorem numbers_eq_range_iff {delivered : List (Nat × Value)} (hne : delivered ≠ [])
    (hnumbers : delivered.map Prod.fst = List.range' 1 delivered.length) :
    let handed := abandoned.flatMap (handedBy operation) ++ delivered
    handed.map Prod.fst = List.range' 1 handed.length ↔
      ∀ reached ∈ abandoned, handedBy operation reached = [] := by
  intro handed
  have hfirst {pages : List (Nat × Value)} (hne : pages ≠ [])
      (hnumbers : pages.map Prod.fst = List.range' 1 pages.length) : 1 ∈ pages.map Prod.fst := by
    rw [hnumbers, List.mem_range'_1]
    have := List.length_pos_iff.2 hne
    omega
  constructor
  · intro hall reached hmem
    by_contra hpages
    have hnodup : (handed.map Prod.fst).Nodup := hall ▸ List.nodup_range'
    rw [List.map_append] at hnodup
    refine (List.nodup_append.1 hnodup).2.2 1 ?_ 1 (hfirst hne hnumbers) rfl
    obtain ⟨page, hpage, hnumber⟩ := List.mem_map.1 (hfirst hpages (hrow reached).numbers)
    exact List.mem_map.2 ⟨page, List.mem_flatMap.2 ⟨reached, hmem, hpage⟩, hnumber⟩
  · intro hnone
    have hhanded : handed = delivered := by
      show abandoned.flatMap (handedBy operation) ++ delivered = delivered
      rw [List.flatMap_eq_nil_iff.2 hnone, List.nil_append]
    rwa [hhanded]

end Attempts

/-- A query that was executed in chunks, and not stopped by the callback, handed over the pages of
the attempts that were abandoned when the server was lost, and then the whole result. Its pages were
numbered in a row, and each was handed over once, just when no abandoned attempt had handed over a
page. -/
theorem chunk_hands_once_iff
    (hcallback : ∀ number entries, Spares World.pages (callback number entries))
    (h : exec (chunk perPage critical (recorded callback)) start = (.ok true, ending)) :
    ∃ copied filter first abandoned last delivered,
      let builder := { copied with limit := 0 }
      let attempt := chunking builder filter perPage critical (recorded callback)
      let handed := start.2.handed ending.2
      start.1.builder.clone = .ok copied ∧ builder.query = .ok filter ∧
        Recovers link attempt first abandoned last ∧
        Paging.Delivers ⟨.str filter, perPage, critical⟩ (fetching builder)
          (handing (recorded callback)) 1 (.bytes []) true last delivered true
          (exec attempt last).2 ∧
        handed = abandoned.flatMap (handedBy attempt) ++ delivered ∧
        (handed.map Prod.fst = List.range' 1 handed.length ↔
          ∀ reached ∈ abandoned, handedBy attempt reached = []) := by
  rw [chunk_eq] at h
  obtain ⟨_, _, hread, h⟩ := exec_bind_eq_ok_iff.1 h
  cases hread
  obtain ⟨copied, _, hread, h⟩ := exec_bind_eq_ok_iff.1 h
  obtain ⟨hclone, rfl⟩ := exec_lift_eq_ok_iff.1 hread
  obtain ⟨filter, _, hread, h⟩ := exec_bind_eq_ok_iff.1 h
  obtain ⟨hfilter, rfl⟩ := exec_lift_eq_ok_iff.1 hread
  obtain ⟨started, begun, hstarted, h⟩ := exec_bind_eq_ok_iff.1 h
  obtain ⟨isComplete, ended, hrun, h⟩ := exec_bind_eq_ok_iff.1 h
  obtain ⟨query, _, hread, h⟩ := exec_bind_eq_ok_iff.1 h
  cases hread
  obtain ⟨_, announced, hannounce, h⟩ := exec_bind_eq_ok_iff.1 h
  cases h
  obtain ⟨opened, abandoned, last, hopen, hrecovers, hlast⟩ :=
    runWithin_recovers Query.isLawful_link hrun
  obtain ⟨delivered, hdelivers⟩ := chunking_delivers hlast
  have hrow (reached : Query × World) : World.HandsInRow 1 reached.2
      (exec (chunking { copied with limit := 0 } filter perPage critical (recorded callback))
        reached).2.2 :=
    chunking_handsInRow hcallback reached
  have hhanded : start.2.handed ending.2 =
      abandoned.flatMap (handedBy (chunking { copied with limit := 0 } filter perPage critical
        (recorded callback))) ++ delivered := by
    refine World.handed_eq ?_
    calc ending.2.pages
        = ended.2.pages :=
          (Spares.on (spares_announce Effect.isAloof_pages _ _ _ _)).view_eq hannounce
      _ = last.2.pages ++ delivered :=
          hdelivers.pages_eq spares_fetching (hands_handing hcallback)
      _ = opened.2.pages ++ _ ++ delivered := by rw [pages_of_recovers hrow hrecovers]
      _ = begun.2.pages ++ _ ++ delivered := by
          rw [(spares_opening Effect.isAloof_pages link).view_eq hopen]
      _ = start.2.pages ++ _ ++ delivered := by
          rw [(Spares.outside Effect.isAloof_pages.now).view_eq hstarted]
      _ = _ := List.append_assoc _ _ _
  refine ⟨copied, filter, opened, abandoned, last, delivered, hclone, hfilter, hrecovers, ?_,
    hhanded, ?_⟩
  · rw [hlast]
    exact hdelivers
  · rw [hhanded]
    exact numbers_eq_range_iff hrow hdelivers.ne_nil hdelivers.numbers

/-- A query of a connection that is not open. -/
def unopened : Query :=
  { builder := .new (.str "") (.bool false)
    connection := {
      configuration := ⟨fun
        | .hosts => .list [.str "foo"]
        | name => name.default⟩
      transport := Transport.direct 0 } }

/-- A callback that goes on to the next page. -/
def goOn (_ : Nat) (_ : Value) : Action Query Value :=
  return .null

/-- A page with the cookie of the next one. -/
def firstPage : Outcome :=
  .gives { entries := .list [.str "cn=a"], cookie := some (.str "next") }

/-- A page without a cookie. -/
def secondPage : Outcome :=
  .gives { entries := .list [.str "cn=b"] }

/-- The loss of the server. -/
def loss : Outcome :=
  .fails { kind := .connection, text := some serverDownMessage }

/-- A world in which searches have the given outcomes. -/
def searched (outcomes : List Outcome) : World :=
  { script := fun
      | .search .subtree => outcomes
      | _ => [] }

/-- What becomes of the query in chunks of one entry. -/
def inChunks (outcomes : List Outcome) : Except Failure Bool × (Query × World) :=
  exec (chunk (.int 1) (.bool false) (recorded goOn)) (unopened, searched outcomes)

/-- Where the server is lost before the first page, each page is handed over once. -/
theorem chunk_hands_once_after_loss :
    let ended := inChunks [loss, firstPage, secondPage]
    let handed := (searched [loss, firstPage, secondPage]).handed ended.2.2
    (∀ number entries, Spares World.pages (goOn number entries)) ∧
      ended = (.ok true, ended.2) ∧ handed.map Prod.fst = [1, 2] ∧
      ∃ copied filter first abandoned last,
        let attempt := chunking { copied with limit := 0 } filter (.int 1) (.bool false)
          (recorded goOn)
        unopened.builder.clone = .ok copied ∧ Recovers link attempt first abandoned last ∧
          ∀ reached ∈ abandoned, handedBy attempt reached = [] := by
  have hcallback : ∀ number entries, Spares World.pages (goOn number entries) :=
    fun _ _ => Spares.pure _
  have hended : inChunks [loss, firstPage, secondPage] =
      (.ok true, (inChunks [loss, firstPage, secondPage]).2) :=
    Prod.ext (eq_ok_of_toOption (by decide +kernel)) rfl
  have hnumbers : ((searched [loss, firstPage, secondPage]).handed
      (inChunks [loss, firstPage, secondPage]).2.2).map Prod.fst = [1, 2] := by
    decide +kernel
  obtain ⟨copied, filter, first, abandoned, last, delivered, hclone, -, hrecovers, -, -, hiff⟩ :=
    chunk_hands_once_iff hcallback hended
  refine ⟨hcallback, hended, hnumbers, copied, filter, first, abandoned, last, hclone, hrecovers,
    hiff.1 ?_⟩
  have hlength := congrArg List.length hnumbers
  rw [List.length_map] at hlength
  rw [hlength]
  exact hnumbers

/-- Where the server is lost after the first page, that page is handed over again. -/
theorem chunk_hands_first_page_again :
    let ended := inChunks [firstPage, loss, firstPage, secondPage]
    let handed := (searched [firstPage, loss, firstPage, secondPage]).handed ended.2.2
    ended.1 = .ok true ∧ handed.map Prod.fst = [1, 1, 2] ∧
      handed.map Prod.fst ≠ List.range' 1 handed.length :=
  ⟨eq_ok_of_toOption (by decide +kernel), by decide +kernel, by decide +kernel⟩

end Directory.Query
