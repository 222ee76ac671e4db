import Directory.Proofs.Connection.Orderly
import Directory.Proofs.Connection.Schedule
import Directory.Proofs.Transport.Operations

/-!
# What is left alone of the world

Whatever is done with a transport, it asks servers and tells listeners, and that is all it does to
the world. `Spares view action` says that an action leaves alone what a view shows of the world, as
`Keeps` says it of the state; a view is aloof if it shows nothing of requests, answers and
announcements, and remote if it shows nothing of requests and answers, where in both cases it may
show what was searched for. All that a connection does on its own spares an aloof view, and so does
a search if the view does not show it.
-/

namespace Directory

/-- The record of something that was asked of a server. -/
def Record.isRequest : Record → Bool
  | .direct .. | .wire _ => true
  | _ => false

/-- A request to search. -/
def Request.isSearch : Request → Bool
  | .search .. => true
  | _ => false

/-- A request to search. -/
def WireRequest.isSearch : WireRequest → Bool
  | .search .. => true
  | _ => false

/-- The record of a search. -/
def Record.isSearch : Record → Bool
  | .direct _ request => request.isSearch
  | .wire request => request.isSearch
  | _ => false

namespace Effect

variable {υ : Type} {view : World → υ}

/-- A view that shows no searches. -/
def ShowsNoSearch (view : World → υ) : Prop :=
  ∀ world (record : Record), record.isSearch = true →
    view { world with records := world.records ++ [record] } = view world

/-- A view that shows nothing of what goes on between transports and servers but searches. -/
structure IsRemote (view : World → υ) : Prop where
  requests : ∀ world (record : Record), record.isRequest = true → record.isSearch = false →
    view { world with records := world.records ++ [record] } = view world
  script : ∀ world script, view { world with script } = view world

namespace IsRemote

variable (h : IsRemote view)
include h

theorem records (world : World) {record : Record} (hrequest : record.isRequest = true)
    (hsearch : record.isSearch = true → ShowsNoSearch view) :
    view { world with records := world.records ++ [record] } = view world := by
  cases his : record.isSearch with
  | false => exact h.requests world record hrequest his
  | true => exact hsearch his world record his

theorem take (queue : Queue) : Keeps view (Effect.take queue) := by
  intro world
  rw [run_take]
  exact h.script world _

end IsRemote

/-- A view that shows nothing of what goes on between transports, servers and listeners but
searches. -/
structure IsAloof (view : World → υ) : Prop extends IsApart view where
  requests : ∀ world (record : Record), record.isRequest = true → record.isSearch = false →
    view { world with records := world.records ++ [record] } = view world
  script : ∀ world script, view { world with script } = view world
  clock : ∀ world clock, view { world with clock } = view world
  announced : ∀ world announced, view { world with announced } = view world

namespace IsAloof

variable (h : IsAloof view)
include h

theorem isRemote : IsRemote view :=
  ⟨h.requests, h.script⟩

theorem now : Keeps view Effect.now := by
  intro world
  unfold Effect.now
  rw [run_bind, run_get]
  cases hclock : world.clock with
  | nil => simp only [hclock]; rfl
  | cons reading readings =>
      simp only [hclock]
      exact h.clock world readings

theorem deliver (number : Option Nat) (event : Event) : Keeps view (Effect.deliver number event) :=
  Keeps.bind (Keeps.modify fun world => h.announced world _) fun _ =>
    h.deliverWithin deepest number event

end IsAloof

end Effect

namespace Action

variable {σ τ υ α β : Type} {view : World → υ}

/-- An action leaves alone what a view shows of the world. -/
def Spares (view : World → υ) (action : Action σ α) : Prop :=
  ∀ start, view (exec action start).2.2 = view start.2

namespace Spares

theorem pure (a : α) : Spares view (Pure.pure a : Action σ α) :=
  fun _ => rfl

theorem throw (failure : Failure) : Spares view (MonadExcept.throw failure : Action σ α) :=
  fun _ => rfl

theorem lift (result : Except Failure α) : Spares view (liftM result : Action σ α) :=
  fun _ => rfl

theorem state : Spares view (Action.state : Action σ σ) :=
  fun _ => rfl

theorem change (f : σ → σ) : Spares view (Action.change f) :=
  fun _ => rfl

theorem outside {effect : Effect α} (h : Effect.Keeps view effect) :
    Spares view (Action.outside effect : Action σ α) :=
  fun start => h start.2

theorem bind {action : Action σ α} {next : α → Action σ β} (haction : Spares view action)
    (hnext : ∀ a, Spares view (next a)) : Spares view (action >>= next) := by
  intro start
  have hbetween := haction start
  rw [exec_bind]
  generalize exec action start = ended at hbetween ⊢
  obtain ⟨_ | a, between⟩ := ended
  · exact hbetween
  · exact (hnext a between).trans hbetween

theorem observe {action : Action σ α} (h : Spares view action) : Spares view action.observe :=
  h

theorem view_eq {action : Action σ α} (h : Spares view action) {outcome : Except Failure α}
    {start ending : σ × World} (hexec : exec action start = (outcome, ending)) :
    view ending.2 = view start.2 := by
  have hspared := h start
  rwa [hexec] at hspared

theorem on {focus : Focus σ τ} {action : Action τ α} (h : Spares view action) :
    Spares view (action.on focus) :=
  fun start => h (focus.get start.1, start.2)

end Spares

end Action

open Directory.Action

variable {α υ : Type} {view : World → υ}

/-! ## Transports -/

namespace Transport

variable (h : Effect.IsRemote view)

theorem spares_choose {directly overWire : Action Transport α} (hdirect : Spares view directly)
    (hwire : Spares view overWire) : Spares view (choose directly overWire) := by
  refine Spares.bind Spares.state fun transport => ?_
  split
  · exact hdirect
  · exact hwire

theorem spares_guarded {name : String} {operation : Action Transport α}
    (hoperation : Spares view operation) : Spares view (Wire.guarded name operation) := by
  intro start
  cases hconnected : start.1.isConnected with
  | false => rw [exec_guarded_of_not_connected hconnected]
  | true =>
      have hended := hoperation start
      rw [exec_guarded hconnected]
      generalize exec operation start = ended at hended ⊢
      obtain ⟨failure | result, ending⟩ := ended
      · exact hended
      · exact hended

theorem spares_refused (name : String) : Spares view (Wire.refused name : Action Transport α) := by
  intro start
  obtain ⟨failure, hexec⟩ := exec_refused (α := α) name start
  rw [hexec]

theorem spares_check (value : Value) (name : String) : Spares view (Wire.check value name) := by
  unfold Wire.check
  split
  · exact Spares.pure _
  · exact spares_refused name

/-- Reading what a search found asks for nothing more. -/
theorem spares_readFound (scope : Scope) : Spares view (readFound scope) := by
  have hfound (response : Response) : Spares view ((do
      let entries ← Wire.entriesOf (((← Action.state).handle?).getD {}).found
      return ⟨.list entries, response⟩) : Action Transport SearchResult) :=
    Spares.bind Spares.state fun _ => Spares.bind (Spares.lift _) fun _ => Spares.pure _
  have hresponse : Spares view Wire.response :=
    Spares.bind Spares.state fun _ => Spares.lift _
  refine Spares.bind hresponse fun response => ?_
  split
  · exact Spares.bind (spares_refused _) fun _ => hfound response
  · exact hfound response

include h

theorem spares_directAsk (request : Request)
    (hsearch : request.isSearch = true → Effect.ShowsNoSearch view := by intro his; cases his) :
    Spares view (Direct.ask request) := by
  refine Spares.bind Spares.state fun transport => ?_
  split
  · exact Spares.outside (Effect.Keeps.bind
      (Effect.Keeps.modify fun world => h.records world rfl hsearch) fun _ => h.take _)
  · exact Spares.pure _

theorem spares_wireAsk (request : WireRequest)
    (hsearch : request.isSearch = true → Effect.ShowsNoSearch view := by intro his; cases his) :
    Spares view (Wire.ask request) := by
  intro start
  rw [exec_ask]
  show view (start.2.afterCall request) = view start.2
  unfold World.afterCall
  cases request.queue? with
  | none => exact h.records _ rfl hsearch
  | some queue => exact (h.script _ _).trans (h.records _ rfl hsearch)

theorem spares_wireClose : Spares view Wire.close := by
  have hend (wasClosed : Bool) : Spares view ((do
      Action.change fun transport => { transport with link := .wire none }
      Action.change released
      return Value.bool wasClosed) : Action Transport Value) :=
    Spares.bind (Spares.change _) fun _ => Spares.bind (Spares.change _) fun _ => Spares.pure _
  refine Spares.bind Spares.state fun transport => ?_
  dsimp only
  split
  · refine Spares.bind Spares.state fun _ => Spares.bind (Spares.lift _) fun _ =>
      Spares.bind (spares_wireAsk h _).observe fun result => ?_
    cases result with
    | ok answer => exact Spares.bind (Spares.pure _) hend
    | error failure =>
        dsimp only
        split
        · exact Spares.bind (Spares.pure _) hend
        · exact Spares.bind (Spares.throw _) hend
  · exact Spares.bind (Spares.pure _) hend

theorem spares_close : Spares view close :=
  spares_choose (Spares.bind (spares_directAsk h _) fun _ => Spares.bind Spares.state fun _ =>
    Spares.bind (Spares.change _) fun _ => Spares.bind (Spares.change _) fun _ => Spares.pure _)
    (spares_wireClose h)

theorem spares_connect (host port : Value) : Spares view (connect host port) := by
  refine spares_choose ?_ ?_
  · exact Spares.bind Spares.state fun _ => Spares.bind (spares_directAsk h _) fun _ =>
      Spares.bind Spares.state fun _ => Spares.bind (Spares.lift _) fun _ =>
      Spares.bind (Spares.change _) fun _ => Spares.bind (Spares.change _) fun _ => Spares.pure _
  · exact Spares.bind (spares_wireClose h) fun _ => Spares.bind Spares.state fun _ =>
      Spares.bind (Spares.lift _) fun _ => Spares.bind (Spares.change _) fun _ =>
      Spares.bind (Spares.lift _) fun _ => Spares.bind Spares.state fun _ =>
      Spares.bind (Spares.lift _) fun _ => Spares.bind (spares_wireAsk h _) fun _ =>
      Spares.bind (Spares.lift _) fun _ => Spares.bind (Spares.lift _) fun _ =>
      Spares.bind (spares_wireAsk h _) fun _ => Spares.bind (Spares.change _) fun _ =>
      Spares.pure _

theorem spares_startTls : Spares view startTls := by
  have hstart : Spares view (do Wire.check (← Wire.ask .startTls).value "start_tls") :=
    Spares.bind (spares_wireAsk h _) fun _ => spares_check _ _
  refine spares_choose ?_ ?_
  · exact Spares.bind (spares_directAsk h _) fun _ => Spares.pure _
  · refine Spares.bind Spares.state fun _ => Spares.bind (Spares.lift _) fun _ =>
      spares_guarded (Spares.bind Spares.state fun transport => ?_)
    dsimp only
    split
    · exact Spares.bind (spares_wireAsk h _) fun _ => hstart
    · exact hstart

theorem spares_bind (username password : Value) : Spares view (bind username password) := by
  refine spares_choose ?_ ?_
  · exact Spares.bind (spares_directAsk h _) fun _ => Spares.bind Spares.state fun _ =>
      Spares.bind (Spares.change _) fun _ => Spares.bind (Spares.lift _) fun _ =>
      Spares.bind (Spares.change _) fun _ => Spares.pure _
  · refine Spares.bind Spares.state fun _ => Spares.bind (Spares.lift _) fun _ =>
      Spares.bind (spares_guarded ?_) fun _ => Spares.bind ?_ fun _ =>
      Spares.bind (Spares.lift _) fun _ => Spares.bind (Spares.change _) fun _ => Spares.pure _
    · exact Spares.bind (spares_wireAsk h _) fun _ => Spares.pure _
    · exact Spares.bind Spares.state fun _ => Spares.lift _

theorem spares_search (hsearch : Effect.ShowsNoSearch view) (scope : Scope)
    (base filter attrs limit : Value) (controls : Option (List Control)) :
    Spares view (search scope base filter attrs limit controls) := by
  refine spares_choose ?_ ?_
  · exact Spares.bind (spares_directAsk h _ fun _ => hsearch) fun _ => Spares.pure _
  · exact Spares.bind (Spares.lift _) fun _ => Spares.bind (Spares.lift _) fun _ =>
      spares_guarded (Spares.bind (spares_wireAsk h _ fun _ => hsearch) fun _ =>
        spares_readFound scope)

end Transport

/-! ## Guards -/

namespace Guard

theorem spares_sendBind (h : Effect.IsRemote view) (username password : Value) :
    Spares view (sendBind username password) := by
  refine Spares.bind Spares.state fun transport => ?_
  dsimp only
  split
  · exact Spares.bind (Transport.spares_startTls h) fun _ => Transport.spares_bind h _ _
  · exact Transport.spares_bind h _ _

variable (h : Effect.IsAloof view)
include h

theorem spares_announce (guard : Guard) (happening : Happening) :
    Spares view (guard.announce happening) :=
  Spares.bind Spares.state fun _ => Spares.outside (h.deliver _ _)

omit h in
theorem spares_refusal (guard : Guard) (response : Response) :
    Spares view (guard.refusal response) := by
  refine Spares.bind Spares.state fun _ => Spares.bind (Spares.lift _) fun detail => ?_
  dsimp only
  split
  all_goals
    refine Spares.bind ?_ fun _ => Spares.bind (Spares.lift _) fun _ =>
      Spares.bind (Spares.lift _) fun _ => Spares.lift _
  · exact Spares.pure _
  · exact Spares.lift _

theorem spares_conclude (guard : Guard) (username password : Value)
    (outcome : Except Failure Response) :
    Spares view (guard.conclude username password outcome) := by
  cases outcome with
  | error failure =>
      unfold conclude
      dsimp only
      split
      · exact Spares.bind (spares_announce h guard _) fun _ => Spares.throw failure
      · exact Spares.throw failure
  | ok response =>
      refine Spares.bind (Spares.lift _) fun isFailed => ?_
      split
      · exact Spares.bind (spares_refusal guard response) fun failure =>
          Spares.bind (spares_announce h guard _) fun _ =>
            Spares.bind (Spares.throw failure) fun _ => spares_announce h guard _
      · exact spares_announce h guard _

theorem spares_bind (guard : Guard) (username password : Value) :
    Spares view (guard.bind username password) := by
  rw [bind_eq]
  exact Spares.bind (spares_announce h guard _) fun _ =>
    Spares.bind (spares_sendBind h.isRemote username password).observe fun outcome =>
      spares_conclude h guard username password outcome

end Guard

/-! ## Connections -/

namespace Connection

variable {σ : Type}

theorem spares_onTransport {action : Action Transport α} (haction : Spares view action) :
    Spares view (onTransport action) :=
  Spares.on haction

theorem spares_noteAttempt (hostname : Value) : Spares view (noteAttempt hostname) :=
  Spares.bind (Spares.lift _) fun _ => Spares.change _

theorem spares_disconnect (h : Effect.IsRemote view) : Spares view disconnect := by
  refine Spares.bind Spares.state fun connection => ?_
  split
  · exact Spares.bind (spares_onTransport (Transport.spares_close h)) fun _ => Spares.change _
  · exact Spares.change _

variable (h : Effect.IsAloof view)
include h

theorem spares_announce (happening : Happening) : Spares view (announce happening) :=
  Spares.bind Spares.state fun _ => Spares.outside (h.deliver _ _)

theorem spares_openReleased (hostname port : Value) : Spares view (openReleased hostname port) := by
  have hconfigure : Spares view configure :=
    Spares.bind Spares.state fun _ => Spares.bind (Spares.lift _) fun _ =>
      spares_onTransport (Spares.change _)
  exact Spares.bind hconfigure fun _ => Spares.bind (Spares.lift _) fun _ =>
    Spares.bind (spares_onTransport (Transport.spares_connect h.isRemote hostname port)) fun _ =>
    Spares.change _

theorem spares_openHost (hostname : Value) : Spares view (openHost hostname) := by
  rw [openHost_eq]
  refine Spares.bind Spares.state fun connection => Spares.bind (Spares.lift _) fun hostname => ?_
  unfold openChosen
  split
  · exact Spares.bind (spares_onTransport (Transport.spares_close h.isRemote)) fun _ =>
      spares_openReleased h _ _
  · exact spares_openReleased h _ _

theorem spares_bind (username password : Value) : Spares view (bind username password) := by
  rw [bind_eq]
  exact Spares.bind Spares.state fun connection =>
    Spares.bind (spares_onTransport (Guard.spares_bind h connection.guard _ _)) fun _ =>
      Spares.change _

theorem spares_connectTo (hostname username password : Value) :
    Spares view (connectTo hostname username password) :=
  Spares.bind (Spares.change _) fun _ => Spares.bind (spares_announce h _) fun _ =>
    Spares.bind (spares_openHost h hostname) fun _ =>
    Spares.bind (spares_bind h username password) fun _ => spares_announce h _

theorem spares_reconnectTo (hostname : Value) : Spares view (reconnectTo hostname) :=
  Spares.bind (spares_disconnect h.isRemote) fun _ => spares_connectTo h hostname .null .null

theorem spares_connectToAny (username password hostname : Value) (hostnames : List Value) :
    Spares view (connectToAny username password hostname hostnames) := by
  rw [connectToAny]
  refine Spares.bind (spares_connectTo h hostname username password).observe fun result => ?_
  cases result with
  | ok made => exact Spares.pure none
  | error failure =>
      have hrest : Spares view (tryRest username password hostname failure hostnames) := by
        refine Spares.bind (Spares.lift _) fun _ =>
          Spares.bind (spares_noteAttempt hostname) fun _ => ?_
        cases hostnames with
        | nil => exact Spares.pure (some failure)
        | cons next hostnames => exact spares_connectToAny username password next hostnames
      cases hdirectory : failure.isDirectory with
      | false =>
          simp only [hdirectory]
          exact Spares.bind (Spares.throw failure) fun _ => hrest
      | true =>
          simp only [hdirectory]
          exact hrest

theorem spares_connect (username password : Value) : Spares view (connect username password) := by
  refine Spares.bind Spares.state fun connection => ?_
  split
  · exact Spares.throw _
  · refine Spares.bind (spares_connectToAny h username password _ _) fun last => ?_
    cases last with
    | none => exact Spares.pure ()
    | some last =>
        exact Spares.bind (spares_disconnect h.isRemote) fun _ => Spares.bind Spares.state fun _ =>
          Spares.bind (Spares.lift _) fun _ => Spares.bind (spares_announce h _) fun _ =>
          Spares.throw _

theorem spares_opening (focus : Focus σ Connection) : Spares view (opening focus) := by
  refine Spares.bind Spares.state fun state => ?_
  split
  · exact Spares.on (spares_connect h .null .null)
  · exact Spares.pure ()

end Connection

end Directory
