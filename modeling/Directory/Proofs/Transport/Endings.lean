import Directory.Proofs.Transport.Details

/-!
# How operations over wire clients end

An operation over a wire client ends in one of four ways (`Operation.ends`): its call cannot be put
together, there is no handle to make it on, the call fails, or it is answered. What is looked at
after an answer changes no more than a bind does, and does not fail as a wire client fails.
-/

namespace Directory

open Directory.Action

/-- The failure is none of a wire client. -/
def Failure.IsLocal (failure : Failure) : Prop :=
  failure.isA (.wire .general) = false

/-- What loses the server is a failure of a wire client. -/
theorem Kind.isA_general_of_communication {kind : Kind}
    (h : kind.isA (.wire .communication) = true) : kind.isA (.wire .general) = true := by
  induction kind with
  | wire fault => cases fault <;> decide
  | bindAnd other ih =>
      have hother (fault : WireFault) :
          (Kind.bindAnd other).isA (.wire fault) = other.isA (.wire fault) := by
        simp [isA, line, joinLines]
      rw [hother] at h ⊢
      exact ih h
  | _ => cases h

theorem Failure.IsLocal.not_communication {failure : Failure} (h : failure.IsLocal) :
    failure.isA (.wire .communication) = false := by
  rw [← Bool.not_eq_true]
  intro hlost
  cases h.symm.trans (Kind.isA_general_of_communication hlost)

theorem Failure.IsMisuse.isLocal {failure : Failure} (h : failure.IsMisuse) : failure.IsLocal :=
  h.1.isLocal

namespace FailsByMisuse

theorem lastError (handle : Handle) : FailsByMisuse handle.lastError := by
  unfold Handle.lastError
  split
  · exact FailsBy.ok _
  · refine FailsBy.bind (get _ _ _) fun message => ?_
    split
    · exact FailsBy.ok _
    · exact get _ _ _

theorem entries (value : Value) : FailsByMisuse value.entries := by
  cases value with
  | dict entries => exact FailsBy.ok entries
  | _ => exact misuse .unknownMember ⟨rfl, rfl⟩

theorem items (value : Value) : FailsByMisuse value.items := by
  unfold Value.items
  split
  · exact FailsBy.ok _
  · exact misuse .wrongType ⟨rfl, rfl⟩

/-- An item that cannot be read as an entry does not fit. -/
theorem entryOf? (item : Value) : FailsByMisuse (Transport.Wire.entryOf? item) := by
  refine FailsBy.bind (get _ _ _) fun kind => ?_
  split
  · exact FailsBy.ok _
  · refine FailsBy.bind (get _ _ _) fun attrs => FailsBy.bind (entries _) fun attrs => ?_
    refine FailsBy.bind (FailsBy.mapM fun attr => FailsBy.bind (items _) fun _ => FailsBy.ok _)
      fun attrs => FailsBy.bind (entries _) fun known => ?_
    split
    · exact misuse .missingKey ⟨rfl, rfl⟩
    · exact FailsBy.ok _

theorem entriesOf (found : Value) : FailsByMisuse (Transport.Wire.entriesOf found) :=
  FailsBy.bind (items _) fun _ => FailsBy.bind (FailsBy.mapM entryOf?) fun _ => FailsBy.ok _

theorem changesOf (change : Change) (attrs : Value) :
    FailsByMisuse (Transport.changesOf change attrs) :=
  FailsBy.bind (entries _) fun _ => FailsBy.ok _

theorem pagingOf (control : Control) : FailsByMisuse (Transport.Wire.pagingOf control) := by
  unfold Transport.Wire.pagingOf
  dsimp only
  split
  · refine FailsBy.bind (FailsBy.ok _) fun entries => ?_
    split
    · exact misuse .missingKey ⟨rfl, rfl⟩
    · exact FailsBy.ok _
  · exact misuse .wrongType ⟨rfl, rfl⟩

theorem splitControls (controls : List Control) :
    FailsByMisuse (Transport.Wire.splitControls controls) := by
  induction controls with
  | nil => exact FailsBy.ok _
  | cons control controls ih =>
      unfold Transport.Wire.splitControls
      split
      · exact FailsBy.bind (pagingOf control) fun _ => FailsBy.bind ih fun _ => FailsBy.ok _
      · exact FailsBy.bind ih fun _ => FailsBy.ok _

end FailsByMisuse

namespace Transport

variable {α β : Type}

/-! ## Looking at what a call left -/

/-- An action that looks at what the link holds and changes nothing. It does not fail as a wire
client does. -/
structure IsLook (action : Action Transport α) : Prop where
  keeps : ∀ start, (exec action start).2 = start
  fails : ∀ start, FailsBy Failure.IsLocal (exec action start).1

namespace IsLook

theorem pure (a : α) : IsLook (Pure.pure a : Action Transport α) :=
  ⟨fun _ => rfl, fun _ => FailsBy.ok a⟩

theorem lift {result : Except Failure α} (h : FailsBy Failure.IsLocal result) :
    IsLook (liftM result : Action Transport α) :=
  ⟨fun _ => rfl, fun _ => h⟩

theorem throw {failure : Failure} (h : failure.IsLocal) :
    IsLook (MonadExcept.throw failure : Action Transport α) :=
  ⟨fun _ => rfl, fun _ => FailsBy.error h⟩

theorem state : IsLook Action.state :=
  ⟨fun _ => rfl, fun start => FailsBy.ok start.1⟩

theorem bind {action : Action Transport α} {next : α → Action Transport β}
    (haction : IsLook action) (hnext : ∀ a, IsLook (next a)) : IsLook (action >>= next) where
  keeps := by
    intro start
    have hkept := haction.keeps start
    rw [exec_bind]
    generalize exec action start = ended at hkept ⊢
    obtain ⟨failure | a, ending⟩ := ended
    · exact hkept
    · exact ((hnext a).keeps ending).trans hkept
  fails := by
    intro start
    have hfails := haction.fails start
    rw [exec_bind]
    generalize exec action start = ended at hfails ⊢
    obtain ⟨failure | a, ending⟩ := ended
    · exact FailsBy.error (hfails failure rfl)
    · exact (hnext a).fails ending

end IsLook

theorem failsByMisuse_lastError (transport : Transport) : FailsByMisuse transport.lastError := by
  unfold lastError
  split
  · exact FailsBy.ok _
  · exact FailsBy.ok _
  · exact FailsByMisuse.lastError _

theorem isLook_refused (name : String) : IsLook (Wire.refused name : Action Transport α) := by
  refine IsLook.bind IsLook.state fun transport => IsLook.bind (IsLook.lift ?_) fun message =>
    IsLook.bind (IsLook.lift ?_) fun text => IsLook.bind (IsLook.lift ?_) fun detail =>
      IsLook.throw rfl
  · exact (failsByMisuse_lastError transport).mono fun _ => Failure.IsMisuse.isLocal
  · exact (Value.failsByFault_text message).mono fun _ h => h.isLocal
  · exact (failsByMisuse_detail transport).mono fun _ => Failure.IsMisuse.isLocal

theorem isLook_check (value : Value) (name : String) : IsLook (Wire.check value name) := by
  unfold Wire.check
  split
  · exact IsLook.pure _
  · exact isLook_refused name

theorem isLook_response : IsLook Wire.response :=
  IsLook.bind IsLook.state fun _ => IsLook.lift <|
    (FailsByMisuse.response _).mono fun _ => Failure.IsMisuse.isLocal

theorem isLook_readFound (scope : Scope) : IsLook (readFound scope) := by
  have hentries (response : Response) : IsLook (do
      let entries ← Wire.entriesOf (((← Action.state).handle?).getD {}).found
      return (⟨.list entries, response⟩ : SearchResult)) :=
    IsLook.bind IsLook.state fun _ => IsLook.bind
      (IsLook.lift <| (FailsByMisuse.entriesOf _).mono fun _ => Failure.IsMisuse.isLocal)
        fun _ => IsLook.pure _
  refine IsLook.bind isLook_response fun response => ?_
  dsimp only
  split
  · exact IsLook.bind (isLook_refused _) fun _ => hentries response
  · exact hentries response

/-- On an open handle, a look is what it is by itself. -/
theorem exec_guarded_of_isLook {name : String} {action : Action Transport α} (h : IsLook action)
    {start : Transport × World} (hconnected : start.1.isConnected = true) :
    exec (Wire.guarded name action) start = exec action start := by
  have hfails := h.fails start
  rw [exec_guarded hconnected]
  generalize exec action start = ended at hfails ⊢
  obtain ⟨failure | a, ending⟩ := ended
  · have hlocal := hfails failure rfl
    simp only [reported, afterFailure, hlocal.not_communication, Bool.false_eq_true, if_false]
    rw [if_neg (Bool.eq_false_iff.1 hlocal)]
  · rfl

/-! ## Making the call -/

/-- What a transport says of itself: its kind, whether it is connected, to which host, and as whom
it is bound. -/
def standing (transport : Transport) : Bool × Bool × Value × Bool × Value :=
  (transport.isDirect, transport.isConnected, transport.host, transport.isBound, transport.boundAs)

theorem standing_eq_iff {transport transport' : Transport} :
    transport'.standing = transport.standing ↔
      transport'.isDirect = transport.isDirect ∧ transport'.isConnected = transport.isConnected ∧
        transport'.host = transport.host ∧ transport'.isBound = transport.isBound ∧
          transport'.boundAs = transport.boundAs := by
  simp only [standing, Prod.mk.injEq]

theorem isDirect_afterCall (transport : Transport) (request : WireRequest) (outcome : Outcome) :
    (transport.afterCall request outcome).isDirect = transport.isDirect := by
  unfold afterCall isDirect
  cases transport.link with
  | direct => rfl
  | wire handle => rfl

theorem keeps_standing_ask (request : WireRequest) : Keeps standing (Wire.ask request) := by
  intro start
  rw [exec_ask]
  unfold standing
  rw [isDirect_afterCall, isConnected_afterCall]
  rfl

theorem keeps_standing_approach (request : WireRequest) : Keeps standing (approach request) := by
  refine Keeps.bind ?_ fun _ => keeps_standing_ask request
  unfold prepare
  split
  · refine Keeps.bind Keeps.state fun transport => ?_
    split
    · exact Keeps.bind (keeps_standing_ask _) fun _ => Keeps.pure _
    · exact Keeps.pure _
  · exact Keeps.pure _

/-- A call has an outcome, and leaves what follows from it. -/
theorem exists_leaves {start : Transport × World} {request : WireRequest}
    (hwire : start.1.isDirect = false) (hconnected : start.1.isConnected = true)
    (huse : IsUse request) :
    ∃ outcome called, exec (approach request) start = (outcome.result, called) ∧
      Leaves start.1 outcome called.1 := by
  obtain ⟨handle, hlink⟩ := exists_handle hwire hconnected
  -- a history is abreast of itself
  have habreast : Abreast start start := ⟨rfl, ⟨handle, handle, hlink, hlink, rfl⟩, fun _ => rfl⟩
  obtain ⟨outcome, _, called, _, hcalled⟩ := habreast.called huse
  exact ⟨outcome, called, hcalled.runs, hcalled.leaves⟩

/-! ## The four endings -/

/-- What an answer to the call of an operation settles. The answer to a bind settles who is
bound. -/
def Operation.settled : Operation → Answer → Transport → Transport
  | .bind username _, answer, called => called.afterAnswer username answer
  | _, _, called => called

/-- How an operation over a wire client ends. Its call cannot be put together; there is no handle to
make it on; the call fails; or it is answered, and what is read of the answer does not fail as a
wire client fails. -/
inductive Operation.Ends (operation : Operation) (start : Transport × World) :
    Except Failure Unit × (Transport × World) → Prop
  | unmade {failure : Failure} (hrequest : operation.request start.1.host = .error failure) :
      Operation.Ends operation start (.error failure, start)
  | closed {request : WireRequest} (name : String)
      (hrequest : operation.request start.1.host = .ok request)
      (hconnected : start.1.isConnected = false) :
      Operation.Ends operation start
        (.error (Wire.serverDown (" - no connection for [" ++ name ++ "]") "" none), start)
  | failed {request : WireRequest} {failure : Failure} {called : Transport × World}
      (hrequest : operation.request start.1.host = .ok request)
      (hconnected : start.1.isConnected = true)
      (hcall : exec (approach request) start = (.error failure, called))
      (hleaves : Leaves start.1 (.fails failure) called.1) :
      Operation.Ends operation start
        (.error (called.1.reported failure), (called.1.afterFailure failure, called.2))
  | answered {request : WireRequest} {answer : Answer} {called : Transport × World}
      {outcome : Except Failure Unit}
      (hrequest : operation.request start.1.host = .ok request)
      (hconnected : start.1.isConnected = true)
      (hcall : exec (approach request) start = (.ok answer, called))
      (hleaves : Leaves start.1 (.gives answer) called.1)
      (houtcome : FailsBy Failure.IsLocal outcome) :
      Operation.Ends operation start (outcome, (operation.settled answer called.1, called.2))

/-- An operation ends well if reading an answer does. -/
theorem ends_of_callsBy (operation : Operation) {name : String}
    {inner : Answer → Action Transport α} {finish : α → Action Transport Unit}
    (hcalls : CallsBy operation.perform operation.request name inner finish)
    {start : Transport × World} (hwire : start.1.isDirect = false)
    (hread : ∀ answer called, called.1.link = .wire (some ⟨false, answer.result, answer.found⟩) →
      ∃ outcome, exec (do
          let result ← Wire.guarded name (inner answer)
          finish result) called = (outcome, (operation.settled answer called.1, called.2)) ∧
        FailsBy Failure.IsLocal outcome) :
    operation.Ends start (exec operation.perform start) := by
  rw [hcalls start hwire, exec_bind, exec_lift]
  cases hrequest : operation.request start.1.host with
  | error failure => exact .unmade hrequest
  | ok request =>
      dsimp only
      cases hconnected : start.1.isConnected with
      | false =>
          unfold callThen
          rw [exec_bind, exec_guarded_of_not_connected hconnected]
          exact .closed name hrequest hconnected
      | true =>
          obtain ⟨outcome, called, hcall, hleaves⟩ :=
            exists_leaves hwire hconnected (Operation.isUse_of_request hrequest)
          rw [exec_callThen hconnected, hcall]
          cases outcome with
          | fails failure => exact .failed hrequest hconnected hcall hleaves
          | gives answer =>
              obtain ⟨outcome, hexec, houtcome⟩ := hread answer called (hleaves.gives answer rfl)
              dsimp only [Outcome.result]
              rw [hexec]
              exact .answered hrequest hconnected hcall hleaves houtcome

/-- An operation that only looks at its answer. -/
theorem ends_of_isLook (operation : Operation) {name : String}
    {inner : Answer → Action Transport α}
    (hcalls : CallsBy operation.perform operation.request name inner fun _ => return ())
    (hinner : ∀ answer, IsLook (inner answer))
    (hsettled : ∀ answer called, operation.settled answer called = called)
    {start : Transport × World} (hwire : start.1.isDirect = false) :
    operation.Ends start (exec operation.perform start) := by
  refine ends_of_callsBy operation hcalls hwire fun answer called hlink => ?_
  have hlook : IsLook (do
      let _ ← inner answer
      return ()) :=
    IsLook.bind (hinner answer) fun _ => IsLook.pure ()
  have hconnected := isConnected_of_link hlink
  rw [hsettled, exec_bind_congr (exec_guarded_of_isLook (hinner answer) hconnected)]
  exact ⟨_, Prod.ext rfl (hlook.keeps called), hlook.fails called⟩

/-- What the answer to a bind settles does not fail as a wire client fails. -/
theorem exec_settleBind (username : Value) {answer : Answer} {called : Transport × World}
    (hlink : called.1.link = .wire (some ⟨false, answer.result, answer.found⟩)) :
    ∃ outcome, exec (settleBind username) called =
        (outcome, (called.1.afterAnswer username answer, called.2)) ∧
      FailsBy Failure.IsLocal outcome := by
  have hresponse : exec Wire.response called = (responseOf answer, called) := by
    rw [exec_response, handle_of_link hlink]
    rfl
  have hacceptance : acceptance answer = (responseOf answer).bind Response.successful := rfl
  unfold settleBind afterAnswer
  rw [exec_bind, hresponse, hacceptance]
  have hread : FailsByMisuse (responseOf answer) := FailsByMisuse.response _
  cases hresponse : responseOf answer with
  | error failure =>
      exact ⟨_, rfl, FailsBy.error (hread failure hresponse).isLocal⟩
  | ok response =>
      dsimp only [Except.bind]
      rw [exec_bind, exec_lift]
      have hsuccess := FailsByMisuse.successful response
      cases haccepted : response.successful with
      | error failure => exact ⟨_, rfl, FailsBy.error (hsuccess failure haccepted).isLocal⟩
      | ok isAccepted => exact ⟨_, rfl, FailsBy.ok ()⟩

/-- An operation whose answer is only checked. -/
theorem ends_of_check (operation : Operation) {name : String}
    (hcalls : CallsBy operation.perform operation.request name
      (fun answer => Wire.check answer.value name) fun _ => return ())
    (hsettled : ∀ answer called, operation.settled answer called = called)
    {start : Transport × World} (hwire : start.1.isDirect = false) :
    operation.Ends start (exec operation.perform start) :=
  ends_of_isLook operation hcalls (fun _ => isLook_check _ _) hsettled hwire

/-- An operation over a wire client ends in one of the four ways. -/
theorem Operation.ends (operation : Operation) {start : Transport × World}
    (hwire : start.1.isDirect = false) :
    operation.Ends start (exec operation.perform start) := by
  cases operation with
  | startTls => exact ends_of_check .startTls callsBy_startTls (fun _ _ => rfl) hwire
  | bind username password =>
      refine ends_of_callsBy (.bind username password) (callsBy_bind username password) hwire
        fun answer called hlink => ?_
      have hnothing : exec (Wire.guarded "bind" (return ())) called = (.ok (), called) :=
        exec_guarded_of_isLook (IsLook.pure ()) (isConnected_of_link hlink)
      rw [exec_bind, hnothing]
      exact exec_settleBind username hlink
  | search scope base filter attrs limit controls =>
      exact ends_of_isLook (.search scope base filter attrs limit controls)
        (callsBy_search scope base filter attrs limit controls) (fun _ => isLook_readFound scope)
        (fun _ _ => rfl) hwire
  | add name attrs =>
      exact ends_of_check (.add name attrs) (callsBy_perform _ rfl) (fun _ _ => rfl) hwire
  | modify name changes =>
      exact ends_of_check (.modify name changes) (callsBy_perform _ rfl) (fun _ _ => rfl) hwire
  | modifyEach change name attrs =>
      exact ends_of_check (.modifyEach change name attrs) (callsBy_modifyEach change name attrs)
        (fun _ _ => rfl) hwire
  | delete name => exact ends_of_check (.delete name) (callsBy_perform _ rfl) (fun _ _ => rfl) hwire
  | rename name newName newParent deleteOld =>
      exact ends_of_check (.rename name newName newParent deleteOld) (callsBy_perform _ rfl)
        (fun _ _ => rfl) hwire

/-- A call that cannot be put together does not fail as a wire client fails. -/
theorem Operation.isLocal_request (operation : Operation) (host : Value) :
    FailsBy Failure.IsLocal (operation.request host) := by
  have hnote (values : List Value) : FailsBy Failure.IsLocal (Value.note values) :=
    (Value.failsByFault_note values).mono fun _ h => h.isLocal
  cases operation with
  | search scope base filter attrs limit controls =>
      exact FailsBy.bind (hnote _) fun _ => FailsBy.bind
        ((FailsByMisuse.splitControls _).mono fun _ => Failure.IsMisuse.isLocal)
          fun _ => FailsBy.ok _
  | modifyEach change name attrs =>
      exact FailsBy.bind
        ((FailsByMisuse.changesOf change attrs).mono fun _ => Failure.IsMisuse.isLocal)
          fun _ => FailsBy.bind (hnote _) fun _ => FailsBy.ok _
  | _ => exact FailsBy.bind (hnote _) fun _ => FailsBy.ok _

/-- The call of an operation is put together and made on a handle, and fails. -/
def Operation.FailsWith (operation : Operation) (start : Transport × World) (failure : Failure) :
    Prop :=
  ∃ request, operation.request start.1.host = .ok request ∧ start.1.isConnected = true ∧
    (exec (approach request) start).1 = .error failure

/-- An operation over a wire client finds its server lost: there is no handle to make its call on,
or the call fails by the loss. -/
def Operation.LosesServer (operation : Operation) (start : Transport × World) : Prop :=
  start.1.isDirect = false ∧
    ((start.1.isConnected = false ∧ ∃ request, operation.request start.1.host = .ok request) ∨
      ∃ failure, operation.FailsWith start failure ∧ failure.isA (.wire .communication) = true)

/-- What fails is the one call that is made. -/
theorem Operation.failsWith_iff {operation : Operation} {start called : Transport × World}
    {request : WireRequest} {outcome : Except Failure Answer}
    (hrequest : operation.request start.1.host = .ok request)
    (hconnected : start.1.isConnected = true)
    (hcall : exec (approach request) start = (outcome, called)) (failure : Failure) :
    operation.FailsWith start failure ↔ outcome = .error failure := by
  constructor
  · intro hfails
    obtain ⟨made, hmade, -, hfails⟩ := hfails
    obtain rfl := Except.ok.inj (hmade.symm.trans hrequest)
    rwa [hcall] at hfails
  · rintro rfl
    exact ⟨request, hrequest, hconnected, congrArg Prod.fst hcall⟩

/-- A call that is made loses the server just if it fails by the loss. -/
theorem Operation.losesServer_iff {operation : Operation} {start called : Transport × World}
    {request : WireRequest} {outcome : Except Failure Answer} (hwire : start.1.isDirect = false)
    (hrequest : operation.request start.1.host = .ok request)
    (hconnected : start.1.isConnected = true)
    (hcall : exec (approach request) start = (outcome, called)) :
    operation.LosesServer start ↔
      ∃ failure, outcome = .error failure ∧ failure.isA (.wire .communication) = true := by
  unfold LosesServer
  simp only [failsWith_iff hrequest hconnected hcall, hwire, hconnected, Bool.true_eq_false,
    false_and, false_or, true_and]

end Transport

end Directory
