import Directory.Proofs.Transport.Opening

/-!
# Operations over wire clients

An operation over a wire client puts a call together, makes it on a client that is opened if it has
to be, and reads what the call left (`Operation.calls`). What is read depends on the link alone, and
reading changes no more than who is bound (`IsReading`).
-/

namespace Directory

open Directory.Action

/-- What is read in two steps is read in each of them. -/
theorem exists_of_bind_eq_ok {α β : Type} {result : Except Failure α}
    {next : α → Except Failure β} {b : β} (h : result >>= next = .ok b) :
    ∃ a, result = .ok a ∧ next a = .ok b := by
  cases result with
  | error failure => cases h
  | ok a => exact ⟨a, rfl, h⟩

/-- What can be read in each of two steps can be read. -/
theorem exists_bind_eq_ok {α β : Type} {result : Except Failure α} {next : α → Except Failure β}
    {a : α} (h : result = .ok a) (hnext : ∃ b, next a = .ok b) : ∃ b, result >>= next = .ok b :=
  h ▸ hnext

namespace Transport

variable {α β : Type}

/-! ## Reading what a call left -/

/-- All of a transport but who is bound, with the world. -/
def settings (start : Transport × World) : Link × Value × List Exchange × World :=
  (start.1.link, start.1.host, start.1.history, start.2)

/-- An action that only reads what the link holds, and changes no more than who is bound. -/
structure IsReading (action : Action Transport α) : Prop where
  outcome : ∀ start start' : Transport × World, start.1.link = start'.1.link →
    (exec action start).1 = (exec action start').1
  keeps : ∀ start, settings (exec action start).2 = settings start

namespace IsReading

theorem link_eq {action : Action Transport α} (h : IsReading action) (start : Transport × World) :
    (exec action start).2.1.link = start.1.link :=
  congrArg Prod.fst (h.keeps start)

theorem pure (a : α) : IsReading (Pure.pure a : Action Transport α) :=
  ⟨fun _ _ _ => rfl, fun _ => rfl⟩

theorem lift (result : Except Failure α) : IsReading (liftM result : Action Transport α) :=
  ⟨fun _ _ _ => rfl, fun _ => rfl⟩

theorem throw (failure : Failure) : IsReading (MonadExcept.throw failure : Action Transport α) :=
  ⟨fun _ _ _ => rfl, fun _ => rfl⟩

theorem bind {action : Action Transport α} {next : α → Action Transport β}
    (haction : IsReading action) (hnext : ∀ a, IsReading (next a)) :
    IsReading (action >>= next) where
  outcome := by
    intro start start' hlink
    have houtcome := haction.outcome start start' hlink
    have hended := (haction.link_eq start).trans (hlink.trans (haction.link_eq start').symm)
    rw [exec_bind, exec_bind]
    generalize exec action start = ended at houtcome hended ⊢
    generalize exec action start' = ended' at houtcome hended ⊢
    obtain ⟨outcome, ending⟩ := ended
    obtain ⟨outcome', ending'⟩ := ended'
    obtain rfl : outcome = outcome' := houtcome
    cases outcome with
    | error failure => rfl
    | ok a => exact (hnext a).outcome ending ending' hended
  keeps := by
    intro start
    have hended := haction.keeps start
    rw [exec_bind]
    generalize exec action start = ended at hended ⊢
    obtain ⟨failure | a, ending⟩ := ended
    · exact hended
    · exact ((hnext a).keeps ending).trans hended

/-- What is done with the state depends on the link alone. -/
theorem state_bind {next : Transport → Action Transport α}
    (hsame : ∀ transport transport' : Transport, transport.link = transport'.link →
      next transport = next transport') (hnext : ∀ transport, IsReading (next transport)) :
    IsReading (Action.state >>= next) where
  outcome := by
    intro start start' hlink
    rw [exec_bind, exec_bind, exec_state, exec_state]
    dsimp only
    rw [hsame start.1 start'.1 hlink]
    exact (hnext _).outcome start start' hlink
  keeps := by
    intro start
    rw [exec_bind, exec_state]
    exact (hnext _).keeps start

theorem change {f : Transport → Transport}
    (h : ∀ transport world, settings (f transport, world) = settings (transport, world)) :
    IsReading (Action.change f) :=
  ⟨fun _ _ _ => rfl, fun start => h start.1 start.2⟩

theorem observe {action : Action Transport α} (h : IsReading action) : IsReading action.observe :=
  ⟨fun start start' hlink => congrArg Except.ok (h.outcome start start' hlink), h.keeps⟩

end IsReading

theorem isConnected_congr {transport transport' : Transport}
    (h : transport.link = transport'.link) : transport.isConnected = transport'.isConnected := by
  unfold isConnected
  rw [h]

theorem handle_congr {transport transport' : Transport} (h : transport.link = transport'.link) :
    transport.handle? = transport'.handle? := by
  unfold handle?
  rw [h]

theorem detail_congr {transport transport' : Transport} (h : transport.link = transport'.link) :
    transport.detail = transport'.detail := by
  unfold detail
  rw [h]

theorem lastError_congr {transport transport' : Transport} (h : transport.link = transport'.link) :
    transport.lastError = transport'.lastError := by
  unfold lastError
  rw [h]

theorem isReading_refused (name : String) : IsReading (Wire.refused name : Action Transport α) := by
  refine IsReading.state_bind (fun transport transport' hlink => ?_) fun transport => ?_
  · rw [lastError_congr hlink, detail_congr hlink]
  · exact IsReading.bind (IsReading.lift _) fun message => IsReading.bind (IsReading.lift _)
      fun text => IsReading.bind (IsReading.lift _) fun detail => IsReading.throw _

theorem isReading_check (value : Value) (name : String) : IsReading (Wire.check value name) := by
  unfold Wire.check
  split
  · exact IsReading.pure _
  · exact isReading_refused name

theorem isReading_response : IsReading Wire.response := by
  refine IsReading.state_bind (fun transport transport' hlink => ?_) fun transport => ?_
  · rw [handle_congr hlink]
  · exact IsReading.lift _

theorem isReading_guarded {name : String} {operation : Action Transport α}
    (h : IsReading operation) : IsReading (Wire.guarded name operation) where
  outcome := by
    intro start start' hlink
    have hconnected := isConnected_congr hlink
    cases hstart : start.1.isConnected with
    | false =>
        rw [exec_guarded_of_not_connected hstart,
          exec_guarded_of_not_connected (hconnected ▸ hstart)]
    | true =>
        have houtcome := h.outcome start start' hlink
        have hended := (h.link_eq start).trans (hlink.trans (h.link_eq start').symm)
        rw [exec_guarded hstart, exec_guarded (hconnected ▸ hstart)]
        generalize exec operation start = ended at houtcome hended ⊢
        generalize exec operation start' = ended' at houtcome hended ⊢
        obtain ⟨outcome, ending⟩ := ended
        obtain ⟨outcome', ending'⟩ := ended'
        obtain rfl : outcome = outcome' := houtcome
        cases outcome with
        | error failure =>
            show Except.error (ending.1.reported failure) = .error (ending'.1.reported failure)
            unfold reported
            rw [detail_congr hended]
        | ok a => rfl
  keeps := by
    intro start
    cases hstart : start.1.isConnected with
    | false => rw [exec_guarded_of_not_connected hstart]
    | true =>
        have hended := h.keeps start
        rw [exec_guarded hstart]
        generalize exec operation start = ended at hended ⊢
        obtain ⟨failure | a, ending⟩ := ended
        · show settings (ending.1.afterFailure failure, ending.2) = _
          rw [afterFailure_eq]
          exact hended
        · exact hended

/-! ## Operations on an open handle -/

/-- A call that leaves its result with an open client. -/
def IsUse (request : WireRequest) : Prop :=
  ∃ call, request.queue? = some (.wire call) ∧ call ≠ .open_ ∧ call ≠ .unbind

/-- Open the client, if the next call is to start TLS and it is closed. -/
def prepare : WireRequest → Action Transport Unit
  | .startTls => do
    if (((← Action.state).handle?).getD {}).isClosed then
      let _ ← Wire.ask .open_
  | _ => return ()

/-- Make a call as an operation of a wire client, and read what it left. -/
def callThen (name : String) (request : WireRequest) (inner : Answer → Action Transport α)
    (finish : α → Action Transport Unit) : Action Transport Unit := do
  let result ← Wire.guarded name do
    prepare request
    let answer ← Wire.ask request
    inner answer
  finish result

/-- The operations on an open handle. -/
inductive Operation where
  | startTls
  | bind (username password : Value)
  | search (scope : Scope) (base filter attrs limit : Value) (controls : Option (List Control))
  | add (name attrs : Value)
  | modify (name changes : Value)
  | modifyEach (change : Change) (name attrs : Value)
  | delete (name : Value)
  | rename (name newName newParent deleteOld : Value)

/-- Carry out an operation, whatever it gives. -/
def Operation.perform : Operation → Action Transport Unit
  | .startTls => do let _ ← Transport.startTls
  | .bind username password => do let _ ← Transport.bind username password
  | .search scope base filter attrs limit controls => do
    let _ ← Transport.search scope base filter attrs limit controls
  | .add name attrs => do let _ ← Transport.add name attrs
  | .modify name changes => do let _ ← Transport.modify name changes
  | .modifyEach change name attrs => do let _ ← Transport.modifyEach change name attrs
  | .delete name => do let _ ← Transport.delete name
  | .rename name newName newParent deleteOld => do
    let _ ← Transport.rename name newName newParent deleteOld

/-- The call that an operation makes on a host, unless it cannot be put together. -/
def Operation.request : Operation → Value → Except Failure WireRequest
  | .startTls, host => do
    Value.note [host]
    return .startTls
  | .bind username password, host => do
    Value.note [host, username.orElse (.str "")]
    return .bind username password
  | .search scope base filter attrs limit controls, _ => do
    Value.note [base, filter]
    let (others, paging) ← Wire.splitControls (controls.getD [])
    return .search scope base filter (attrs.orElse (.str "*")) limit others paging
  | .add name attrs, _ => do
    Value.note [name]
    return .add name attrs
  | .modify name changes, _ => do
    Value.note [name]
    return .modify name changes
  | .modifyEach change name attrs, _ => do
    let changes ← changesOf change attrs
    Value.note [name]
    return .modify name changes
  | .delete name, _ => do
    Value.note [name]
    return .delete name
  | .rename name newName newParent deleteOld, _ => do
    Value.note [name, newName]
    return .rename name newName newParent deleteOld

/-- Over a wire client, the action puts a call together, makes it and reads what it left in a
certain way. -/
def CallsBy (action : Action Transport Unit) (request : Value → Except Failure WireRequest)
    (name : String) (inner : Answer → Action Transport α) (finish : α → Action Transport Unit) :
    Prop :=
  ∀ start : Transport × World, start.1.isDirect = false →
    exec action start = exec (do
      let request ← liftM (request start.1.host)
      callThen name request inner finish) start

/-- An action on a wire client puts a call together, makes it and reads what it left. -/
def Calls (action : Action Transport Unit) (request : Value → Except Failure WireRequest) : Prop :=
  ∃ (α : Type) (name : String) (inner : Answer → Action Transport α)
    (finish : α → Action Transport Unit),
    (∀ answer, IsReading (inner answer)) ∧ (∀ a, IsReading (finish a)) ∧
      CallsBy action request name inner finish

/-- Settle who is bound by what the response to a bind says. -/
def settleBind (username : Value) : Action Transport Unit := do
  let response ← Wire.response
  let isSuccess ← response.successful
  Action.change (·.afterBind isSuccess username)

/-- Read the entries that a search found, unless the server refused it. -/
def readFound (scope : Scope) : Action Transport SearchResult := do
  let response ← Wire.response
  if !searchSuccessCodes.any fun code => response.code.same (.int code) then
    Wire.refused scope.name
  let entries ← Wire.entriesOf (((← Action.state).handle?).getD {}).found
  return ⟨.list entries, response⟩

theorem exec_bind_congr {first second : Action Transport α} {next : α → Action Transport β}
    {start : Transport × World} (h : exec first start = exec second start) :
    exec (first >>= next) start = exec (second >>= next) start := by
  rw [exec_bind, exec_bind, h]

theorem exec_perform (directly : Action Transport Value) {name : String} {request : WireRequest}
    (hprepare : prepare request = return ()) {start : Transport × World}
    (hwire : start.1.isDirect = false) :
    exec (do let _ ← choose directly (Wire.perform name request)) start = exec (do
      liftM (Value.note (Wire.namesIn request))
      callThen name request (fun answer => Wire.check answer.value name) fun _ =>
        return ()) start := by
  rw [exec_bind_congr (exec_choose_of_not_isDirect hwire)]
  unfold Wire.perform callThen
  rw [hprepare]
  simp only [bind_assoc, pure_bind]

theorem callsBy_perform (directly : Action Transport Value) {name : String} {request : WireRequest}
    (hprepare : prepare request = return ()) :
    CallsBy (do let _ ← choose directly (Wire.perform name request)) (fun _ => do
      Value.note (Wire.namesIn request)
      return request) name (fun answer => Wire.check answer.value name) fun _ => return () := by
  intro start hwire
  rw [exec_perform directly hprepare hwire, exec_bind, exec_bind, exec_lift, exec_lift]
  cases Value.note (Wire.namesIn request) with
  | error failure => rfl
  | ok noted => rfl

theorem callsBy_modifyEach (change : Change) (name attrs : Value) :
    CallsBy (do let _ ← Transport.modifyEach change name attrs) (fun _ => do
      let changes ← changesOf change attrs
      Value.note [name]
      return .modify name changes) "modify" (fun answer => Wire.check answer.value "modify")
      fun _ => return () := by
  intro start hwire
  unfold Transport.modifyEach
  rw [bind_assoc, exec_bind, exec_bind, exec_lift, exec_lift]
  cases changesOf change attrs with
  | error failure => rfl
  | ok changes =>
      have hmodify : prepare (.modify name changes) = return () := rfl
      refine (exec_perform _ hmodify hwire).trans ?_
      have hnames : Wire.namesIn (.modify name changes) = [name] := rfl
      rw [hnames, exec_bind, exec_lift]
      cases Value.note [name] with
      | error failure => rfl
      | ok noted => rfl

theorem callsBy_startTls :
    CallsBy (do let _ ← Transport.startTls) (fun host => do
      Value.note [host]
      return .startTls) "start_tls" (fun answer => Wire.check answer.value "start_tls")
      fun _ => return () := by
  intro start hwire
  have hopen : (do
      if (((← Action.state).handle?).getD {}).isClosed then
        let _ ← Wire.ask .open_
      Wire.check (← Wire.ask .startTls).value "start_tls") = (do
        prepare .startTls
        let answer ← Wire.ask .startTls
        Wire.check answer.value "start_tls") := by
    unfold prepare
    rw [bind_assoc]
    refine congrArg (Bind.bind _) (funext fun transport => ?_)
    split
    · rw [bind_assoc]
      rfl
    · rfl
  unfold Transport.startTls
  rw [exec_bind_congr (exec_choose_of_not_isDirect hwire)]
  unfold Wire.startTls
  rw [bind_assoc, exec_bind, exec_state]
  dsimp only
  rw [bind_assoc, exec_bind, exec_lift, exec_bind, exec_lift]
  cases Value.note [start.1.host] with
  | error failure => rfl
  | ok noted =>
      show exec _ start = exec (callThen "start_tls" .startTls _ _) start
      unfold callThen
      rw [hopen]

theorem callsBy_bind (username password : Value) :
    CallsBy (do let _ ← Transport.bind username password) (fun host => do
      Value.note [host, username.orElse (.str "")]
      return .bind username password) "bind" (fun _ => return ()) fun _ => settleBind username := by
  intro start hwire
  unfold Transport.bind
  rw [exec_bind_congr (exec_choose_of_not_isDirect hwire)]
  unfold Wire.bind
  rw [bind_assoc, exec_bind, exec_state]
  dsimp only
  rw [bind_assoc, exec_bind, exec_lift, exec_bind, exec_lift]
  cases Value.note [start.1.host, username.orElse (.str "")] with
  | error failure => rfl
  | ok noted =>
      show exec _ start = exec (callThen "bind" (.bind username password) _ _) start
      unfold callThen prepare settleBind
      simp only [bind_assoc, pure_bind, bind_pure_unit]

theorem callsBy_search (scope : Scope) (base filter attrs limit : Value)
    (controls : Option (List Control)) :
    CallsBy (do let _ ← Transport.search scope base filter attrs limit controls) (fun _ => do
      Value.note [base, filter]
      let (others, paging) ← Wire.splitControls (controls.getD [])
      return .search scope base filter (attrs.orElse (.str "*")) limit others paging) scope.name
      (fun _ => readFound scope) fun _ => return () := by
  intro start hwire
  unfold Transport.search
  rw [exec_bind_congr (exec_choose_of_not_isDirect hwire)]
  unfold Wire.search
  rw [bind_assoc, exec_bind, exec_lift, exec_bind, exec_lift]
  cases Value.note [base, filter] with
  | error failure => rfl
  | ok noted =>
      dsimp only
      rw [bind_assoc, exec_bind, exec_lift]
      cases Wire.splitControls (controls.getD []) with
      | error failure => rfl
      | ok parts =>
          show exec _ start = exec (callThen _ _ _ _) start
          unfold callThen prepare
          simp only [pure_bind]
          rfl

theorem isReading_settleBind (username : Value) : IsReading (settleBind username) :=
  IsReading.bind isReading_response fun _ => IsReading.bind (IsReading.lift _)
    fun _ => IsReading.change fun _ _ => rfl

theorem isReading_readFound (scope : Scope) : IsReading (readFound scope) := by
  refine IsReading.bind isReading_response fun response => ?_
  have hentries : IsReading (do
      let entries ← Wire.entriesOf (((← Action.state).handle?).getD {}).found
      return (⟨.list entries, response⟩ : SearchResult)) := by
    refine IsReading.state_bind (fun transport transport' hlink => ?_) fun transport => ?_
    · rw [handle_congr hlink]
    · exact IsReading.bind (IsReading.lift _) fun entries => IsReading.pure _
  dsimp only
  split
  · exact IsReading.bind (isReading_refused _) fun _ => hentries
  · exact hentries

/-- An operation whose answer is only checked. -/
theorem Calls.of_check {action : Action Transport Unit}
    {request : Value → Except Failure WireRequest} {name : String}
    (h : CallsBy action request name (fun answer => Wire.check answer.value name)
      fun _ => return ()) : Calls action request :=
  ⟨Value, name, _, _, fun _ => isReading_check _ _, fun _ => IsReading.pure _, h⟩

theorem Operation.calls (operation : Operation) : Calls operation.perform operation.request := by
  cases operation with
  | startTls => exact .of_check callsBy_startTls
  | bind username password =>
      exact ⟨Unit, _, _, _, fun _ => IsReading.pure _, fun _ => isReading_settleBind username,
        callsBy_bind username password⟩
  | search scope base filter attrs limit controls =>
      exact ⟨SearchResult, _, _, _, fun _ => isReading_readFound scope, fun _ => IsReading.pure _,
        callsBy_search scope base filter attrs limit controls⟩
  | add name attrs => exact .of_check (callsBy_perform _ rfl)
  | modify name changes => exact .of_check (callsBy_perform _ rfl)
  | modifyEach change name attrs => exact .of_check (callsBy_modifyEach change name attrs)
  | delete name => exact .of_check (callsBy_perform _ rfl)
  | rename name newName newParent deleteOld => exact .of_check (callsBy_perform _ rfl)

theorem Operation.isUse_of_request {operation : Operation} {host : Value} {request : WireRequest}
    (h : operation.request host = .ok request) : IsUse request := by
  cases operation with
  | startTls =>
      obtain ⟨_, -, h⟩ := exists_of_bind_eq_ok h
      cases h
      exact ⟨.startTls, rfl, by decide, by decide⟩
  | bind username password =>
      obtain ⟨_, -, h⟩ := exists_of_bind_eq_ok h
      cases h
      exact ⟨.bind, rfl, by decide, by decide⟩
  | search scope base filter attrs limit controls =>
      obtain ⟨_, -, h⟩ := exists_of_bind_eq_ok h
      obtain ⟨_, -, h⟩ := exists_of_bind_eq_ok h
      cases h
      exact ⟨.search, rfl, by decide, by decide⟩
  | add name attrs =>
      obtain ⟨_, -, h⟩ := exists_of_bind_eq_ok h
      cases h
      exact ⟨.add, rfl, by decide, by decide⟩
  | modify name changes =>
      obtain ⟨_, -, h⟩ := exists_of_bind_eq_ok h
      cases h
      exact ⟨.modify, rfl, by decide, by decide⟩
  | modifyEach change name attrs =>
      obtain ⟨_, -, h⟩ := exists_of_bind_eq_ok h
      obtain ⟨_, -, h⟩ := exists_of_bind_eq_ok h
      cases h
      exact ⟨.modify, rfl, by decide, by decide⟩
  | delete name =>
      obtain ⟨_, -, h⟩ := exists_of_bind_eq_ok h
      cases h
      exact ⟨.delete, rfl, by decide, by decide⟩
  | rename name newName newParent deleteOld =>
      obtain ⟨_, -, h⟩ := exists_of_bind_eq_ok h
      cases h
      exact ⟨.rename, rfl, by decide, by decide⟩

/-- The call of an operation, on a client that is opened if it has to be. -/
def approach (request : WireRequest) : Action Transport Answer := do
  prepare request
  Wire.ask request

theorem preserves_isConnected_approach (request : WireRequest) {isOpen : Bool} :
    Preserves (·.isConnected = isOpen) (approach request) := by
  refine Preserves.bind ?_ fun _ => preserves_isConnected_wireAsk request
  unfold prepare
  split
  · refine Preserves.bind Preserves.state fun transport => ?_
    split
    · exact Preserves.bind (preserves_isConnected_wireAsk _) fun _ => Preserves.pure _
    · exact Preserves.pure _
  · exact Preserves.pure _

/-- If the call fails, that is reported; if it is answered, the answer is read. -/
theorem exec_callThen {name : String} {request : WireRequest}
    {inner : Answer → Action Transport α} {finish : α → Action Transport Unit}
    {start : Transport × World} (hconnected : start.1.isConnected = true) :
    exec (callThen name request inner finish) start =
      match exec (approach request) start with
      | (.error failure, called) =>
        (.error (called.1.reported failure), (called.1.afterFailure failure, called.2))
      | (.ok answer, called) => exec (do
          let result ← Wire.guarded name (inner answer)
          finish result) called := by
  have hcalled := preserves_isConnected_approach request start hconnected
  have hoperation : (do
      prepare request
      let answer ← Wire.ask request
      inner answer) = approach request >>= inner := (bind_assoc _ _ _).symm
  unfold callThen
  rw [hoperation, exec_bind, exec_guarded hconnected, exec_bind]
  generalize exec (approach request) start = ended at hcalled ⊢
  obtain ⟨failure | answer, called⟩ := ended
  · rfl
  · dsimp only
    rw [exec_bind, exec_guarded hcalled]

end Transport

end Directory
