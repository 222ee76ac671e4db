import Directory.Proofs.Connection.Schedule
import Directory.Proofs.Guard.Operations
import Directory.Proofs.Transport.Tls

/-!
# Sessions

A session is anything that is done with a connection, its guards and its transport by the operations
that they have, where binds are sent by guards only. Every step of a session keeps the transport
secure, and so no session sends a bind before TLS was started where TLS is wanted.
-/

namespace Directory

open Directory.Action

/-! ## Transports and guards -/

namespace Transport

variable {α : Type}

theorem preserves_choose {directly overWire : Action Transport α}
    (h : Preserves IsSecure overWire) : Preserves IsSecure (choose directly overWire) :=
  Meets.preserves (meets_choose_of_wire (fun _ hstart => hstart.wire) (Meets.of_preserves h))

/-- A guard starts TLS before it sends a bind, unless the transport is bound, and then TLS was
started before. -/
theorem preserves_sendBind (username password : Value) :
    Preserves IsSecure (Guard.sendBind username password) := by
  have hbind : Meets (fun start => start.1.IsReady) (Transport.bind username password)
      (fun _ ending => ending.1.IsSecure) (fun _ ending => ending.1.IsSecure) :=
    meets_choose_of_wire (fun _ hstart => hstart.1.wire) (meets_bind username password)
  have hstart : Meets (fun start => start.1.IsSecure) Transport.startTls
      (fun _ ending => ending.1.IsReady) (fun _ ending => ending.1.IsSecure) :=
    meets_choose_of_wire (fun _ hstart => hstart.wire) meets_startTls
  refine Meets.preserves (Meets.state_bind fun transport => ?_)
  cases hstarts : transport.usesTls.isTrue && !transport.isBound with
  | true =>
      refine Meets.bind (hstart.restrict ?_) fun _ => hbind
      exact fun _ h => h.1
  | false =>
      refine hbind.restrict ?_
      intro start hparts
      obtain ⟨hsecure, rfl⟩ := hparts
      refine ⟨hsecure, fun htls => hsecure.started ?_ htls⟩
      simpa [htls] using hstarts

end Transport

namespace Connection

variable {α : Type}

/-- The transport of a connection is secure. -/
def IsSecure (connection : Connection) : Prop :=
  connection.transport.IsSecure

theorem preserves_onTransport {action : Action Transport α}
    (h : Preserves Transport.IsSecure action) : Preserves IsSecure (onTransport action) :=
  Preserves.on isLawful_link h

/-- What leaves the transport alone keeps it secure. -/
theorem preserves_of_keeps {action : Action Connection α} (h : Keeps Connection.transport action) :
    Preserves IsSecure action :=
  h.preserves Transport.IsSecure

theorem preserves_announce (happening : Happening) : Preserves IsSecure (announce happening) :=
  preserves_of_keeps (keeps_announce _ happening)

theorem preserves_noteAttempt (hostname : Value) : Preserves IsSecure (noteAttempt hostname) :=
  preserves_of_keeps (keeps_noteAttempt hostname fun _ _ => rfl)

theorem preserves_guardBind (guard : Guard) (username password : Value) :
    Preserves IsSecure (onTransport (guard.bind username password)) :=
  preserves_onTransport (Guard.preserves_bind (Transport.preserves_sendBind username password))

/-! ## Opening and closing -/

theorem preserves_close : Preserves IsSecure (onTransport Transport.close) :=
  preserves_onTransport (Transport.preserves_choose (Meets.preserves
    (Transport.meets_close_isSecure.mono (fun _ h => h) (fun _ _ h => h.1) fun _ _ h => h)))

theorem preserves_disconnect : Preserves IsSecure disconnect :=
  upholds_disconnect_of ((Meets.of_preserves preserves_close).restrict fun _ h => h.1) fun _ h => h

theorem configured_isReleased {transport : Transport} (h : transport.IsReleased)
    (configuration : Configuration) (options : List (Value × Value)) :
    (configured configuration options transport).IsReleased := by
  refine h.change (f := configured configuration options) ?_ ?_ ?_
  all_goals
    unfold configured
    dsimp only
    split
    · rfl
    split
    · rfl
    · rfl

/-- A transport without a client is opened with the settings of the configuration. -/
theorem meets_openReleased (hostname port : Value) :
    Meets (fun start => start.1.transport.IsReleased) (openReleased hostname port)
      (fun _ ending => ending.1.IsSecure) (fun _ ending => ending.1.IsSecure) := by
  have hreleased {β : Type} {action : Action Connection β}
      (h : Preserves (fun connection => connection.transport.IsReleased) action) :=
    Meets.of_preserves_imp h fun _ h => h.1
  refine Meets.bind (hreleased ?_) fun _ => Meets.bind (hreleased (Preserves.lift _)) fun _ => ?_
  · refine Preserves.bind Preserves.state fun connection =>
      Preserves.bind (Preserves.lift _) fun options => ?_
    exact Preserves.on isLawful_link (Preserves.change fun _ h =>
      configured_isReleased h connection.configuration options)
  · have hconnect : Preserves IsSecure (onTransport (Transport.connect hostname port)) :=
      preserves_onTransport (Transport.preserves_choose (Transport.preserves_connect hostname port))
    have hchange :
        Preserves IsSecure (Action.change ({ · with hostname, state := .connected })) :=
      Preserves.change fun _ h => h
    exact (Meets.of_preserves (Preserves.bind hconnect fun _ => hchange)).mono (fun _ h => h.1)
      (fun _ _ h => h) fun _ _ h => h

/-- The handle before is closed before the settings of the configuration are applied. -/
theorem preserves_openHost (hostname : Value) : Preserves IsSecure (openHost hostname) := by
  have hclose : Meets (fun start => start.1.IsSecure) (onTransport Transport.close)
      (fun _ ending => ending.1.transport.IsReleased) (fun _ ending => ending.1.IsSecure) :=
    Meets.on isLawful_link <| Transport.meets_choose_of_wire (fun _ hstart => hstart.wire)
      Transport.meets_close_isSecure
  exact Meets.preserves <| meets_openHost_of (hclose.restrict fun _ h => h.1)
    (fun _ hsecure hconnected => ⟨hsecure, hconnected⟩) (fun _ _ h _ => h)
    fun _ chosen _ _ => meets_openReleased chosen _

/-! ## Connecting and running operations -/

theorem preserves_connectTo (hostname username password : Value) :
    Preserves IsSecure (connectTo hostname username password) :=
  upholds_connectTo_of (fun _ h => h) preserves_announce (preserves_openHost hostname)
    (upholds_bind_of preserves_guardBind fun _ h => h)

theorem preserves_connect (username password : Value) :
    Preserves IsSecure (connect username password) :=
  upholds_connect_of preserves_noteAttempt
    (fun _ _ hostname _ => preserves_connectTo hostname username password) preserves_disconnect
    preserves_announce

theorem preserves_auth : Preserves IsSecure auth :=
  upholds_auth_of (preserves_openHost .null)

theorem preserves_run {operation : Action Connection α} (h : Preserves IsSecure operation) :
    Preserves IsSecure (run operation) := by
  have hreconnect (hostname : Value) : Preserves IsSecure (reconnectTo hostname) :=
    Preserves.bind preserves_disconnect fun _ => preserves_connectTo hostname .null .null
  exact upholds_run_of preserves_noteAttempt hreconnect h (preserves_connect .null .null)

/-! ## Sessions -/

/-- Set an option of the configuration. The transport takes it up when it is opened next. -/
def setOption (key value : Value) : Action Connection Unit := do
  let configuration ← (← Action.state).configuration.set key value
  Action.change ({ · with configuration })

/-- What is done with a connection, one thing after the other, where each thing may depend on what
came of those before. -/
inductive IsSession : {α : Type} → Action Connection α → Prop
  | pure {α : Type} (a : α) : IsSession (Pure.pure a)
  | throw {α : Type} (failure : Failure) : IsSession (MonadExcept.throw failure : Action _ α)
  | next {α β : Type} {action : Action Connection α} {next : α → Action Connection β}
      (haction : IsSession action) (hnext : ∀ a, IsSession (next a)) : IsSession (action >>= next)
  | observe {α : Type} {action : Action Connection α} (haction : IsSession action) :
      IsSession action.observe
  | state : IsSession Action.state
  | outside {α : Type} (effect : Effect α) : IsSession (Action.outside effect)
  | setOption (key value : Value) : IsSession (setOption key value)
  | openHost (hostname : Value) : IsSession (openHost hostname)
  | connect (username password : Value) : IsSession (connect username password)
  | reconnect : IsSession reconnect
  | disconnect : IsSession disconnect
  | auth : IsSession auth
  | withGuards {α : Type} {action : Action Transport α}
      (haction : Guard.IsSession (fun _ => True) action) : IsSession (onTransport action)
  | search (scope : Scope) (base filter attrs limit : Value) (controls : Option (List Control)) :
      IsSession (onTransport (Transport.search scope base filter attrs limit controls))
  | add (name attrs : Value) : IsSession (onTransport (Transport.add name attrs))
  | modify (name changes : Value) : IsSession (onTransport (Transport.modify name changes))
  | delete (name : Value) : IsSession (onTransport (Transport.delete name))
  | rename (name newName newParent deleteOld : Value) :
      IsSession (onTransport (Transport.rename name newName newParent deleteOld))
  | run {α : Type} {operation : Action Connection α} (hoperation : IsSession operation) :
      IsSession (run operation)

theorem preserves_setOption (key value : Value) : Preserves IsSecure (setOption key value) :=
  Preserves.bind Preserves.state fun _ => Preserves.bind (Preserves.lift _) fun _ =>
    Preserves.change fun _ h => h

/-- A change over a wire client is neither a bind nor a new client. -/
theorem preserves_perform (directly : Action Transport Value) (name : String)
    {request : WireRequest} (hclient : request.makesClient = false)
    (hbind : request.isBind = false) :
    Preserves IsSecure
      (onTransport (Transport.choose directly (Transport.Wire.perform name request))) :=
  preserves_onTransport
    (Transport.preserves_choose (Transport.preserves_perform hclient hbind))

theorem IsSession.preserves {session : Action Connection α} (h : IsSession session) :
    Preserves IsSecure session := by
  induction h with
  | pure a => exact Preserves.pure a
  | throw failure => exact Preserves.throw failure
  | next _ _ haction hnext => exact Preserves.bind haction hnext
  | observe _ haction => exact haction.observe
  | state => exact Preserves.state
  | outside effect => exact Preserves.outside effect
  | setOption key value => exact preserves_setOption key value
  | openHost hostname => exact preserves_openHost hostname
  | connect username password => exact preserves_connect username password
  | reconnect =>
      exact Preserves.bind preserves_disconnect fun _ => preserves_connect .null .null
  | disconnect => exact preserves_disconnect
  | auth => exact preserves_auth
  | withGuards haction =>
      exact preserves_onTransport (haction.preserves fun username password _ =>
        Transport.preserves_sendBind username password)
  | search scope base filter attrs limit controls =>
      exact preserves_onTransport (Transport.preserves_choose
        (Transport.preserves_search scope base filter attrs limit controls))
  | add name attrs => exact preserves_perform _ _ rfl rfl
  | modify name changes => exact preserves_perform _ _ rfl rfl
  | delete name => exact preserves_perform _ _ rfl rfl
  | rename name newName newParent deleteOld => exact preserves_perform _ _ rfl rfl
  | run _ hoperation => exact preserves_run hoperation

/-- Whatever is done with a connection over wire clients and whatever comes of it, a bind is sent to
a client under TLS only after TLS was started on that client. -/
theorem session_binds_protected {session : Action Connection α} (h : IsSession session)
    {start : Connection × World} (hwire : start.1.transport = Transport.wire) :
    Exchange.BindsAreProtected (exec session start).2.1.transport.history := by
  have hsecure : IsSecure start.1 := by
    show start.1.transport.IsSecure
    rw [hwire]
    exact Transport.isSecure_wire
  exact (h.preserves start hsecure).binds

/-- A connection that is to use TLS, with a server that accepts everything. -/
def underTls : Connection × World :=
  ({ configuration := ⟨fun
      | .hosts => .list [.str "a"]
      | .username => .str "cn=admin"
      | .useTls => .bool true
      | name => name.default⟩
     transport := .wire }, {})

/-- Connect, and check the password of a user. -/
def checkPassword (username password : Value) : Action Connection Bool := do
  connect .null .null
  let guard ← auth
  onTransport (guard.attempt username password false)

theorem isSession_checkPassword (username password : Value) :
    IsSession (checkPassword username password) :=
  .next (.connect .null .null) fun _ => .next .auth fun guard =>
    .withGuards (.attempt guard password false trivial trivial)

/-- TLS is started once, and then three binds are sent: as the account, as the user, and as the
account again. -/
theorem checkPassword_binds_protected :
    let session := checkPassword (.str "jdoe") (.str "secret")
    let history := (exec session underTls).2.1.transport.history
    IsSession session ∧ underTls.1.transport = Transport.wire ∧
      history.map (fun exchange => (exchange.request.isBind, exchange.startsTls)) =
        [(true, false), (true, false), (true, false), (false, true), (false, false),
          (false, false), (false, false)] ∧
      Exchange.BindsAreProtected history :=
  ⟨isSession_checkPassword _ _, rfl, by decide +kernel,
    session_binds_protected (isSession_checkPassword _ _) rfl⟩

end Connection

end Directory
