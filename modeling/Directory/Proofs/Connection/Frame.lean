import Directory.Connection.Run
import Directory.Proofs.Triple

/-!
# What a connection keeps

Opening and closing the transport of a connection changes how far it has come and which host it
uses, and nothing else. `IsSteady` says that a view shows nothing of that, so that it shows the same
after every step; the host of a connection that was made is the one that was asked for.
-/

namespace Directory.Connection

open Directory.Action

variable {υ α : Type} {view : Connection → υ}

theorem isLawful_link : link.IsLawful where
  get_put := fun _ _ => rfl
  put_get := fun _ => rfl

/-- A view that shows neither the transport nor how far the connection has come. -/
def IsSteady (view : Connection → υ) : Prop :=
  ∀ connection transport state hostname,
    view { connection with transport, state, hostname } = view connection

theorem IsSteady.state (h : IsSteady view) (connection : Connection) (transport : Transport)
    (state : ConnectionState) : view { connection with transport, state } = view connection :=
  h connection transport state connection.hostname

theorem IsSteady.transport (h : IsSteady view) (connection : Connection) (transport : Transport) :
    view { connection with transport } = view connection :=
  h connection transport connection.state connection.hostname

/-- The host to open: the one that is given, or the first configured host. -/
def chosenHost (configuration : Configuration) : Value → Except Failure Value
  | .null => firstHost configuration
  | hostname => .ok hostname

/-- Open a transport that holds no handle for a host. -/
def openReleased (hostname port : Value) : Action Connection Unit := do
  configure
  Value.note [hostname]
  let _ ← onTransport (Transport.connect hostname port)
  Action.change ({ · with hostname, state := .connected })

/-- Open the transport of a connection for a host that was chosen. -/
def openChosen (connection : Connection) (hostname : Value) : Action Connection Unit := do
  if connection.transport.isConnected then
    let _ ← onTransport Transport.close
  openReleased hostname (connection.configuration.value .port)

theorem openHost_eq (hostname : Value) :
    openHost hostname = (do
      let connection ← Action.state
      openChosen connection (← chosenHost connection.configuration hostname)) := by
  cases hostname <;> rfl

/-- The settings of a transport do not say whether it is open or bound. -/
theorem configured_eq (configuration : Configuration) (options : List (Value × Value))
    (transport : Transport) :
    (configured configuration options transport).link = transport.link ∧
      (configured configuration options transport).isBound = transport.isBound := by
  unfold configured
  split
  · exact ⟨rfl, rfl⟩
  split
  · exact ⟨rfl, rfl⟩
  · exact ⟨rfl, rfl⟩

/-- What is done after a host could not be used: it is noted, and further hosts are tried. -/
def tryRest (username password hostname : Value) (failure : Failure) (hostnames : List Value) :
    Action Connection (Option Failure) := do
  Value.note [hostname]
  noteAttempt hostname
  match hostnames with
  | [] => return some failure
  | hostname :: hostnames => connectToAny username password hostname hostnames

/-! ## Steps that leave a view alone -/

theorem keeps_onTransport (action : Action Transport α)
    (h : ∀ connection transport, view { connection with transport } = view connection) :
    Keeps view (onTransport action) :=
  Keeps.on h

theorem keeps_announce (view : Connection → υ) (happening : Happening) :
    Keeps view (announce happening) :=
  Keeps.bind Keeps.state fun _ => Keeps.outside _

theorem keeps_configure (h : IsSteady view) : Keeps view configure :=
  Keeps.bind Keeps.state fun _ => Keeps.bind (Keeps.lift _) fun _ => keeps_onTransport _ h.transport

theorem keeps_isConnected_configure : Keeps (·.transport.isConnected) configure := by
  refine Keeps.bind Keeps.state fun connection => Keeps.bind (Keeps.lift _) fun options => ?_
  intro start
  show (configured connection.configuration options start.1.transport).isConnected = _
  unfold Transport.isConnected
  rw [(configured_eq connection.configuration options start.1.transport).1]

theorem keeps_disconnect (h : IsSteady view) : Keeps view disconnect := by
  have hchange :
      Keeps view (Action.change ({ · with state := .disconnected, hostname := .null })) :=
    Keeps.change fun connection => h connection connection.transport .disconnected .null
  refine Keeps.bind Keeps.state fun connection => ?_
  cases connection.transport.isConnected with
  | false => exact hchange
  | true => exact Keeps.bind (keeps_onTransport _ h.transport) fun _ => hchange

theorem keeps_openReleased (hostname port : Value) (h : IsSteady view) :
    Keeps view (openReleased hostname port) :=
  Keeps.bind (keeps_configure h) fun _ => Keeps.bind (Keeps.lift _) fun _ =>
    Keeps.bind (keeps_onTransport _ h.transport) fun _ => Keeps.change fun connection =>
      h connection connection.transport .connected hostname

theorem keeps_openChosen (connection : Connection) (hostname : Value) (h : IsSteady view) :
    Keeps view (openChosen connection hostname) := by
  unfold openChosen
  cases connection.transport.isConnected with
  | false => exact keeps_openReleased hostname _ h
  | true =>
      exact Keeps.bind (keeps_onTransport _ h.transport) fun _ => keeps_openReleased hostname _ h

theorem keeps_openHost (hostname : Value) (h : IsSteady view) : Keeps view (openHost hostname) := by
  rw [openHost_eq]
  exact Keeps.bind Keeps.state fun connection => Keeps.bind (Keeps.lift _) fun hostname =>
    keeps_openChosen connection hostname h

theorem keeps_bind (username password : Value) (h : ∀ connection transport state,
    view { connection with transport, state } = view connection) :
    Keeps view (bind username password) := by
  have htransport (connection : Connection) (transport : Transport) :
      view { connection with transport } = view connection :=
    h connection transport connection.state
  have hchange : Keeps view (Action.change ({ · with state := .bound })) :=
    Keeps.change fun connection => h connection connection.transport .bound
  refine Keeps.bind Keeps.state fun connection => ?_
  split
  · exact Keeps.bind (keeps_onTransport _ htransport) fun _ => hchange
  · exact Keeps.bind (keeps_onTransport _ htransport) fun _ => hchange

theorem keeps_connectTo (hostname username password : Value) (h : IsSteady view) :
    Keeps view (connectTo hostname username password) := by
  refine Keeps.bind (Keeps.change fun connection => ?_) fun _ => ?_
  · exact h connection connection.transport .connecting connection.hostname
  · exact Keeps.bind (keeps_announce view _) fun _ =>
      Keeps.bind (keeps_openHost hostname h) fun _ =>
      Keeps.bind (keeps_bind username password h.state) fun _ => keeps_announce view _

theorem keeps_reconnectTo (hostname : Value) (h : IsSteady view) :
    Keeps view (reconnectTo hostname) :=
  Keeps.bind (keeps_disconnect h) fun _ => keeps_connectTo hostname .null .null h

theorem keeps_noteAttempt (hostname : Value)
    (h : ∀ connection attempted, view { connection with attempted } = view connection) :
    Keeps view (noteAttempt hostname) := by
  refine Keeps.bind (Keeps.lift _) fun hostname => Keeps.change fun connection => ?_
  split
  · rfl
  · exact h connection _

theorem keeps_connectToAny (username password hostname : Value) (hostnames : List Value)
    (h : IsSteady view)
    (hattempted : ∀ connection attempted, view { connection with attempted } = view connection) :
    Keeps view (connectToAny username password hostname hostnames) := by
  rw [connectToAny]
  refine Keeps.bind (keeps_connectTo hostname username password h).observe fun result => ?_
  cases result with
  | ok made => exact Keeps.pure none
  | error failure =>
      have hrest : Keeps view (tryRest username password hostname failure hostnames) := by
        refine Keeps.bind (Keeps.lift _) fun _ =>
          Keeps.bind (keeps_noteAttempt hostname hattempted) fun _ => ?_
        cases hostnames with
        | nil => exact Keeps.pure (some failure)
        | cons next hostnames =>
            exact keeps_connectToAny username password next hostnames h hattempted
      cases hdirectory : failure.isDirectory with
      | false =>
          simp only [hdirectory]
          exact Keeps.bind (Keeps.throw failure) fun _ => hrest
      | true =>
          simp only [hdirectory]
          exact hrest

theorem keeps_connect (username password : Value) (h : IsSteady view)
    (hattempted : ∀ connection attempted, view { connection with attempted } = view connection) :
    Keeps view (connect username password) := by
  refine Keeps.bind Keeps.state fun connection => ?_
  split
  · exact Keeps.throw _
  · refine Keeps.bind (keeps_connectToAny username password _ _ h hattempted) fun last => ?_
    cases last with
    | none => exact Keeps.pure ()
    | some last =>
        exact Keeps.bind (keeps_disconnect h) fun _ => Keeps.bind Keeps.state fun _ =>
          Keeps.bind (Keeps.lift _) fun _ => Keeps.bind (keeps_announce view _) fun _ =>
            Keeps.throw _

/-! ## What connecting meets and upholds -/

/-- A host is opened as its parts do that: a transport that is open is closed first, and the port is
the configured one. -/
theorem meets_openHost_of {pre released post : Connection × World → Prop}
    {fails : Failure → Connection × World → Prop} {hostname : Value}
    (hclose : Meets (fun start => pre start ∧ start.1.transport.isConnected = true)
      (onTransport Transport.close) (fun _ ending => released ending) fails)
    (hclosed : ∀ start, pre start → start.1.transport.isConnected = false → released start)
    (hunchosen : ∀ start failure, pre start →
      chosenHost start.1.configuration hostname = .error failure → fails failure start)
    (hopen : ∀ start chosen, pre start →
      chosenHost start.1.configuration hostname = .ok chosen →
      Meets released (openReleased chosen (start.1.configuration.value .port))
        (fun _ ending => post ending) fails) :
    Meets pre (openHost hostname) (fun _ ending => post ending) fails := by
  rw [openHost_eq]
  intro start hstart
  rw [exec_bind, exec_state]
  dsimp only
  rw [exec_bind, exec_lift]
  cases hchosen : chosenHost start.1.configuration hostname with
  | error failure => exact hunchosen start failure hstart hchosen
  | ok chosen =>
      have hchosenOpen := hopen start chosen hstart hchosen
      dsimp only
      unfold openChosen
      cases hconnected : start.1.transport.isConnected with
      | true => exact Meets.bind hclose (fun _ => hchosenOpen) start ⟨hstart, hconnected⟩
      | false => exact hchosenOpen start (hclosed start hstart hconnected)

section Upholds

variable {inv : Connection × World → Prop} {username password : Value}

/-- Disconnecting upholds what closing an open transport and marking the connection uphold. -/
theorem upholds_disconnect_of
    (hclose : Meets (fun start => inv start ∧ start.1.transport.isConnected = true)
      (onTransport Transport.close) (fun _ => inv) (fun _ => inv))
    (hmark : Upholds inv (Action.change ({ · with state := .disconnected, hostname := .null }))) :
    Upholds inv disconnect := by
  refine Meets.upholds (Meets.state_bind fun connection => ?_)
  have hmarked := Meets.of_ends hmark
  split
  next hopen =>
    refine Meets.bind (hclose.restrict fun start hparts => ?_) fun _ => hmarked
    obtain ⟨hstart, rfl⟩ := hparts
    exact ⟨hstart, hopen⟩
  next => exact hmarked.restrict fun _ hparts => hparts.1

/-- Asking for a guard upholds what opening the first host upholds. -/
theorem upholds_auth_of (hopen : Upholds inv (openHost .null)) : Upholds inv auth := by
  have hguard : Upholds inv (do return (← Action.state).guard) :=
    Upholds.bind Upholds.state fun _ => Upholds.pure _
  refine Upholds.bind Upholds.state fun connection => ?_
  dsimp only
  split
  · exact Upholds.bind hopen fun _ => hguard
  · exact hguard

/-- Binding upholds what the binds of guards and marking the connection uphold. -/
theorem upholds_bind_of
    (hguard : ∀ (guard : Guard) username password,
      Upholds inv (onTransport (guard.bind username password)))
    (hmark : Upholds inv (Action.change ({ · with state := .bound }))) :
    Upholds inv (bind username password) := by
  refine Upholds.bind Upholds.state fun connection => ?_
  dsimp only
  split
  · exact Upholds.bind (hguard _ _ _) fun _ => hmark
  · exact Upholds.bind (hguard _ _ _) fun _ => hmark

/-- Connecting to a host upholds what its steps uphold. -/
theorem upholds_connectTo_of {hostname : Value}
    (hmark : Upholds inv (Action.change ({ · with state := .connecting })))
    (hannounce : ∀ happening, Upholds inv (announce happening))
    (hopen : Upholds inv (openHost hostname)) (hbind : Upholds inv (bind username password)) :
    Upholds inv (connectTo hostname username password) :=
  Upholds.bind hmark fun _ => Upholds.bind (hannounce _) fun _ => Upholds.bind hopen fun _ =>
    Upholds.bind hbind fun _ => hannounce _

/-- Trying hosts in order upholds what trying each one and noting it uphold. -/
theorem upholds_connectToAny_of (hnote : ∀ hostname, Upholds inv (noteAttempt hostname))
    {hostname : Value} {hostnames : List Value}
    (hconnect : ∀ other ∈ hostname :: hostnames,
      Upholds inv (connectTo other username password)) :
    Upholds inv (connectToAny username password hostname hostnames) := by
  obtain ⟨hfirst, hothers⟩ := List.forall_mem_cons.1 hconnect
  rw [connectToAny]
  refine Upholds.bind hfirst.observe fun result => ?_
  cases result with
  | ok made => exact Upholds.pure none
  | error failure =>
      have hrest : Upholds inv (tryRest username password hostname failure hostnames) := by
        refine Upholds.bind (Upholds.lift _) fun _ =>
          Upholds.bind (hnote hostname) fun _ => ?_
        cases hostnames with
        | nil => exact Upholds.pure (some failure)
        | cons next hostnames => exact upholds_connectToAny_of hnote hothers
      dsimp only
      split
      · exact Upholds.bind (Upholds.throw failure) fun _ => hrest
      · exact hrest

/-- Connecting upholds what its parts uphold for the configured hosts. -/
theorem upholds_connect_of (hnote : ∀ hostname, Upholds inv (noteAttempt hostname))
    (hconnect : ∀ start, inv start → ∀ hostname ∈ start.1.configuration.hosts,
      Upholds inv (connectTo hostname username password))
    (hdisconnect : Upholds inv disconnect)
    (hannounce : ∀ happening, Upholds inv (announce happening)) :
    Upholds inv (connect username password) := by
  intro start hstart
  have hhosts := hconnect start hstart
  unfold connect
  rw [exec_bind, exec_state]
  dsimp only
  refine (?_ : Upholds inv _) start hstart
  cases hlist : start.1.configuration.hosts with
  | nil => exact Upholds.throw _
  | cons hostname hostnames =>
      rw [hlist] at hhosts
      refine Upholds.bind (upholds_connectToAny_of hnote hhosts) fun last => ?_
      cases last with
      | none => exact Upholds.pure ()
      | some last =>
          exact Upholds.bind hdisconnect fun _ => Upholds.bind Upholds.state fun _ =>
            Upholds.bind (Upholds.lift _) fun _ => Upholds.bind (hannounce _) fun _ =>
              Upholds.throw _

end Upholds

/-! ## The host in use -/

theorem hostname_of_openReleased {hostname port : Value} {start ending : Connection × World}
    (h : exec (openReleased hostname port) start = (.ok (), ending)) :
    ending.1.hostname = hostname := by
  obtain ⟨_, _, -, h⟩ := exec_bind_eq_ok_iff.1 h
  obtain ⟨_, _, -, h⟩ := exec_bind_eq_ok_iff.1 h
  obtain ⟨_, _, -, h⟩ := exec_bind_eq_ok_iff.1 h
  cases h
  rfl

/-- A connection that was opened for a host uses it. -/
theorem hostname_of_openHost {name : String} {start ending : Connection × World}
    (h : exec (openHost (.str name)) start = (.ok (), ending)) :
    ending.1.hostname = .str name := by
  rw [openHost_eq] at h
  obtain ⟨connection, _, -, h⟩ := exec_bind_eq_ok_iff.1 h
  obtain ⟨_, _, hchosen, h⟩ := exec_bind_eq_ok_iff.1 h
  cases hchosen
  unfold openChosen at h
  cases hconnected : connection.transport.isConnected with
  | false =>
      rw [hconnected] at h
      exact hostname_of_openReleased h
  | true =>
      rw [hconnected] at h
      obtain ⟨_, _, -, h⟩ := exec_bind_eq_ok_iff.1 h
      exact hostname_of_openReleased h

/-- A connection that was made to a host uses it. -/
theorem hostname_of_connectTo {name : String} {username password : Value}
    {start ending : Connection × World}
    (h : exec (connectTo (.str name) username password) start = (.ok (), ending)) :
    ending.1.hostname = .str name := by
  obtain ⟨_, _, -, h⟩ := exec_bind_eq_ok_iff.1 h
  obtain ⟨_, _, -, h⟩ := exec_bind_eq_ok_iff.1 h
  obtain ⟨_, opened, hopen, h⟩ := exec_bind_eq_ok_iff.1 h
  -- binding and the announcement after it leave the host alone
  have hkeeps : Keeps Connection.hostname (do
      bind username password
      announce (.connected (.str name))) :=
    Keeps.bind (keeps_bind username password fun _ _ _ => rfl) fun _ => keeps_announce _ _
  exact (hkeeps.view_eq h).trans (hostname_of_openHost hopen)

/-- Where a first host fails, the hosts after it are tried if the failure is a report of a directory
operation. -/
theorem exec_connectToAny_of_error {username password hostname : Value} {hostnames : List Value}
    {start between : Connection × World} {failure : Failure}
    (hfails : exec (connectTo hostname username password) start = (.error failure, between)) :
    exec (connectToAny username password hostname hostnames) start =
      if failure.isDirectory then
        exec (tryRest username password hostname failure hostnames) between
      else (.error failure, between) := by
  rw [connectToAny, exec_bind, exec_observe, hfails]
  cases hdirectory : failure.isDirectory with
  | true => simp only [hdirectory]; rfl
  | false => simp only [hdirectory]; rfl

/-- A connection uses a host that it could be made to. -/
theorem hostname_of_connectToAny {username password : Value} {name : String} {names : List String}
    {start ending : Connection × World}
    (h : exec (connectToAny username password (.str name) (names.map .str)) start =
      (.ok none, ending)) : ∃ used, ending.1.hostname = .str used := by
  cases hfirst : exec (connectTo (.str name) username password) start with
  | mk result between =>
      cases result with
      | ok made =>
          rw [connectToAny, exec_bind, exec_observe, hfirst] at h
          cases h
          exact ⟨name, hostname_of_connectTo hfirst⟩
      | error failure =>
          rw [exec_connectToAny_of_error hfirst] at h
          split at h
          · obtain ⟨_, _, -, h⟩ := exec_bind_eq_ok_iff.1 h
            obtain ⟨_, _, -, h⟩ := exec_bind_eq_ok_iff.1 h
            cases names with
            | nil => cases h
            | cons next names => exact hostname_of_connectToAny h
          · cases h

/-- A connection that was made uses one of the configured hosts. -/
theorem hostname_of_connect {username password : Value} {names : List String}
    {start ending : Connection × World}
    (hnames : start.1.configuration.hosts = names.map .str)
    (h : exec (connect username password) start = (.ok (), ending)) :
    ∃ used, ending.1.hostname = .str used := by
  unfold connect at h
  rw [exec_bind, exec_state] at h
  simp only [hnames] at h
  cases names with
  | nil => cases h
  | cons name names =>
      rw [List.map_cons] at h
      obtain ⟨last, between, hany, h⟩ := exec_bind_eq_ok_iff.1 h
      cases last with
      | none =>
          cases h
          exact hostname_of_connectToAny hany
      | some last =>
          obtain ⟨_, _, -, h⟩ := exec_bind_eq_ok_iff.1 h
          obtain ⟨_, _, -, h⟩ := exec_bind_eq_ok_iff.1 h
          obtain ⟨_, _, -, h⟩ := exec_bind_eq_ok_iff.1 h
          obtain ⟨_, _, -, h⟩ := exec_bind_eq_ok_iff.1 h
          cases h

end Directory.Connection
