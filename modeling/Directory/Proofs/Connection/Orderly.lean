import Directory.Proofs.Connection.Frame
import Directory.Proofs.Guard.Orderly

/-!
# Connecting to a host in an orderly world

Where servers fail in an orderly way and listeners do not fail, a connection is made to a host just
when the host is usable: the transport can be opened for it, TLS can be started, if it is wanted,
and the server accepts the user. Otherwise the failure reports a failed directory operation.
-/

namespace Directory

open Directory.Action

/-- A configuration as its validators leave it: the hosts are texts, the port is a number that can
be written, and so on. -/
structure Configuration.IsPlain (names : List String) (configuration : Configuration) : Prop where
  hosts : configuration.hosts = names.map .str
  port : ∃ n, configuration.value .port = .int n ∧ (Value.int n).IsReadable
  username : (configuration.value .username).IsReadable
  options : ∃ entries, configuration.value .options = .dict entries

namespace Connection

open Transport

variable {α : Type} {names : List String} {number : Option Nat} {calm : World → Prop}
  {log : List Happening} {inner : Transport × World → Prop}

/-- What a connection keeps while it is made: its configuration and its classifier are plain, and it
speaks to a certain dispatcher. -/
structure IsPrepared (names : List String) (number : Option Nat) (connection : Connection) :
    Prop where
  configuration : connection.configuration.IsPlain names
  classifier : connection.classifier.IsPlain
  dispatcher : connection.dispatcher = number

/-- The connection is prepared, and its transport and the world are in a certain state. -/
def IsSound (names : List String) (number : Option Nat) (inner : Transport × World → Prop)
    (state : Connection × World) : Prop :=
  inner (state.1.transport, state.2) ∧ IsPrepared names number state.1

/-- What a connection keeps does not show how far it has come. -/
theorem IsPrepared.of_eq {connection other : Connection} (h : IsPrepared names number connection)
    (hconfiguration : other.configuration = connection.configuration)
    (hclassifier : other.classifier = connection.classifier)
    (hdispatcher : other.dispatcher = connection.dispatcher) : IsPrepared names number other :=
  ⟨hconfiguration ▸ h.configuration, hclassifier ▸ h.classifier, hdispatcher ▸ h.dispatcher⟩

theorem IsSound.usual {state : Connection × World}
    (h : IsSound names number (IsOpen calm log) state) :
    IsSound names number (IsUsual calm log) state :=
  ⟨h.1.isUsual, h.2⟩

theorem exec_onTransport (action : Action Transport α) (start : Connection × World) :
    exec (onTransport action) start =
      ((exec action (start.1.transport, start.2)).1,
        ({ start.1 with transport := (exec action (start.1.transport, start.2)).2.1 },
          (exec action (start.1.transport, start.2)).2.2)) :=
  rfl

/-- An operation on the transport does to the transport what it does. -/
theorem meets_onTransport_isSound {action : Action Transport α}
    {post : α → Transport × World → Prop} {fails : Failure → Transport × World → Prop}
    (h : Meets inner action post fails) :
    Meets (IsSound names number inner) (onTransport action)
      (fun a ending => IsSound names number (post a) ending)
      (fun failure ending => IsSound names number (fails failure) ending) :=
  (Meets.on isLawful_link h).and_preserves fun _ h => h.of_eq rfl rfl rfl

/-- What happens to the connection is announced, and changes nothing else. -/
theorem exec_announce (hcalm : Effect.IsCalm number calm) {start : Connection × World}
    (hstart : IsSound names number (IsUsual calm log) start) (happening : Happening)
    (hclass : happening.eventClass.isA .connectionEvent = true)
    (hshown : ∀ part ∈ Event.shownParts happening, part.2.1.IsReadable) :
    ∃ quiet, exec (announce happening) start = (.ok (), (start.1, quiet)) ∧
      IsUsual calm (log ++ [happening]) (start.1.transport, quiet) := by
  obtain ⟨husual, hprepared⟩ := hstart
  have htext : ∃ text, (⟨start.1.transport.host, happening⟩ : Event).text = .ok text :=
    Event.exists_text husual.host hshown
  obtain ⟨quiet, hrun, horderly, hhappenings⟩ := husual.world.run_deliver hcalm htext
  refine ⟨quiet, ?_, husual.host, horderly, ?_⟩
  · unfold announce
    rw [exec_bind, exec_state]
    dsimp only
    rw [exec_outside, hprepared.dispatcher, hrun]
  · rw [hhappenings, husual.log, List.filter_cons_of_pos (by simp [hclass]), List.filter_nil]

/-! ## Opening -/

theorem exists_transportOptions {configuration : Configuration}
    (h : configuration.IsPlain names) :
    ∃ options, transportOptions configuration = .ok options := by
  obtain ⟨entries, hentries⟩ := h.options
  unfold transportOptions
  rw [hentries]
  exact ⟨_, rfl⟩

theorem meets_configure_isSound :
    Meets (IsSound names number (IsUsual calm log)) configure
      (fun _ ending => IsSound names number (IsUsual calm log) ending) (fun _ _ => False) := by
  refine Meets.state_bind fun connection => ?_
  intro start hstart
  obtain ⟨⟨husual, hprepared⟩, rfl⟩ := hstart
  obtain ⟨options, hoptions⟩ := exists_transportOptions hprepared.configuration
  rw [exec_bind, exec_lift, hoptions]
  refine ⟨husual.change ?_, hprepared.of_eq rfl rfl rfl⟩
  show (configured start.1.configuration options start.1.transport).host.IsReadable
  unfold configured
  split
  · exact husual.host
  split
  · exact husual.host
  · exact husual.host

theorem meets_openReleased_isSound (hcalm : Effect.IsCalm number calm) (name : String) {n : Int}
    (hport : (Value.int n).IsReadable) :
    Meets (IsSound names number (IsUsual calm log)) (openReleased (.str name) (.int n))
      (fun _ ending => IsSound names number (IsOpen calm log) ending)
      (fun failure ending => IsSound names number (IsReport calm log failure) ending) := by
  refine Meets.bind (meets_configure_isSound.mono (fun _ h => h) (fun _ _ h => h)
    fun _ _ h => h.elim) fun _ => Meets.lift_bind_ok (fun _ _ => rfl) <|
    Meets.bind (meets_onTransport_isSound (meets_connect_isUsual hcalm name hport)) fun _ => ?_
  exact fun start h => ⟨h.1, h.2.of_eq rfl rfl rfl⟩

/-- The transport is opened for a host, after an open handle was closed. -/
theorem meets_openHost_isSound (hcalm : Effect.IsCalm number calm) (name : String) :
    Meets (IsSound names number (IsUsual calm log)) (openHost (.str name))
      (fun _ ending => IsSound names number (IsOpen calm log) ending)
      (fun failure ending => IsSound names number (IsReport calm log failure) ending) := by
  have hclose : Meets (IsSound names number (IsUsual calm log)) (onTransport Transport.close)
      (fun _ ending => IsSound names number (IsUsual calm log) ending)
      (fun failure ending => IsSound names number (IsReport calm log failure) ending) :=
    (meets_onTransport_isSound (meets_close_isUsual hcalm)).mono (fun _ h => h)
      (fun _ _ h => ⟨h.1.1, h.2⟩) fun _ _ h => h.1.elim
  refine meets_openHost_of (hclose.restrict fun _ h => h.1) (fun _ h _ => h)
    (fun _ _ _ hchosen => nomatch hchosen) fun start chosen hsound hchosen => ?_
  cases hchosen
  obtain ⟨n, hn, hport⟩ := hsound.2.configuration.port
  rw [hn]
  exact meets_openReleased_isSound hcalm name hport

/-- Begin to connect to a host: say so, and open the transport. -/
def setOut (hostname : Value) : Action Connection Unit := do
  Action.change ({ · with state := .connecting })
  announce (.connecting hostname)
  openHost hostname

theorem meets_setOut_isSound (hcalm : Effect.IsCalm number calm) (name : String) :
    Meets (IsSound names number (IsUsual calm log)) (setOut (.str name))
      (fun _ ending => IsSound names number
        (IsOpen calm (log ++ [.connecting (.str name)])) ending)
      (fun failure ending => IsSound names number
        (IsReport calm (log ++ [.connecting (.str name)]) failure) ending) := by
  intro start hstart
  have hbegun : IsSound names number (IsUsual calm log)
      ({ start.1 with state := .connecting }, start.2) :=
    ⟨hstart.1, hstart.2.of_eq rfl rfl rfl⟩
  obtain ⟨quiet, hannounce, husual⟩ := exec_announce hcalm hbegun
    (.connecting (.str name)) rfl fun _ hpart =>
      List.mem_singleton.1 hpart ▸ Value.isReadable_str name
  unfold setOut
  rw [exec_bind, exec_change]
  dsimp only
  rw [exec_bind, hannounce]
  exact meets_openHost_isSound hcalm name _ ⟨husual, hbegun.2⟩

/-! ## Connecting -/

/-- The user to bind as and the password: the given ones, or those of the account. -/
def userFor (configuration : Configuration) : Value → Value → Value × Value
  | .null, .null => (configuration.value .username, configuration.value .password)
  | username, password => (username, password)

theorem isReadable_userFor {configuration : Configuration} (h : configuration.IsPlain names)
    {username : Value} (husername : username.IsReadable) (password : Value) :
    (userFor configuration username password).1.IsReadable := by
  unfold userFor
  split
  · exact h.username
  · exact husername

/-- Open the transport for a host and bind, without saying what comes of it. -/
def reach (hostname username password : Value) : Action Connection Response := do
  setOut hostname
  let connection ← Action.state
  let user := userFor connection.configuration username password
  onTransport (connection.guard.ask user.1 user.2)

/-- The transport can be opened for the host, TLS can be started, if it is wanted, and the server
accepts the user. -/
def IsUsable (username password : Value) (name : String) (start : Connection × World) : Prop :=
  ∃ response ending, exec (reach (.str name) username password) start = (.ok response, ending) ∧
    response.successful = .ok true

theorem bind_eq (username password : Value) :
    bind username password = (do
      let connection ← Action.state
      let user := userFor connection.configuration username password
      onTransport (connection.guard.bind user.1 user.2)
      Action.change ({ · with state := .bound })) := by
  cases username with
  | null => cases password <;> rfl
  | _ => rfl

theorem connectTo_eq (hostname username password : Value) :
    connectTo hostname username password = (do
      setOut hostname
      bind username password
      announce (.connected hostname)) := by
  unfold connectTo setOut
  simp only [bind_assoc]

/-- The server accepts the user that a connection binds as. -/
def Welcomes (username password : Value) (start : Connection × World) : Prop :=
  let user := userFor start.1.configuration username password
  start.1.guard.Welcomes user.1 user.2 (start.1.transport, start.2)

/-- A host for which the transport was opened is usable if the server accepts the user. -/
theorem isUsable_iff {username password : Value} {name : String} {start opened : Connection × World}
    (hsetOut : exec (setOut (.str name)) start = (.ok (), opened)) :
    IsUsable username password name start ↔ Welcomes username password opened := by
  unfold IsUsable Welcomes Guard.Welcomes reach
  rw [exec_bind, hsetOut]
  dsimp only
  rw [exec_bind, exec_state]
  dsimp only
  rw [exec_onTransport]
  generalize exec (opened.1.guard.ask _ _) (opened.1.transport, opened.2) = asked
  obtain ⟨outcome, ending⟩ := asked
  constructor
  · rintro ⟨response, _, heq, haccepted⟩
    cases heq
    exact ⟨response, ending, rfl, haccepted⟩
  · rintro ⟨response, _, heq, haccepted⟩
    cases heq
    exact ⟨response, _, rfl, haccepted⟩

/-- The connection is bound just when the server accepts the user. -/
theorem bind_of_isSound (hcalm : Effect.IsCalm number calm) {username : Value}
    (husername : username.IsReadable) (password : Value) {start : Connection × World}
    (hstart : IsSound names number (IsOpen calm log) start) :
    match exec (bind username password) start with
    | (.ok (), ending) => Welcomes username password start ∧
        IsSound names number (IsOpen calm log) ending ∧ ending.1.state = .bound ∧
        ending.1.isConnected = true
    | (.error failure, ending) => ¬ Welcomes username password start ∧
        IsSound names number (IsReport calm log failure) ending := by
  obtain ⟨hopen, hprepared⟩ := hstart
  let user := userFor start.1.configuration username password
  have hlisteners : Effect.IsCalm start.1.guard.dispatcher calm := by
    show Effect.IsCalm start.1.dispatcher calm
    rw [hprepared.dispatcher]
    exact hcalm
  have hbound := Guard.bind_of_isOpen user.2 hlisteners hprepared.classifier
    (isReadable_userFor hprepared.configuration husername password) hopen
  rw [bind_eq, exec_bind, exec_state]
  dsimp only
  rw [exec_bind, exec_onTransport]
  cases hguard : exec (start.1.guard.bind user.1 user.2) (start.1.transport, start.2) with
  | mk outcome bound =>
      rw [hguard] at hbound
      cases outcome with
      | error failure => exact ⟨hbound.1, hbound.2, hprepared.of_eq rfl rfl rfl⟩
      | ok made =>
          obtain ⟨hwelcomes, hopen, hisBound⟩ := hbound
          refine ⟨hwelcomes, ⟨hopen, hprepared.of_eq rfl rfl rfl⟩, rfl, ?_⟩
          show (bound.1.isConnected && bound.1.isBound) = true
          rw [hopen.isConnected, hisBound]
          rfl

/-- A connection is made to a host just when the host is usable, and otherwise it is reported why
not. -/
theorem connectTo_of_isSound (hcalm : Effect.IsCalm number calm) (name : String) {username : Value}
    (husername : username.IsReadable) (password : Value) {start : Connection × World}
    (hstart : IsSound names number (IsUsual calm log) start) :
    match exec (connectTo (.str name) username password) start with
    | (.ok (), ending) => IsUsable username password name start ∧
        IsSound names number
          (IsUsual calm (log ++ [.connecting (.str name), .connected (.str name)])) ending ∧
        ending.1.state = .bound ∧ ending.1.isConnected = true
    | (.error failure, ending) => ¬ IsUsable username password name start ∧
        IsSound names number (IsReport calm (log ++ [.connecting (.str name)]) failure) ending := by
  have hopened := meets_setOut_isSound hcalm name start hstart
  rw [connectTo_eq, exec_bind]
  cases hsetOut : exec (setOut (.str name)) start with
  | mk outcome opened =>
      rw [hsetOut] at hopened
      cases outcome with
      | error failure =>
          refine ⟨?_, hopened⟩
          rintro ⟨_, _, hreach, -⟩
          unfold reach at hreach
          rw [exec_bind, hsetOut] at hreach
          cases hreach
      | ok made =>
          have hbound := bind_of_isSound hcalm husername password hopened
          rw [← isUsable_iff hsetOut] at hbound
          dsimp only
          rw [exec_bind]
          cases hbind : exec (bind username password) opened with
          | mk outcome bound =>
              rw [hbind] at hbound
              cases outcome with
              | error failure => exact hbound
              | ok made =>
                  obtain ⟨husable, hsound, hstate, hconnected⟩ := hbound
                  obtain ⟨quiet, hannounce, husual⟩ := exec_announce hcalm
                    (hsound.usual) (.connected (.str name)) rfl fun _ hpart =>
                      List.mem_singleton.1 hpart ▸ Value.isReadable_str name
                  rw [List.append_assoc] at husual
                  dsimp only
                  rw [hannounce]
                  exact ⟨husable, ⟨husual, hsound.2⟩, hstate, hconnected⟩

end Connection

end Directory
