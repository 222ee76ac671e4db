import Directory.Proofs.Connection.Failover
import Directory.Proofs.Connection.Identity

/-!
# Whether the state agrees with the transport

The state of a connection is a copy of facts that belong to its transport: `Agrees` says that it is
a true one. Each operation of a connection is said to stray in certain cases, in terms of what its
parts do, and these are just the cases in which it leaves the state in disagreement with the
transport. So the state agrees all along a session just when no operation strays where it is
performed.
-/

namespace Directory.Connection

open Directory.Action

variable {α : Type} {start ending : Connection × World} {hostname username password : Value}

/-- The state is bound, connected or disconnected just when the transport is open and bound, open
and not bound, or not open. -/
structure Agrees (connection : Connection) : Prop where
  bound : connection.state = .bound ↔
    connection.transport.isConnected = true ∧ connection.transport.isBound = true
  connected : connection.state = .connected ↔
    connection.transport.isConnected = true ∧ connection.transport.isBound = false
  disconnected : connection.state = .disconnected ↔ connection.transport.isConnected = false
  settled : connection.state ≠ .connecting

/-- The state of a connection with a transport that agrees with the transport. -/
def stage (isOpen isBound : Bool) : ConnectionState :=
  if isOpen then if isBound then .bound else .connected else .disconnected

theorem agrees_iff {connection : Connection} : connection.Agrees ↔
    connection.state = stage connection.transport.isConnected connection.transport.isBound := by
  constructor
  · rintro ⟨hbound, hconnected, hdisconnected, -⟩
    unfold stage
    cases hopen : connection.transport.isConnected with
    | false => exact hdisconnected.2 hopen
    | true =>
        cases hisBound : connection.transport.isBound with
        | false => exact hconnected.2 ⟨hopen, hisBound⟩
        | true => exact hbound.2 ⟨hopen, hisBound⟩
  · intro hstate
    unfold stage at hstate
    constructor
    all_goals
      rw [hstate]
      cases connection.transport.isConnected <;> cases connection.transport.isBound <;> simp

/-- A connection without the hosts that it noted. -/
def unnoted (connection : Connection) : Connection :=
  { connection with attempted := [] }

theorem agrees_congr {connection other : Connection} (h : connection.unnoted = other.unnoted) :
    connection.Agrees ↔ other.Agrees := by
  have hstate : connection.unnoted.state = other.unnoted.state := congrArg Connection.state h
  have htransport : connection.unnoted.transport = other.unnoted.transport :=
    congrArg Connection.transport h
  rw [agrees_iff, agrees_iff]
  show connection.unnoted.state = stage connection.unnoted.transport.isConnected
    connection.unnoted.transport.isBound ↔ _
  rw [hstate, htransport]
  rfl

theorem not_agrees_of_connecting {connection : Connection} (h : connection.state = .connecting) :
    ¬ connection.Agrees :=
  fun hagrees => hagrees.settled h

theorem agrees_of_bound {connection : Connection} (hstate : connection.state = .bound)
    (hconnected : connection.isConnected = true) : connection.Agrees := by
  obtain ⟨hopen, hisBound⟩ := Bool.and_eq_true_iff.1 hconnected
  rw [agrees_iff, hstate, hopen, hisBound]
  rfl

/-! ## Disconnecting -/

/-- A transport that was closed is not open, and one that could not be closed is as it was. -/
theorem exec_close (start : Connection × World) :
    match exec (onTransport Transport.close) start with
    | (.ok _, closed) => closed.1.transport.isConnected = false
    | (.error _, unclosed) => unclosed.1.state = start.1.state ∧
        unclosed.1.transport.flags = start.1.transport.flags := by
  have hclose := Transport.meets_close_flags start.1.transport.flags
    (start.1.transport, start.2) rfl
  rw [exec_onTransport]
  generalize exec Transport.close (start.1.transport, start.2) = ended at hclose ⊢
  obtain ⟨failure | closed, ending⟩ := ended
  · exact ⟨rfl, hclose⟩
  · exact hclose

/-- The transport is closed, and no host is in use. -/
structure IsDisconnected (connection : Connection) : Prop where
  state : connection.state = .disconnected
  hostname : connection.hostname = .null
  closed : connection.transport.isConnected = false

/-- A connection that was disconnected is, and one that could not be is as it was. -/
theorem exec_disconnect (start : Connection × World) :
    match exec disconnect start with
    | (.ok (), ended) => ended.1.IsDisconnected
    | (.error _, ended) => ended.1.state = start.1.state ∧
        ended.1.transport.flags = start.1.transport.flags := by
  unfold disconnect
  rw [exec_bind, exec_state]
  cases hopen : start.1.transport.isConnected with
  | false =>
      simp only [hopen]
      exact ⟨rfl, rfl, hopen⟩
  | true =>
      have hclose := exec_close start
      simp only [hopen, if_true, exec_bind]
      generalize exec (onTransport Transport.close) start = ended at hclose ⊢
      obtain ⟨failure | value, ending⟩ := ended
      · exact hclose
      · exact ⟨rfl, rfl, hclose⟩

theorem isDisconnected_of_disconnect {start ended : Connection × World}
    (h : exec disconnect start = (.ok (), ended)) : ended.1.IsDisconnected := by
  have hended := exec_disconnect start
  rwa [h] at hended

/-- A connection that was closed agrees, and one that could not be closed agrees as much as
before. -/
theorem agrees_disconnect_iff (start : Connection × World) :
    (exec disconnect start).2.1.Agrees ↔
      start.1.Agrees ∨ (exec disconnect start).1 = .ok () := by
  have hended := exec_disconnect start
  generalize exec disconnect start = ended at hended ⊢
  obtain ⟨failure | made, ending⟩ := ended
  · obtain ⟨hstate, hflags⟩ := hended
    obtain ⟨hsameOpen, hsameBound⟩ := Prod.mk.inj hflags
    simp only [reduceCtorEq, or_false]
    rw [agrees_iff, agrees_iff, hstate, hsameOpen, hsameBound]
  · refine iff_of_true ?_ (.inr rfl)
    rw [agrees_iff, hended.state]
    simp [stage, hended.closed]

/-! ## Connecting to a host -/

/-- Connecting to a host stops half-way: the transport is not opened for it, or it is opened and a
bind that fails leaves it bound. -/
def StopsHalfWay (hostname username password : Value) (start : Connection × World) : Prop :=
  match exec (setOut hostname) start with
  | (.error _, _) => True
  | (.ok (), opened) =>
    match exec (bind username password) opened with
    | (.error _, unbound) => unbound.1.transport.isBound = true
    | (.ok (), _) => False

theorem keeps_state_configure : Keeps Connection.state configure :=
  Keeps.bind Keeps.state fun _ => Keeps.bind (Keeps.lift _) fun _ =>
    keeps_onTransport _ fun _ _ => rfl

theorem keeps_state_onTransport (action : Action Transport α) :
    Keeps Connection.state (onTransport action) :=
  keeps_onTransport action fun _ _ => rfl

/-- A connection is connected once its transport was opened, and in the state that it was in
before if that failed. -/
theorem meets_openHost_state (hostname : Value) (before : ConnectionState) :
    Meets (fun start => start.1.state = before) (openHost hostname)
      (fun _ ending => ending.1.state = .connected ∧ ending.1.transport.isConnected = true)
      (fun _ ending => ending.1.state = before) := by
  have hkept {β : Type} {action : Action Connection β} (h : Keeps Connection.state action) :=
    Meets.of_preserves (h.preserves (· = before))
  have hopen (hostname port : Value) : Meets (fun start => start.1.state = before)
      (openReleased hostname port)
      (fun _ ending => ending.1.state = .connected ∧ ending.1.transport.isConnected = true)
      (fun _ ending => ending.1.state = before) := by
    have hconnect := (Meets.on isLawful_link
      (Transport.meets_connect_isConnected hostname port)).and_preserves
        ((keeps_state_onTransport (Transport.connect hostname port)).preserves (· = before))
    refine Meets.bind (hkept keeps_state_configure) fun _ => Meets.bind (hkept (Keeps.lift _))
      fun _ => Meets.bind (hconnect.mono (fun _ h => ⟨trivial, h⟩) (fun _ _ h => h.1)
        fun _ _ h => h.2) fun _ => fun _ h => ⟨rfl, h⟩
  exact meets_openHost_of ((hkept (keeps_state_onTransport _)).restrict fun _ h => h.1)
    (fun _ h _ => h) (fun _ _ h _ => h) fun _ chosen _ _ => hopen chosen _

/-- A connection that sets out is connecting until its transport is open. -/
theorem meets_setOut_state (hostname : Value) :
    Meets (fun _ => True) (setOut hostname)
      (fun _ ending => ending.1.state = .connected ∧ ending.1.transport.isConnected = true)
      (fun _ ending => ending.1.state = .connecting) :=
  Meets.change_bind (fun start => start.1.state = .connecting) (fun _ _ => rfl) <|
    Meets.bind (Meets.of_preserves ((keeps_announce Connection.state _).preserves (· = _)))
      fun _ => meets_openHost_state hostname .connecting

/-- A connection whose transport is open is bound and agrees, or fails to bind and agrees unless its
transport is bound all the same. -/
theorem exec_bind_open (username password : Value) {opened : Connection × World}
    (hstate : opened.1.state = .connected) (hopen : opened.1.transport.isConnected = true) :
    match exec (bind username password) opened with
    | (.ok (), bound) => bound.1.state = .bound ∧ bound.1.isConnected = true
    | (.error _, unbound) =>
        unbound.1.Agrees ↔ unbound.1.transport.isBound = false := by
  cases hbind : exec (bind username password) opened with
  | mk outcome ending =>
      cases outcome with
      | ok bound =>
          have hbound := isBoundAs_of_bind hopen hbind
          rw [bind_eq] at hbind
          obtain ⟨_, _, -, hbind⟩ := exec_bind_eq_ok_iff.1 hbind
          obtain ⟨_, _, -, hbind⟩ := exec_bind_eq_ok_iff.1 hbind
          cases hbind
          exact ⟨rfl, hbound.isConnected⟩
      | error failure =>
          let user := userFor opened.1.configuration username password
          have hconnected := Guard.preserves_isConnected_bind opened.1.guard user.1 user.2
            (opened.1.transport, opened.2) hopen
          rw [bind_eq, exec_bind, exec_state] at hbind
          dsimp only at hbind
          rw [exec_bind, exec_onTransport] at hbind
          cases hguard : exec (opened.1.guard.bind user.1 user.2)
              (opened.1.transport, opened.2) with
          | mk outcome transport =>
              rw [hguard] at hbind hconnected
              cases outcome with
              | ok bound => cases hbind
              | error refusal =>
                  cases hbind
                  dsimp only
                  rw [agrees_iff]
                  show opened.1.state = stage transport.1.isConnected transport.1.isBound ↔ _
                  rw [hstate, hconnected]
                  cases transport.1.isBound <;> simp [stage]

/-- The state agrees after connecting to a host, unless that stops half-way. -/
theorem agrees_connectTo_iff (hostname username password : Value) (start : Connection × World) :
    (exec (connectTo hostname username password) start).2.1.Agrees ↔
      ¬ StopsHalfWay hostname username password start := by
  have hsetOut := meets_setOut_state hostname start trivial
  unfold StopsHalfWay
  rw [connectTo_eq, exec_bind]
  generalize exec (setOut hostname) start = ended at hsetOut ⊢
  obtain ⟨failure | made, opened⟩ := ended
  · exact iff_of_false (not_agrees_of_connecting hsetOut) (not_not_intro trivial)
  · obtain ⟨hstate, hopen⟩ := hsetOut
    have hbind := exec_bind_open username password hstate hopen
    dsimp only
    rw [exec_bind]
    generalize exec (bind username password) opened = ended at hbind ⊢
    obtain ⟨failure | made, bound⟩ := ended
    · rw [Bool.not_eq_true]
      exact hbind
    · rw [agrees_congr (keeps_announce unnoted (.connected hostname) bound)]
      exact iff_of_true (agrees_of_bound hbind.1 hbind.2) not_false

/-- A connection that was made to a host was not stopped half-way. -/
theorem not_stopsHalfWay_of_connectTo
    (h : exec (connectTo hostname username password) start = (.ok (), ending)) :
    ¬ StopsHalfWay hostname username password start := by
  rw [connectTo_eq] at h
  obtain ⟨_, opened, hsetOut, h⟩ := exec_bind_eq_ok_iff.1 h
  obtain ⟨_, bound, hbind, -⟩ := exec_bind_eq_ok_iff.1 h
  unfold StopsHalfWay
  rw [hsetOut]
  dsimp only
  rw [hbind]
  exact not_false

/-! ## Connecting -/

/-- Trying hosts in order ends at a host for which it stops half-way, and nothing makes up for that:
the failure is no report of a directory operation, or no host is left and the transport cannot be
closed. -/
def EndsHalfWay (username password : Value) : List String → Connection × World → Prop
  | [], _ => False
  | name :: names, start =>
    match exec (connectTo (.str name) username password) start with
    | (.ok (), _) => False
    | (.error failure, _) =>
      let next := afterTrial username password start name
      if failure.isDirectory then
        names = [] ∧ StopsHalfWay (.str name) username password start ∧
            (exec disconnect next).1 ≠ .ok () ∨
          EndsHalfWay username password names next
      else StopsHalfWay (.str name) username password start

/-- Giving up closes the transport, and does nothing else that could be seen. -/
theorem agrees_giveUp_iff (last : Value) (failure : Failure) (start : Connection × World) :
    (exec (giveUp last failure) start).2.1.Agrees ↔
      start.1.Agrees ∨ (exec disconnect start).1 = .ok () := by
  have hrest : ∀ closed : Unit, Keeps unnoted (do
      let made ← noServer (← Action.state).attempted failure
      announce (.connectionFailed last (some made))
      throw { made with cause := some failure } : Action Connection Unit) :=
    fun _ => Keeps.bind Keeps.state fun _ => Keeps.bind (Keeps.lift _) fun _ =>
      Keeps.bind (keeps_announce _ _) fun _ => Keeps.throw _
  rw [← agrees_disconnect_iff]
  exact agrees_congr (Keeps.view_bind hrest disconnect start)

/-- What is left once hosts were tried. -/
def concluded (last : Value) : Except Failure (Option Failure) × (Connection × World) →
    Connection × World
  | (.ok (some failure), ending) => (exec (giveUp last failure) ending).2
  | (_, ending) => ending

/-- A host that was tried in vain is noted, and that cannot be seen. -/
theorem agrees_afterTrial_iff (username password : Value) (start : Connection × World)
    (name : String) : (afterTrial username password start name).1.Agrees ↔
      ¬ StopsHalfWay (.str name) username password start := by
  rw [← agrees_connectTo_iff]
  exact agrees_congr rfl

theorem agrees_connectToAny_iff (username password last : Value) (name : String)
    (names : List String) (start : Connection × World) :
    (concluded last (exec (connectToAny username password (.str name) (names.map .str))
      start)).1.Agrees ↔ ¬ EndsHalfWay username password (name :: names) start := by
  have htrial := agrees_connectTo_iff (.str name) username password start
  unfold EndsHalfWay
  cases hfirst : exec (connectTo (.str name) username password) start with
  | mk outcome between =>
      rw [hfirst] at htrial
      cases outcome with
      | ok made =>
          have hmade := htrial.2 (not_stopsHalfWay_of_connectTo hfirst)
          rw [connectToAny, exec_bind, exec_observe, hfirst]
          exact iff_of_true hmade not_false
      | error failure =>
          dsimp only
          cases hdirectory : failure.isDirectory with
          | false =>
              rw [exec_connectToAny_of_error hfirst, hdirectory]
              exact htrial
          | true =>
              rw [exec_connectToAny_of_trial hfirst hdirectory, if_pos rfl]
              cases names with
              | nil =>
                  show (exec (giveUp last failure) _).2.1.Agrees ↔ _
                  rw [agrees_giveUp_iff, agrees_afterTrial_iff, EndsHalfWay]
                  tauto
              | cons next names =>
                  have hrest := agrees_connectToAny_iff username password last next names
                    (afterTrial username password start name)
                  simpa using hrest

/-- The state agrees after connecting, unless that ends half-way. -/
theorem agrees_connect_iff (username password : Value) {names : List String}
    (hstart : start.1.Agrees) (hhosts : start.1.configuration.hosts = names.map .str) :
    (exec (connect username password) start).2.1.Agrees ↔
      ¬ EndsHalfWay username password names start := by
  cases names with
  | nil =>
      unfold connect
      rw [exec_bind, exec_state, EndsHalfWay]
      simp only [hhosts, List.map_nil]
      exact iff_of_true hstart not_false
  | cons name names =>
      rw [← agrees_connectToAny_iff username password ((names.map Value.str).getLastD (.str name)),
        exec_connect hhosts]
      rcases exec (connectToAny username password (.str name) (names.map .str)) start with
        ⟨_ | _ | _, _⟩ <;> rfl

end Directory.Connection
