import Directory.Proofs.Connection.Agreement
import Directory.Proofs.Connection.HostsInUse

/-!
# Sessions in which the state agrees with the transport

What is done through a connection, step by step, and when a step strays, which is when it leaves the
state in disagreement with the transport: guards bind behind the back of the connection, and so do
operations; and a run may end while connecting again has stopped half-way, or with a connection that
was lost.
-/

namespace Directory.Connection

open Directory.Action

variable {α : Type} {start : Connection × World}

/-! ## Guards -/

/-- A connection in a certain state whose transport is not open. Only a direct transport is still
taken for bound when it is opened. -/
structure IsClosed (before : ConnectionState) (staysBound : Bool) (connection : Connection) :
    Prop where
  state : connection.state = before
  isConnected : connection.transport.isConnected = false
  isBound : (connection.transport.isDirect && connection.transport.isBound) = staysBound

/-- A transport that was opened is connected, and one that could not be opened is as before. -/
theorem meets_openHost_closed (hostname : Value) (before : ConnectionState) (staysBound : Bool) :
    Meets (fun start => start.1.IsClosed before staysBound) (openHost hostname)
      (fun _ ending => ending.1.state = .connected ∧ ending.1.transport.isConnected = true ∧
        ending.1.transport.isBound = staysBound)
      (fun _ ending => ending.1.state = before ∧ ending.1.transport.isConnected = false) := by
  have hkept {β : Type} {action : Action Connection β}
      (h : Preserves (IsClosed before staysBound) action) :=
    Meets.of_preserves_imp h fun _ h => And.intro h.state h.isConnected
  have hconfigure : Preserves (IsClosed before staysBound) configure := by
    refine Preserves.bind Preserves.state fun connection =>
      Preserves.bind (Preserves.lift _) fun options => ?_
    intro start hstart
    obtain ⟨hlink, hbound⟩ :=
      configured_eq connection.configuration options start.1.transport
    refine ⟨hstart.state, ?_, ?_⟩
    · show (configured connection.configuration options start.1.transport).isConnected = false
      unfold Transport.isConnected
      rw [hlink]
      exact hstart.isConnected
    · show ((configured connection.configuration options start.1.transport).isDirect &&
        (configured connection.configuration options start.1.transport).isBound) = staysBound
      unfold Transport.isDirect
      rw [hlink, hbound]
      exact hstart.isBound
  have hconnect (hostname port : Value) :
      Meets (fun start => start.1.IsClosed before staysBound)
        (onTransport (Transport.connect hostname port))
        (fun _ ending => ending.1.transport.isConnected = true ∧
          ending.1.transport.isBound = staysBound)
        (fun _ ending => ending.1.state = before ∧ ending.1.transport.isConnected = false) := by
    intro start hstart
    have hended := Transport.meets_connect_closed hostname port staysBound
      (start.1.transport, start.2) ⟨hstart.isConnected, hstart.isBound⟩
    rw [exec_onTransport]
    generalize exec (Transport.connect hostname port) (start.1.transport, start.2) = ended
      at hended ⊢
    obtain ⟨failure | made, transport⟩ := ended
    · exact ⟨hstart.state, hended⟩
    · exact hended
  refine meets_openHost_of (fun start hparts => ?_) (fun _ h _ => h)
    (fun _ _ h _ => ⟨h.state, h.isConnected⟩) fun _ chosen _ _ => ?_
  · -- there is nothing to be closed
    have hopen := hparts.2
    rw [hparts.1.isConnected] at hopen
    cases hopen
  · exact Meets.bind (hkept hconfigure) fun _ => Meets.bind (hkept (Preserves.lift _)) fun _ =>
      Meets.bind (hconnect chosen _) fun _ => fun _ h => ⟨rfl, h⟩

/-- Asking for a guard strays if it opens a direct transport that is marked as bound while it is
closed. -/
def AuthStrays (start : Connection × World) : Prop :=
  start.1.transport.isConnected = false ∧ start.1.transport.isDirect = true ∧
    start.1.transport.isBound = true ∧ ∃ guard opened, exec auth start = (.ok guard, opened)

theorem agrees_auth_iff (hstart : start.1.Agrees) :
    (exec auth start).2.1.Agrees ↔ ¬ AuthStrays start := by
  unfold AuthStrays
  cases hopen : start.1.transport.isConnected with
  | true =>
      have hauth : (exec auth start).2 = start := by
        unfold auth
        rw [exec_bind, exec_state]
        simp only [hopen]
        rfl
      rw [hauth]
      exact iff_of_true hstart fun h => nomatch h.1
  | false =>
      have hauth : exec auth start = exec (do
          openHost .null
          return (← Action.state).guard) start := by
        unfold auth
        rw [exec_bind, exec_state]
        simp only [hopen]
        rfl
      have hended := meets_openHost_closed .null start.1.state
        (start.1.transport.isDirect && start.1.transport.isBound) start ⟨rfl, hopen, rfl⟩
      rw [hauth, exec_bind]
      generalize exec (openHost .null) start = ended at hended ⊢
      obtain ⟨failure | made, opened⟩ := ended
      · obtain ⟨hstate, hclosed⟩ := hended
        refine iff_of_true ?_ ?_
        · rw [agrees_iff, hstate, agrees_iff.1 hstart, hopen, hclosed]
          rfl
        · rintro ⟨-, -, -, guard, other, hguard⟩
          cases hguard
      · obtain ⟨hstate, hisOpen, hisBound⟩ := hended
        have hguard : ∃ guard ending,
            exec (do return (← Action.state).guard : Action Connection Guard) opened =
              (.ok guard, ending) :=
          ⟨_, _, rfl⟩
        show opened.1.Agrees ↔ _
        rw [agrees_iff, hstate, hisOpen, hisBound]
        simp only [hguard, and_true]
        cases start.1.transport.isDirect <;> cases start.1.transport.isBound <;> simp [stage]

/-- The use of guards strays if it changes whether an open transport is bound. -/
def GuardsStray (action : Action Transport α) (start : Connection × World) : Prop :=
  start.1.transport.isConnected = true ∧
    (exec (onTransport action) start).2.1.transport.isBound ≠ start.1.transport.isBound

theorem agrees_guards_iff {action : Action Transport α}
    (haction : Guard.IsSession (fun _ => True) action) (hstart : start.1.Agrees) :
    (exec (onTransport action) start).2.1.Agrees ↔ ¬ GuardsStray action start := by
  have hopen : Preserves (·.isConnected = start.1.transport.isConnected) action :=
    haction.preserves fun username password _ =>
      Guard.preserves_isConnected_sendBind username password
  have hsame : (exec (onTransport action) start).2.1.transport.isConnected =
      start.1.transport.isConnected := hopen (start.1.transport, start.2) rfl
  have hstate : (exec (onTransport action) start).2.1.state = start.1.state := rfl
  unfold GuardsStray
  rw [agrees_iff, hstate, agrees_iff.1 hstart, hsame]
  generalize (exec (onTransport action) start).2.1.transport.isBound = isBound
  cases start.1.transport.isConnected <;> cases start.1.transport.isBound <;> cases isBound <;>
    simp [stage]

/-! ## Runs -/

theorem agrees_iff_isConnected {connection : Connection} (h : connection.state = .bound) :
    connection.Agrees ↔ connection.isConnected = true := by
  constructor
  · intro hagrees
    exact Bool.and_eq_true_iff.2 (hagrees.bound.1 h)
  · exact agrees_of_bound h

/-- A connection that was made to a host is bound. -/
theorem state_of_connectTo {hostname username password : Value} {ending : Connection × World}
    (h : exec (connectTo hostname username password) start = (.ok (), ending)) :
    ending.1.state = .bound := by
  have hagrees := (agrees_connectTo_iff hostname username password start).2
    (not_stopsHalfWay_of_connectTo h)
  rw [h] at hagrees
  exact hagrees.bound.2 (Bool.and_eq_true_iff.1 (isBoundAs_of_connectTo h).isConnected)

/-- An operation strays if it leaves a connection that cannot be used. -/
def OperationStrays (operation : Action Transport α) (start : Connection × World) : Prop :=
  (exec (onTransport operation) start).2.1.isConnected = false

theorem agrees_operation_iff (operation : Action Transport α) (hstate : start.1.state = .bound) :
    (exec (onTransport operation) start).2.1.Agrees ↔ ¬ OperationStrays operation start := by
  unfold OperationStrays
  rw [Bool.not_eq_false]
  exact agrees_iff_isConnected hstate

/-- A retry strays if the operation does, if connecting again stops half-way, or if the transport
cannot be closed and the state did not agree before. -/
def RetryStrays (operation : Action Transport α) (hostname : Value) (strayed : Prop)
    (start : Connection × World) : Prop :=
  match exec disconnect start with
  | (.error _, _) => strayed
  | (.ok (), closed) =>
    match exec (connectTo hostname .null .null) closed with
    | (.error _, _) => StopsHalfWay hostname .null .null closed
    | (.ok (), reached) => OperationStrays operation reached

theorem agrees_retry_iff (operation : Action Transport α) (hostname : Value) {strayed : Prop}
    (hstart : start.1.Agrees ↔ ¬ strayed) :
    (exec (reconnectTo hostname >>= fun _ => onTransport operation) start).2.1.Agrees ↔
      ¬ RetryStrays operation hostname strayed start := by
  have hdisconnect := agrees_disconnect_iff start
  unfold RetryStrays reconnectTo
  rw [exec_bind, exec_bind]
  generalize exec disconnect start = ended at hdisconnect ⊢
  obtain ⟨failure | made, closed⟩ := ended
  · have hunclosed : closed.1.Agrees ↔ start.1.Agrees := by simpa using hdisconnect
    exact hunclosed.trans hstart
  · have htrial := agrees_connectTo_iff hostname .null .null closed
    dsimp only
    cases hconnect : exec (connectTo hostname .null .null) closed with
    | mk outcome reached =>
        cases outcome with
        | error failure =>
            rw [hconnect] at htrial
            exact htrial
        | ok made => exact agrees_operation_iff operation (state_of_connectTo hconnect)

/-- An iteration of a run strays. -/
def StraysAt (operation : Action Transport α) (names : List String) (start : Connection × World) :
    Nat → Prop
  | 0 => OperationStrays operation start
  | k + 1 =>
    let schedule := scheduleOf operation names start.1.hostname
    RetryStrays operation (schedule.host k) (StraysAt operation names start k)
      (schedule.before start (k + 1))

/-- The state agrees after an iteration, unless that strays. -/
theorem agrees_after_iff (operation : Action Transport α) {names : List String}
    (hstate : start.1.state = .bound) (hhostname : IsHostname start.1.hostname) (k : Nat) :
    ((scheduleOf operation names start.1.hostname).after start k).1.Agrees ↔
      ¬ StraysAt operation names start k := by
  have hproper := isProper_scheduleOf operation names hhostname
  induction k with
  | zero => exact agrees_operation_iff operation hstate
  | succ k ih =>
      have hbefore := (agrees_congr (hproper.keeps_noteLoss unnoted (fun _ _ => rfl) k _)).trans ih
      exact agrees_retry_iff operation _ hbefore

/-- A run strays if no connection is made and trying the hosts ends half-way, or if a connection was
made and the last iteration strays. -/
def RunStrays (names : List String) (operation : Action Transport α) (start : Connection × World) :
    Prop :=
  match exec (opening .whole) start with
  | (.error _, _) => EndsHalfWay .null .null names start
  | (.ok (), opened) => ∃ last,
    (scheduleOf operation names opened.1.hostname).IsLast opened last ∧
      StraysAt operation names opened last

/-- A run on a connection that can be used ends in the last iteration. -/
theorem agrees_runOpened_iff (operation : Action Transport α) {names : List String}
    (hhosts : start.1.configuration.hosts = names.map .str)
    (hhostname : IsHostname start.1.hostname) (hstate : start.1.state = .bound) :
    (exec (runOpened .whole (onTransport operation)) start).2.1.Agrees ↔
      ¬ ∃ last, (scheduleOf operation names start.1.hostname).IsLast start last ∧
        StraysAt operation names start last := by
  obtain ⟨last, hlast, hends⟩ :=
    (isProper_scheduleOf operation names hhostname).exists_isLast hhosts rfl unnoted
      fun _ _ => rfl
  rw [show (exec (runOpened .whole (onTransport operation)) start).2.1.Agrees ↔ _ from
    agrees_congr hends]
  show ((scheduleOf operation names start.1.hostname).after start last).1.Agrees ↔ _
  rw [agrees_after_iff operation hstate hhostname]
  refine not_congr ⟨fun hstrays => ⟨last, hlast, hstrays⟩, ?_⟩
  rintro ⟨other, hother, hstrays⟩
  exact hlast.unique hother ▸ hstrays

/-- A connection that was opened for a run is bound. -/
theorem state_of_opening {opened : Connection × World} (hstart : start.1.Agrees)
    (h : exec (opening .whole) start = (.ok (), opened)) : opened.1.state = .bound := by
  rw [exec_opening_whole] at h
  split at h
  next hconnected =>
    cases h
    exact hstart.bound.2 (Bool.and_eq_true_iff.1 hconnected)
  next =>
    obtain ⟨used, tried, -, hused⟩ := exists_connectTo_of_connect h
    exact state_of_connectTo hused

/-- The state agrees after a run, unless that strays. -/
theorem agrees_run_iff (operation : Action Transport α) {names : List String}
    (hhosts : start.1.configuration.hosts = names.map .str)
    (hhostname : IsHostname start.1.hostname) (hstart : start.1.Agrees) :
    (exec (run (onTransport operation)) start).2.1.Agrees ↔ ¬ RunStrays names operation start := by
  unfold RunStrays
  rw [run_eq, exec_bind]
  cases hopening : exec (opening .whole) start with
  | mk outcome opened =>
      cases outcome with
      | ok made =>
          obtain ⟨hsame, hused⟩ := hosts_of_opening hhosts hhostname hopening
          exact agrees_runOpened_iff operation hsame hused (state_of_opening hstart hopening)
      | error failure =>
          rw [exec_opening_whole] at hopening
          split at hopening
          · cases hopening
          · have hconnect := agrees_connect_iff .null .null hstart hhosts
            rw [hopening] at hconnect
            exact hconnect

/-! ## Sessions -/

variable {names : List String}

/-- A step of a session: an operation of the connection, or a use of guards for its transport. -/
inductive Step where
  | connect (username password : Value)
  | reconnect
  | disconnect
  | auth
  | guards {α : Type} (action : Action Transport α)
      (haction : Guard.IsSession (fun _ => True) action)
  | run {α : Type} (operation : Action Transport α)

namespace Step

/-- What a step leaves, whether or not it fails. -/
def perform (start : Connection × World) : Step → Connection × World
  | connect username password => (exec (Connection.connect username password) start).2
  | reconnect => (exec Connection.reconnect start).2
  | disconnect => (exec Connection.disconnect start).2
  | auth => (exec Connection.auth start).2
  | guards action _ => (exec (onTransport action) start).2
  | run operation => (exec (Connection.run (onTransport operation)) start).2

/-- When a step strays. Disconnecting never does, and connecting again strays if connecting does
once the connection was closed. -/
def Strays (names : List String) (start : Connection × World) : Step → Prop
  | connect username password => EndsHalfWay username password names start
  | reconnect =>
    match exec Connection.disconnect start with
    | (.error _, _) => False
    | (.ok (), closed) => EndsHalfWay .null .null names closed
  | disconnect => False
  | auth => AuthStrays start
  | guards action _ => GuardsStray action start
  | run operation => RunStrays names operation start

theorem usesHosts_perform (step : Step) (h : UsesHosts names start.1) :
    UsesHosts names (step.perform start).1 := by
  cases step with
  | connect username password => exact preserves_hosts_connect username password start h
  | reconnect =>
      exact (Preserves.bind preserves_hosts_disconnect fun _ =>
        preserves_hosts_connect .null .null) start h
  | disconnect => exact preserves_hosts_disconnect start h
  | auth => exact preserves_hosts_auth start h
  | guards action _ => exact preserves_hosts_onTransport action start h
  | run operation => exact preserves_hosts_run operation start h

theorem agrees_reconnect_iff (hhosts : UsesHosts names start.1) (hstart : start.1.Agrees) :
    (exec Connection.reconnect start).2.1.Agrees ↔ ¬ reconnect.Strays names start := by
  have hdisconnect := agrees_disconnect_iff start
  have hkept := preserves_hosts_disconnect start hhosts
  unfold Connection.reconnect Strays
  rw [exec_bind]
  generalize exec Connection.disconnect start = ended at hdisconnect hkept ⊢
  obtain ⟨failure | made, closed⟩ := ended
  · exact iff_of_true (hdisconnect.2 (.inl hstart)) not_false
  · exact agrees_connect_iff .null .null (hdisconnect.2 (.inr rfl)) hkept.hosts

/-- From a state that agrees a step leads to one that agrees, unless it strays. -/
theorem agrees_perform_iff (step : Step) (hhosts : UsesHosts names start.1)
    (hstart : start.1.Agrees) :
    (step.perform start).1.Agrees ↔ ¬ step.Strays names start := by
  cases step with
  | connect username password => exact agrees_connect_iff username password hstart hhosts.hosts
  | reconnect => exact agrees_reconnect_iff hhosts hstart
  | disconnect => exact iff_of_true ((agrees_disconnect_iff start).2 (.inl hstart)) not_false
  | auth => exact agrees_auth_iff hstart
  | guards action haction => exact agrees_guards_iff haction hstart
  | run operation => exact agrees_run_iff operation hhosts.hosts hhosts.hostname hstart

end Step

/-- What the steps of a session leave. -/
def performed (start : Connection × World) (steps : List Step) : Connection × World :=
  steps.foldl Step.perform start

/-- The state agrees all along a session just when no step strays where it is performed. -/
theorem session_agrees_iff (steps : List Step)
    (hhosts : start.1.configuration.hosts = names.map .str)
    (hhostname : IsHostname start.1.hostname) (hstart : start.1.Agrees) :
    (∀ earlier later, steps = earlier ++ later → (performed start earlier).1.Agrees) ↔
      ∀ earlier step later, steps = earlier ++ step :: later →
        ¬ step.Strays names (performed start earlier) := by
  have huses : UsesHosts names start.1 := ⟨hhosts, hhostname⟩
  clear hhosts hhostname
  induction steps generalizing start with
  | nil =>
      refine iff_of_true (fun earlier later heq => ?_) fun earlier step later heq => ?_
      · rw [(List.append_eq_nil_iff.1 heq.symm).1]
        exact hstart
      · cases earlier <;> cases heq
  | cons step steps ih =>
      have hstep := step.agrees_perform_iff huses hstart
      have hkept := step.usesHosts_perform huses
      constructor
      · intro hagrees earlier other later heq
        have hnext : (step.perform start).1.Agrees := hagrees [step] steps rfl
        cases earlier with
        | nil =>
            cases heq
            exact hstep.1 hnext
        | cons first earlier =>
            cases heq
            refine (ih hnext hkept).1 (fun prior rest hrest => ?_) earlier other later rfl
            exact hagrees (step :: prior) rest (congrArg (step :: ·) hrest)
      · intro hstrays earlier later heq
        have hnext : (step.perform start).1.Agrees := hstep.2 (hstrays [] step steps rfl)
        cases earlier with
        | nil => exact hstart
        | cons first earlier =>
            cases heq
            refine (ih hnext hkept).2 (fun prior other rest hrest => ?_) earlier later rfl
            exact hstrays (step :: prior) other rest (congrArg (step :: ·) hrest)

/-- The connection once it was made, before the deletion. -/
def lostOnceMade : Connection × World :=
  performed lostOnce [.connect .null .null]

theorem not_runStrays_lostOnceMade :
    ¬ RunStrays ["foo"] (Transport.delete (.str "cn=x")) lostOnceMade := by
  let operation := Transport.delete (.str "cn=x")
  let schedule := scheduleOf operation ["foo"] lostOnceMade.1.hostname
  have hopening : exec (opening .whole) lostOnceMade = (.ok (), lostOnceMade) := by
    rw [exec_opening_whole]
    exact if_pos (by decide +kernel)
  have hlost : IsLost (schedule.outcome lostOnceMade 0) :=
    ⟨serverLost, eq_error_of_failsPlainly (by decide +kernel), rfl, rfl⟩
  have hlast : schedule.IsLast lostOnceMade 1 :=
    ⟨Nat.le_refl 1, fun k hk => (Nat.lt_one_iff.1 hk) ▸ hlost, .inr rfl⟩
  unfold RunStrays
  rw [hopening]
  rintro ⟨last, hother, hstrays⟩
  cases hlast.unique hother
  have hdisconnect : exec disconnect (schedule.before lostOnceMade 1) =
      (.ok (), (exec disconnect (schedule.before lostOnceMade 1)).2) :=
    Prod.ext (eq_ok_of_toOption (by decide +kernel)) rfl
  let closed := (exec disconnect (schedule.before lostOnceMade 1)).2
  have hconnect : exec (connectTo (schedule.host 0) .null .null) closed =
      (.ok (), (exec (connectTo (schedule.host 0) .null .null) closed).2) :=
    Prod.ext (eq_ok_of_toOption (by decide +kernel)) rfl
  have hstrayed : RetryStrays operation (schedule.host 0)
      (StraysAt operation ["foo"] lostOnceMade 0) (schedule.before lostOnceMade 1) := hstrays
  unfold RetryStrays at hstrayed
  rw [hdisconnect] at hstrayed
  dsimp only at hstrayed
  rw [hconnect] at hstrayed
  have hused : (exec (onTransport operation)
      (exec (connectTo (schedule.host 0) .null .null) closed).2).2.1.isConnected = true := by
    decide +kernel
  exact Bool.noConfusion (hused.symm.trans hstrayed)

/-- Connect, run a deletion during which the server is lost once, and disconnect. -/
theorem session_agrees_after_loss :
    lostOnce.1.configuration.hosts = ["foo"].map .str ∧ IsHostname lostOnce.1.hostname ∧
      lostOnce.1.Agrees ∧
      ∀ earlier later,
        [.connect .null .null, .run (Transport.delete (.str "cn=x")), .disconnect] =
            earlier ++ later →
          (performed lostOnce earlier).1.Agrees := by
  have hhosts : lostOnce.1.configuration.hosts = ["foo"].map .str := rfl
  have hstart : lostOnce.1.Agrees := agrees_iff.2 rfl
  refine ⟨hhosts, .inl rfl, hstart, (session_agrees_iff _ hhosts (.inl rfl) hstart).2 ?_⟩
  have hconnect : exec (connectTo (.str "foo") .null .null) lostOnce =
      (.ok (), (exec (connectTo (.str "foo") .null .null) lostOnce).2) :=
    Prod.ext (eq_ok_of_toOption (by decide +kernel)) rfl
  intro earlier step later heq
  rcases earlier with _ | ⟨first, _ | ⟨second, _ | ⟨third, earlier⟩⟩⟩
  · cases heq
    show ¬ EndsHalfWay .null .null ["foo"] lostOnce
    unfold EndsHalfWay
    rw [hconnect]
    exact not_false
  · cases heq
    exact not_runStrays_lostOnceMade
  · cases heq
    exact not_false
  · simp at heq

/-- A connection that was not used yet, and a server that accepts everything. -/
def fresh : Connection × World :=
  (unused ["foo"], {})

/-- A guard binds, and the state does not follow. -/
theorem guardBind_strays :
    let steps : List Step :=
      [.auth, .guards (fresh.1.guard.bind (.str "jdoe") (.str "pw")) (.bind _ _ trivial)]
    fresh.1.configuration.hosts = ["foo"].map .str ∧ IsHostname fresh.1.hostname ∧
      fresh.1.Agrees ∧ (performed fresh steps).1.state = .connected ∧
      (performed fresh steps).1.transport.isConnected = true ∧
      (performed fresh steps).1.transport.isBound = true ∧
      ¬ (performed fresh steps).1.Agrees := by
  intro steps
  have hstate : (performed fresh steps).1.state = .connected := by decide +kernel
  have hopen : (performed fresh steps).1.transport.isConnected = true := by decide +kernel
  have hbound : (performed fresh steps).1.transport.isBound = true := by decide +kernel
  refine ⟨rfl, .inl rfl, agrees_iff.2 rfl, hstate, hopen, hbound, fun hagrees => ?_⟩
  have hagreed := hagrees.bound.2 ⟨hopen, hbound⟩
  rw [hstate] at hagreed
  cases hagreed

end Directory.Connection
