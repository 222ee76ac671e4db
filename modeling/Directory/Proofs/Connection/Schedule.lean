import Directory.Proofs.Connection.Frame
import Directory.Proofs.Connection.Hosts

/-!
# The schedule of retries

A `Schedule` says what a run of an operation does in which iteration: on which host it connects
again, and which host it notes when the server was lost. `Schedule.Ends` says with what the run ends
in which iteration; `retry_ends` goes through the retries one by one.
-/

namespace Directory.Connection

open Directory.Action

variable {σ α : Type}

/-! ## What becomes of an outcome -/

/-- The operation failed because the server was lost. -/
def IsLost (outcome : Except Failure α) : Prop :=
  ∃ failure, outcome = .error failure ∧ failure.isDirectory = true ∧
    failure.causedByLostConnection = .ok true

/-- The failure that is raised for a failure other than the loss of the server: a report of a
directory operation is classified, and any other failure is left as it is. Where the details of a
report do not let it be judged, that is the failure. -/
def raised (classifier : Classifier) (failure : Failure) : Failure :=
  if failure.isDirectory then
    match failure.causedByLostConnection with
    | .error unreadable => unreadable
    | .ok _ =>
      match classifier.classify failure none with
      | .ok specific => specific
      | .error unreadable => unreadable
  else failure

/-- Give a result, raise a failure, or go on if the server was lost. -/
def settle (focus : Focus σ Connection) (next : Failure → Action σ α) :
    Except Failure α → Action σ α
  | .ok result => return result
  | .error failure => do
    if !failure.isDirectory then throw failure
    if !(← failure.causedByLostConnection) then throw (← (classified failure).on focus)
    next failure

/-- What is done when the server was lost again, with a number of retries left. -/
def afterLoss (focus : Focus σ Connection) (operation : Action σ α) (hostname : Value) :
    Nat → Failure → Action σ α
  | 0, failure => do
    (noteAttempt hostname).on focus
    throw failure
  | retries + 1, _ => do
    (noteAttempt hostname).on focus
    let hostnames := (focus.get (← Action.state)).configuration.hosts
    let next := hostAfter hostnames hostname
    Value.note [next]
    retry focus operation retries next

theorem retry_eq (focus : Focus σ Connection) (operation : Action σ α) (retries : Nat)
    (hostname : Value) :
    retry focus operation retries hostname = (do
      let outcome ← (do (reconnectTo hostname).on focus; operation).observe
      settle focus (afterLoss focus operation hostname retries) outcome) := by
  rw [retry]
  -- both sides run the same action, and take its outcome apart in the same way
  refine congrArg (Bind.bind _) (funext fun outcome => ?_)
  cases outcome with
  | ok result => rfl
  | error failure => cases retries <;> rfl

section Settle

variable {focus : Focus σ Connection} {next : Failure → Action σ α} {outcome : Except Failure α}

theorem exec_settle_of_not_isLost (hfocus : focus.IsLawful) (h : ¬ IsLost outcome)
    (start : σ × World) :
    exec (settle focus next outcome) start =
      (outcome.mapError (raised (focus.get start.1).classifier), start) := by
  cases outcome with
  | ok result => rfl
  | error failure =>
      unfold settle raised classified
      cases hdirectory : failure.isDirectory with
      | false => simp [hdirectory, Except.mapError]
      | true =>
          cases hlost : failure.causedByLostConnection with
          | error unreadable => simp [exec_bind, hlost, hdirectory, Except.mapError]
          | ok isLost =>
              cases isLost with
              | true => exact absurd ⟨failure, rfl, hdirectory, hlost⟩ h
              | false =>
                  cases hkind : (focus.get start.1).classifier.classify failure none <;>
                    simp [exec_bind, hlost, hdirectory, hkind, hfocus.put_get, Except.mapError]

theorem exec_settle_of_isLost {failure : Failure} (h : IsLost (.error failure : Except Failure α))
    (start : σ × World) :
    exec (settle focus next (.error failure)) start = exec (next failure) start := by
  obtain ⟨_, heq, hdirectory, hlost⟩ := h
  cases heq
  simp [settle, exec_bind, hdirectory, hlost]

end Settle

/-! ## Iterations -/

/-- An operation that is run again on further hosts whenever the server is lost: `first` is the host
in use when it is run first. -/
structure Schedule (σ α : Type) where
  focus : Focus σ Connection
  operation : Action σ α
  hosts : List Value
  first : Value

namespace Schedule

variable (schedule : Schedule σ α) (start : σ × World)

/-- The host of a retry, counted from zero: the one in use at first, and then each the one after the
one before. -/
def host (k : Nat) : Value :=
  (hostAfter schedule.hosts)^[k] schedule.first

/-- What is done before the operation is run. The first time that is nothing. -/
def reach : Nat → Action σ Unit
  | 0 => return ()
  | k + 1 => (reconnectTo (schedule.host k)).on schedule.focus

/-- One run of the operation, on the host whose turn it is. -/
def iteration (k : Nat) : Action σ α := do
  schedule.reach k
  schedule.operation

/-- What is done after an iteration in which the server was lost. -/
def noteLoss : Nat → Action σ Unit
  | 0 => return ()
  | k + 1 => (noteAttempt (schedule.host k)).on schedule.focus

/-- The state in which an iteration begins, if the server was lost in each one before. -/
def before : Nat → σ × World
  | 0 => start
  | k + 1 => (exec (schedule.noteLoss k) (exec (schedule.iteration k) (before k)).2).2

/-- What an iteration gives or how it fails. -/
def outcome (k : Nat) : Except Failure α :=
  (exec (schedule.iteration k) (schedule.before start k)).1

/-- The state in which an iteration ends. -/
def after (k : Nat) : σ × World :=
  (exec (schedule.iteration k) (schedule.before start k)).2

/-- The states in which the operation is run, in the iterations up to one. -/
def invocations (last : Nat) : List (σ × World) :=
  (List.range (last + 1)).filterMap fun k =>
    match exec (schedule.reach k) (schedule.before start k) with
    | (.ok (), reached) => some reached
    | (.error _, _) => none

/-- How a run ends: with the first outcome that is not the loss of the server, or with the loss in
the iteration after which no retry is left. -/
inductive Ends : Nat → Except Failure α × (σ × World) → Prop
  | settled {last : Nat} (hle : last ≤ schedule.hosts.length)
      (hlost : ∀ k < last, IsLost (schedule.outcome start k))
      (hsettled : ¬ IsLost (schedule.outcome start last)) :
      Ends last ((schedule.outcome start last).mapError
        (raised (schedule.focus.get start.1).classifier), schedule.after start last)
  | exhausted {last : Nat} (hlast : last = schedule.hosts.length)
      (hlost : ∀ k < last + 1, IsLost (schedule.outcome start k)) :
      Ends last (schedule.outcome start last, schedule.before start (last + 1))

/-- The operation does not change what only the connection itself changes, and hosts are hosts. -/
structure IsProper : Prop where
  lawful : schedule.focus.IsLawful
  operation : ∀ {υ : Type} {view : Connection → υ}, IsSteady view →
    Keeps (fun state => view (schedule.focus.get state)) schedule.operation
  hosts : ∀ hostname ∈ schedule.hosts, IsHostname hostname
  first : IsHostname schedule.first

variable {schedule start}

/-- A retry is an iteration, and what follows from its outcome. -/
theorem exec_retry (retries k : Nat) :
    exec (retry schedule.focus schedule.operation retries (schedule.host k))
        (schedule.before start (k + 1)) =
      exec (settle schedule.focus (afterLoss schedule.focus schedule.operation (schedule.host k)
        retries) (schedule.outcome start (k + 1))) (schedule.after start (k + 1)) := by
  rw [retry_eq, exec_bind, exec_observe]
  rfl

namespace IsProper

variable (h : schedule.IsProper)
include h

theorem isHostname_host (k : Nat) : IsHostname (schedule.host k) := by
  cases k with
  | zero => exact h.first
  | succ k =>
      rw [host, Function.iterate_succ_apply']
      exact isHostname_hostAfter h.hosts _

theorem keeps_iteration {υ : Type} (view : Connection → υ) (hview : IsSteady view) (k : Nat) :
    Keeps (fun state => view (schedule.focus.get state)) (schedule.iteration k) := by
  refine Keeps.bind ?_ fun _ => h.operation hview
  cases k with
  | zero => exact Keeps.pure ()
  | succ k => exact Keeps.on_part h.lawful (keeps_reconnectTo _ hview)

theorem keeps_noteLoss {υ : Type} (view : Connection → υ)
    (hview : ∀ connection attempted, view { connection with attempted } = view connection)
    (k : Nat) : Keeps (fun state => view (schedule.focus.get state)) (schedule.noteLoss k) := by
  cases k with
  | zero => exact Keeps.pure ()
  | succ k => exact Keeps.on_part h.lawful (keeps_noteAttempt _ hview)

/-- What the iterations and the notes about them leave alone is the same in every iteration. -/
theorem view_before {υ : Type} (view : Connection → υ) (hview : IsSteady view)
    (hattempted : ∀ connection attempted, view { connection with attempted } = view connection)
    (k : Nat) : view (schedule.focus.get (schedule.before start k).1) =
      view (schedule.focus.get start.1) := by
  induction k with
  | zero => rfl
  | succ k ih =>
      rw [before]
      have hiteration := h.keeps_iteration view hview k (schedule.before start k)
      exact (h.keeps_noteLoss view hattempted k _).trans (hiteration.trans ih)

theorem exec_noteLoss (k : Nat) :
    exec (schedule.noteLoss k) (schedule.after start k) =
      (.ok (), schedule.before start (k + 1)) := by
  refine Prod.ext ?_ rfl
  cases k with
  | zero => rfl
  | succ k => rw [noteLoss, exec_on, exec_noteAttempt (h.isHostname_host k)]

theorem hosts_before (hhosts : (schedule.focus.get start.1).configuration.hosts = schedule.hosts)
    (k : Nat) :
    (schedule.focus.get (schedule.before start k).1).configuration.hosts = schedule.hosts := by
  rw [← hhosts]
  exact h.view_before (fun connection => connection.configuration.hosts) (fun _ _ _ _ => rfl)
    (fun _ _ => rfl) k

theorem classifier_after (k : Nat) :
    (schedule.focus.get (schedule.after start k).1).classifier =
      (schedule.focus.get start.1).classifier := by
  have hafter := h.keeps_iteration Connection.classifier (fun _ _ _ _ => rfl) k
    (schedule.before start k)
  exact hafter.trans (h.view_before Connection.classifier (fun _ _ _ _ => rfl) (fun _ _ => rfl) k)

/-- An iteration whose outcome is settled ends the run. -/
theorem settle_ends {next : Failure → Action σ α} {k : Nat} (hle : k ≤ schedule.hosts.length)
    (hlost : ∀ i < k, IsLost (schedule.outcome start i))
    (hsettled : ¬ IsLost (schedule.outcome start k)) :
    ∃ last, schedule.Ends start last
      (exec (settle schedule.focus next (schedule.outcome start k)) (schedule.after start k)) := by
  rw [exec_settle_of_not_isLost h.lawful hsettled, h.classifier_after]
  exact ⟨k, Ends.settled hle hlost hsettled⟩

theorem exec_afterLoss_zero (k : Nat) (failure : Failure) :
    exec (afterLoss schedule.focus schedule.operation (schedule.host k) 0 failure)
        (schedule.after start (k + 1)) = (.error failure, schedule.before start (k + 2)) := by
  have hnote : exec ((noteAttempt (schedule.host k)).on schedule.focus)
      (schedule.after start (k + 1)) = (.ok (), schedule.before start (k + 2)) :=
    h.exec_noteLoss (k + 1)
  rw [afterLoss, exec_bind, hnote]
  rfl

theorem exec_afterLoss_succ
    (hhosts : (schedule.focus.get start.1).configuration.hosts = schedule.hosts)
    (retries k : Nat) (failure : Failure) :
    exec (afterLoss schedule.focus schedule.operation (schedule.host k) (retries + 1) failure)
        (schedule.after start (k + 1)) =
      exec (retry schedule.focus schedule.operation retries (schedule.host (k + 1)))
        (schedule.before start (k + 2)) := by
  have hnote : exec ((noteAttempt (schedule.host k)).on schedule.focus)
      (schedule.after start (k + 1)) = (.ok (), schedule.before start (k + 2)) :=
    h.exec_noteLoss (k + 1)
  have hnext : hostAfter schedule.hosts (schedule.host k) = schedule.host (k + 1) := by
    rw [host, host, Function.iterate_succ_apply']
  rw [afterLoss, exec_bind, hnote]
  simp only [exec_bind, exec_state, h.hosts_before hhosts, hnext, exec_lift,
    (h.isHostname_host (k + 1)).note]

omit h in
theorem lost_succ {k : Nat} (hlost : ∀ i < k, IsLost (schedule.outcome start i))
    (hk : IsLost (schedule.outcome start k)) : ∀ i < k + 1, IsLost (schedule.outcome start i) := by
  intro i hi
  rcases Nat.lt_succ_iff_lt_or_eq.1 hi with hi | rfl
  · exact hlost i hi
  · exact hk

/-- The retries that are left go through the iterations after the ones before. -/
theorem retry_ends (hhosts : (schedule.focus.get start.1).configuration.hosts = schedule.hosts)
    {retries k : Nat} (hretries : k + 1 + retries = schedule.hosts.length)
    (hlost : ∀ i < k + 1, IsLost (schedule.outcome start i)) :
    ∃ last, schedule.Ends start last
      (exec (retry schedule.focus schedule.operation retries (schedule.host k))
        (schedule.before start (k + 1))) := by
  -- on the retries that are left, with all iterations before this one lost
  induction retries generalizing k with
  | zero =>
      rw [exec_retry]
      by_cases hk : IsLost (schedule.outcome start (k + 1))
      · have hends := Ends.exhausted hretries (lost_succ hlost hk)
        obtain ⟨failure, hfailure, hrest⟩ := hk
        rw [hfailure] at hends ⊢
        rw [exec_settle_of_isLost ⟨failure, rfl, hrest⟩, h.exec_afterLoss_zero]
        exact ⟨k + 1, hends⟩
      · exact h.settle_ends (by omega) hlost hk
  | succ retries ih =>
      rw [exec_retry]
      by_cases hk : IsLost (schedule.outcome start (k + 1))
      · have hnext := lost_succ hlost hk
        obtain ⟨failure, hfailure, hrest⟩ := hk
        rw [hfailure, exec_settle_of_isLost ⟨failure, rfl, hrest⟩, h.exec_afterLoss_succ hhosts]
        exact ih (by omega) hnext
      · exact h.settle_ends (by omega) hlost hk

end IsProper

end Schedule

/-! ## Runs -/

/-- Connect if that is needed. -/
def opening (focus : Focus σ Connection) : Action σ Unit := do
  if !(focus.get (← Action.state)).isConnected then (connect .null .null).on focus

/-- What is done when the server was lost the first time. -/
def afterFirstLoss (focus : Focus σ Connection) (operation : Action σ α) (connection : Connection)
    (failure : Failure) : Action σ α :=
  match connection.configuration.hosts.length with
  | 0 => do
    (noteAttempt connection.hostname).on focus
    throw failure
  | retries + 1 => do
    Value.note [connection.hostname]
    retry focus operation retries connection.hostname

/-- Run an operation on a connection that was made, and again whenever the server is lost. -/
def runOpened (focus : Focus σ Connection) (operation : Action σ α) : Action σ α := do
  let connection := focus.get (← Action.state)
  let outcome ← operation.observe
  settle focus (afterFirstLoss focus operation connection) outcome

theorem runWithin_eq (focus : Focus σ Connection) (operation : Action σ α) :
    runWithin focus operation = (do
      opening focus
      runOpened focus operation) := by
  unfold runWithin opening
  -- what is done once the connection is made stands behind both branches of the test
  rw [bind_assoc]
  refine congrArg (Bind.bind _) (funext fun state => ?_)
  cases (focus.get state).isConnected
  all_goals
    simp only [Bool.not_false, Bool.not_true, if_true, Bool.false_eq_true, if_false, pure_bind]
  case' false => refine congrArg (Bind.bind _) (funext fun made => ?_)
  all_goals
    refine congrArg (Bind.bind _) (funext fun state => ?_)
    refine congrArg (Bind.bind _) (funext fun outcome => ?_)
    cases outcome with
    | ok result => rfl
    | error failure => rfl

/-! ### What runs uphold -/

theorem upholds_settle {inv : σ × World → Prop} {focus : Focus σ Connection}
    {next : Failure → Action σ α} (hfocus : focus.IsLawful) (outcome : Except Failure α)
    (h : ∀ failure, Upholds inv (next failure)) : Upholds inv (settle focus next outcome) := by
  by_cases hlost : IsLost outcome
  · obtain ⟨failure, heq, hrest⟩ := hlost
    intro start hstart
    rw [heq, exec_settle_of_isLost ⟨failure, rfl, hrest⟩]
    exact h failure start hstart
  · intro start hstart
    rw [exec_settle_of_not_isLost hfocus hlost]
    exact hstart

section Upholds

variable {inv : σ × World → Prop} {focus : Focus σ Connection} {operation : Action σ α}
  (hfocus : focus.IsLawful) (hnote : ∀ hostname, Upholds inv ((noteAttempt hostname).on focus))
  (hreconnect : ∀ hostname, Upholds inv ((reconnectTo hostname).on focus))
  (hoperation : Upholds inv operation)
include hfocus hnote hreconnect hoperation

/-- Retrying upholds what connecting again and the operation uphold. -/
theorem upholds_retry_of (retries : Nat) (hostname : Value) :
    Upholds inv (retry focus operation retries hostname) := by
  have hattempt : Upholds inv (do (reconnectTo hostname).on focus; operation) :=
    Upholds.bind (hreconnect hostname) fun _ => hoperation
  rw [retry_eq]
  refine Upholds.bind hattempt.observe fun outcome =>
    upholds_settle hfocus outcome fun failure => ?_
  cases retries with
  | zero => exact Upholds.bind (hnote hostname) fun _ => Upholds.throw failure
  | succ retries =>
      exact Upholds.bind (hnote hostname) fun _ => Upholds.bind Upholds.state fun _ =>
        Upholds.bind (Upholds.lift _) fun _ => upholds_retry_of retries _

/-- A run within a larger state upholds what its parts uphold. -/
theorem upholds_runWithin_of (hconnect : Upholds inv ((connect .null .null).on focus)) :
    Upholds inv (runWithin focus operation) := by
  have hopening : Upholds inv (opening focus) := by
    refine Upholds.bind Upholds.state fun state => ?_
    split
    · exact hconnect
    · exact Upholds.pure ()
  rw [runWithin_eq]
  refine Upholds.bind hopening fun _ => Upholds.bind Upholds.state fun state =>
    Upholds.bind hoperation.observe fun outcome =>
      upholds_settle hfocus outcome fun failure => ?_
  unfold afterFirstLoss
  split
  · exact Upholds.bind (hnote _) fun _ => Upholds.throw failure
  · exact Upholds.bind (Upholds.lift _) fun _ =>
      upholds_retry_of hfocus hnote hreconnect hoperation _ _

end Upholds

/-- A run upholds what its parts uphold. -/
theorem upholds_run_of {inv : Connection × World → Prop} {operation : Action Connection α}
    (hnote : ∀ hostname, Upholds inv (noteAttempt hostname))
    (hreconnect : ∀ hostname, Upholds inv (reconnectTo hostname))
    (hoperation : Upholds inv operation) (hconnect : Upholds inv (connect .null .null)) :
    Upholds inv (run operation) :=
  upholds_runWithin_of Focus.isLawful_whole (fun hostname => (hnote hostname).on_whole)
    (fun hostname => (hreconnect hostname).on_whole) hoperation hconnect.on_whole

namespace Schedule.IsProper

variable {schedule : Schedule σ α} {start : σ × World}

/-- A run on a connection that was made begins with the first iteration. -/
theorem exec_runOpened (schedule : Schedule σ α) (start : σ × World) :
    exec (runOpened schedule.focus schedule.operation) start =
      exec (settle schedule.focus (afterFirstLoss schedule.focus schedule.operation
        (schedule.focus.get start.1)) (schedule.outcome start 0)) (schedule.after start 0) := by
  unfold runOpened
  rw [exec_bind, exec_state]
  rfl

/-- A run on a connection that was made goes through the iterations until one ends it. -/
theorem runOpened_ends (h : schedule.IsProper)
    (hhosts : (schedule.focus.get start.1).configuration.hosts = schedule.hosts)
    (hfirst : (schedule.focus.get start.1).hostname = schedule.first) (hne : schedule.hosts ≠ []) :
    ∃ last, schedule.Ends start last
      (exec (runOpened schedule.focus schedule.operation) start) := by
  rw [exec_runOpened]
  by_cases hlost : IsLost (schedule.outcome start 0)
  · have hall := lost_succ (k := 0) (by omega) hlost
    obtain ⟨failure, hfailure, hrest⟩ := hlost
    obtain ⟨retries, hretries⟩ := Nat.exists_eq_succ_of_ne_zero (mt List.length_eq_zero_iff.1 hne)
    rw [hfailure, exec_settle_of_isLost ⟨failure, rfl, hrest⟩]
    unfold afterFirstLoss
    rw [hhosts, hretries, hfirst]
    simp only [exec_bind, exec_lift, h.first.note]
    exact h.retry_ends (k := 0) hhosts (by omega) hall
  · exact h.settle_ends (Nat.zero_le _) (by omega) hlost

/-! ## Hosts noted on the way -/

theorem gains_after (h : schedule.IsProper) {k : Nat} {hostnames : List Value}
    (hgains : Gains (schedule.focus.get start.1).attempted
      (schedule.focus.get (schedule.before start k).1).attempted hostnames) :
    Gains (schedule.focus.get start.1).attempted
      (schedule.focus.get (schedule.after start k).1).attempted hostnames := by
  have hkeeps : (schedule.focus.get (schedule.after start k).1).attempted =
      (schedule.focus.get (schedule.before start k).1).attempted :=
    h.keeps_iteration Connection.attempted (fun _ _ _ _ => rfl) k _
  rwa [hkeeps]

/-- Before an iteration, the hosts of all retries but the last one have been noted. -/
theorem gains_before (h : schedule.IsProper) (k : Nat) :
    Gains (schedule.focus.get start.1).attempted
      (schedule.focus.get (schedule.before start k).1).attempted
      ((List.range (k - 1)).map schedule.host) := by
  induction k with
  | zero => exact Gains.nil _
  | succ k ih =>
      have hafter := h.gains_after ih
      cases k with
      | zero => exact hafter -- the first loss is not noted
      | succ k =>
          have hnote : (schedule.focus.get (schedule.before start (k + 2)).1).attempted =
              withAttempt (schedule.focus.get (schedule.after start (k + 1)).1).attempted
                (schedule.host k) := by
            rw [Schedule.before, noteLoss, exec_on, exec_noteAttempt (h.isHostname_host k),
              h.lawful.get_put]
            rfl
          rw [hnote, show k + 1 + 1 - 1 = k + 1 from rfl, List.range_succ, List.map_append]
          exact hafter.withAttempt (h.isHostname_host k)

/-- A run that is settled has noted the hosts of the retries before the last one. -/
theorem gains_of_settled (h : schedule.IsProper) {last : Nat}
    {ended : Except Failure α × (σ × World)} (hends : schedule.Ends start last ended)
    (hsettled : ¬ IsLost (schedule.outcome start last)) :
    Gains (schedule.focus.get start.1).attempted (schedule.focus.get ended.2.1).attempted
      ((List.range (last - 1)).map schedule.host) := by
  cases hends with
  | settled => exact h.gains_after (h.gains_before last)
  | exhausted hlast hlost => exact absurd (hlost last (Nat.lt_succ_self last)) hsettled

/-- A run that gives up has noted the hosts of all retries. -/
theorem gains_of_isLost (h : schedule.IsProper) {last : Nat}
    {ended : Except Failure α × (σ × World)} (hends : schedule.Ends start last ended)
    (hlost : IsLost (schedule.outcome start last)) :
    Gains (schedule.focus.get start.1).attempted (schedule.focus.get ended.2.1).attempted
      ((List.range schedule.hosts.length).map schedule.host) := by
  cases hends with
  | settled hle hbefore hsettled => exact absurd hlost hsettled
  | exhausted hlast _ =>
      rw [← hlast]
      exact h.gains_before (last + 1)

end Schedule.IsProper

namespace Schedule

/-! ## The last iteration -/

variable {schedule : Schedule σ α} {start : σ × World} {last other : Nat}
  {ended : Except Failure α × (σ × World)}

/-- There is no retry after the number of hosts. -/
theorem Ends.le (h : schedule.Ends start last ended) : last ≤ schedule.hosts.length := by
  cases h with
  | settled hle => exact hle
  | exhausted hlast => exact Nat.le_of_eq hlast

/-- A run that ends with the loss of the server has no retry left. -/
theorem Ends.last_eq (h : schedule.Ends start last ended)
    (hlost : IsLost (schedule.outcome start last)) : last = schedule.hosts.length := by
  cases h with
  | settled _ _ hsettled => exact absurd hlost hsettled
  | exhausted hlast => exact hlast

/-- The iteration in which a run ends: the server was lost in every one before, and it is not lost
again or no retry is left. -/
structure IsLast (schedule : Schedule σ α) (start : σ × World) (last : Nat) : Prop where
  le : last ≤ schedule.hosts.length
  lost : ∀ k < last, IsLost (schedule.outcome start k)
  ends : ¬ IsLost (schedule.outcome start last) ∨ last = schedule.hosts.length

theorem IsLast.le_of_isLast (h : schedule.IsLast start last)
    (hother : schedule.IsLast start other) : last ≤ other := by
  by_contra hlt
  rcases hother.ends with hsettled | hlength
  · exact hsettled (h.lost other (by omega))
  · have := h.le
    omega

/-- A run ends in one iteration. -/
theorem IsLast.unique (h : schedule.IsLast start last) (hother : schedule.IsLast start other) :
    last = other :=
  Nat.le_antisymm (h.le_of_isLast hother) (hother.le_of_isLast h)

/-- A run leaves what its last iteration leaves, up to the hosts that are noted. -/
theorem IsProper.exists_isLast (h : schedule.IsProper)
    (hhosts : (schedule.focus.get start.1).configuration.hosts = schedule.hosts)
    (hfirst : (schedule.focus.get start.1).hostname = schedule.first) {υ : Type}
    (view : Connection → υ)
    (hview : ∀ connection attempted, view { connection with attempted } = view connection) :
    ∃ last, schedule.IsLast start last ∧
      view (schedule.focus.get (exec (runOpened schedule.focus schedule.operation) start).2.1) =
        view (schedule.focus.get (schedule.after start last).1) := by
  by_cases hne : schedule.hosts = []
  · -- without a host there is no retry
    refine ⟨0, ⟨Nat.zero_le _, fun k hk => absurd hk (Nat.not_lt_zero k), .inr ?_⟩, ?_⟩
    · rw [hne, List.length_nil]
    rw [exec_runOpened]
    by_cases hlost : IsLost (schedule.outcome start 0)
    · obtain ⟨failure, hfailure, hrest⟩ := hlost
      rw [hfailure, exec_settle_of_isLost ⟨failure, rfl, hrest⟩]
      unfold afterFirstLoss
      rw [hhosts, hne]
      have hnote : Keeps (fun state => view (schedule.focus.get state)) (do
          (noteAttempt (schedule.focus.get start.1).hostname).on schedule.focus
          throw failure : Action σ α) :=
        Keeps.bind (Keeps.on_part h.lawful (keeps_noteAttempt _ hview)) fun _ => Keeps.throw _
      exact hnote _
    · rw [exec_settle_of_not_isLost h.lawful hlost]
  · obtain ⟨last, hends⟩ := h.runOpened_ends hhosts hfirst hne
    generalize exec (runOpened schedule.focus schedule.operation) start = ending at hends ⊢
    cases hends with
    | settled hle hlost hsettled => exact ⟨last, ⟨hle, hlost, .inl hsettled⟩, rfl⟩
    | exhausted hlast hlost =>
        refine ⟨last, ⟨hlast.le, fun k hk => hlost k (by omega), .inr hlast⟩, ?_⟩
        exact h.keeps_noteLoss view hview last (schedule.after start last)

end Schedule

end Directory.Connection
