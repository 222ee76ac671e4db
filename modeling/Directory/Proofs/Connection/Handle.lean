import Directory.Proofs.Connection.Agreement
import Directory.Proofs.Connection.Session
import Directory.Proofs.Value.Fault

/-!
# One handle at a time

A connection opens its transport only while that holds no handle, and closes it only while it holds
one. So whatever is done with a connection, and however it ends, what opens the transport and what
closes it take turns. `HandleTrace` says how an ending is reached step by step, where a step opens
the transport only if there is no handle; only the operations that are run are free to do as they
like.
-/

namespace Directory

open Directory.Action

/-- Where no server is available, that is the report of a directory operation. -/
theorem Kind.isDirectory_of_isA_noServer {kind : Kind} (h : kind.isA .noServer = true) :
    kind.isDirectory = true := by
  cases kind with
  | wire fault => cases fault <;> cases h
  | bindAnd other =>
      by_cases hother : Kind.directory ∈ other.line
      · simp [isDirectory, isA, line, joinLines, hother]
      · simp [isDirectory, isA, line, joinLines, hother]
  | _ => first | rfl | cases h

/-- What may change whether a transport holds a handle. Opening begins without a handle and closing
with one; each says whether there is one afterwards, since both may fail. An operation is free to
use the transport as it likes. -/
inductive HandleCall where
  | opens (isHeld : Bool)
  | closes (isHeld : Bool)
  | operates (wasHeld isHeld : Bool)

namespace HandleCall

/-- Whether there is a handle before the call. -/
def before : HandleCall → Bool
  | opens _ => false
  | closes _ => true
  | operates wasHeld _ => wasHeld

/-- Whether there is a handle after the call. -/
def after : HandleCall → Bool
  | opens isHeld => isHeld
  | closes isHeld => isHeld
  | operates _ isHeld => isHeld

/-- What the calls that make a difference make of the handle. -/
def switches (calls : List HandleCall) : List Bool :=
  calls.filterMap fun call => if call.before = call.after then none else some call.after

/-- Each call finds the handle as the calls before it left it. -/
def Leads : Bool → List HandleCall → Bool → Prop
  | held, [], ended => held = ended
  | held, call :: calls, ended => held = call.before ∧ Leads call.after calls ended

variable {held between ended : Bool} {calls more : List HandleCall}

theorem Leads.append (h : Leads held calls between) (hmore : Leads between more ended) :
    Leads held (calls ++ more) ended := by
  induction calls generalizing held with
  | nil =>
      cases h
      exact hmore
  | cons call calls ih => exact ⟨h.1, ih h.2⟩

/-- Calls that make a difference take turns. -/
theorem Leads.isChain_switches (h : Leads held calls ended) :
    (held :: switches calls).IsChain (· ≠ ·) := by
  induction calls generalizing held with
  | nil => exact .singleton held
  | cons call calls ih =>
      obtain ⟨rfl, hrest⟩ := h
      have hnext := ih hrest
      unfold switches at hnext ⊢
      -- a call that makes no difference leaves the turn to the next one
      by_cases hsame : call.before = call.after
      · simp only [List.filterMap_cons, if_pos hsame]
        rwa [hsame]
      · simp only [List.filterMap_cons, if_neg hsame]
        exact .cons_cons hsame hnext

end HandleCall

namespace Connection

variable {α : Type} {runs : (α : Type) → Action Transport α → Prop}
  {start reached ended : Connection × World} {calls : List HandleCall}

/-! ## Traces -/

/-- A step of a connection on which some operations are run. The transport is opened where it holds
no handle and closed where it holds one. In the other steps but those of an operation the connection
is marked, announces what happens, passes its settings on, or has a guard bind. -/
inductive HandleStep (runs : (α : Type) → Action Transport α → Prop) :
    Connection × World → List HandleCall → Connection × World → Prop
  | marks {mark : Connection → Connection} (reached : Connection × World)
      (hmark : ∀ connection, (mark connection).transport = connection.transport) :
      HandleStep runs reached [] (mark reached.1, reached.2)
  | announces (happening : Happening) (reached : Connection × World) :
      HandleStep runs reached [] (exec (announce happening) reached).2
  | configures (reached : Connection × World) :
      HandleStep runs reached [] (exec configure reached).2
  | binds (guard : Guard) (username password : Value) (reached : Connection × World) :
      HandleStep runs reached [] (exec (onTransport (guard.bind username password)) reached).2
  | opens (hostname port : Value) {reached opened : Connection × World}
      (hfree : reached.1.transport.isConnected = false)
      (hopened : (exec (onTransport (Transport.connect hostname port)) reached).2 = opened) :
      HandleStep runs reached [.opens opened.1.transport.isConnected] opened
  | closes {reached closed : Connection × World} (hheld : reached.1.transport.isConnected = true)
      (hclosed : (exec (onTransport Transport.close) reached).2 = closed) :
      HandleStep runs reached [.closes closed.1.transport.isConnected] closed
  | operates {α : Type} {operation : Action Transport α} {reached used : Connection × World}
      (hruns : runs α operation) (hused : (exec (onTransport operation) reached).2 = used) :
      HandleStep runs reached
        [.operates reached.1.transport.isConnected used.1.transport.isConnected] used

/-- The calls in which something is reached from a start, step by step. -/
inductive HandleTrace (runs : (α : Type) → Action Transport α → Prop)
    (start : Connection × World) : List HandleCall → Connection × World → Prop
  | start : HandleTrace runs start [] start
  | step {calls more : List HandleCall} {reached ended : Connection × World}
      (htrace : HandleTrace runs start calls reached) (hstep : HandleStep runs reached more ended) :
      HandleTrace runs start (calls ++ more) ended

/-- A step finds the handle as it is and leaves it as its call says. -/
theorem HandleStep.leads (h : HandleStep runs reached calls ended) :
    HandleCall.Leads reached.1.transport.isConnected calls ended.1.transport.isConnected := by
  cases h with
  | marks _ hmark => exact congrArg Transport.isConnected (hmark reached.1).symm
  | announces happening =>
      exact congrArg Transport.isConnected
        (keeps_announce Connection.transport happening reached).symm
  | configures => exact (keeps_isConnected_configure reached).symm
  | binds guard username password =>
      exact (Guard.preserves_isConnected_bind guard username password
        (reached.1.transport, reached.2) rfl).symm
  | opens hostname port hfree => exact ⟨hfree, rfl⟩
  | closes hheld => exact ⟨hheld, rfl⟩
  | operates hruns => exact ⟨rfl, rfl⟩

theorem HandleTrace.leads (h : HandleTrace runs start calls ended) :
    HandleCall.Leads start.1.transport.isConnected calls ended.1.transport.isConnected := by
  induction h with
  | start => rfl
  | step _ hstep ih => exact ih.append hstep.leads

/-- What is reached from a start in some trace. -/
def IsTraced (runs : (α : Type) → Action Transport α → Prop) (start reached : Connection × World) :
    Prop :=
  ∃ calls, HandleTrace runs start calls reached

/-- An action that is a step goes on with a trace. -/
theorem upholds_of_step {action : Action Connection α}
    (h : ∀ reached, ∃ calls, HandleStep runs reached calls (exec action reached).2) :
    Upholds (IsTraced runs start) action := by
  rintro reached ⟨calls, htrace⟩
  obtain ⟨more, hstep⟩ := h reached
  exact ⟨_, htrace.step hstep⟩

theorem upholds_mark {mark : Connection → Connection}
    (hmark : ∀ connection, (mark connection).transport = connection.transport) :
    Upholds (IsTraced runs start) (Action.change mark) :=
  upholds_of_step fun reached => ⟨_, .marks reached hmark⟩

theorem upholds_announce (happening : Happening) :
    Upholds (IsTraced runs start) (announce happening) :=
  upholds_of_step fun reached => ⟨_, .announces happening reached⟩

theorem upholds_operate {operation : Action Transport α} (h : runs α operation) :
    Upholds (IsTraced runs start) (onTransport operation) :=
  upholds_of_step fun _ => ⟨_, .operates h rfl⟩

theorem upholds_noteAttempt (hostname : Value) :
    Upholds (IsTraced runs start) (noteAttempt hostname) := by
  refine Upholds.bind (Upholds.lift _) fun hostname => upholds_mark fun connection => ?_
  split
  · rfl
  · rfl

/-! ## Opening and closing -/

/-- What is reached in some trace is without a handle. -/
def IsTracedFree (runs : (α : Type) → Action Transport α → Prop)
    (start reached : Connection × World) : Prop :=
  IsTraced runs start reached ∧ reached.1.transport.isConnected = false

/-- A handle that is there is closed, and is gone if that does not fail. -/
theorem meets_close_traced :
    Meets (fun reached => IsTraced runs start reached ∧ reached.1.transport.isConnected = true)
      (onTransport Transport.close) (fun _ => IsTracedFree runs start)
      (fun _ => IsTraced runs start) := by
  rintro reached ⟨⟨calls, htrace⟩, hheld⟩
  have hclose := exec_close reached
  have hstep : HandleStep runs reached _ _ := .closes hheld rfl
  generalize exec (onTransport Transport.close) reached = ended at hclose hstep ⊢
  obtain ⟨failure | made, closed⟩ := ended
  · exact ⟨_, htrace.step hstep⟩
  · exact ⟨⟨_, htrace.step hstep⟩, hclose⟩

theorem upholds_disconnect : Upholds (IsTraced runs start) disconnect :=
  upholds_disconnect_of (meets_close_traced.mono (fun _ h => h) (fun _ _ h => h.1) fun _ _ h => h)
    (upholds_mark fun _ => rfl)

/-- A transport without a handle is opened. -/
theorem meets_openReleased_traced (hostname port : Value) :
    Meets (IsTracedFree runs start) (openReleased hostname port) (fun _ => IsTraced runs start)
      (fun _ => IsTraced runs start) := by
  have hconfigure : Upholds (IsTracedFree runs start) configure := by
    rintro reached ⟨⟨calls, htrace⟩, hfree⟩
    exact ⟨⟨_, htrace.step (.configures reached)⟩,
      (keeps_isConnected_configure reached).trans hfree⟩
  have hconnect : Meets (IsTracedFree runs start) (onTransport (Transport.connect hostname port))
      (fun _ => IsTraced runs start) (fun _ => IsTraced runs start) := by
    refine Meets.of_ends ?_
    rintro reached ⟨⟨calls, htrace⟩, hfree⟩
    exact ⟨_, htrace.step (.opens hostname port hfree rfl)⟩
  have hkept {β : Type} {action : Action Connection β}
      (h : Upholds (IsTracedFree runs start) action) : Meets (IsTracedFree runs start) action
        (fun _ => IsTracedFree runs start) (fun _ => IsTraced runs start) :=
    (Meets.of_ends h).mono (fun _ h => h) (fun _ _ h => h) fun _ _ h => h.1
  exact Meets.bind (hkept hconfigure) fun _ => Meets.bind (hkept (Upholds.lift _)) fun _ =>
    Meets.bind hconnect fun _ => Meets.of_ends (upholds_mark fun _ => rfl)

theorem upholds_openHost (hostname : Value) : Upholds (IsTraced runs start) (openHost hostname) :=
  Meets.upholds <| meets_openHost_of meets_close_traced (fun _ htraced hfree => ⟨htraced, hfree⟩)
    (fun _ _ htraced _ => htraced) fun _ chosen _ _ => meets_openReleased_traced chosen _

/-! ## Connecting and running operations -/

theorem upholds_connectTo (hostname username password : Value) :
    Upholds (IsTraced runs start) (connectTo hostname username password) := by
  have hguard (guard : Guard) (username password : Value) :
      Upholds (IsTraced runs start) (onTransport (guard.bind username password)) :=
    upholds_of_step fun reached => ⟨_, .binds guard username password reached⟩
  exact upholds_connectTo_of (upholds_mark fun _ => rfl) upholds_announce
    (upholds_openHost hostname) (upholds_bind_of hguard (upholds_mark fun _ => rfl))

theorem upholds_connect (username password : Value) :
    Upholds (IsTraced runs start) (connect username password) :=
  upholds_connect_of upholds_noteAttempt
    (fun _ _ hostname _ => upholds_connectTo hostname username password) upholds_disconnect
    upholds_announce

theorem upholds_run {operation : Action Connection α}
    (h : Upholds (IsTraced runs start) operation) :
    Upholds (IsTraced runs start) (run operation) :=
  upholds_run_of upholds_noteAttempt
    (fun hostname => Upholds.bind upholds_disconnect fun _ => upholds_connectTo hostname _ _) h
    (upholds_connect _ _)

/-! ## Handles that are left behind -/

/-- A failure leaves no handle behind, unless it is a failure to disconnect. -/
def LeavesNone (failure : Failure) (ended : Connection × World) : Prop :=
  ended.1.transport.isConnected = false ∨
    ∃ tried, exec disconnect tried = (.error failure, ended)

theorem meets_disconnect_leavesNone :
    Meets (fun _ => True) disconnect (fun _ ended => ended.1.transport.isConnected = false)
      LeavesNone := by
  intro reached _
  cases hexec : exec disconnect reached with
  | mk outcome ended =>
      cases outcome with
      | ok made => exact (isDisconnected_of_disconnect hexec).closed
      | error failure => exact .inr ⟨reached, hexec⟩

/-- If trying hosts fails, then not with the report of a directory operation. -/
theorem meets_connectToAny_unreported (username password hostname : Value)
    (hostnames : List Value) :
    Meets (fun _ => True) (connectToAny username password hostname hostnames) (fun _ _ => True)
      (fun failure _ => failure.isDirectory = false) := by
  rw [connectToAny]
  -- how a host fails is a value from here on, so what is left to fail is to note the host
  refine Meets.observe_bind (Meets.anything _) (fun _ => Meets.pure fun _ _ => trivial)
    fun failure => ?_
  have hnote : Meets (fun _ => True) (noteAttempt hostname) (fun _ _ => True)
      (fun failure _ => failure.isDirectory = false) :=
    Meets.lift_bind (fun _ _ _ _ => trivial)
      fun failure _ heq _ => (Value.failsByFault_requireKey hostname failure heq).unreported
  have hrest : Meets (fun _ => True) (tryRest username password hostname failure hostnames)
      (fun _ _ => True) (fun failure _ => failure.isDirectory = false) := by
    refine Meets.lift_bind (fun _ _ => Meets.bind hnote fun _ => ?_)
      fun failure _ heq _ => (Value.failsByFault_note [hostname] failure heq).unreported
    cases hostnames with
    | nil => exact Meets.pure fun _ _ => trivial
    | cons next hostnames => exact meets_connectToAny_unreported username password next hostnames
  dsimp only
  split
  next hdirectory => exact Meets.throw_bind fun _ _ => by simpa using hdirectory
  next => exact hrest

/-- When no host could be used, the handle of the last one is closed before anything else. -/
theorem meets_connect_leavesNone (username password : Value) :
    Meets (fun _ => True) (connect username password) (fun _ _ => True)
      (fun failure ended => failure.isDirectory = true → LeavesNone failure ended) := by
  have hfree {β : Type} {action : Action Connection β} (h : Keeps Connection.transport action) :
      Meets (fun start => start.1.transport.isConnected = false) action
        (fun _ ended => ended.1.transport.isConnected = false)
        (fun failure ended => failure.isDirectory = true → LeavesNone failure ended) :=
    (Meets.of_preserves (h.preserves fun transport => transport.isConnected = false)).mono
      (fun _ h => h) (fun _ _ h => h) fun _ _ h _ => .inl h
  refine Meets.state_bind fun connection => ?_
  split
  · -- that no host is configured is a refusal, and the transport may well be open then
    exact Meets.throw fun _ _ hdirectory => by cases hdirectory
  · refine Meets.bind ((meets_connectToAny_unreported username password _ _).mono
      (fun _ _ => trivial) (fun _ _ h => h) fun failure _ hnot hdirectory => ?_) fun last => ?_
    · exact Bool.noConfusion (hnot.symm.trans hdirectory)
    cases last with
    | none => exact Meets.pure fun _ _ => trivial
    | some last =>
        refine Meets.bind (meets_disconnect_leavesNone.mono (fun _ _ => trivial)
          (fun _ _ h => h) fun _ _ h _ => h) fun _ => ?_
        -- the transport is left alone once it was closed, even if a listener fails
        refine Meets.bind (hfree Keeps.state) fun _ => Meets.bind (hfree (Keeps.lift _)) fun _ =>
          Meets.bind (hfree (keeps_announce _ _)) fun _ => Meets.throw fun _ h _ => .inl h

/-! ## Usage -/

/-- What is done with a connection: one thing after the other, where each may depend on what came of
those before, and where some operations are run on the transport. -/
inductive IsUsage (runs : (α : Type) → Action Transport α → Prop) :
    {α : Type} → Action Connection α → Prop
  | pure {α : Type} (a : α) : IsUsage runs (Pure.pure a)
  | throw {α : Type} (failure : Failure) : IsUsage runs (MonadExcept.throw failure : Action _ α)
  | next {α β : Type} {action : Action Connection α} {next : α → Action Connection β}
      (haction : IsUsage runs action) (hnext : ∀ a, IsUsage runs (next a)) :
      IsUsage runs (action >>= next)
  | observe {α : Type} {action : Action Connection α} (haction : IsUsage runs action) :
      IsUsage runs action.observe
  | state : IsUsage runs Action.state
  | setOption (key value : Value) : IsUsage runs (setOption key value)
  | openHost (hostname : Value) : IsUsage runs (openHost hostname)
  | connect (username password : Value) : IsUsage runs (connect username password)
  | reconnect : IsUsage runs reconnect
  | disconnect : IsUsage runs disconnect
  | auth : IsUsage runs auth
  | during {α : Type} {action : Action Connection α} (haction : IsUsage runs action) :
      IsUsage runs (during action)
  | operate {α : Type} {operation : Action Transport α} (hruns : runs α operation) :
      IsUsage runs (onTransport operation)
  | run {α : Type} {operation : Action Connection α} (hoperation : IsUsage runs operation) :
      IsUsage runs (run operation)

theorem upholds_setOption (key value : Value) :
    Upholds (IsTraced runs start) (setOption key value) :=
  Upholds.bind Upholds.state fun _ => Upholds.bind (Upholds.lift _) fun _ =>
    upholds_mark fun _ => rfl

theorem IsUsage.upholds {usage : Action Connection α} (h : IsUsage runs usage) :
    Upholds (IsTraced runs start) usage := by
  induction h with
  | pure a => exact Upholds.pure a
  | throw failure => exact Upholds.throw failure
  | next _ _ haction hnext => exact Upholds.bind haction hnext
  | observe _ haction => exact haction.observe
  | state => exact Upholds.state
  | setOption key value => exact upholds_setOption key value
  | openHost hostname => exact upholds_openHost hostname
  | connect username password => exact upholds_connect username password
  | reconnect => exact Upholds.bind upholds_disconnect fun _ => upholds_connect .null .null
  | disconnect => exact upholds_disconnect
  | auth => exact upholds_auth_of (upholds_openHost .null)
  | during _ haction => exact haction.ensuring upholds_disconnect
  | operate hruns => exact upholds_operate hruns
  | run _ hoperation => exact upholds_run hoperation

/-- Whatever is done with a connection and whatever comes of it, what opens its transport and what
closes it take turns. No handle is left when the connection was disconnected, when a block ends
without a failure to close, and when no server is available, unless closing failed with that. -/
theorem usage_holds_one_handle {usage : Action Connection α} (h : IsUsage runs usage)
    (start : Connection × World) :
    (∃ calls, HandleTrace runs start calls (exec usage start).2 ∧
      (start.1.transport.isConnected :: HandleCall.switches calls).IsChain (· ≠ ·)) ∧
    (∀ ended, exec disconnect start = (.ok (), ended) → ended.1.transport.isConnected = false) ∧
    (∀ ended, exec disconnect (exec usage start).2 = (.ok (), ended) →
      exec (during usage) start = ((exec usage start).1, ended) ∧
        ended.1.transport.isConnected = false) ∧
    ∀ username password failure ended,
      exec (connect username password) start = (.error failure, ended) →
        failure.isA .noServer = true → LeavesNone failure ended := by
  refine ⟨?_, fun ended hexec => (isDisconnected_of_disconnect hexec).closed, ?_, ?_⟩
  · obtain ⟨calls, htrace⟩ := h.upholds start ⟨[], .start⟩
    exact ⟨calls, htrace, htrace.leads.isChain_switches⟩
  · intro ended hexec
    refine ⟨?_, (isDisconnected_of_disconnect hexec).closed⟩
    unfold during
    rw [exec_ensuring, hexec]
  · intro username password failure ended hexec hkind
    have hended := meets_connect_leavesNone username password start trivial
    rw [hexec] at hended
    exact hended (Kind.isDirectory_of_isA_noServer hkind)

/-- A connection to a server that refuses the account, and what comes of closing the transport. -/
def refused (closing : List Outcome) : Connection × World :=
  (unused ["foo"],
    { script := fun
        | .bind => [.gives { response := { code := .int 49 } }]
        | .close => closing
        | _ => [] })

/-- The transport is opened and closed again, and no server is available. -/
theorem refused_holds_one_handle :
    let runs : (α : Type) → Action Transport α → Prop := fun _ _ => False
    let start := refused []
    let usage := connect .null .null
    let ended := (exec usage start).2
    IsUsage runs usage ∧
      (∃ calls, HandleTrace runs start calls ended ∧
        (false :: HandleCall.switches calls).IsChain (· ≠ ·)) ∧
      (∃ closed, exec disconnect ended = (.ok (), closed) ∧
        exec (during usage) start = ((exec usage start).1, closed) ∧
        closed.1.transport.isConnected = false) ∧
      ∃ failure, exec usage start = (.error failure, ended) ∧ failure.isA .noServer = true ∧
        LeavesNone failure ended := by
  intro runs start usage ended
  have husage : IsUsage runs usage := .connect .null .null
  obtain ⟨htraced, -, hblock, hnone⟩ := usage_holds_one_handle husage start
  have hcloses :
      (exec disconnect (exec (connect .null .null) (refused [])).2).1 = .ok () :=
    eq_ok_of_toOption (by decide +kernel)
  have hclosed : exec disconnect ended = (.ok (), (exec disconnect ended).2) :=
    Prod.ext hcloses rfl
  refine ⟨husage, htraced, ⟨_, hclosed, hblock _ hclosed⟩, ?_⟩
  have hfails : raisedKind? (exec (connect .null .null) (refused [])).1 = some .noServer := by
    decide +kernel
  cases hexec : exec (connect .null .null) (refused []) with
  | mk outcome last =>
      rw [hexec] at hfails
      have hended : ended = last := congrArg Prod.snd hexec
      cases outcome with
      | ok made => cases hfails
      | error failure =>
          have hkind : failure.isA .noServer = true := by
            unfold Failure.isA
            rw [Option.some.inj hfails]
            rfl
          rw [hended]
          exact ⟨failure, rfl, hkind, hnone _ _ failure last hexec hkind⟩

/-- The failure of a transport that cannot be closed. -/
def unclosable : Failure :=
  { kind := .noServer, text := some "closing failed" }

/-- A transport that cannot be closed still holds its handle when no server is available. -/
theorem unclosable_holds_handle :
    let ended := (exec (connect .null .null) (refused [.fails unclosable])).2
    exec (connect .null .null) (refused [.fails unclosable]) = (.error unclosable, ended) ∧
      unclosable.isA .noServer = true ∧ ended.1.transport.isConnected = true :=
  ⟨Prod.ext (eq_error_of_failsPlainly (by decide +kernel)) rfl, rfl, by decide +kernel⟩

end Connection

end Directory
