import Mathlib.Data.List.GetD
import Directory.Proofs.Dispatcher.LeftAlone
import Directory.Proofs.Footprint
import Directory.Proofs.Pool.Registry
import Directory.Proofs.Veil

/-!
# The logger of a registry

The registry knows the logger that is set, and its dispatcher knows who listens. Whatever is done
with the registry, and whatever others have listed and forgotten one by one in between, the
dispatcher lists the logger that is set once, for all events, and none of those that were set
before (`Runs.isLogged`). So a logger is called once for each event of a registered connection, and
writes a line for it unless a listener that is called before it fails (`events_logged_once`).
-/

namespace Directory

open Directory.Action

/-- Where the current one of some listeners is listed once and the others are not, it is all that is
listed of them. -/
theorem filter_mem_eq_toList {listeners kept : List Listener} {current : Option Listener}
    (hcurrent : ∀ listener, current = some listener → listener ∈ kept)
    (hcount : ∀ listener ∈ kept,
      listeners.count listener = if current = some listener then 1 else 0) :
    listeners.filter (· ∈ kept) = current.toList := by
  have hlisted {listener : Listener} (hmem : listener ∈ listeners) (hkept : listener ∈ kept) :
      current = some listener := by
    by_contra hother
    have hzero := hcount listener hkept
    rw [if_neg hother, List.count_eq_zero] at hzero
    exact hzero hmem
  cases current with
  | none =>
      refine List.filter_eq_nil_iff.2 fun listener hmem hkept => ?_
      cases hlisted hmem (of_decide_eq_true hkept)
  | some current =>
      have hkept := hcurrent current rfl
      have hall : ∀ listener ∈ listeners.filter (· ∈ kept), current = listener := by
        intro listener hfiltered
        obtain ⟨hmem, hlistener⟩ := List.mem_filter.1 hfiltered
        exact Option.some.inj (hlisted hmem (of_decide_eq_true hlistener))
      have hlength : (listeners.filter (· ∈ kept)).length = 1 := by
        rw [← List.count_eq_length.2 hall, List.count_filter (by simpa using hkept),
          hcount current hkept, if_pos rfl]
      obtain ⟨only, honly⟩ := List.length_eq_one_iff.1 hlength
      rw [honly, ← hall only (honly ▸ List.mem_singleton_self only)]
      rfl

namespace Pool

variable {start reached ended : Pool × World} {loggers : List Listener} {number : Nat}

/-! ## The dispatcher that is shared -/

/-- The connections that are registered announce their events to the registry's dispatcher. -/
def SharesDispatcher (pool : Pool) : Prop :=
  ∀ number < pool.connections.length, pool.registry.Registers number →
    ((connection number).get pool).dispatcher = some pool.registry.dispatcher

theorem preserves_sharesDispatcher_on {action : Action Connection Unit}
    (h : Keeps Connection.dispatcher action) (number : Nat) :
    Preserves SharesDispatcher (action.on (connection number)) := by
  intro start hstart other hlt hregistered
  have hlength : (exec (action.on (connection number)) start).2.1.connections.length =
      start.1.connections.length := List.length_set
  have hkept := hstart other (hlength ▸ hlt) hregistered
  rw [exec_on, get_put_connection]
  split
  next heq =>
    obtain ⟨rfl, -⟩ := heq
    exact (h _).trans hkept
  next => exact hkept

/-- A connection that was given the registry's dispatcher has it, and so do those that had it. -/
theorem dispatcher_of_given {pool : Pool} (h : pool.SharesDispatcher) (number : Nat) {other : Nat}
    (hplace : other < pool.connections.length)
    (hregistered : other = number ∨ pool.registry.Registers other) :
    ((connection other).get ((connection number).put pool { (connection number).get pool with
      dispatcher := some pool.registry.dispatcher })).dispatcher =
        some pool.registry.dispatcher := by
  rw [get_put_connection]
  split
  next => rfl
  next hne =>
    have hother : other ≠ number := fun heq => hne ⟨heq, heq ▸ hplace⟩
    exact h other hplace (hregistered.resolve_left hother)

theorem preserves_sharesDispatcher_add (number : Nat) (name : Value) :
    Preserves SharesDispatcher (add number name) := by
  intro start hstart
  unfold add
  rw [exec_bind, exec_state]
  dsimp only
  rw [exec_bind, exec_lift]
  cases Value.note [start.1.registry.meant name] with
  | error failure => exact hstart
  | ok noted =>
      dsimp only
      rw [exec_bind, exec_on, exec_change]
      dsimp only
      rw [exec_bind, exec_lift]
      have hlength (given : Connection) :
          ((connection number).put start.1 given).connections.length =
            start.1.connections.length := List.length_set
      cases (start.1.registry.meant name).requireKey with
      | error failure =>
          intro other hlt hregistered
          exact dispatcher_of_given hstart number (hlength _ ▸ hlt) (.inr hregistered)
      | ok key =>
          intro other hlt hregistered
          refine dispatcher_of_given hstart number (hlength _ ▸ hlt) ?_
          exact (exists_mem_insert_iff.1 hregistered).imp_right
            fun ⟨entry, hentry, hnumber, _⟩ => ⟨entry, hentry, hnumber⟩

theorem preserves_sharesDispatcher_remove (name : Value) :
    Preserves SharesDispatcher (remove name) := by
  refine Preserves.bind (Preserves.lift _) fun name => Preserves.bind Preserves.state fun pool =>
    Preserves.bind (Preserves.change fun pool hpool other hlt hregistered => ?_) fun _ => ?_
  · obtain ⟨entry, hentry, hnumber, -⟩ := registers_without_iff.1 hregistered
    exact hpool other hlt ⟨entry, hentry, hnumber⟩
  · cases Value.lookup? pool.registry.names name with
    | none => exact Preserves.pure _
    | some number =>
        exact preserves_sharesDispatcher_on (Connection.keeps_disconnect fun _ _ _ _ => rfl) number

/-! ## What a step does to the logger -/

/-- What the registry knows of who listens. -/
def logging (pool : Pool) : Nat × Option Listener :=
  (pool.registry.dispatcher, pool.registry.logger)

/-- An action has nothing to do with loggers: it leaves alone what the registry knows of them and
who listens, and events still go to the registry's dispatcher. -/
structure IsSilent (action : Action Pool Unit) : Prop where
  keeps : Keeps logging action
  spares : Spares World.listening action
  preserves : Preserves SharesDispatcher action

theorem isRemote_listening : Effect.IsRemote World.listening :=
  ⟨fun _ _ _ _ => rfl, fun _ _ => rfl⟩

theorem isSilent_add (number : Nat) (name : Value) : IsSilent (add number name) where
  keeps := Keeps.bind Keeps.state fun _ => Keeps.bind (Keeps.lift _) fun _ =>
    Keeps.bind (Keeps.on fun _ _ => rfl) fun _ => Keeps.bind (Keeps.lift _) fun _ =>
      Keeps.change fun _ => rfl
  spares := Spares.bind Spares.state fun _ => Spares.bind (Spares.lift _) fun _ =>
    Spares.bind (Spares.on (Spares.change _)) fun _ => Spares.bind (Spares.lift _) fun _ =>
      Spares.change _
  preserves := preserves_sharesDispatcher_add number name

theorem isSilent_remove (name : Value) : IsSilent (remove name) where
  keeps := by
    refine Keeps.bind (Keeps.lift _) fun name => Keeps.bind Keeps.state fun pool =>
      Keeps.bind (Keeps.change fun _ => rfl) fun _ => ?_
    cases Value.lookup? pool.registry.names name with
    | none => exact Keeps.pure _
    | some number => exact Keeps.on fun _ _ => rfl
  spares := by
    refine Spares.bind (Spares.lift _) fun name => Spares.bind Spares.state fun pool =>
      Spares.bind (Spares.change _) fun _ => ?_
    cases Value.lookup? pool.registry.names name with
    | none => exact Spares.pure _
    | some number => exact Spares.on (Connection.spares_disconnect isRemote_listening)
  preserves := preserves_sharesDispatcher_remove name

theorem isSilent_removeAll (names : List Value) : IsSilent (removeAll names) := by
  induction names with
  | nil => exact ⟨Keeps.pure _, Spares.pure _, Preserves.pure _⟩
  | cons name names ih =>
      have hfirst := isSilent_remove name
      exact ⟨hfirst.keeps.bind fun _ => ih.keeps, hfirst.spares.bind fun _ => ih.spares,
        hfirst.preserves.bind fun _ => ih.preserves⟩

theorem isSilent_withDefault (name : Value) : IsSilent (changeRegistry (·.withDefault name)) :=
  ⟨Keeps.change fun _ => rfl, Spares.change _, Preserves.change fun _ h => h⟩

/-- The loggers of a registry are listed as they should be: the one that is set once, for all
events, and none of the others, nor any that was not made so far. -/
structure IsLogged (loggers : List Listener) (reached : Pool × World) : Prop where
  ordered : reached.2.IsOrdered reached.1.registry.dispatcher loggers
  areLoggers : ∀ listener ∈ loggers, ∃ order log, listener = .logger order log
  current : ∀ listener, reached.1.registry.logger = some listener → listener ∈ loggers
  counts : ∀ listener, reached.2.Reserves loggers listener → ∀ eventClass,
    ((reached.2.dispatcher (some reached.1.registry.dispatcher)).listeners eventClass).count
        listener =
      if eventClass = .event ∧ reached.1.registry.logger = some listener then 1 else 0
  shares : reached.1.SharesDispatcher

namespace IsLogged

/-- What disturbs none of the loggers leaves them listed as they should be. -/
theorem of_undisturbed (h : IsLogged loggers reached)
    (hundisturbed : World.Undisturbed reached.1.registry.dispatcher loggers reached.2 ended.2)
    (hlogging : ended.1.logging = reached.1.logging) (hshares : ended.1.SharesDispatcher) :
    IsLogged loggers ended := by
  obtain ⟨hdispatcher, hlogger⟩ := Prod.mk.inj hlogging
  refine ⟨hdispatcher ▸ hundisturbed.ordered, h.areLoggers, hlogger ▸ h.current, ?_, hshares⟩
  intro listener hreserved eventClass
  have hkept := (hundisturbed.counts listener hreserved).listeners eventClass
  rw [hdispatcher, hlogger, hkept]
  exact h.counts listener (hreserved.of_length_le hundisturbed.length_le) eventClass

theorem of_isSilent (h : IsLogged loggers reached) {action : Action Pool Unit}
    (haction : IsSilent action) : IsLogged loggers (exec action reached).2 :=
  h.of_undisturbed (.of_listening h.ordered (haction.spares reached)) (haction.keeps reached)
    (haction.preserves reached h.shares)

end IsLogged

/-! ## Setting a logger -/

/-- The logger that is set is forgotten for all events. -/
theorem exec_unsetLogger_of_some {current : Listener}
    (h : start.1.registry.logger = some current) :
    exec unsetLogger start = (.ok (), ({ start.1 with registry.logger := none },
      start.2.asked start.1.registry.dispatcher (.forget (some .event) (some current)))) := by
  rw [unsetLogger, exec_bind, exec_state]
  dsimp only
  rw [h]
  rfl

theorem exec_unsetLogger_of_none (h : start.1.registry.logger = none) :
    exec unsetLogger start = (.ok (), start) := by
  rw [unsetLogger, exec_bind, exec_state]
  dsimp only
  rw [h]
  rfl

/-- Where no logger is set any more, a new one listens for all events. -/
theorem exec_setLogger {between : Pool × World} (log : Option String)
    (h : exec unsetLogger start = (.ok (), between)) :
    exec (setLogger log) start =
      (.ok (), ({ between.1 with registry.logger := some (.logger between.2.loggers.length log) },
        (between.2.withLogger log).asked between.1.registry.dispatcher
          (.listen [.event] (.logger between.2.loggers.length log)))) := by
  rw [setLogger, exec_bind, h]
  rfl

/-- After the logger was forgotten none is set, and none is listed. -/
theorem IsLogged.exists_unsetLogger (hstart : IsLogged loggers start) :
    ∃ ended, exec unsetLogger start = (.ok (), ended) ∧ ended.1.registry.logger = none ∧
      IsLogged loggers ended := by
  cases hlogger : start.1.registry.logger with
  | none => exact ⟨start, exec_unsetLogger_of_none hlogger, hlogger, hstart⟩
  | some current =>
      let ended : Pool × World := ({ start.1 with registry.logger := none },
        start.2.asked start.1.registry.dispatcher (.forget (some .event) (some current)))
      have hregisters := start.2.registers_asked start.1.registry.dispatcher
        (.forget (some .event) (some current))
      have hdispatcher : ended.2.dispatcher (some ended.1.registry.dispatcher) = _ :=
        hstart.ordered.dispatcher_of_registers hregisters
      refine ⟨ended, exec_unsetLogger_of_some hlogger, rfl,
        hstart.ordered.of_registers hregisters, hstart.areLoggers, fun _ hnone => (nomatch hnone),
        fun listener hreserved eventClass => ?_, hstart.shares⟩
      have hcount := hstart.counts listener hreserved eventClass
      rw [hdispatcher, hstart.ordered.sound.count_forget, hcount, hlogger]
      grind

/-- The logger that is set last is listed for all events, and none of the others is. -/
theorem IsLogged.exists_setLogger (hstart : IsLogged loggers start) (log : Option String) :
    ∃ ended order, exec (setLogger log) start = (.ok (), ended) ∧
      ended.1.registry.logger = some (.logger order log) ∧ .logger order log ∉ loggers ∧
      IsLogged (.logger order log :: loggers) ended := by
  obtain ⟨between, hunset, hnone, hbetween⟩ := hstart.exists_unsetLogger
  let order := between.2.loggers.length
  let ended : Pool × World := ({ between.1 with registry.logger := some (.logger order log) },
    (between.2.withLogger log).asked between.1.registry.dispatcher
      (.listen [.event] (.logger order log)))
  have hmade := World.Undisturbed.withLogger hbetween.ordered log
  have hregisters := (between.2.withLogger log).registers_asked between.1.registry.dispatcher
    (.listen [.event] (.logger order log))
  have hdispatcher : ended.2.dispatcher (some ended.1.registry.dispatcher) = _ :=
    hmade.ordered.dispatcher_of_registers hregisters
  have hfresh : .logger order log ∉ loggers := fun hmem =>
    Nat.lt_irrefl _ (hbetween.ordered.made order log hmem)
  refine ⟨ended, order, exec_setLogger log hunset, rfl, hfresh, ?_, ?_, ?_, ?_, hbetween.shares⟩
  · have hordered := hmade.ordered.of_registers hregisters
    refine ⟨hordered.present, hordered.sound, hordered.numbered, fun other name hmem => ?_⟩
    cases hmem with
    | head => exact Nat.lt_succ_self _
    | tail _ hmem => exact hordered.made other name hmem
  · exact List.forall_mem_cons.2 ⟨⟨order, log, rfl⟩, hbetween.areLoggers⟩
  · rintro listener ⟨⟩
    exact List.mem_cons_self
  · intro listener hreserved eventClass
    -- the new logger was reserved before it was made, so nobody can have listed it
    have hbefore : between.2.Reserves loggers listener := by
      rcases hreserved with hmem | ⟨other, name, rfl, hunmade⟩
      · cases hmem with
        | head => exact .inr ⟨order, log, rfl, Nat.le_refl _⟩
        | tail _ hmem => exact .inl hmem
      · exact .inr ⟨other, name, rfl, Nat.le_of_succ_le hunmade⟩
    have hcount : ((((between.2.withLogger log).dispatcher (some between.1.registry.dispatcher))
        |>.listeners eventClass).count listener) = _ := hbetween.counts listener hbefore eventClass
    rw [hdispatcher, hmade.ordered.sound.count_listen, hcount, hnone]
    grind

/-! ## Runs -/

/-- The logger that is set is one of the loggers. -/
theorem IsLogged.toList_union (h : IsLogged loggers reached) :
    reached.1.registry.logger.toList ∪ loggers = loggers := by
  cases hlogger : reached.1.registry.logger with
  | none => rfl
  | some current => exact List.insert_of_mem (h.current current hlogger)

theorem upholds_of_isSilent {action : Action Pool Unit} (h : IsSilent action) :
    Upholds (IsLogged loggers) action :=
  fun _ hstart => hstart.of_isSilent h

theorem upholds_unsetLogger : Upholds (IsLogged loggers) unsetLogger := by
  intro start hstart
  obtain ⟨ended, hexec, -, hended⟩ := hstart.exists_unsetLogger
  rw [hexec]
  exact hended

theorem upholds_flush : Upholds (IsLogged loggers) flush :=
  Upholds.bind Upholds.state fun _ =>
    Upholds.bind (upholds_of_isSilent (isSilent_removeAll _)) fun _ =>
      Upholds.bind (upholds_of_isSilent (isSilent_withDefault _)) fun _ => upholds_unsetLogger

/-- The step is an operation of the registry. -/
def Step.IsOperation : Step → Prop
  | .use .. => False
  | _ => True

/-- What an operation of the registry leaves, with the loggers that have been set so far. -/
theorem IsLogged.operation (h : IsLogged loggers reached) {step : Step} (hstep : step.IsOperation) :
    IsLogged ((exec step.action reached).2.1.registry.logger.toList ∪ loggers)
      (exec step.action reached).2 := by
  have hsame (hupholds : Upholds (IsLogged loggers) step.action) :
      IsLogged ((exec step.action reached).2.1.registry.logger.toList ∪ loggers)
        (exec step.action reached).2 := by
    have hended := hupholds reached h
    rwa [hended.toList_union]
  cases step with
  | add number name => exact hsame (upholds_of_isSilent (isSilent_add number name))
  | remove name => exact hsame (upholds_of_isSilent (isSilent_remove name))
  | setDefault name => exact hsame (upholds_of_isSilent (isSilent_withDefault name))
  | flush => exact hsame upholds_flush
  | setLogger log =>
      obtain ⟨ended, order, hexec, hlogger, hfresh, hended⟩ := h.exists_setLogger log
      have haction : exec (Step.setLogger log).action reached = (.ok (), ended) := hexec
      rw [haction, hlogger]
      have hunion : (some (Listener.logger order log)).toList ∪ loggers =
          .logger order log :: loggers := List.insert_of_not_mem hfresh
      rwa [hunion]
  | unsetLogger => exact hsame upholds_unsetLogger
  | use number action => exact hstep.elim

/-- A registry that was not used yet, and a dispatcher that lists no logger that was not made. -/
structure IsNew (start : Pool × World) : Prop where
  names : start.1.registry.names = []
  logger : start.1.registry.logger = none
  ordered : start.2.IsOrdered start.1.registry.dispatcher []
  unmade : ∀ order log, start.2.loggers.length ≤ order → ∀ eventClass,
    .logger order log ∉
      (start.2.dispatcher (some start.1.registry.dispatcher)).listeners eventClass

theorem IsNew.isLogged (h : IsNew start) : IsLogged [] start where
  ordered := h.ordered
  areLoggers := fun _ hmem => nomatch hmem
  current := fun _ hlogger => nomatch h.logger.symm.trans hlogger
  counts := by
    rintro listener (hmem | ⟨order, log, rfl, hunmade⟩) eventClass
    · cases hmem
    · rw [h.logger, List.count_eq_zero.2 (h.unmade order log hunmade eventClass), if_neg]
      exact fun hnone => nomatch hnone.2
  shares := by
    rintro number - ⟨entry, hmem, -⟩
    rw [h.names] at hmem
    cases hmem

/-- What is reached from a start by operations of a registry, with the loggers that have been set so
far. In between others ask its dispatcher for something, one listener at a time, registered
connections announce what happens to them, and connections are used in ways that do not change who
listens. None of the loggers is asked for, except by the registry. -/
inductive Runs (start : Pool × World) : List Listener → Pool × World → Prop
  | start : Runs start [] start
  | operation {loggers : List Listener} {reached : Pool × World} (step : Step)
      (hstep : step.IsOperation) (hrun : Runs start loggers reached) :
      Runs start ((exec step.action reached).2.1.registry.logger.toList ∪ loggers)
        (exec step.action reached).2
  | instruction {loggers : List Listener} {reached : Pool × World} (instruction : Instruction)
      (hleaves : reached.2.LeavesAlone loggers instruction)
      (hleave : ∀ event, instruction = .dispatch event → reached.2.ReactionsLeaveAlone loggers)
      (hrun : Runs start loggers reached) :
      Runs start loggers (reached.1, ((Effect.instruct (some reached.1.registry.dispatcher)
        instruction).run.run reached.2).2)
  | announcement {loggers : List Listener} {reached : Pool × World} (number : Nat)
      (happening : Happening) (hplace : number < reached.1.connections.length)
      (hregistered : reached.1.registry.Registers number)
      (hleave : reached.2.ReactionsLeaveAlone loggers) (hrun : Runs start loggers reached) :
      Runs start loggers (exec ((Connection.announce happening).on (connection number)) reached).2
  | use {loggers : List Listener} {reached : Pool × World} (number : Nat)
      (action : Action Connection Unit) (hkeeps : Keeps Connection.dispatcher action)
      (hspares : Spares World.listening action) (hrun : Runs start loggers reached) :
      Runs start loggers (exec (action.on (connection number)) reached).2

/-- The event in which a connection announces what happens to it. -/
def eventOf (pool : Pool) (number : Nat) (happening : Happening) : Event :=
  ⟨((connection number).get pool).transport.host, happening⟩

/-- What a registered connection announces is delivered by the registry's dispatcher. -/
theorem exec_announce (hshares : reached.1.SharesDispatcher)
    (hplace : number < reached.1.connections.length)
    (hregistered : reached.1.registry.Registers number) (happening : Happening) :
    exec ((Connection.announce happening).on (connection number)) reached =
      let delivered := (Effect.deliver (some reached.1.registry.dispatcher)
        (eventOf reached.1 number happening)).run.run reached.2
      (delivered.1, (reached.1, delivered.2)) := by
  have hput : (connection number).put reached.1 ((connection number).get reached.1) =
      reached.1 := by
    have hset : reached.1.connections.set number (reached.1.connections.getD number default) =
        reached.1.connections := by
      rw [List.getD_eq_getElem _ _ hplace, List.set_getElem_self]
    exact congrArg (fun connections => ({ reached.1 with connections } : Pool)) hset
  rw [exec_on, Connection.announce, exec_bind, exec_state]
  dsimp only
  rw [exec_outside, hshares number hplace hregistered]
  dsimp only
  rw [hput]
  rfl

/-- Along a run the loggers are listed as they should be. -/
theorem Runs.isLogged (hnew : IsNew start) (hruns : Runs start loggers reached) :
    IsLogged loggers reached := by
  induction hruns with
  | start => exact hnew.isLogged
  | operation step hstep _ ih => exact ih.operation hstep
  | instruction instruction hleaves hleave _ ih =>
      exact ih.of_undisturbed (Effect.upholds_instruct hleave hleaves _ (.refl ih.ordered)) rfl
        ih.shares
  | announcement number happening hplace hregistered hleave _ ih =>
      rw [exec_announce ih.shares hplace hregistered]
      exact ih.of_undisturbed (Effect.upholds_deliver hleave _ _ (.refl ih.ordered)) rfl ih.shares
  | use number action hkeeps hspares _ ih =>
      exact ih.of_undisturbed (.of_listening ih.ordered (Spares.on hspares _)) rfl
        (preserves_sharesDispatcher_on hkeeps number _ ih.shares)

/-- The event is announced, and listeners of the registry's dispatcher are called with it. -/
def calling (reached : Pool × World) (event : Event) (listeners : List Listener) :
    Except Failure Unit × World :=
  (Effect.callAll (some reached.1.registry.dispatcher) event listeners).run.run
    (reached.2.announcing event)

/-- What a connection or a guard of it announces comes to calling listeners of the registry's
dispatcher. Of the loggers of the registry the one that is set is called, once, and none of the
others; and if those that are called before it do not fail, it writes a line for the event. -/
structure LogsOnce (loggers : List Listener) (reached : Pool × World) (number : Nat)
    (happening : Happening) (listeners : List Listener) : Prop where
  announces : exec ((Connection.announce happening).on (connection number)) reached =
    let called := calling reached (eventOf reached.1 number happening) listeners
    (called.1, (reached.1, called.2))
  announcesByGuard : exec ((Connection.onTransport
        (((connection number).get reached.1).guard.announce happening)).on (connection number))
      reached =
    exec ((Connection.announce happening).on (connection number)) reached
  given : listeners.filter (· ∈ loggers) = reached.1.registry.logger.toList
  writes : ∀ current, reached.1.registry.logger = some current →
    ∃ order log before after, current = .logger order log ∧ listeners = before ++ current :: after ∧
      ∀ between text, calling reached (eventOf reached.1 number happening) before =
          (.ok (), between) →
        (eventOf reached.1 number happening).text = .ok text →
        calling reached (eventOf reached.1 number happening) (before ++ [current]) =
          (.ok (), { between with records := between.records ++
            [.logged log (eventOf reached.1 number happening).level text] })

namespace IsLogged

/-- For all events the logger that is set is listed, once, and for no class is any of the others. -/
theorem filter_listeners (h : IsLogged loggers reached) (eventClass : EventClass) :
    ((reached.2.dispatcher (some reached.1.registry.dispatcher)).listeners eventClass).filter
        (· ∈ loggers) =
      if eventClass = .event then reached.1.registry.logger.toList else [] := by
  have hcounts {listener : Listener} (hmem : listener ∈ loggers) :=
    h.counts listener (.inl hmem) eventClass
  by_cases hclass : eventClass = .event
  · rw [if_pos hclass]
    refine filter_mem_eq_toList h.current fun listener hmem => ?_
    rw [hcounts hmem]
    simp [hclass]
  · rw [if_neg hclass]
    show _ = (none : Option Listener).toList
    refine filter_mem_eq_toList (fun _ hnone => nomatch hnone) fun listener hmem => ?_
    rw [hcounts hmem]
    simp [hclass]

/-- With an event the logger that is set is called, once, and none of the others. -/
theorem filter_calledFor (h : IsLogged loggers reached)
    (hleave : reached.2.ReactionsLeaveAlone loggers) (event : Event) :
    (Effect.calledFor (some reached.1.registry.dispatcher) event reached.2).filter (· ∈ loggers) =
      reached.1.registry.logger.toList := by
  refine filter_mem_eq_toList h.current fun listener hmem => ?_
  have hcounts := h.counts listener (.inl hmem)
  rw [Effect.count_calledFor h.ordered hleave hmem, hcounts]
  · simp
  · exact fun eventClass hne => (hcounts eventClass).trans (if_neg fun hevent => hne hevent.1)

theorem logsOnce (h : IsLogged loggers reached) (hplace : number < reached.1.connections.length)
    (hregistered : reached.1.registry.Registers number)
    (hleave : reached.2.ReactionsLeaveAlone loggers) (happening : Happening) :
    LogsOnce loggers reached number happening (Effect.calledFor
      (some reached.1.registry.dispatcher) (eventOf reached.1 number happening) reached.2) := by
  have hgiven := h.filter_calledFor hleave (eventOf reached.1 number happening)
  have hcalls := Effect.calls_called (some reached.1.registry.dispatcher) reached.2
    (eventOf reached.1 number happening)
  refine ⟨?_, rfl, hgiven, fun current hcurrent => ?_⟩
  · rw [exec_announce h.shares hplace hregistered, hcalls]
    rfl
  · obtain ⟨order, log, rfl⟩ := h.areLoggers current (h.current current hcurrent)
    have hmem : .logger order log ∈ Effect.calledFor (some reached.1.registry.dispatcher)
        (eventOf reached.1 number happening) reached.2 := by
      have hlisted : .logger order log ∈ reached.1.registry.logger.toList := by
        rw [hcurrent]
        exact List.mem_singleton_self _
      rw [← hgiven] at hlisted
      exact List.mem_of_mem_filter hlisted
    obtain ⟨before, after, hsplit⟩ := List.append_of_mem hmem
    refine ⟨order, log, before, after, rfl, hsplit, fun between text hbefore htext => ?_⟩
    rw [calling] at hbefore ⊢
    rw [Effect.callAll_append, Effect.run_bind, hbefore]
    dsimp only
    rw [Effect.callAll_cons, Effect.run_bind, Effect.run_call_logger htext]
    rfl

end IsLogged

/-- For all events the dispatcher lists the logger that is set, once, and none of the loggers that
were set before; for the classes below it lists none of them. So what a registered connection
announces is given to the logger that is set, once, and to none of the others. -/
theorem events_logged_once (hnew : IsNew start) (hruns : Runs start loggers reached) :
    (∀ eventClass, ((reached.2.dispatcher (some reached.1.registry.dispatcher)).listeners
        eventClass).filter (· ∈ loggers) =
      if eventClass = .event then reached.1.registry.logger.toList else []) ∧
    ∀ number happening, number < reached.1.connections.length →
      reached.1.registry.Registers number → reached.2.ReactionsLeaveAlone loggers →
      LogsOnce loggers reached number happening
        (Effect.calledFor (some reached.1.registry.dispatcher)
          (eventOf reached.1 number happening) reached.2) :=
  have hlogged := hruns.isLogged hnew
  ⟨hlogged.filter_listeners, fun _ happening hplace hregistered hleave =>
    hlogged.logsOnce hplace hregistered hleave happening⟩

/-- A registry that was not used yet, a connection, and a dispatcher with which the monitor listens,
who fails as the triggers say. -/
def monitored (triggers : List Trigger) : Pool × World :=
  (⟨[Connection.unused ["foo"]], { dispatcher := 0 }⟩,
    { dispatchers := [Dispatcher.performed {} [.listen [.event] .monitor]], triggers })

theorem isNew_monitored (triggers : List Trigger) : IsNew (monitored triggers) where
  names := rfl
  logger := rfl
  ordered := ⟨Nat.zero_lt_one, (Dispatcher.represents_performed _).sound,
    fun _ hmem => (nomatch hmem), fun _ _ hmem => (nomatch hmem)⟩
  unmade := fun order log _ eventClass hmem => by
    have hlisted : Listener.logger order log ∈
        Dispatcher.listenersOf [⟨.event, .monitor⟩] eventClass :=
      (Dispatcher.represents_performed [.listen [.event] .monitor]).listeners eventClass ▸ hmem
    simp [Dispatcher.listenersOf] at hlisted

/-- Two loggers are set, and another listener is registered in between. What the connection
announces is given to the second of the loggers, before the other listener. -/
theorem second_logger_logs_once :
    let start := monitored []
    let logged := performed start [.add 0 .null, .setLogger (some "a")]
    let joined := (logged.1, ((Effect.instruct (some 0)
      (.listen [.connecting] (some "c"))).run.run logged.2).2)
    let reached := performed joined [.setLogger (some "b")]
    let loggers : List Listener := [.logger 1 (some "b"), .logger 0 (some "a")]
    reached.1.registry.logger = some (.logger 1 (some "b")) ∧
      LogsOnce loggers reached 0 (.connecting (.str "foo"))
        [.monitor, .logger 1 (some "b"), .named "c"] := by
  intro start logged joined reached loggers
  have hadded : Runs start [] (performed start [.add 0 .null]) :=
    .operation (.add 0 .null) trivial .start
  have hlogged : Runs start [.logger 0 (some "a")] logged :=
    .operation (.setLogger (some "a")) trivial hadded
  have hleaves : logged.2.LeavesAlone [.logger 0 (some "a")]
      (.listen [.connecting] (some "c")) := by
    have hname : logged.2.listenerNamed (some "c") = .named "c" := rfl
    rw [World.LeavesAlone, hname]
    decide
  have hjoined : Runs start [.logger 0 (some "a")] joined :=
    .instruction (.listen [.connecting] (some "c")) hleaves (fun _ heq => nomatch heq) hlogged
  have hreached : Runs start loggers reached := .operation (.setLogger (some "b")) trivial hjoined
  have hregistered : reached.1.registry.Registers 0 := ⟨(.str "default", 0), .head _, rfl⟩
  have hleave : reached.2.ReactionsLeaveAlone loggers := fun _ _ hmem => nomatch hmem
  have hcalled : Effect.calledFor (some reached.1.registry.dispatcher)
      (eventOf reached.1 0 (.connecting (.str "foo"))) reached.2 =
        [.monitor, .logger 1 (some "b"), .named "c"] := by
    decide +kernel
  exact ⟨rfl, hcalled ▸ (events_logged_once (isNew_monitored []) hreached).2 0
    (.connecting (.str "foo")) Nat.zero_lt_one hregistered hleave⟩

/-- A monitor that fails keeps an event from the logger that is listed after it: the connection
announces it, and no line is written. -/
theorem failing_monitor_keeps_line_from_logger :
    let start := monitored [⟨.connecting, none, { kind := .runtime, text := some "boom" }⟩]
    let reached := performed start [.add 0 .null, .setLogger (some "app")]
    let happening : Happening := .connecting (.str "foo")
    (IsNew start ∧ Runs start [.logger 0 (some "app")] reached) ∧
      reached.1.registry.logger = some (.logger 0 (some "app")) ∧
      reached.1.registry.Registers 0 ∧
      (eventOf reached.1 0 happening).text = .ok "LDAP () - Operation: Connecting - Host: foo" ∧
      (exec ((Connection.announce happening).on (connection 0)) reached).2.2.lines = [] := by
  intro start reached happening
  have hadded : Runs start [] (performed start [.add 0 .null]) :=
    .operation (.add 0 .null) trivial .start
  refine ⟨⟨isNew_monitored _, .operation (.setLogger (some "app")) trivial hadded⟩, rfl,
    ⟨(.str "default", 0), .head _, rfl⟩, ?_, ?_⟩
  · rfl
  · rfl

end Pool

end Directory
