import Directory.Proofs.Effect

/-!
# Deliveries

Listeners act on dispatchers and write lines, and that is all they do to the world: what servers
answer and what the library announces does not depend on who listens. `IsCalm` says that listeners
do not fail.
-/

namespace Directory

/-- The record of something that was heard. -/
def Record.isHeard : Record → Bool
  | .event _ | .heard .. | .logged .. => true
  | _ => false

namespace Effect

variable {α β υ : Type} {view : World → υ}

/-! ## What listeners leave alone -/

/-- A view that shows nothing of what listeners change. -/
structure IsApart (view : World → υ) : Prop where
  records : ∀ world (record : Record), record.isHeard = true →
    view { world with records := world.records ++ [record] } = view world
  dispatchers : ∀ world dispatchers, view { world with dispatchers } = view world
  heard : ∀ world heard, view { world with heard } = view world
  loggers : ∀ world loggers, view { world with loggers } = view world

/-- Setting what was read and changed keeps what the change keeps. -/
theorem Keeps.set_bind {f : World → World} {next : World → Effect α}
    (h : ∀ world, view (f world) = view world) (hnext : ∀ world, Keeps view (next world)) :
    Keeps view (do
      let world ← MonadState.get
      set (f world)
      next world) := by
  intro world
  exact (hnext world (f world)).trans (h world)

/-- A loop keeps what its body keeps. -/
theorem Keeps.forIn {γ : Type} {items : List γ} {start : β} {body : γ → β → Effect (ForInStep β)}
    (h : ∀ item state, Keeps view (body item state)) : Keeps view (forIn items start body) := by
  induction items generalizing start with
  | nil => exact Keeps.pure start
  | cons item items ih =>
      rw [List.forIn_cons]
      refine Keeps.bind (h item start) fun step => ?_
      cases step with
      | done state => exact Keeps.pure state
      | yield state => exact ih

theorem keeps_listenerNamed (view : World → υ) (name : Option String) :
    Keeps view (listenerNamed name) := by
  refine Keeps.bind Keeps.get fun world => ?_
  split
  · exact Keeps.pure _
  · exact Keeps.pure _

theorem keeps_dispatcher (view : World → υ) (number : Option Nat) :
    Keeps view (dispatcher number) :=
  Keeps.bind Keeps.get fun _ => Keeps.pure _

namespace IsApart

variable (h : IsApart view)
include h

theorem record {record : Record} (hheard : record.isHeard = true) :
    Keeps view (Effect.record record) :=
  Keeps.modify fun world => h.records world record hheard

theorem changeDispatcher (number : Option Nat) (change : Dispatcher → Dispatcher) :
    Keeps view (Effect.changeDispatcher number change) := by
  cases number with
  | none => exact Keeps.pure ()
  | some number => exact Keeps.modify fun world => h.dispatchers world _

theorem monitor (event : Event) : Keeps view (Effect.monitor event) := by
  refine Keeps.bind (Keeps.lift _) fun _ => Keeps.bind (h.record rfl) fun _ => ?_
  refine Keeps.set_bind (fun world => h.heard world _) fun world => ?_
  split
  · exact Keeps.throw _
  · exact Keeps.pure ()

theorem newLogger (log : Option String) : Keeps view (Effect.newLogger log) :=
  Keeps.set_bind (fun world => h.loggers world _) fun _ => Keeps.pure _

theorem carryOut {deliver : Event → Effect Unit} (hdeliver : ∀ event, Keeps view (deliver event))
    (number : Option Nat) (instruction : Instruction) :
    Keeps view (Effect.carryOut deliver number instruction) := by
  cases instruction with
  | listen eventClasses name =>
      exact Keeps.bind (keeps_listenerNamed view name) fun _ =>
        Keeps.bind (h.changeDispatcher number _) fun _ => Keeps.pure _
  | forget eventClass name =>
      have hname : Keeps view (name.mapM Effect.listenerNamed) := by
        cases name with
        | none => exact Keeps.pure none
        | some name =>
            exact Keeps.bind (keeps_listenerNamed view name) fun _ => Keeps.pure _
      exact Keeps.bind hname fun _ =>
        Keeps.bind (h.changeDispatcher number _) fun _ => Keeps.pure _
  | hasListeners eventClass => exact Keeps.bind (keeps_dispatcher view number) fun _ => Keeps.pure _
  | dispatch event => exact Keeps.bind (hdeliver event) fun _ => Keeps.pure _
  | describe event => exact Keeps.bind (Keeps.lift _) fun _ => Keeps.pure _
  | install log =>
      exact Keeps.bind (h.newLogger log) fun _ =>
        Keeps.bind (h.changeDispatcher number _) fun _ => Keeps.pure _
  | uninstall log =>
      exact Keeps.bind (keeps_listenerNamed view log) fun _ =>
        Keeps.bind (h.changeDispatcher number _) fun _ => Keeps.pure _

theorem hear {deliver : Event → Effect Unit} (hdeliver : ∀ event, Keeps view (deliver event))
    (number : Option Nat) (event : Event) (listener : Listener) :
    Keeps view (Effect.hear deliver number event listener) := by
  cases listener with
  | monitor => exact h.monitor event
  | logger number log => exact Keeps.bind (Keeps.lift _) fun _ => h.record rfl
  | named name =>
      refine Keeps.bind (h.record rfl) fun _ => Keeps.bind Keeps.get fun world => ?_
      refine Keeps.bind (Keeps.forIn fun instruction _ => ?_) fun _ => ?_
      · exact Keeps.bind (h.carryOut hdeliver number instruction) fun _ => Keeps.pure _
      · split
        · exact Keeps.throw _
        · exact Keeps.pure ()

/-- A delivery leaves alone what listeners leave alone, however deep it goes. -/
theorem deliverWithin (depth : Nat) (number : Option Nat) (event : Event) :
    Keeps view (Effect.deliverWithin depth number event) := by
  induction depth generalizing event with
  | zero => exact Keeps.throw _
  | succ depth ih =>
      refine Keeps.bind (keeps_dispatcher view number) fun dispatcher =>
        Keeps.bind (Keeps.forIn fun roll _ => ?_) fun _ => Keeps.pure _
      refine Keeps.bind (keeps_dispatcher view number) fun dispatcher =>
        Keeps.bind (Keeps.forIn fun listener _ => ?_) fun _ => Keeps.pure _
      exact Keeps.bind (h.hear ih number event listener) fun _ => Keeps.pure _

end IsApart

/-! ## Listeners that do not fail -/

/-- Worlds of a kind in which no listener of a dispatcher fails to hear an event that can be written
into a log, and which stay of that kind whatever is heard, asked and answered. -/
structure IsCalm (number : Option Nat) (calm : World → Prop) : Prop where
  deliver : ∀ world event, calm world → (∃ text, event.text = .ok text) →
    ∃ quiet, (Effect.deliver number event).run.run world = (.ok (), quiet) ∧ calm quiet
  apart : ∀ world script records, calm world → calm { world with script, records }

/-- The script and the events announced so far. -/
theorem isApart_script : IsApart fun world => (world.script, world.announced) where
  records := fun _ _ _ => rfl
  dispatchers := fun _ _ => rfl
  heard := fun _ _ => rfl
  loggers := fun _ _ => rfl

/-- An event that is delivered to calm listeners is announced, and nothing else comes of it. -/
theorem IsCalm.run_deliver {number : Option Nat} {calm : World → Prop} (h : IsCalm number calm)
    {world : World} (hworld : calm world) {event : Event} (hevent : ∃ text, event.text = .ok text) :
    ∃ quiet, (Effect.deliver number event).run.run world = (.ok (), quiet) ∧ calm quiet ∧
      quiet.script = world.script ∧ quiet.announced = world.announced ++ [event] := by
  obtain ⟨quiet, hrun, hquiet⟩ := h.deliver world event hworld hevent
  have hkeeps := isApart_script.deliverWithin deepest number event
    { world with announced := world.announced ++ [event] }
  have hdeliver : (Effect.deliver number event).run.run world =
      (Effect.deliverWithin deepest number event).run.run
        { world with announced := world.announced ++ [event] } := rfl
  rw [← hdeliver, hrun] at hkeeps
  obtain ⟨hscript, hannounced⟩ := Prod.mk.inj hkeeps
  exact ⟨quiet, hrun, hquiet, hscript, hannounced⟩

/-- From worlds of a kind an effect does not fail, and it leaves a world of that kind. -/
def Succeeds (calm : World → Prop) (effect : Effect α) : Prop :=
  ∀ world, calm world → ∃ a quiet, effect.run.run world = (.ok a, quiet) ∧ calm quiet

namespace Succeeds

variable {calm : World → Prop}

theorem pure (a : α) : Succeeds calm (Pure.pure a : Effect α) :=
  fun world h => ⟨a, world, rfl, h⟩

theorem get : Succeeds calm (MonadState.get : Effect World) :=
  fun world h => ⟨world, world, rfl, h⟩

theorem lift {result : Except Failure α} {a : α} (hresult : result = .ok a) :
    Succeeds calm (liftM result : Effect α) := by
  subst hresult
  exact pure a

theorem modify {f : World → World} (h : ∀ world, calm world → calm (f world)) :
    Succeeds calm (modify f : Effect Unit) :=
  fun world hworld => ⟨(), f world, rfl, h world hworld⟩

theorem bind {effect : Effect α} {next : α → Effect β} (heffect : Succeeds calm effect)
    (hnext : ∀ a, Succeeds calm (next a)) : Succeeds calm (effect >>= next) := by
  intro world hworld
  obtain ⟨a, between, hrun, hbetween⟩ := heffect world hworld
  rw [run_bind, hrun]
  exact hnext a between hbetween

/-- A loop over listeners that go on does not fail if none of its steps does. -/
theorem forIn {γ : Type} {items : List γ} {start : β} {body : γ → β → Effect (ForInStep β)}
    (h : ∀ item state, Succeeds calm (body item state)) :
    Succeeds calm (forIn items start body) := by
  induction items generalizing start with
  | nil => exact pure start
  | cons item items ih =>
      rw [List.forIn_cons]
      refine bind (h item start) fun step => ?_
      cases step with
      | done state => exact pure state
      | yield state => exact ih

end Succeeds

/-- Listeners hear what is delivered, and do nothing else. -/
structure IsQuiet (world : World) : Prop where
  triggers : world.triggers = []
  reactions : ∀ name, (world.reactions.lookup name).getD {} = {}

theorem succeeds_record (record : Record) : Succeeds IsQuiet (Effect.record record) :=
  Succeeds.modify fun _ h => ⟨h.triggers, h.reactions⟩

theorem succeeds_monitor {event : Event} {text : String} (htext : event.text = .ok text) :
    Succeeds IsQuiet (monitor event) := by
  refine Succeeds.bind (Succeeds.lift htext) fun _ => Succeeds.bind (succeeds_record _) fun _ => ?_
  intro world hworld
  have hnone (time : Nat) : triggered? world.triggers event.eventClass time = none := by
    rw [hworld.triggers]
    rfl
  rw [run_bind, run_get]
  dsimp only
  rw [hnone]
  exact ⟨(), _, rfl, hworld.triggers, hworld.reactions⟩

theorem succeeds_hear {event : Event} {text : String} (htext : event.text = .ok text)
    (deliver : Event → Effect Unit) (number : Option Nat) (listener : Listener) :
    Succeeds IsQuiet (hear deliver number event listener) := by
  cases listener with
  | monitor => exact succeeds_monitor htext
  | logger number log => exact Succeeds.bind (Succeeds.lift htext) fun _ => succeeds_record _
  | named name =>
      refine Succeeds.bind (succeeds_record _) fun _ => fun world hworld => ?_
      rw [run_bind, run_get]
      dsimp only
      rw [hworld.reactions name]
      exact ⟨(), world, rfl, hworld⟩

theorem succeeds_dispatcher (number : Option Nat) : Succeeds IsQuiet (dispatcher number) :=
  Succeeds.bind Succeeds.get fun _ => Succeeds.pure _

theorem succeeds_deliver {event : Event} {text : String} (htext : event.text = .ok text)
    (number : Option Nat) : Succeeds IsQuiet (deliver number event) := by
  refine Succeeds.bind (Succeeds.modify fun _ h => ⟨h.triggers, h.reactions⟩) fun _ => ?_
  refine Succeeds.bind (succeeds_dispatcher number) fun dispatcher =>
    Succeeds.bind (Succeeds.forIn fun roll _ => ?_) fun _ => Succeeds.pure _
  refine Succeeds.bind (succeeds_dispatcher number) fun dispatcher =>
    Succeeds.bind (Succeeds.forIn fun listener _ => ?_) fun _ => Succeeds.pure _
  exact Succeeds.bind (succeeds_hear htext _ number listener) fun _ => Succeeds.pure _

/-- Listeners that do nothing but hear are calm. -/
theorem isCalm_isQuiet (number : Option Nat) : IsCalm number IsQuiet where
  deliver := fun world event hworld ⟨text, htext⟩ => by
    obtain ⟨_, quiet, hrun, hquiet⟩ := succeeds_deliver htext number world hworld
    exact ⟨quiet, hrun, hquiet⟩
  apart := fun _ _ _ h => ⟨h.triggers, h.reactions⟩

end Effect

end Directory
