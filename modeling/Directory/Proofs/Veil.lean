import Directory.Connection.Run
import Directory.Proofs.Action
import Directory.Proofs.Effect

/-!
# What can be seen without passwords

Behind the veil nothing is left of a password but whether it is empty. `Effect.Veils` and
`Action.Veils` say of a pair that the second does behind the veil what the first does in the open:
it gives the same result or fails in the same way, and leaves what the first leaves, veiled. So any
two things that look the same behind the veil cannot be told apart by what they leave there. What a
logger writes is not veiled at all.
-/

namespace Directory

/-! ## The veil -/

/-- What is left of a password: whether there is one. -/
def Value.veiled : Value → Value
  | .str s => .str (if s = "" then "" else "*")
  | value => value

/-- Passwords that happen to be given are veiled. -/
def Happening.veiled : Happening → Happening
  | .attempting username password => .attempting username password.veiled
  | .passed username password => .passed username password.veiled
  | .binding username password => .binding username password.veiled
  | .bound username password => .bound username password.veiled
  | .failed username password failure => .failed username password.veiled failure
  | happening => happening

/-- An event with its password veiled. -/
def Event.veiled (event : Event) : Event :=
  { event with happening := event.happening.veiled }

/-- A request with its password veiled. -/
def Request.veiled : Request → Request
  | .bind username password => .bind username password.veiled
  | request => request

@[inherit_doc Request.veiled]
def WireRequest.veiled : WireRequest → WireRequest
  | .bind username password => .bind username password.veiled
  | request => request

/-- An exchange with its password veiled. -/
def Exchange.veiled (exchange : Exchange) : Exchange :=
  { exchange with request := exchange.request.veiled }

/-- A record with its password veiled. -/
def Record.veiled : Record → Record
  | .direct transport request => .direct transport request.veiled
  | .wire request => .wire request.veiled
  | .event told => .event told.veiled
  | record => record

/-- An instruction with the password of its event veiled. -/
def Instruction.veiled : Instruction → Instruction
  | .dispatch event => .dispatch event.veiled
  | .describe event => .describe event.veiled
  | instruction => instruction

/-- A reaction with the passwords of its instructions veiled. -/
def Reaction.veiled (reaction : Reaction) : Reaction :=
  { reaction with instructions := reaction.instructions.map Instruction.veiled }

/-- A world with the passwords in it veiled. -/
def World.veiled (world : World) : World :=
  { world with
    records := world.records.map Record.veiled
    announced := world.announced.map Event.veiled
    reactions := world.reactions.map fun entry => (entry.1, entry.2.veiled) }

/-- The lines that loggers wrote: for which log, how serious, and what. -/
def World.lines (world : World) : List (Option String × Level × String) :=
  world.records.filterMap fun
    | .logged log level text => some (log, level, text)
    | _ => none

/-- What loggers wrote is not veiled. -/
theorem World.lines_veiled (world : World) : world.veiled.lines = world.lines := by
  unfold World.lines World.veiled
  rw [List.filterMap_map]
  congr 1
  funext record
  cases record <;> rfl

namespace Value

@[simp] theorem isTrue_veiled (password : Value) : password.veiled.isTrue = password.isTrue := by
  cases password with
  | str s =>
      by_cases hempty : s = ""
      · simp [Value.veiled, hempty]
      · simp [Value.veiled, hempty, isTrue]
  | _ => rfl

end Value

namespace Event

@[simp] theorem eventClass_veiled (event : Event) : event.veiled.eventClass = event.eventClass := by
  obtain ⟨host, happening⟩ := event
  cases happening <;> rfl

theorem level_veiled (event : Event) : event.veiled.level = event.level := by
  obtain ⟨host, happening⟩ := event
  cases happening <;> rfl

/-- The text of an event shows no password. -/
theorem text_veiled (event : Event) : event.veiled.text = event.text := by
  obtain ⟨host, happening⟩ := event
  cases happening <;> rfl

end Event

/-! ## Effects behind the veil -/

namespace Effect

variable {α β γ : Type}

/-- Behind the veil, the second effect does what the first one does. -/
def Veils (effect plain : Effect α) : Prop :=
  ∀ world, plain.run.run world.veiled =
    ((effect.run.run world).1, (effect.run.run world).2.veiled)

namespace Veils

theorem pure (a : α) : Veils (Pure.pure a) (Pure.pure a) :=
  fun _ => rfl

theorem throw (failure : Failure) :
    Veils (MonadExcept.throw failure : Effect α) (MonadExcept.throw failure) :=
  fun _ => rfl

theorem lift (result : Except Failure α) : Veils (liftM result) (liftM result) :=
  fun _ => rfl

theorem modify {f g : World → World} (h : ∀ world, g world.veiled = (f world).veiled) :
    Veils (modify f) (modify g) :=
  fun world => congrArg (Prod.mk (Except.ok ())) (h world)

theorem bind {effect plain : Effect α} {next plainNext : α → Effect β}
    (heffect : Veils effect plain) (hnext : ∀ a, Veils (next a) (plainNext a)) :
    Veils (effect >>= next) (plain >>= plainNext) := by
  intro world
  rw [run_bind, run_bind, heffect world]
  generalize effect.run.run world = ended
  obtain ⟨_ | a, between⟩ := ended
  · rfl
  · exact hnext a between

/-- What is done after the world was read is done from what it looks like behind the veil. -/
theorem get_bind {next plainNext : World → Effect α}
    (h : ∀ world, Veils (next world) (plainNext world.veiled)) :
    Veils (MonadState.get >>= next) (MonadState.get >>= plainNext) :=
  fun world => h world world

/-- The world may be changed after it was read. -/
theorem set_bind {f g : World → World} {next plainNext : World → Effect α}
    (h : ∀ world, g world.veiled = (f world).veiled)
    (hnext : ∀ world, Veils (next world) (plainNext world.veiled)) :
    Veils (do
      let world ← MonadState.get
      set (f world)
      next world) (do
      let world ← MonadState.get
      set (g world)
      plainNext world) := by
  intro world
  have hset : (set (g world.veiled) >>= fun _ => plainNext world.veiled : Effect α).run.run
      world.veiled = (plainNext world.veiled).run.run (g world.veiled) := rfl
  refine hset.trans ?_
  rw [h world]
  exact hnext world (f world)

/-- A loop does behind the veil what its body does there. -/
theorem forIn {veil : γ → γ} {items : List γ} {start : β}
    {body plainBody : γ → β → Effect (ForInStep β)}
    (h : ∀ item state, Veils (body item state) (plainBody (veil item) state)) :
    Veils (forIn items start body) (forIn (items.map veil) start plainBody) := by
  induction items generalizing start with
  | nil => exact pure start
  | cons item items ih =>
      rw [List.map_cons, List.forIn_cons, List.forIn_cons]
      refine bind (h item start) fun step => ?_
      cases step with
      | done state => exact pure state
      | yield state => exact ih

/-- A loop over things that hold no password. -/
theorem forIn_same {items : List γ} {start : β} {body plainBody : γ → β → Effect (ForInStep β)}
    (h : ∀ item state, Veils (body item state) (plainBody item state)) :
    Veils (ForIn.forIn items start body) (ForIn.forIn items start plainBody) := by
  have hloop : Veils (ForIn.forIn items start body)
      (ForIn.forIn (items.map id) start plainBody) := forIn h
  rwa [List.map_id] at hloop

end Veils

theorem veils_record (record : Record) :
    Veils (Effect.record record) (Effect.record record.veiled) :=
  Veils.modify fun world => by simp [World.veiled]

theorem veils_take (queue : Queue) : Veils (Effect.take queue) (Effect.take queue) := by
  intro world
  rw [run_take, run_take]
  rfl

theorem veils_dispatcher (number : Option Nat) : Veils (dispatcher number) (dispatcher number) :=
  Veils.get_bind fun _ => Veils.pure _

theorem veils_changeDispatcher (number : Option Nat) (change : Dispatcher → Dispatcher) :
    Veils (changeDispatcher number change) (changeDispatcher number change) := by
  cases number with
  | none => exact Veils.pure ()
  | some number => exact Veils.modify fun _ => rfl

theorem veils_listenerNamed (name : Option String) :
    Veils (listenerNamed name) (listenerNamed name) := by
  refine Veils.get_bind fun world => ?_
  dsimp only [World.veiled]
  split
  · exact Veils.pure _
  · exact Veils.pure _

theorem veils_newLogger (log : Option String) : Veils (newLogger log) (newLogger log) :=
  Veils.set_bind (fun _ => rfl) fun _ => Veils.pure _

theorem veils_monitor (event : Event) : Veils (monitor event) (monitor event.veiled) := by
  unfold monitor
  rw [Event.text_veiled]
  refine Veils.bind (Veils.lift _) fun _ => Veils.bind (veils_record (.event event)) fun _ => ?_
  rw [Event.eventClass_veiled]
  refine Veils.set_bind (fun _ => rfl) fun world => ?_
  dsimp only [World.veiled]
  split
  · exact Veils.throw _
  · exact Veils.pure ()

section Deliver

variable {deliver plain : Event → Effect Unit}
  (hdeliver : ∀ event, Veils (deliver event) (plain event.veiled))
include hdeliver

theorem veils_carryOut (number : Option Nat) (instruction : Instruction) :
    Veils (carryOut deliver number instruction) (carryOut plain number instruction.veiled) := by
  cases instruction with
  | listen eventClasses name =>
      exact Veils.bind (veils_listenerNamed name) fun _ =>
        Veils.bind (veils_changeDispatcher number _) fun _ => Veils.pure _
  | forget eventClass name =>
      have hname : Veils (name.mapM listenerNamed) (name.mapM listenerNamed) := by
        cases name with
        | none => exact Veils.pure none
        | some name => exact Veils.bind (veils_listenerNamed name) fun _ => Veils.pure _
      exact Veils.bind hname fun _ =>
        Veils.bind (veils_changeDispatcher number _) fun _ => Veils.pure _
  | hasListeners eventClass => exact Veils.bind (veils_dispatcher number) fun _ => Veils.pure _
  | dispatch event => exact Veils.bind (hdeliver event) fun _ => Veils.pure _
  | describe event =>
      have htext := event.text_veiled
      unfold carryOut
      dsimp only [Instruction.veiled]
      rw [htext]
      exact Veils.bind (Veils.lift _) fun _ => Veils.pure _
  | install log =>
      exact Veils.bind (veils_newLogger log) fun _ =>
        Veils.bind (veils_changeDispatcher number _) fun _ => Veils.pure _
  | uninstall log =>
      exact Veils.bind (veils_listenerNamed log) fun _ =>
        Veils.bind (veils_changeDispatcher number _) fun _ => Veils.pure _

theorem veils_hear (number : Option Nat) (event : Event) (listener : Listener) :
    Veils (hear deliver number event listener) (hear plain number event.veiled listener) := by
  cases listener with
  | monitor => exact veils_monitor event
  | logger number log =>
      show Veils (writeLine log event) (writeLine log event.veiled)
      unfold writeLine
      rw [Event.text_veiled, Event.level_veiled]
      exact Veils.bind (Veils.lift _) fun text => veils_record (.logged log event.level text)
  | named name =>
      have hreaction (world : World) : (world.veiled.reactions.lookup name).getD {} =
          ((world.reactions.lookup name).getD {}).veiled := by
        unfold World.veiled
        dsimp only
        induction world.reactions with
        | nil => rfl
        | cons entry entries ih =>
            rw [List.map_cons, List.lookup_cons, List.lookup_cons]
            split
            · rfl
            · exact ih
      unfold hear
      rw [Event.eventClass_veiled]
      refine Veils.bind (veils_record (.heard name event.eventClass)) fun _ =>
        Veils.get_bind fun world => ?_
      dsimp only
      rw [hreaction]
      obtain ⟨instructions, failure⟩ := (world.reactions.lookup name).getD {}
      refine Veils.bind (Veils.forIn fun instruction _ => ?_) fun _ => ?_
      · exact Veils.bind (veils_carryOut hdeliver number instruction) fun _ => Veils.pure _
      · cases failure with
        | some failure => exact Veils.throw failure
        | none => exact Veils.pure ()

end Deliver

theorem veils_deliverWithin (depth : Nat) (number : Option Nat) (event : Event) :
    Veils (deliverWithin depth number event) (deliverWithin depth number event.veiled) := by
  induction depth generalizing event with
  | zero => exact Veils.throw _
  | succ depth ih =>
      unfold deliverWithin
      rw [Event.eventClass_veiled]
      refine Veils.bind (veils_dispatcher number) fun dispatcher =>
        Veils.bind (Veils.forIn_same fun roll _ => ?_) fun _ => Veils.pure _
      refine Veils.bind (veils_dispatcher number) fun dispatcher =>
        Veils.bind (Veils.forIn_same fun listener _ => ?_) fun _ => Veils.pure _
      exact Veils.bind (veils_hear ih number event listener) fun _ => Veils.pure _

theorem veils_deliver (number : Option Nat) (event : Event) :
    Veils (deliver number event) (deliver number event.veiled) :=
  Veils.bind (Veils.modify fun world => by simp [World.veiled]) fun _ =>
    veils_deliverWithin deepest number event

theorem veils_instruct (number : Option Nat) (instruction : Instruction) :
    Veils (instruct number instruction) (instruct number instruction.veiled) :=
  veils_carryOut (veils_deliver number) number instruction

end Effect

/-! ## Actions behind the veil -/

namespace Action

variable {σ τ α β : Type} {veil : σ → σ}

/-- Behind the veil, the second action does what the first one does. `veil` is the veil over the
state. -/
def Veils (veil : σ → σ) (action plain : Action σ α) : Prop :=
  ∀ start, exec plain (veil start.1, start.2.veiled) =
    ((exec action start).1, (veil (exec action start).2.1, (exec action start).2.2.veiled))

namespace Veils

theorem pure (a : α) : Veils veil (Pure.pure a) (Pure.pure a) :=
  fun _ => rfl

theorem throw (failure : Failure) :
    Veils veil (MonadExcept.throw failure : Action σ α) (MonadExcept.throw failure) :=
  fun _ => rfl

theorem lift (result : Except Failure α) : Veils veil (liftM result) (liftM result) :=
  fun _ => rfl

theorem change {f g : σ → σ} (h : ∀ s, g (veil s) = veil (f s)) :
    Veils veil (Action.change f) (Action.change g) := by
  intro start
  rw [exec_change, exec_change, h]

theorem outside {effect plain : Effect α} (h : Effect.Veils effect plain) :
    Veils veil (Action.outside effect) (Action.outside plain) := by
  intro start
  rw [exec_outside, exec_outside, h start.2]

theorem bind {action plain : Action σ α} {next plainNext : α → Action σ β}
    (haction : Veils veil action plain) (hnext : ∀ a, Veils veil (next a) (plainNext a)) :
    Veils veil (action >>= next) (plain >>= plainNext) := by
  intro start
  rw [exec_bind, exec_bind, haction start]
  generalize exec action start = ended
  obtain ⟨_ | a, between⟩ := ended
  · rfl
  · exact hnext a between

theorem observe {action plain : Action σ α} (h : Veils veil action plain) :
    Veils veil action.observe plain.observe := by
  intro start
  rw [exec_observe, exec_observe, h start]

/-- What is done after the state was read is done from what it looks like behind the veil. -/
theorem state_bind {next plainNext : σ → Action σ α}
    (h : ∀ s, Veils veil (next s) (plainNext (veil s))) :
    Veils veil (Action.state >>= next) (Action.state >>= plainNext) := by
  intro start
  rw [exec_bind, exec_bind]
  exact h start.1 start

theorem ite {c : Prop} [Decidable c] {action other plain plainOther : Action σ α}
    (haction : Veils veil action plain) (hother : Veils veil other plainOther) :
    Veils veil (if c then action else other) (if c then plain else plainOther) := by
  split
  · exact haction
  · exact hother

theorem on {focus : Focus σ τ} {veilPart : τ → τ} {action plain : Action τ α}
    (hget : ∀ s, focus.get (veil s) = veilPart (focus.get s))
    (hput : ∀ s part, focus.put (veil s) (veilPart part) = veil (focus.put s part))
    (h : Veils veilPart action plain) : Veils veil (action.on focus) (plain.on focus) := by
  intro start
  have hpart := h (focus.get start.1, start.2)
  rw [exec_on, exec_on]
  dsimp only at hpart ⊢
  rw [hget, hpart, hput]

end Veils

end Action

end Directory
