import Directory.Delivery

/-!
# Running effects

What the parts of an effect give and leave of the world. `run_take` says it of an outcome that is
taken from the script; `Keeps view effect` says that an effect leaves alone what `view` shows of the
world.
-/

namespace Directory

/-- What an outcome gives or how it fails. -/
def Outcome.result : Outcome → Except Failure Answer
  | .fails failure => .error failure
  | .gives answer => .ok answer

namespace World

/-- The next outcome of a queue. -/
def next (world : World) (queue : Queue) : Outcome :=
  (world.script queue).headD (.gives {})

/-- The world after the next outcome of a queue was taken. -/
def afterTake (world : World) (queue : Queue) : World :=
  { world with
    script := fun other =>
      if other = queue then (world.script queue).tail else world.script other }

/-- Nothing is taken from a queue that is empty. -/
theorem afterTake_of_nil {world : World} {queue : Queue} (h : world.script queue = []) :
    world.afterTake queue = world := by
  have hscript : (fun other =>
      if other = queue then (world.script queue).tail else world.script other) = world.script := by
    funext other
    split
    next heq => rw [heq, h, List.tail_nil]
    next => rfl
  unfold afterTake
  rw [hscript]

end World

namespace Effect

variable {α β υ : Type}

@[simp] theorem run_get (world : World) :
    (get : Effect World).run.run world = (.ok world, world) :=
  rfl

/-- The second of two effects runs where the first leaves off, unless that fails. -/
theorem run_bind (effect : Effect α) (next : α → Effect β) (world : World) :
    (effect >>= next).run.run world =
      match effect.run.run world with
      | (.ok a, between) => (next a).run.run between
      | (.error failure, between) => (.error failure, between) := by
  show (ExceptT.bindCont next (effect.run.run world).1).run (effect.run.run world).2 = _
  rcases effect.run.run world with ⟨_ | a, between⟩ <;> rfl

theorem run_take (queue : Queue) (world : World) :
    (take queue).run.run world = ((world.next queue).result, world.afterTake queue) := by
  unfold take
  rw [run_bind, run_get]
  cases hqueue : world.script queue with
  | nil =>
      simp only [hqueue]
      rw [World.afterTake_of_nil hqueue, World.next, hqueue]
      rfl
  | cons outcome outcomes =>
      simp only [hqueue]
      rw [World.next, World.afterTake, hqueue]
      cases outcome <;> rfl

/-- An effect leaves alone what a view shows of the world. -/
def Keeps (view : World → υ) (effect : Effect α) : Prop :=
  ∀ world, view (effect.run.run world).2 = view world

namespace Keeps

variable {view : World → υ}

theorem pure (a : α) : Keeps view (Pure.pure a : Effect α) :=
  fun _ => rfl

theorem throw (failure : Failure) : Keeps view (MonadExcept.throw failure : Effect α) :=
  fun _ => rfl

theorem lift (result : Except Failure α) : Keeps view (liftM result : Effect α) :=
  fun _ => rfl

theorem get : Keeps view (MonadState.get : Effect World) :=
  fun _ => rfl

theorem modify {f : World → World} (h : ∀ world, view (f world) = view world) :
    Keeps view (modify f : Effect Unit) :=
  h

theorem bind {effect : Effect α} {next : α → Effect β} (heffect : Keeps view effect)
    (hnext : ∀ a, Keeps view (next a)) : Keeps view (effect >>= next) := by
  intro world
  have hbetween := heffect world
  rw [run_bind]
  generalize effect.run.run world = ended at hbetween ⊢
  obtain ⟨_ | a, between⟩ := ended
  · exact hbetween
  · exact (hnext a between).trans hbetween

end Keeps

end Effect

end Directory
