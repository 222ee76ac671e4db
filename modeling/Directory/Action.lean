import Directory.Delivery

/-!
# Actions

An action works on a state of its own and has effects on the world. It may fail on the way, and what
was done before the failure stays. `Action.on` runs an action on a part of a larger state, so that
everything else in that state is left alone by construction.
-/

namespace Directory

/-- An action on a state. -/
abbrev Action (σ : Type) := ExceptT Failure (StateM (σ × World))

/-- A part of a larger state. -/
structure Focus (σ τ : Type) where
  get : σ → τ
  put : σ → τ → σ

/-- The whole state as a part of itself. -/
def Focus.whole : Focus σ σ :=
  ⟨id, fun _ state => state⟩

/-- A part of a part. -/
def Focus.andThen (outer : Focus σ τ) (inner : Focus τ υ) : Focus σ υ :=
  ⟨fun state => inner.get (outer.get state),
    fun state part => outer.put state (inner.put (outer.get state) part)⟩

namespace Action

/-- The state. -/
def state : Action σ σ :=
  return (← get).1

/-- Change the state. -/
def change (f : σ → σ) : Action σ Unit :=
  modify fun (state, world) => (f state, world)

/-- An effect on the world that leaves the state alone. -/
def outside (effect : Effect α) : Action σ α :=
  ExceptT.mk fun (state, world) =>
    let (result, world) := effect.run.run world
    (result, (state, world))

/-- Run an action on a part of the state. -/
def on (focus : Focus σ τ) (action : Action τ α) : Action σ α :=
  ExceptT.mk fun (state, world) =>
    let (result, (part, world)) := action.run.run (focus.get state, world)
    (result, (focus.put state part, world))

/-- What an action gives or how it fails, as a value. -/
def observe (action : Action σ α) : Action σ (Except Failure α) :=
  ExceptT.lift action.run

/-- Run an action and then a second one, whether or not the first fails. A failure of the second one
counts. -/
def ensuring (action : Action σ α) (cleanup : Action σ Unit) : Action σ α := do
  let result ← observe action
  cleanup
  MonadExcept.ofExcept result

end Action

end Directory
