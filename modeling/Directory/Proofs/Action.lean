import Directory.Action

/-!
# Running actions

What the parts of an action give and leave behind. `Keeps view action` says that the action leaves
alone what `view` shows of the state, whatever it gives and however it fails; an action keeps a view
if its parts do.
-/

namespace Directory

/-- A part that is what it was last set to, and that is all it is. -/
structure Focus.IsLawful {σ τ : Type} (focus : Focus σ τ) : Prop where
  get_put : ∀ state part, focus.get (focus.put state part) = part
  put_get : ∀ state, focus.put state (focus.get state) = state

theorem Focus.isLawful_whole {σ : Type} : (whole : Focus σ σ).IsLawful where
  get_put := fun _ _ => rfl
  put_get := fun _ => rfl

namespace Action

variable {σ τ υ α β : Type}

/-- Run an action: what it gives or how it fails, and the state and the world that it leaves. -/
def exec (action : Action σ α) (start : σ × World) : Except Failure α × (σ × World) :=
  action.run.run start

@[simp] theorem exec_pure (a : α) (start : σ × World) :
    exec (pure a : Action σ α) start = (.ok a, start) :=
  rfl

@[simp] theorem exec_throw (failure : Failure) (start : σ × World) :
    exec (throw failure : Action σ α) start = (.error failure, start) :=
  rfl

@[simp] theorem exec_lift (result : Except Failure α) (start : σ × World) :
    exec (liftM result : Action σ α) start = (result, start) :=
  rfl

theorem exec_lift_eq_ok_iff {result : Except Failure α} {start ending : σ × World} {a : α} :
    exec (liftM result : Action σ α) start = (.ok a, ending) ↔ result = .ok a ∧ start = ending := by
  rw [exec_lift, Prod.mk.injEq]

/-- The second of two actions runs where the first leaves off, unless that fails. -/
theorem exec_bind (action : Action σ α) (next : α → Action σ β) (start : σ × World) :
    exec (action >>= next) start =
      match exec action start with
      | (.ok a, between) => exec (next a) between
      | (.error failure, between) => (.error failure, between) := by
  show (ExceptT.bindCont next (exec action start).1).run (exec action start).2 = _
  rcases exec action start with ⟨_ | a, between⟩ <;> rfl

/-- Two actions in a row give a result if both do. -/
theorem exec_bind_eq_ok_iff {action : Action σ α} {next : α → Action σ β}
    {start ending : σ × World} {b : β} :
    exec (action >>= next) start = (.ok b, ending) ↔
      ∃ a between, exec action start = (.ok a, between) ∧
        exec (next a) between = (.ok b, ending) := by
  rw [exec_bind]
  rcases exec action start with ⟨failure | a, between⟩
  · constructor
    · intro h
      cases h
    · intro hparts
      obtain ⟨_, _, hfirst, -⟩ := hparts
      cases hfirst
  · constructor
    · exact fun h => ⟨a, between, rfl, h⟩
    · intro hparts
      obtain ⟨_, _, hfirst, hsecond⟩ := hparts
      cases hfirst
      exact hsecond

/-- Where an action ends does not depend on whether its result is dropped. -/
theorem exec_bind_pure_snd (action : Action σ α) (f : α → β) (start : σ × World) :
    (exec (do return f (← action)) start).2 = (exec action start).2 := by
  rw [exec_bind]
  rcases exec action start with ⟨_ | _, _⟩ <;> rfl

@[simp] theorem exec_state (start : σ × World) : exec state start = (.ok start.1, start) :=
  rfl

@[simp] theorem exec_change (f : σ → σ) (start : σ × World) :
    exec (change f) start = (.ok (), (f start.1, start.2)) :=
  rfl

@[simp] theorem exec_outside (effect : Effect α) (start : σ × World) :
    exec (outside effect : Action σ α) start =
      ((effect.run.run start.2).1, (start.1, (effect.run.run start.2).2)) :=
  rfl

@[simp] theorem exec_on (focus : Focus σ τ) (action : Action τ α) (start : σ × World) :
    exec (action.on focus) start =
      ((exec action (focus.get start.1, start.2)).1,
        (focus.put start.1 (exec action (focus.get start.1, start.2)).2.1,
          (exec action (focus.get start.1, start.2)).2.2)) :=
  rfl

@[simp] theorem exec_observe (action : Action σ α) (start : σ × World) :
    exec action.observe start = (.ok (exec action start).1, (exec action start).2) :=
  rfl

/-- What is watched is what comes of the action. -/
theorem exec_observe_eq_ok_iff {action : Action σ α} {outcome : Except Failure α}
    {start ending : σ × World} :
    exec action.observe start = (.ok outcome, ending) ↔ exec action start = (outcome, ending) := by
  rw [exec_observe, Prod.mk.injEq, Except.ok.injEq, ← Prod.mk.injEq]

/-- The second action runs where the first ends, failed or not, and a failure of it counts. -/
theorem exec_ensuring (action : Action σ α) (cleanup : Action σ Unit) (start : σ × World) :
    exec (action.ensuring cleanup) start =
      match exec cleanup (exec action start).2 with
      | (.ok (), ending) => ((exec action start).1, ending)
      | (.error failure, ending) => (.error failure, ending) := by
  unfold ensuring
  rw [exec_bind, exec_observe]
  dsimp only
  rw [exec_bind]
  rcases exec cleanup (exec action start).2 with ⟨_ | _, ending⟩
  · rfl
  · cases (exec action start).1 <;> rfl

/-- An action leaves alone what a view shows of the state. -/
def Keeps (view : σ → υ) (action : Action σ α) : Prop :=
  ∀ start, view (exec action start).2.1 = view start.1

namespace Keeps

variable {view : σ → υ}

theorem pure (a : α) : Keeps view (Pure.pure a : Action σ α) :=
  fun _ => rfl

theorem throw (failure : Failure) : Keeps view (MonadExcept.throw failure : Action σ α) :=
  fun _ => rfl

theorem lift (result : Except Failure α) : Keeps view (liftM result : Action σ α) :=
  fun _ => rfl

theorem state : Keeps view (Action.state : Action σ σ) :=
  fun _ => rfl

theorem outside (effect : Effect α) : Keeps view (Action.outside effect : Action σ α) :=
  fun _ => rfl

theorem change {f : σ → σ} (h : ∀ s, view (f s) = view s) : Keeps view (Action.change f) :=
  fun start => h start.1

theorem bind {action : Action σ α} {next : α → Action σ β} (haction : Keeps view action)
    (hnext : ∀ a, Keeps view (next a)) : Keeps view (action >>= next) := by
  intro start
  have hbetween := haction start
  rw [exec_bind]
  generalize exec action start = ending at hbetween ⊢
  obtain ⟨_ | a, between⟩ := ending
  · exact hbetween
  · exact (hnext a between).trans hbetween

theorem observe {action : Action σ α} (h : Keeps view action) : Keeps view action.observe :=
  h

/-- What follows an action and leaves a view alone shows what the action left. -/
theorem view_bind {next : α → Action σ β} (hnext : ∀ a, Keeps view (next a)) (action : Action σ α)
    (start : σ × World) :
    view (exec (action >>= next) start).2.1 = view (exec action start).2.1 := by
  rw [exec_bind]
  generalize exec action start = ended
  obtain ⟨_ | a, between⟩ := ended
  · rfl
  · exact hnext a between

theorem view_eq {action : Action σ α} (h : Keeps view action) {outcome : Except Failure α}
    {start ending : σ × World} (hexec : exec action start = (outcome, ending)) :
    view ending.1 = view start.1 := by
  have hkept := h start
  rwa [hexec] at hkept

/-- What an action does to a part of the state cannot be seen where the part cannot be seen. -/
theorem on {focus : Focus σ τ} {action : Action τ α}
    (h : ∀ s part, view (focus.put s part) = view s) : Keeps view (action.on focus) :=
  fun start => h start.1 _

/-- What an action keeps of a part of the state is kept in the whole state. -/
theorem on_part {focus : Focus σ τ} {action : Action τ α} {view : τ → υ}
    (hfocus : focus.IsLawful) (h : Keeps view action) :
    Keeps (fun s => view (focus.get s)) (action.on focus) := by
  intro start
  show view (focus.get (focus.put start.1 _)) = view (focus.get start.1)
  rw [hfocus.get_put]
  exact h (focus.get start.1, start.2)

end Keeps

end Action

end Directory
