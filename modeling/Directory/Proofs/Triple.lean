import Directory.Proofs.Action

/-!
# Triples

What an action does from the starts of a kind. `Meets pre action post fails` says that, from a start
that satisfies `pre`, an action that gives something does so as `post` says, and one that fails does
so as `fails` says. `Upholds inv action` is the case of a property that holds before and after,
however the action ends, and `Preserves inv action` that of a property of the state alone. They
follow the parts that an action is put together from.
-/

namespace Directory.Action

variable {σ τ α β : Type}

/-- From every start that satisfies `pre`, what the action gives and where it ends satisfy `post`,
or how it fails and where that leaves it satisfy `fails`. -/
def Meets (pre : σ × World → Prop) (action : Action σ α) (post : α → σ × World → Prop)
    (fails : Failure → σ × World → Prop) : Prop :=
  ∀ start, pre start →
    match exec action start with
    | (.ok a, ending) => post a ending
    | (.error failure, ending) => fails failure ending

/-- A property of the state and the world that holds before an action holds after it. -/
def Upholds (inv : σ × World → Prop) (action : Action σ α) : Prop :=
  ∀ start, inv start → inv (exec action start).2

/-- A property of the state that holds before an action holds after it. -/
def Preserves (inv : σ → Prop) (action : Action σ α) : Prop :=
  ∀ start, inv start.1 → inv (exec action start).2.1

namespace Meets

variable {pre : σ × World → Prop} {post : α → σ × World → Prop}
  {fails : Failure → σ × World → Prop}

theorem mono {action : Action σ α} {weaker : σ × World → Prop} {stronger : α → σ × World → Prop}
    {stricter : Failure → σ × World → Prop} (h : Meets weaker action stronger stricter)
    (hpre : ∀ start, pre start → weaker start)
    (hpost : ∀ a ending, stronger a ending → post a ending)
    (hfails : ∀ failure ending, stricter failure ending → fails failure ending) :
    Meets pre action post fails := by
  intro start hstart
  have hended := h start (hpre start hstart)
  generalize exec action start = ended at hended ⊢
  obtain ⟨failure | a, ending⟩ := ended
  · exact hfails failure ending hended
  · exact hpost a ending hended

/-- What is met from more starts is met from fewer. -/
theorem restrict {action : Action σ α} {weaker : σ × World → Prop}
    (h : Meets weaker action post fails) (hpre : ∀ start, pre start → weaker start) :
    Meets pre action post fails :=
  h.mono hpre (fun _ _ hending => hending) fun _ _ hending => hending

/-- The second of two actions meets what it should from where the first leaves off. -/
theorem bind {action : Action σ β} {next : β → Action σ α} {mid : β → σ × World → Prop}
    (haction : Meets pre action mid fails) (hnext : ∀ b, Meets (mid b) (next b) post fails) :
    Meets pre (action >>= next) post fails := by
  intro start hstart
  have hmid := haction start hstart
  rw [exec_bind]
  generalize exec action start = ended at hmid ⊢
  obtain ⟨failure | b, between⟩ := ended
  · exact hmid
  · exact hnext b between hmid

/-- What is done after an action that was watched starts where the action ends, failed or not. -/
theorem observe_bind {action : Action σ β} {next : Except Failure β → Action σ α}
    {mid : β → σ × World → Prop} {caught : Failure → σ × World → Prop}
    (haction : Meets pre action mid caught)
    (hok : ∀ b, Meets (mid b) (next (.ok b)) post fails)
    (herror : ∀ failure, Meets (caught failure) (next (.error failure)) post fails) :
    Meets pre (action.observe >>= next) post fails := by
  intro start hstart
  have hmid := haction start hstart
  rw [exec_bind, exec_observe]
  generalize exec action start = ended at hmid ⊢
  obtain ⟨failure | b, between⟩ := ended
  · exact herror failure between hmid
  · exact hok b between hmid

/-- What is done after the state was read starts where it was read. -/
theorem state_bind {next : σ → Action σ α}
    (h : ∀ s, Meets (fun start => pre start ∧ start.1 = s) (next s) post fails) :
    Meets pre (state >>= next) post fails := by
  intro start hstart
  rw [exec_bind, exec_state]
  exact h start.1 start ⟨hstart, rfl⟩

/-- What is done after something was read that may be unreadable. -/
theorem lift_bind {result : Except Failure β} {next : β → Action σ α}
    (hnext : ∀ b, result = .ok b → Meets pre (next b) post fails)
    (hfails : ∀ failure start, result = .error failure → pre start → fails failure start) :
    Meets pre (liftM result >>= next) post fails := by
  intro start hstart
  rw [exec_bind, exec_lift]
  cases hresult : result with
  | error failure => exact hfails failure start hresult hstart
  | ok b => exact hnext b hresult start hstart

/-- What is done after something was read that can be read from where it starts. -/
theorem lift_bind_ok {result : Except Failure β} {b : β} {next : β → Action σ α}
    (hresult : ∀ start, pre start → result = .ok b) (hnext : Meets pre (next b) post fails) :
    Meets pre (liftM result >>= next) post fails := by
  intro start hstart
  rw [exec_bind, exec_lift, hresult start hstart]
  exact hnext start hstart

theorem change_bind (mid : σ × World → Prop) {f : σ → σ} {next : Unit → Action σ α}
    (hmid : ∀ start, pre start → mid (f start.1, start.2))
    (hnext : Meets mid (next ()) post fails) : Meets pre (change f >>= next) post fails := by
  intro start hstart
  rw [exec_bind, exec_change]
  exact hnext _ (hmid start hstart)

theorem pure {a : α} (h : ∀ start, pre start → post a start) :
    Meets pre (Pure.pure a : Action σ α) post fails :=
  h

theorem pure_bind {b : β} {next : β → Action σ α} (h : Meets pre (next b) post fails) :
    Meets pre (Pure.pure b >>= next) post fails := by
  intro start hstart
  rw [exec_bind, exec_pure]
  exact h start hstart

theorem throw {failure : Failure} (h : ∀ start, pre start → fails failure start) :
    Meets pre (MonadExcept.throw failure : Action σ α) post fails :=
  h

theorem throw_bind {failure : Failure} {next : β → Action σ α}
    (h : ∀ start, pre start → fails failure start) :
    Meets pre (MonadExcept.throw failure >>= next) post fails := by
  intro start hstart
  rw [exec_bind, exec_throw]
  exact h start hstart

/-- What is met on a part of the state is met by the action on the whole. -/
theorem on {focus : Focus σ τ} {action : Action τ α} {pre : τ × World → Prop}
    {post : α → τ × World → Prop} {fails : Failure → τ × World → Prop} (hfocus : focus.IsLawful)
    (h : Meets pre action post fails) :
    Meets (fun start => pre (focus.get start.1, start.2)) (action.on focus)
      (fun a ending => post a (focus.get ending.1, ending.2))
      (fun failure ending => fails failure (focus.get ending.1, ending.2)) := by
  intro start hstart
  have hended := h (focus.get start.1, start.2) hstart
  rw [exec_on]
  generalize exec action (focus.get start.1, start.2) = ended at hended ⊢
  obtain ⟨failure | a, ending⟩ := ended
  · show fails failure (focus.get (focus.put start.1 ending.1), ending.2)
    rw [hfocus.get_put]
    exact hended
  · show post a (focus.get (focus.put start.1 ending.1), ending.2)
    rw [hfocus.get_put]
    exact hended

theorem ok {action : Action σ α} (h : Meets pre action post fails) {start ending : σ × World}
    {a : α} (hstart : pre start) (hexec : exec action start = (.ok a, ending)) : post a ending := by
  have hended := h start hstart
  rwa [hexec] at hended

/-- Where nothing is asked of an action, it meets that. -/
theorem anything (action : Action σ α) :
    Meets (fun _ => True) action (fun _ _ => True) (fun _ _ => True) := by
  intro start _
  rcases exec action start with ⟨_ | _, _⟩ <;> trivial

/-- An action that cannot fail gives something. -/
theorem exists_ok {action : Action σ α} (h : Meets pre action post fun _ _ => False)
    {start : σ × World} (hstart : pre start) :
    ∃ a ending, exec action start = (.ok a, ending) ∧ post a ending := by
  have hended := h start hstart
  generalize exec action start = ended at hended ⊢
  obtain ⟨failure | a, ending⟩ := ended
  · exact hended.elim
  · exact ⟨a, ending, rfl, hended⟩

/-- An action that cannot give anything fails. -/
theorem exists_error {action : Action σ α} (h : Meets pre action (fun _ _ => False) fails)
    {start : σ × World} (hstart : pre start) :
    ∃ failure ending, exec action start = (.error failure, ending) ∧ fails failure ending := by
  have hended := h start hstart
  generalize exec action start = ended at hended ⊢
  obtain ⟨failure | a, ending⟩ := ended
  · exact ⟨failure, ending, rfl, hended⟩
  · exact hended.elim

/-- Where an action ends may not depend on whether it fails. -/
theorem of_ends {action : Action σ α} {ends : σ × World → Prop}
    (h : ∀ start, pre start → ends (exec action start).2) :
    Meets pre action (fun _ => ends) (fun _ => ends) := by
  intro start hstart
  have hended := h start hstart
  generalize exec action start = ended at hended ⊢
  obtain ⟨failure | a, ending⟩ := ended
  · exact hended
  · exact hended

theorem ends {action : Action σ α} {ends : σ × World → Prop}
    (h : Meets pre action (fun _ => ends) (fun _ => ends)) {start : σ × World}
    (hstart : pre start) : ends (exec action start).2 := by
  have hended := h start hstart
  generalize exec action start = ended at hended ⊢
  obtain ⟨failure | a, ending⟩ := ended
  · exact hended
  · exact hended

theorem upholds {inv : σ × World → Prop} {action : Action σ α}
    (h : Meets inv action (fun _ => inv) (fun _ => inv)) : Upholds inv action :=
  fun _ hstart => h.ends hstart

theorem of_preserves {inv : σ → Prop} {action : Action σ α} (h : Preserves inv action) :
    Meets (fun start => inv start.1) action (fun _ ending => inv ending.1)
      (fun _ ending => inv ending.1) :=
  of_ends h

/-- What is preserved before and after is enough where less is asked of a failure. -/
theorem of_preserves_imp {inv weaker : σ → Prop} {action : Action σ α} (h : Preserves inv action)
    (himp : ∀ s, inv s → weaker s) :
    Meets (fun start => inv start.1) action (fun _ ending => inv ending.1)
      (fun _ ending => weaker ending.1) :=
  (of_preserves h).mono (fun _ hstart => hstart) (fun _ _ hending => hending)
    fun _ ending hending => himp ending.1 hending

/-- What is preserved holds beside what is met. -/
theorem and_preserves {inv : σ → Prop} {action : Action σ α} (h : Meets pre action post fails)
    (hinv : Preserves inv action) :
    Meets (fun start => pre start ∧ inv start.1) action
      (fun a ending => post a ending ∧ inv ending.1)
      (fun failure ending => fails failure ending ∧ inv ending.1) := by
  intro start hstart
  have hended := h start hstart.1
  have hkept := hinv start hstart.2
  generalize exec action start = ended at hended hkept ⊢
  obtain ⟨failure | a, ending⟩ := ended
  · exact ⟨hended, hkept⟩
  · exact ⟨hended, hkept⟩

theorem preserves {inv : σ → Prop} {action : Action σ α}
    (h : Meets (fun start => inv start.1) action (fun _ ending => inv ending.1)
      (fun _ ending => inv ending.1)) : Preserves inv action :=
  upholds h

end Meets

namespace Upholds

variable {inv : σ × World → Prop}

theorem pure (a : α) : Upholds inv (Pure.pure a : Action σ α) :=
  fun _ h => h

theorem throw (failure : Failure) : Upholds inv (MonadExcept.throw failure : Action σ α) :=
  fun _ h => h

theorem lift (result : Except Failure α) : Upholds inv (liftM result : Action σ α) :=
  fun _ h => h

theorem state : Upholds inv (Action.state : Action σ σ) :=
  fun _ h => h

theorem bind {action : Action σ α} {next : α → Action σ β} (haction : Upholds inv action)
    (hnext : ∀ a, Upholds inv (next a)) : Upholds inv (action >>= next) := by
  intro start hstart
  have hbetween := haction start hstart
  rw [exec_bind]
  generalize exec action start = ended at hbetween ⊢
  obtain ⟨_ | a, between⟩ := ended
  · exact hbetween
  · exact hnext a between hbetween

theorem observe {action : Action σ α} (h : Upholds inv action) : Upholds inv action.observe :=
  h

theorem on_whole {action : Action σ α} (h : Upholds inv action) : Upholds inv (action.on .whole) :=
  h

theorem ensuring {action : Action σ α} {cleanup : Action σ Unit} (haction : Upholds inv action)
    (hcleanup : Upholds inv cleanup) : Upholds inv (action.ensuring cleanup) := by
  intro start hstart
  have hended := hcleanup _ (haction start hstart)
  rw [exec_ensuring]
  generalize exec cleanup (exec action start).2 = ended at hended ⊢
  obtain ⟨_ | _, ending⟩ := ended
  · exact hended
  · exact hended

end Upholds

namespace Preserves

variable {inv : σ → Prop}

theorem pure (a : α) : Preserves inv (Pure.pure a : Action σ α) :=
  fun _ h => h

theorem throw (failure : Failure) : Preserves inv (MonadExcept.throw failure : Action σ α) :=
  fun _ h => h

theorem lift (result : Except Failure α) : Preserves inv (liftM result : Action σ α) :=
  fun _ h => h

theorem state : Preserves inv (Action.state : Action σ σ) :=
  fun _ h => h

theorem outside (effect : Effect α) : Preserves inv (Action.outside effect : Action σ α) :=
  fun _ h => h

theorem change {f : σ → σ} (h : ∀ s, inv s → inv (f s)) : Preserves inv (Action.change f) :=
  fun start hstart => h start.1 hstart

theorem bind {action : Action σ α} {next : α → Action σ β} (haction : Preserves inv action)
    (hnext : ∀ a, Preserves inv (next a)) : Preserves inv (action >>= next) :=
  Upholds.bind haction hnext

theorem observe {action : Action σ α} (h : Preserves inv action) : Preserves inv action.observe :=
  h

/-- A property of a part of the state is kept by what keeps it in the part. -/
theorem on {focus : Focus σ τ} {action : Action τ α} {inv : τ → Prop} (hfocus : focus.IsLawful)
    (h : Preserves inv action) : Preserves (fun s => inv (focus.get s)) (action.on focus) := by
  intro start hstart
  show inv (focus.get (focus.put start.1 _))
  rw [hfocus.get_put]
  exact h (focus.get start.1, start.2) hstart

end Preserves

/-- What can be told from a view that is left alone is preserved. -/
theorem Keeps.preserves {υ : Type} {view : σ → υ} {action : Action σ α} (h : Keeps view action)
    (property : υ → Prop) : Preserves (fun s => property (view s)) action := by
  intro start hstart
  rw [h start]
  exact hstart

/-- A view of which everything is preserved is left alone. -/
theorem Keeps.of_preserves {υ : Type} {view : σ → υ} {action : Action σ α}
    (h : ∀ shown, Preserves (fun s => view s = shown) action) : Keeps view action :=
  fun start => h (view start.1) start rfl

end Directory.Action
