import Directory.Pool
import Directory.Proofs.Connection.Agreement
import Directory.Proofs.Value.Key

/-!
# Connections that lose their names

A connection is registered as long as it has a name. Forgetting a name, and so forgetting all of
them, disconnects the connection that had it; giving a name that is in use to another connection
does not. So the connections that are registered no more are disconnected, just if no name is taken
in this way from a connection that has no other one and is not disconnected.
-/

namespace Directory

open Directory.Action

namespace Registry

/-- The connection has a name. -/
def Registers (registry : Registry) (number : Nat) : Prop :=
  ∃ entry ∈ registry.names, entry.2 = number

/-- Giving a name to a connection takes it from another one that has no other name. -/
structure TakesFrom (registry : Registry) (number : Nat) (name : Value) (other : Nat) : Prop where
  ne : other ≠ number
  holds : Value.lookup? registry.names (registry.meant name) = some other
  only : ∀ entry ∈ registry.names, entry.2 = other →
    entry.1.same (registry.meant name) = true

end Registry

namespace Pool

variable {start ended : Pool × World} {number : Nat} {name : Value}

/-- The connection with a number is disconnected. -/
def Rests (pool : Pool) (number : Nat) : Prop :=
  ((connection number).get pool).IsDisconnected

theorem get_put_connection (number other : Nat) (pool : Pool) (changed : Connection) :
    (connection other).get ((connection number).put pool changed) =
      if other = number ∧ number < pool.connections.length then changed
      else (connection other).get pool := by
  show (pool.connections.set number changed).getD other default = _
  rw [List.getD_eq_getElem?_getD, List.getElem?_set]
  by_cases heq : number = other
  · subst heq
    by_cases hlt : number < pool.connections.length
    · simp [hlt]
    · simp [hlt, connection, List.getD_eq_getElem?_getD]
  · simp [heq, Ne.symm heq, connection, List.getD_eq_getElem?_getD]

/-- A connection that has no place in the pool is disconnected. -/
theorem rests_of_length_le {pool : Pool} (h : pool.connections.length ≤ number) :
    pool.Rests number := by
  have hdefault : (connection number).get pool = default := by
    show pool.connections.getD number default = default
    rw [List.getD_eq_getElem?_getD, List.getElem?_eq_none h, Option.getD_none]
  rw [Rests, hdefault]
  exact ⟨rfl, rfl, rfl⟩

/-- A connection that is disconnected rests, and so do the others that rested before. -/
theorem rests_of_disconnect
    (h : exec (Connection.disconnect.on (connection number)) start = (.ok (), ended)) :
    ended.1.Rests number ∧ ∀ other, start.1.Rests other → ended.1.Rests other := by
  rw [exec_on] at h
  cases hexec : exec Connection.disconnect ((connection number).get start.1, start.2) with
  | mk outcome closed =>
      rw [hexec] at h
      cases h
      have hclosed := Connection.isDisconnected_of_disconnect hexec
      constructor
      · by_cases hlt : number < start.1.connections.length
        · rw [Rests, get_put_connection, if_pos ⟨rfl, hlt⟩]
          exact hclosed
        · refine rests_of_length_le ?_
          rw [show ((connection number).put start.1 closed.1).connections.length =
            start.1.connections.length from List.length_set]
          omega
      · intro other hrests
        rw [Rests, get_put_connection]
        split
        · exact hclosed
        · exact hrests

/-! ## The names -/

theorem keeps_registry_connection {α : Type} (number : Nat) (action : Action Connection α) :
    Keeps Pool.registry (action.on (connection number)) :=
  Keeps.on fun _ _ => rfl

/-- No name is in use twice. -/
def IsUnambiguous (pool : Pool) : Prop :=
  IsDictionary pool.registry.names

theorem preserves_connection {α : Type} (number : Nat) (action : Action Connection α) :
    Preserves IsUnambiguous (action.on (connection number)) :=
  (keeps_registry_connection number action).preserves fun registry => IsDictionary registry.names

theorem preserves_add (number : Nat) (name : Value) :
    Preserves IsUnambiguous (add number name) := by
  refine Preserves.bind Preserves.state fun pool => Preserves.bind (Preserves.lift _) fun _ =>
    Preserves.bind (preserves_connection number _) fun _ => ?_
  intro start hstart
  rw [exec_bind, exec_lift]
  cases hrequire : (pool.registry.meant name).requireKey with
  | error failure => exact hstart
  | ok key =>
      obtain ⟨hkey, rfl⟩ := Value.requireKey_eq_ok_iff.1 hrequire
      exact hstart.insert hkey number

theorem preserves_remove (name : Value) : Preserves IsUnambiguous (remove name) := by
  refine Preserves.bind (Preserves.lift _) fun name => Preserves.bind Preserves.state fun pool =>
    Preserves.bind (Preserves.change fun pool hpool => hpool.filter _) fun _ => ?_
  cases Value.lookup? pool.registry.names name with
  | none => exact Preserves.pure _
  | some number => exact preserves_connection number _

theorem preserves_removeAll (names : List Value) : Preserves IsUnambiguous (removeAll names) := by
  induction names with
  | nil => exact Preserves.pure _
  | cons name names ih => exact Preserves.bind (preserves_remove name) fun _ => ih

/-- Logging has nothing to do with what cannot be seen of the logger. -/
theorem keeps_unsetLogger {υ : Type} {view : Pool → υ}
    (h : ∀ pool logger, view { pool with registry.logger := logger } = view pool) :
    Keeps view unsetLogger := by
  refine Keeps.bind Keeps.state fun pool => ?_
  dsimp only
  split
  · exact Keeps.pure _
  · exact Keeps.bind (Keeps.outside _) fun _ => Keeps.change fun pool => h pool none

theorem keeps_setLogger {υ : Type} {view : Pool → υ} (log : Option String)
    (h : ∀ pool logger, view { pool with registry.logger := logger } = view pool) :
    Keeps view (setLogger log) :=
  Keeps.bind (keeps_unsetLogger h) fun _ => Keeps.bind Keeps.state fun _ =>
    Keeps.bind (Keeps.outside _) fun listener => Keeps.change fun pool => h pool (some listener)

theorem preserves_flush : Preserves IsUnambiguous flush :=
  Preserves.bind Preserves.state fun _ => Preserves.bind (preserves_removeAll _) fun _ =>
    Preserves.bind (Preserves.change fun _ hpool => hpool) fun _ =>
      (keeps_unsetLogger fun _ _ => rfl).preserves IsDictionary

/-! ## Forgetting names -/

/-- What is done between two states loses no connection: those that are registered no more are
disconnected, and so are those that were. -/
structure LosesNone (start ended : Pool) : Prop where
  rests : ∀ number, start.Rests number → ended.Rests number
  forgotten : ∀ number, start.registry.Registers number → ¬ ended.registry.Registers number →
    ended.Rests number

namespace LosesNone

variable {first second third : Pool}

/-- Nothing is lost while names and connections stay. -/
theorem of_same (hnames : second.registry.names = first.registry.names)
    (hconnections : second.connections = first.connections) : LosesNone first second where
  rests := fun number hrests => by
    have hsame : (connection number).get second = (connection number).get first := by
      show second.connections.getD number default = first.connections.getD number default
      rw [hconnections]
    rwa [Rests, hsame]
  forgotten := fun number hregistered hnot => by
    rw [Registry.Registers, hnames] at hnot
    exact absurd hregistered hnot

/-- A connection loses its last name in one of two steps. -/
theorem trans (hfirst : LosesNone first second) (hsecond : LosesNone second third) :
    LosesNone first third where
  rests := fun number hrests => hsecond.rests number (hfirst.rests number hrests)
  forgotten := fun number hregistered hnot => by
    by_cases hbetween : second.registry.Registers number
    · exact hsecond.forgotten number hbetween hnot
    · exact hsecond.rests number (hfirst.forgotten number hregistered hbetween)

end LosesNone

/-- A name that is forgotten is forgotten alone. -/
theorem registers_without_iff {registry : Registry} :
    (registry.without name).Registers number ↔
      ∃ entry ∈ registry.names, entry.2 = number ∧ entry.1.same name = false := by
  unfold Registry.Registers Registry.without
  simp only [List.mem_filter, Bool.not_eq_true']
  constructor
  · rintro ⟨entry, ⟨hmem, hother⟩, hnumber⟩
    exact ⟨entry, hmem, hnumber, hother⟩
  · rintro ⟨entry, hmem, hnumber, hother⟩
    exact ⟨entry, ⟨hmem, hother⟩, hnumber⟩

/-- Forgetting a name loses no connection. -/
theorem losesNone_remove (hnames : start.1.IsUnambiguous)
    (h : exec (remove name) start = (.ok (), ended)) : LosesNone start.1 ended.1 := by
  obtain ⟨key, _, hlift, h⟩ := exec_bind_eq_ok_iff.1 h
  obtain ⟨hrequire, rfl⟩ := exec_lift_eq_ok_iff.1 hlift
  obtain ⟨hkey, rfl⟩ := Value.requireKey_eq_ok_iff.1 hrequire
  -- names are unambiguous, so a connection that is left without one is what the name stood for
  have hfound {number : Nat} (hregistered : start.1.registry.Registers number)
      (hnot : ¬ (start.1.registry.without name).Registers number) :
      Value.lookup? start.1.registry.names name = some number := by
    obtain ⟨entry, hentry, rfl⟩ := hregistered
    have hsame : entry.1.same name = true := by
      rw [← Bool.not_eq_false]
      exact fun hother => hnot (registers_without_iff.2 ⟨entry, hentry, rfl, hother⟩)
    exact hnames.lookup?_eq_some hkey hentry hsame
  rw [exec_bind, exec_state] at h
  dsimp only at h
  rw [exec_bind, changeRegistry, exec_change] at h
  dsimp only at h
  cases hlookup : Value.lookup? start.1.registry.names name with
  | none =>
      rw [hlookup] at h
      cases h
      refine ⟨fun _ hrests => hrests, fun number hregistered hnot => ?_⟩
      cases hlookup.symm.trans (hfound hregistered hnot)
  | some held =>
      rw [hlookup] at h
      have hregistry := (keeps_registry_connection held Connection.disconnect).view_eq h
      obtain ⟨hheld, hrests⟩ := rests_of_disconnect h
      refine ⟨hrests, fun number hregistered hnot => ?_⟩
      rw [hregistry] at hnot
      cases hlookup.symm.trans (hfound hregistered hnot)
      exact hheld

theorem losesNone_removeAll {names : List Value} (hnames : start.1.IsUnambiguous)
    (h : exec (removeAll names) start = (.ok (), ended)) : LosesNone start.1 ended.1 := by
  induction names generalizing start with
  | nil =>
      cases h
      exact LosesNone.of_same rfl rfl
  | cons name names ih =>
      obtain ⟨_, between, hremove, hrest⟩ := exec_bind_eq_ok_iff.1 h
      have hkept := preserves_remove name start hnames
      rw [hremove] at hkept
      exact (losesNone_remove hnames hremove).trans (ih hkept hrest)

theorem losesNone_unsetLogger (h : exec unsetLogger start = (.ok (), ended)) :
    LosesNone start.1 ended.1 := by
  have hnames : Keeps (fun pool : Pool => pool.registry.names) unsetLogger :=
    keeps_unsetLogger fun _ _ => rfl
  have hconnections : Keeps Pool.connections unsetLogger := keeps_unsetLogger fun _ _ => rfl
  exact LosesNone.of_same (hnames.view_eq h) (hconnections.view_eq h)

/-- Forgetting all names loses no connection. -/
theorem losesNone_flush (hnames : start.1.IsUnambiguous)
    (h : exec flush start = (.ok (), ended)) : LosesNone start.1 ended.1 := by
  obtain ⟨pool, _, hstate, h⟩ := exec_bind_eq_ok_iff.1 h
  cases hstate
  obtain ⟨_, emptied, hremove, h⟩ := exec_bind_eq_ok_iff.1 h
  obtain ⟨_, restored, hrestore, h⟩ := exec_bind_eq_ok_iff.1 h
  have hrestored : LosesNone emptied.1 restored.1 := by
    cases hrestore
    exact LosesNone.of_same rfl rfl
  exact ((losesNone_removeAll hnames hremove).trans hrestored).trans (losesNone_unsetLogger h)

/-! ## Giving names -/

/-- After a name is given, it is that of the connection, and the others are those of the connections
that had them. -/
theorem exists_mem_insert_iff {names : List (Value × Nat)} {key : Value} {other : Nat} :
    (∃ entry ∈ Value.insert names key number, entry.2 = other) ↔
      other = number ∨ ∃ entry ∈ names, entry.2 = other ∧ entry.1.same key = false := by
  unfold Value.insert
  split
  next hany =>
    obtain ⟨present, hpresent, hsame⟩ := List.any_eq_true.1 hany
    simp only [List.mem_map]
    constructor
    · rintro ⟨_, ⟨entry, hentry, rfl⟩, hnumber⟩
      split at hnumber
      next => exact .inl hnumber.symm
      next hother => exact .inr ⟨entry, hentry, hnumber, by simpa using hother⟩
    · rintro (rfl | ⟨entry, hentry, hnumber, hother⟩)
      · exact ⟨_, ⟨present, hpresent, rfl⟩, by rw [if_pos hsame]⟩
      · exact ⟨_, ⟨entry, hentry, rfl⟩, by simpa [hother] using hnumber⟩
  next hnone =>
    simp only [List.mem_append, List.mem_singleton]
    constructor
    · rintro ⟨entry, hentry | rfl, hnumber⟩
      · refine .inr ⟨entry, hentry, hnumber, ?_⟩
        rw [← Bool.not_eq_true]
        exact fun hsame => hnone (List.any_eq_true.2 ⟨entry, hentry, hsame⟩)
      · exact .inl hnumber.symm
    · rintro (rfl | ⟨entry, hentry, hnumber, -⟩)
      · exact ⟨(key, other), .inr rfl, rfl⟩
      · exact ⟨entry, .inl hentry, hnumber⟩

/-- A connection that is added has the name, its events go to the dispatcher of the registry, and
all else is as it was. -/
theorem exec_add (h : exec (add number name) start = (.ok (), ended)) :
    (start.1.registry.meant name).checkKey = .ok () ∧
      ended.1.registry.names =
        Value.insert start.1.registry.names (start.1.registry.meant name) number ∧
      ∀ other, other ≠ number →
        (connection other).get ended.1 = (connection other).get start.1 := by
  obtain ⟨pool, _, hstate, h⟩ := exec_bind_eq_ok_iff.1 h
  cases hstate
  obtain ⟨_, _, hnote, h⟩ := exec_bind_eq_ok_iff.1 h
  obtain ⟨-, rfl⟩ := exec_lift_eq_ok_iff.1 hnote
  obtain ⟨_, noted, hdispatcher, h⟩ := exec_bind_eq_ok_iff.1 h
  obtain ⟨key, _, hlift, h⟩ := exec_bind_eq_ok_iff.1 h
  obtain ⟨hrequire, rfl⟩ := exec_lift_eq_ok_iff.1 hlift
  obtain ⟨hkey, rfl⟩ := Value.requireKey_eq_ok_iff.1 hrequire
  cases hdispatcher
  cases h
  exact ⟨hkey, rfl, fun other hne => (get_put_connection number other start.1 _).trans
    (if_neg fun h => hne h.1)⟩

/-- The connections that giving a name leaves without one are those that it is taken from. -/
theorem takesFrom_iff_of_add (hnames : start.1.IsUnambiguous)
    (h : exec (add number name) start = (.ok (), ended)) (other : Nat) :
    start.1.registry.TakesFrom number name other ↔
      start.1.registry.Registers other ∧ ¬ ended.1.registry.Registers other := by
  obtain ⟨hkey, hended, -⟩ := exec_add h
  unfold Registry.Registers
  rw [hended, exists_mem_insert_iff]
  constructor
  · rintro ⟨hne, hholds, honly⟩
    constructor
    · obtain ⟨entry, hfind, hnumber⟩ := Option.map_eq_some_iff.1 hholds
      exact ⟨entry, List.mem_of_find?_eq_some hfind, hnumber⟩
    · rintro (heq | ⟨entry, hentry, hnumber, hother⟩)
      · exact hne heq
      · exact Bool.noConfusion ((honly entry hentry hnumber).symm.trans hother)
  · rintro ⟨⟨entry, hentry, rfl⟩, hnot⟩
    have honly (also : Value × Nat) (halso : also ∈ start.1.registry.names)
        (hnumber : also.2 = entry.2) : also.1.same (start.1.registry.meant name) = true := by
      rw [← Bool.not_eq_false]
      exact fun hother => hnot (.inr ⟨also, halso, hnumber, hother⟩)
    exact ⟨fun heq => hnot (.inl heq),
      hnames.lookup?_eq_some hkey hentry (honly entry hentry rfl), honly⟩

/-! ## Runs -/

/-- A step: an operation of the registry, or a use of a connection. -/
inductive Step where
  | add (number : Nat) (name : Value)
  | remove (name : Value)
  | setDefault (name : Value)
  | flush
  | setLogger (log : Option String)
  | unsetLogger
  | use (number : Nat) (action : Action Connection Unit)

namespace Step

/-- What is done in a step. -/
def action : Step → Action Pool Unit
  | add number name => Pool.add number name
  | remove name => Pool.remove name
  | setDefault name => changeRegistry (·.withDefault name)
  | flush => Pool.flush
  | setLogger log => Pool.setLogger log
  | unsetLogger => Pool.unsetLogger
  | use number action => action.on (connection number)

/-- A connection is lost in a step: the step returns, and the connection is not registered any more
and not disconnected. -/
structure Loses (step : Step) (start ended : Pool × World) (number : Nat) : Prop where
  returns : exec step.action start = (.ok (), ended)
  registered : start.1.registry.Registers number
  forgotten : ¬ ended.1.registry.Registers number
  active : ¬ ended.1.Rests number

/-- A connection is replaced in a step: its only name is given to another one, while it is not
disconnected. -/
structure Replaces (step : Step) (start ended : Pool × World) (number : Nat) : Prop where
  returns : exec step.action start = (.ok (), ended)
  taken : ∃ other name, step = add other name ∧ start.1.registry.TakesFrom other name number
  active : ¬ start.1.Rests number

theorem preserves_action (step : Step) : Preserves IsUnambiguous step.action := by
  cases step with
  | add number name => exact preserves_add number name
  | remove name => exact preserves_remove name
  | setDefault name => exact Preserves.change fun _ hpool => hpool
  | flush => exact preserves_flush
  | setLogger log => exact (keeps_setLogger log fun _ _ => rfl).preserves IsDictionary
  | unsetLogger => exact (keeps_unsetLogger fun _ _ => rfl).preserves IsDictionary
  | use number action => exact preserves_connection number action

/-- Connections are lost in a step just when they are replaced. -/
theorem loses_iff_replaces (step : Step) (hnames : start.1.IsUnambiguous) :
    step.Loses start ended number ↔ step.Replaces start ended number := by
  constructor
  · rintro ⟨hreturns, hregistered, hforgotten, hactive⟩
    have hkept (h : LosesNone start.1 ended.1) : step.Replaces start ended number :=
      absurd (h.forgotten number hregistered hforgotten) hactive
    have hsame (h : ended.1.registry.names = start.1.registry.names) :
        step.Replaces start ended number := by
      rw [Registry.Registers, h] at hforgotten
      exact absurd hregistered hforgotten
    -- only an addition gives a name away without disconnecting what had it
    cases step with
    | add other name =>
        have htaken := (takesFrom_iff_of_add hnames hreturns number).2 ⟨hregistered, hforgotten⟩
        refine ⟨hreturns, ⟨other, name, rfl, htaken⟩, ?_⟩
        have hother := (exec_add hreturns).2.2 number htaken.ne
        rwa [Rests, hother] at hactive
    | remove name => exact hkept (losesNone_remove hnames hreturns)
    | setDefault name =>
        cases hreturns
        exact hsame rfl
    | flush => exact hkept (losesNone_flush hnames hreturns)
    | setLogger log =>
        have hnames : Keeps (fun pool : Pool => pool.registry.names) (Pool.setLogger log) :=
          keeps_setLogger log fun _ _ => rfl
        exact hsame (hnames.view_eq hreturns)
    | unsetLogger => exact hkept (losesNone_unsetLogger hreturns)
    | use other action =>
        exact hsame (congrArg Registry.names
          ((keeps_registry_connection other action).view_eq hreturns))
  · rintro ⟨hreturns, ⟨other, name, rfl, htaken⟩, hactive⟩
    obtain ⟨hregistered, hforgotten⟩ := (takesFrom_iff_of_add hnames hreturns number).1 htaken
    refine ⟨hreturns, hregistered, hforgotten, ?_⟩
    have hother := (exec_add hreturns).2.2 number htaken.ne
    rwa [Rests, hother]

end Step

/-- What the steps of a run leave, whether or not they fail. -/
def performed (start : Pool × World) (steps : List Step) : Pool × World :=
  steps.foldl (fun reached step => (exec step.action reached).2) start

theorem isUnambiguous_performed (steps : List Step) (hstart : start.1.IsUnambiguous) :
    (performed start steps).1.IsUnambiguous := by
  induction steps generalizing start with
  | nil => exact hstart
  | cons step steps ih => exact ih (step.preserves_action start hstart)

/-- In a run of the registry no connection is lost, just when none is replaced. -/
theorem loses_none_iff (steps : List Step) (hstart : start.1.IsUnambiguous) :
    (∀ earlier step later, steps = earlier ++ step :: later →
        ∀ ended number, ¬ step.Loses (performed start earlier) ended number) ↔
      ∀ earlier step later, steps = earlier ++ step :: later →
        ∀ ended number, ¬ step.Replaces (performed start earlier) ended number :=
  forall₃_congr fun earlier step _ => forall_congr' fun _ => forall₂_congr fun _ _ =>
    not_congr (step.loses_iff_replaces (isUnambiguous_performed earlier hstart))

/-- Two connections that were not used yet, and a registry without names. -/
def twoUnused : Pool × World :=
  (⟨[Connection.unused ["foo"], Connection.unused ["bar"]], { dispatcher := 1 }⟩, {})

theorem isUnambiguous_twoUnused : twoUnused.1.IsUnambiguous :=
  IsDictionary.nil

/-- A connection with two names is used, and one of the names is given to the other connection. -/
def renamed : List Step :=
  [.add 0 .null, .add 0 (.str "b"), .use 0 (Connection.connect .null .null), .add 1 .null,
    .remove (.str "b"), .flush]

/-- A connection that keeps a name is not lost when another one is given away. -/
theorem renamed_loses_none :
    twoUnused.1.IsUnambiguous ∧
      ∀ earlier step later, renamed = earlier ++ step :: later →
        ∀ ended number, ¬ step.Loses (performed twoUnused earlier) ended number := by
  refine ⟨isUnambiguous_twoUnused, (loses_none_iff _ isUnambiguous_twoUnused).2 ?_⟩
  intro earlier step later heq ended number hreplaces
  obtain ⟨-, ⟨other, name, rfl, htaken⟩, -⟩ := hreplaces
  -- of the three additions only the last finds its name in use
  have hholds := htaken.holds
  rcases earlier with _ | ⟨first, _ | ⟨second, _ | ⟨third, _ | ⟨fourth, _ | ⟨fifth, earlier⟩⟩⟩⟩⟩
  · cases heq
    cases hholds
  · cases heq
    have hnone : Value.lookup? (performed twoUnused [.add 0 .null]).1.registry.names
        (.str "b") = none := by decide +kernel
    cases hnone.symm.trans hholds
  · cases heq
  · cases heq
    let reached := performed twoUnused
      [.add 0 .null, .add 0 (.str "b"), .use 0 (Connection.connect .null .null)]
    have hnames : reached.1.registry.names = [(.str "default", 0), (.str "b", 0)] := by
      with_unfolding_all rfl
    have hfirst : Value.lookup? reached.1.registry.names (.str "default") = some 0 := by
      decide +kernel
    cases hfirst.symm.trans hholds
    have hsame := htaken.only (.str "b", 0) (hnames ▸ List.mem_cons_of_mem _ (.head _)) rfl
    have hother : Value.same (.str "b") (.str "default") = false := by decide +kernel
    exact Bool.noConfusion (hother.symm.trans hsame)
  · cases heq
  · cases earlier with
    | nil => cases heq
    | cons sixth earlier => simp [renamed] at heq

/-- A connection that could be disconnected is lost when its name is given to another one. -/
theorem replaced_connection_is_lost :
    let steps : List Step := [.add 0 (.str "a"), .use 0 (Connection.connect .null .null)]
    let ended := performed twoUnused (steps ++ [.add 1 (.str "a")])
    (Step.add 1 (.str "a")).Loses (performed twoUnused steps) ended 0 ∧
      (exec (Connection.disconnect.on (connection 0)) ended).1 = .ok () := by
  intro steps ended
  refine ⟨⟨rfl, ⟨(.str "a", 0), ?_, rfl⟩, ?_, ?_⟩, eq_ok_of_toOption (by decide +kernel)⟩
  · have hnames : (performed twoUnused steps).1.registry.names = [(.str "a", 0)] := rfl
    rw [hnames]
    exact .head _
  · have hnames : ended.1.registry.names = [(.str "a", 1)] := by with_unfolding_all rfl
    rintro ⟨entry, hentry, hnumber⟩
    rw [hnames, List.mem_singleton] at hentry
    cases hentry
    cases hnumber
  · intro hrests
    have hopen : ((connection 0).get ended.1).transport.isConnected = true := by
      decide +kernel
    exact Bool.noConfusion (hopen.symm.trans hrests.closed)

end Pool

end Directory
