import Directory.Proofs.Configuration

/-!
# Stored options

Whatever options a configuration was made from, and whatever was set or refused since, every option
has a value that is stored as it is when it is set again. So a configuration can be made again from
all of its options, as a replica of a connection does (`reached_isFixed`). The validators give the
stored values back as they are as well, but for that of the hosts, which gives the list as a tuple
(`hosts_given_as_tuple`).
-/

namespace Directory

open Directory.Action

namespace OptionName

variable {name : OptionName} {value stored : Value}

/-- What an option stores, it admits as it is. -/
theorem Admits.again (h : name.Admits value stored) : name.Admits stored stored := by
  cases name with
  | hosts =>
      obtain ⟨items, -, hnames, rfl⟩ := h
      exact ⟨items, .inl rfl, hnames, rfl⟩
  | port | version | timeout =>
      obtain ⟨-, n, -, rfl⟩ := h
      exact ⟨nofun, n, rfl, rfl⟩
  | _ =>
      obtain ⟨hvalue, rfl⟩ := h
      exact ⟨hvalue, rfl⟩

/-- Every validator but that of the hosts gives back what the option stores. -/
theorem Admits.apply_validator (h : name.Admits stored stored) (hname : name ≠ .hosts) :
    name.validator.apply stored = .ok stored := by
  cases name with
  | hosts => exact absurd rfl hname
  | port | version | timeout =>
      obtain ⟨-, n, -, rfl⟩ := h
      rfl
  | username | password =>
      obtain ⟨rfl | ⟨s, rfl⟩, -⟩ := h <;> rfl
  | _ =>
      obtain ⟨⟨_, rfl⟩, -⟩ := h
      rfl

theorem admits_default (name : OptionName) : name.Admits name.default name.default := by
  cases name with
  | hosts => exact ⟨[], .inl rfl, nofun, rfl⟩
  | port | version | timeout => exact ⟨nofun, _, rfl, rfl⟩
  | baseName => exact ⟨⟨"", rfl⟩, rfl⟩
  | username | password => exact ⟨.inl rfl, rfl⟩
  | useSsl | useTls | followReferrals => exact ⟨⟨false, rfl⟩, rfl⟩
  | options => exact ⟨⟨[], rfl⟩, rfl⟩

end OptionName

namespace Configuration

variable {config : Configuration} {name : OptionName} {stored : Value}

/-! ## Configurations that can be reached -/

/-- The configuration after an option was set, or was refused. -/
def afterSet (config : Configuration) (key value : Value) : Configuration :=
  match config.set key value with
  | .ok changed => changed
  | .error _ => config

/-- A configuration that was made from options, after any options were set or refused. -/
inductive Reached : Configuration → Prop
  | made {options : Value} {config : Configuration} (h : ofOptions options = .ok config) :
      Reached config
  | set {config : Configuration} (key value : Value) (h : Reached config) :
      Reached (config.afterSet key value)

/-- Every option has a value that it admits as it is. -/
def IsAdmitted (config : Configuration) : Prop :=
  ∀ name : OptionName, name.Admits (config.value name) (config.value name)

theorem isAdmitted_empty : ({} : Configuration).IsAdmitted :=
  OptionName.admits_default

/-- Nothing changes if an option is given the value that it has. -/
theorem put_value_self (config : Configuration) (name : OptionName) :
    config.put name (config.value name) = config := by
  refine congrArg Configuration.mk (funext fun other => ?_)
  show (if other = name then config.value name else config.value other) = config.value other
  split
  next heq => rw [heq]
  next => rfl

theorem IsAdmitted.put (h : config.IsAdmitted) (hstored : name.Admits stored stored) :
    (config.put name stored).IsAdmitted := by
  intro other
  by_cases heq : other = name
  · have hvalue : (config.put name stored).value other = stored := if_pos heq
    rw [hvalue, heq]
    exact hstored
  · have hvalue : (config.put name stored).value other = config.value other := if_neg heq
    rw [hvalue]
    exact h other

theorem IsAdmitted.of_set {changed : Configuration} {key value : Value} (h : config.IsAdmitted)
    (hset : config.set key value = .ok changed) : changed.IsAdmitted := by
  obtain ⟨name, stored, hadmits, rfl⟩ := exists_of_set_eq_ok hset
  exact h.put hadmits.again

theorem IsAdmitted.afterSet (h : config.IsAdmitted) (key value : Value) :
    (config.afterSet key value).IsAdmitted := by
  unfold Configuration.afterSet
  cases hset : config.set key value with
  | ok changed => exact h.of_set hset
  | error failure => exact h

theorem IsAdmitted.of_setAll {entries : List (Value × Value)} {changed : Configuration}
    (h : config.IsAdmitted) (hset : config.setAll entries = .ok changed) :
    changed.IsAdmitted := by
  induction entries generalizing config with
  | nil =>
      cases hset
      exact h
  | cons entry entries ih =>
      obtain ⟨between, hfirst, hrest⟩ := exists_of_bind_eq_ok hset
      exact ih (h.of_set hfirst) hrest

theorem isAdmitted_of_ofOptions {options : Value} (h : ofOptions options = .ok config) :
    config.IsAdmitted := by
  unfold ofOptions at h
  split at h
  · obtain ⟨entries, -, hset⟩ := exists_of_bind_eq_ok h
    exact isAdmitted_empty.of_setAll hset
  · cases h
    exact isAdmitted_empty

/-- Every value that a configuration comes to store is admitted as it is. -/
theorem Reached.isAdmitted (h : Reached config) : config.IsAdmitted := by
  induction h with
  | made hmade => exact isAdmitted_of_ofOptions hmade
  | set key value _ ih => exact ih.afterSet key value

/-! ## Making a configuration again -/

/-- Give options the values that another configuration has for them. -/
def putAll (config other : Configuration) (names : List OptionName) : Configuration :=
  names.foldl (fun config name => config.put name (other.value name)) config

/-- Options are set to admitted values in order. -/
theorem setAll_eq_putAll (config : Configuration) {other : Configuration} (h : other.IsAdmitted)
    (names : List OptionName) :
    config.setAll (names.map fun name => (.str name.key, other.value name)) =
      .ok (config.putAll other names) := by
  induction names generalizing config with
  | nil => rfl
  | cons name names ih =>
      have hset : config.set (.str name.key) (other.value name) =
          .ok (config.put name (other.value name)) :=
        set_eq_ok_iff.2 ⟨name, other.value name, ⟨rfl, h name⟩, rfl⟩
      rw [List.map_cons, setAll, hset]
      exact ih (config.put name (other.value name))

theorem value_putAll (config other : Configuration) (names : List OptionName)
    (name : OptionName) :
    (config.putAll other names).value name =
      if name ∈ names then other.value name else config.value name := by
  induction names generalizing config with
  | nil => rfl
  | cons first names ih =>
      have hfirst : (config.put first (other.value first)).value name =
          if name = first then other.value first else config.value name := rfl
      show ((config.put first (other.value first)).putAll other names).value name = _
      rw [ih, hfirst]
      by_cases hname : name = first <;> simp [hname]

theorem putAll_all (config other : Configuration) :
    config.putAll other OptionName.all = other := by
  have hvalue : (config.putAll other OptionName.all).value = other.value := by
    funext name
    rw [value_putAll, if_pos (OptionName.mem_all name)]
  exact congrArg Configuration.mk hvalue

/-- A configuration whose values are admitted is made again from all of its options. -/
theorem IsAdmitted.ofOptions_all (h : config.IsAdmitted) :
    ofOptions (.dict config.all) = .ok config := by
  have hmade : ofOptions (.dict config.all) = .ok (putAll {} config OptionName.all) :=
    setAll_eq_putAll {} h OptionName.all
  rw [hmade, putAll_all]

theorem exists_run_renewed (transport : Transport) (world : World) :
    ∃ fresh later, transport.renewed.run.run world = (.ok fresh, later) := by
  unfold Transport.renewed
  cases transport.link with
  | direct number isOpen last => exact ⟨_, _, rfl⟩
  | wire handle => exact ⟨_, _, rfl⟩

/-! ## Fixed options -/

/-- The options are the declared ones, and all of them are fixed. The validators give the stored
values back as they are, that of the hosts as a tuple of the same hosts. An option that is set to
its value changes nothing, a configuration that is made from all of the options is the same one, and
so a replica of a connection has the configuration of the connection. -/
structure IsFixed (config : Configuration) : Prop where
  keys : config.all.map Prod.fst = OptionName.all.map fun name => .str name.key
  hosts : ∃ hosts, config.value .hosts = .list hosts ∧
    OptionName.hosts.validator.apply (.list hosts) = .ok (.tuple hosts)
  others : ∀ name : OptionName, name ≠ .hosts →
    name.validator.apply (config.value name) = .ok (config.value name)
  set : ∀ name : OptionName, config.set (.str name.key) (config.value name) = .ok config
  made : ofOptions (.dict config.all) = .ok config
  replica : ∀ (connection : Connection) (world : World), ∃ replica later,
    exec Connection.replica ({ connection with configuration := config }, world) =
      (.ok replica, ({ connection with configuration := config }, later)) ∧
    replica.configuration = config

theorem IsAdmitted.isFixed (h : config.IsAdmitted) : config.IsFixed where
  keys := by
    rw [all, List.map_map]
    rfl
  hosts := by
    obtain ⟨items, -, hnames, hitems⟩ := h .hosts
    refine ⟨items, hitems, ?_⟩
    rw [apply_hosts]
    dsimp only
    rw [Validator.mapM_host_eq_ok_iff.2 ⟨hnames, rfl⟩]
    rfl
  others name hname := (h name).apply_validator hname
  set name := by
    rw [set_key, checked_eq_ok_iff.2 (h name)]
    exact congrArg Except.ok (put_value_self config name)
  made := h.ofOptions_all
  replica connection world := by
    obtain ⟨fresh, later, hrun⟩ := exists_run_renewed connection.transport world
    unfold Connection.replica Connection.ofOptions
    simp only [exec_bind, exec_state, exec_outside, hrun, exec_lift, h.ofOptions_all]
    exact ⟨_, _, rfl, rfl⟩

/-- Every configuration that can be reached is fixed. -/
theorem reached_isFixed (h : Reached config) : config.IsFixed :=
  h.isAdmitted.isFixed

/-- Hosts in a tuple and a port as a numeral are stored as a list and as a number, and stay so when
another option is refused. -/
theorem twoHosts_isFixed :
    let config := (put (put {} .hosts (.list [.str "a", .str "b"])) .port (.int 636)).afterSet
      (.str "timeout") (.bool true)
    Reached config ∧ config.value .port = .int 636 ∧ config.IsFixed := by
  have hmade : ofOptions (.dict [(.str "hosts", .tuple [.str "a", .str "b"]),
      (.str "port", .str "636")]) =
        .ok (put (put {} .hosts (.list [.str "a", .str "b"])) .port (.int 636)) := rfl
  have hreached := (Reached.made hmade).set (.str "timeout") (.bool true)
  exact ⟨hreached, rfl, reached_isFixed hreached⟩

/-- The validator of the hosts gives another value than the one that is stored. -/
theorem hosts_given_as_tuple :
    ¬ ∀ config, Reached config → ∀ name : OptionName, ∃ given,
      name.validator.apply (config.value name) = .ok given ∧
        given.same (config.value name) = true := by
  intro h
  have hempty : ofOptions .null = .ok {} := rfl
  obtain ⟨given, hgiven, hsame⟩ := h {} (.made hempty) .hosts
  have htuple : given = .tuple [] := (Except.ok.inj hgiven).symm
  have hlist : ({} : Configuration).value .hosts = .list [] := rfl
  rw [htuple, hlist] at hsame
  simp [Value.same, Value.alike, Value.sameNumber?, Value.asInt?] at hsame

end Configuration

end Directory
