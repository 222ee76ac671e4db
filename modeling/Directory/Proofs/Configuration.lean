import Directory.Proofs.Connection.Session
import Directory.Proofs.Transport.Operations
import Directory.Proofs.Value.Fault

/-!
# Setting options

An option is set to what it admits of a value, and everything else stays as it is, or the
configuration refuses, and everything stays as it is. Only an infinite number for an option that
takes integers is neither: it is not refused, but overflows (`setting_settles_iff`).
-/

namespace Directory

open Directory.Action

/-! ## Refusals -/

/-- A failure by which a validator refuses a value. -/
def Failure.IsRefusal (failure : Failure) : Prop :=
  (failure.isA .wrongType || failure.isA .wrongValue) = true

/-- A refusal by a configuration. -/
def Failure.IsConfiguration (failure : Failure) : Prop :=
  failure.kind = .configuration

/-- A number beyond all finite ones. -/
def Binary64.isInfinite (x : Binary64) : Bool :=
  !x.isFinite && !x.isNaN

namespace Value

/-- An infinite number overflows where an integer is asked for. -/
theorem toInt_of_isInfinite {x : Binary64} (h : x.isInfinite = true) :
    (float x).toInt = .error (Failure.misuse .overflow) := by
  obtain ⟨hfinite, hnan⟩ : x.isFinite = false ∧ x.isNaN = false := by
    simpa [Binary64.isInfinite] using h
  simp [toInt, hfinite, hnan]

/-- Every other value that stands for no integer is refused. -/
theorem failsByRefusal_toInt {value : Value} (h : ∀ x, value = float x → x.isInfinite = false) :
    FailsBy Failure.IsRefusal value.toInt := by
  have helim (n? : Option Int) :
      FailsBy Failure.IsRefusal (n?.elim (.error Failure.wrongValue) .ok) := by
    cases n? with
    | none => exact .error rfl
    | some n => exact .ok n
  cases value with
  | bool b | int n => exact .ok _
  | float x =>
      have hinfinite := h x rfl
      by_cases hfinite : x.isFinite = true
      · simp only [toInt, hfinite, if_true]
        exact .ok _
      · have hnan : x.isNaN = true := by simpa [Binary64.isInfinite, hfinite] using hinfinite
        simp only [toInt, hfinite, hnan, if_true]
        exact .error rfl
  | str s => exact helim (intOfText? s)
  | bytes bs => exact helim (intOfBytes? bs)
  | _ => exact .error rfl

end Value

namespace Validator

/-! ## Validators -/

mutual

/-- The validator, or one that it is made of, is for integers. -/
def takesIntegers : Validator → Bool
  | .isInteger _ => true
  | .each inner _ | .optional inner => inner.takesIntegers
  | .chain validators => anyTakesIntegers validators
  | _ => false

/-- One of the validators takes integers. -/
def anyTakesIntegers : List Validator → Bool
  | [] => false
  | validator :: validators => validator.takesIntegers || anyTakesIntegers validators

end

theorem failsByRefusal_refuse {α : Type} (text : String) :
    FailsBy Failure.IsRefusal (refuse text : Except Failure α) :=
  .error rfl

theorem failsByRefusal_members (value : Value) (text : String) :
    FailsBy Failure.IsRefusal (members value text) := by
  unfold members
  split
  · exact .error rfl
  · exact .error rfl
  · cases value.items? with
    | none => exact .error rfl
    | some items => exact .ok items

mutual

/-- A validator that takes no integers refuses what it does not pass. -/
theorem failsByRefusal_apply : ∀ (validator : Validator) (value : Value),
    validator.takesIntegers = false → FailsBy Failure.IsRefusal (validator.apply value)
  | .notEmpty text, value, _ => by
    rw [apply]
    split
    · exact failsByRefusal_refuse text
    · exact .ok value
  | .each inner text, value, h => by
    rw [takesIntegers] at h
    rw [apply]
    exact .bind (failsByRefusal_members value text) fun items =>
      .bind (.mapM fun item => failsByRefusal_apply inner item h) fun _ => .ok _
  | .isInteger _, _, h => by cases h
  | .isBoolean text, value, _ | .isString text, value, _ | .isList text, value, _
  | .isMapping text, value, _ => by
    unfold apply
    split
    all_goals first | exact .ok _ | exact failsByRefusal_refuse text
  | .optional inner, value, h => by
    rw [takesIntegers] at h
    unfold apply
    split
    · exact .ok _
    · exact failsByRefusal_apply inner value h
  | .chain validators, value, h => by
    rw [takesIntegers] at h
    rw [apply]
    exact failsByRefusal_applyAll validators value h

theorem failsByRefusal_applyAll : ∀ (validators : List Validator) (value : Value),
    anyTakesIntegers validators = false → FailsBy Failure.IsRefusal (applyAll validators value)
  | [], value, _ => by
    rw [applyAll]
    exact .ok value
  | validator :: validators, value, h => by
    rw [anyTakesIntegers, Bool.or_eq_false_iff] at h
    rw [applyAll]
    exact .bind (failsByRefusal_apply validator value h.1) fun between =>
      failsByRefusal_applyAll validators between h.2

end

/-- The check of a single host. -/
def host : Validator :=
  .chain [.isString "Option [hosts] must only contain strings",
    .notEmpty "Option [hosts] must not contain empty hosts"]

theorem apply_host_eq_ok_iff {value stored : Value} :
    host.apply value = .ok stored ↔
      (∃ hostname, value = .str hostname ∧ hostname ≠ "") ∧ value = stored := by
  cases value with
  | str hostname =>
      simp only [host, apply, applyAll, bind, Except.bind]
      by_cases hempty : hostname = ""
      · simp [isEmpty, Value.items?, Value.isTrue, hempty, refuse]
      · simp [isEmpty, Value.items?, Value.isTrue, hempty]
  | _ => simp [host, apply, applyAll, bind, Except.bind, refuse]

/-- Hosts pass just if each of them does, and are given back as they are. -/
theorem mapM_host_eq_ok_iff {items stored : List Value} :
    (items.mapM fun item => host.apply item) = .ok stored ↔
      (∀ item ∈ items, ∃ hostname, item = .str hostname ∧ hostname ≠ "") ∧ items = stored := by
  induction items generalizing stored with
  | nil => simp [pure, Except.pure]
  | cons item items ih =>
      rw [List.mapM_cons, List.forall_mem_cons]
      constructor
      · intro h
        obtain ⟨first, hfirst, h⟩ := exists_of_bind_eq_ok h
        obtain ⟨rest, hrest, h⟩ := exists_of_bind_eq_ok h
        obtain ⟨hname, rfl⟩ := apply_host_eq_ok_iff.1 hfirst
        obtain ⟨hnames, rfl⟩ := ih.1 hrest
        exact ⟨⟨hname, hnames⟩, Except.ok.inj h⟩
      · rintro ⟨⟨hname, hnames⟩, rfl⟩
        rw [apply_host_eq_ok_iff.2 ⟨hname, rfl⟩, ih.2 ⟨hnames, rfl⟩]
        rfl

/-- An integer passes just if the value stands for one, and is no truth value. -/
theorem integer_eq_ok_iff {value stored : Value} {text : String} :
    integer value text = .ok stored ↔
      (∀ b, value ≠ .bool b) ∧ ∃ n, value.toInt = .ok n ∧ stored = .int n := by
  have hplain (hbool : ∀ b, value ≠ .bool b) :
      integer value text = .ok stored ↔ ∃ n, value.toInt = .ok n ∧ stored = .int n := by
    rw [integer]
    · cases hn : value.toInt with
      | ok n => simp [eq_comm]
      | error failure => dsimp only; split <;> simp [refuse]
    · exact hbool
  cases value with
  | bool b => simp [integer, refuse]
  | _ => simp [hplain]

theorem integer_of_isInfinite {x : Binary64} (h : x.isInfinite = true) (text : String) :
    integer (.float x) text = .error (Failure.misuse .overflow) := by
  simp only [integer, Value.toInt_of_isInfinite h]
  rfl

theorem failsByRefusal_integer {value : Value}
    (h : ∀ x, value = .float x → x.isInfinite = false) (text : String) :
    FailsBy Failure.IsRefusal (integer value text) := by
  unfold integer
  split
  · exact failsByRefusal_refuse text
  · cases hn : value.toInt with
    | ok n => exact .ok _
    | error failure =>
        have hrefusal := Value.failsByRefusal_toInt h failure hn
        rw [Failure.IsRefusal] at hrefusal
        simp only [hrefusal, if_true]
        exact failsByRefusal_refuse text

end Validator

/-! ## Values of options -/

namespace OptionName

/-- An option that takes integers. -/
def isNumeric : OptionName → Bool
  | .port | .version | .timeout => true
  | _ => false

/-- An option admits a value, and what is stored for it. Hosts are texts that are not empty, in a
list or in a tuple, and an integer is given by any number or numeral but not by a truth value. -/
def Admits (name : OptionName) (value stored : Value) : Prop :=
  match name with
  | .hosts => ∃ items, (value = .list items ∨ value = .tuple items) ∧
      (∀ item ∈ items, ∃ hostname, item = .str hostname ∧ hostname ≠ "") ∧ stored = .list items
  | .port | .version | .timeout =>
      (∀ b, value ≠ .bool b) ∧ ∃ n, value.toInt = .ok n ∧ stored = .int n
  | .baseName => (∃ s, value = .str s) ∧ stored = value
  | .username | .password => (value = .null ∨ ∃ s, value = .str s) ∧ stored = value
  | .useSsl | .useTls | .followReferrals => (∃ b, value = .bool b) ∧ stored = value
  | .options => (∃ entries, value = .dict entries) ∧ stored = value

/-- An infinite number is given for an option that takes integers. -/
def Overflows (name : OptionName) (value : Value) : Prop :=
  name.isNumeric = true ∧ ∃ x, value = .float x ∧ x.isInfinite = true

theorem exists_validator_of_isNumeric {name : OptionName} (h : name.isNumeric = true) :
    ∃ text, name.validator = .isInteger text := by
  cases name <;> first | exact ⟨_, rfl⟩ | cases h

theorem takesIntegers_validator (name : OptionName) :
    name.validator.takesIntegers = name.isNumeric := by
  cases name <;> rfl

theorem key_inj {name other : OptionName} : name.key = other.key ↔ name = other := by
  refine ⟨fun h => ?_, fun h => h ▸ rfl⟩
  cases name <;> cases other <;> first | rfl | exact absurd h (by decide)

theorem ofValue?_key (name : OptionName) : ofValue? (.str name.key) = .ok (some name) := by
  cases name <;> rfl

theorem ofValue?_of_unknown {key : String} (h : ∀ name : OptionName, name.key ≠ key) :
    ofValue? (.str key) = .ok none := by
  have hnone : all.find? (fun name => (Value.str key).isStr name.key) = none := by
    rw [List.find?_eq_none]
    intro name _ hname
    exact h name (Value.str.inj (Value.eq_of_isStr hname)).symm
  exact congrArg Except.ok hnone

end OptionName

namespace Configuration

variable {config changed : Configuration} {name : OptionName} {key : String} {value stored : Value}

/-! ## Checks -/

/-- What a validator gives is stored, a tuple as a list. -/
def storedOf : Value → Value
  | .tuple items => .list items
  | value => value

theorem checked_eq_ok_iff_exists :
    checked name value = .ok stored ↔
      ∃ given, name.validator.apply value = .ok given ∧ storedOf given = stored := by
  unfold checked
  cases name.validator.apply value with
  | error failure => dsimp only; split <;> simp
  | ok given => cases given <;> simp [storedOf]

/-- Hosts are checked one by one, in a list or in a tuple. -/
theorem apply_hosts (value : Value) :
    OptionName.hosts.validator.apply value =
      match value with
      | .list items | .tuple items => (items.mapM Validator.host.apply).map .tuple
      | _ => Validator.refuse "Option [hosts] must be a list" := by
  have hitems (items : List Value) :
      Validator.applyAll [.each Validator.host Validator.eachText] (.list items) =
        (items.mapM Validator.host.apply).map .tuple := by
    simp only [Validator.applyAll, Validator.apply, Validator.members, Value.items?, Option.elim,
      bind, Except.bind]
    cases items.mapM Validator.host.apply <;> rfl
  cases value with
  | list items | tuple items => exact hitems items
  | _ => rfl

theorem checked_hosts_eq_ok_iff :
    checked .hosts value = .ok stored ↔ OptionName.hosts.Admits value stored := by
  have hpasses (items : List Value) :
      (∃ given, (items.mapM Validator.host.apply).map Value.tuple = .ok given ∧
        storedOf given = stored) ↔
      (∀ item ∈ items, ∃ hostname, item = .str hostname ∧ hostname ≠ "") ∧
        stored = .list items := by
    constructor
    · rintro ⟨given, hgiven, rfl⟩
      cases hm : items.mapM Validator.host.apply with
      | error failure => rw [hm] at hgiven; cases hgiven
      | ok passed =>
          rw [hm] at hgiven
          cases hgiven
          obtain ⟨hnames, rfl⟩ := Validator.mapM_host_eq_ok_iff.1 hm
          exact ⟨hnames, rfl⟩
    · rintro ⟨hnames, rfl⟩
      refine ⟨.tuple items, ?_, rfl⟩
      rw [Validator.mapM_host_eq_ok_iff.2 ⟨hnames, rfl⟩]
      rfl
  rw [checked_eq_ok_iff_exists, apply_hosts]
  cases value with
  | list items | tuple items => simp [hpasses, OptionName.Admits]
  | _ => simp [OptionName.Admits, Validator.refuse]

theorem checked_integer_eq_ok_iff {text : String} (h : name.validator = .isInteger text) :
    checked name value = .ok stored ↔
      (∀ b, value ≠ .bool b) ∧ ∃ n, value.toInt = .ok n ∧ stored = .int n := by
  rw [checked_eq_ok_iff_exists, h]
  simp only [Validator.apply, Validator.integer_eq_ok_iff]
  constructor
  · rintro ⟨_, ⟨hbool, n, hn, rfl⟩, rfl⟩
    exact ⟨hbool, n, hn, rfl⟩
  · rintro ⟨hbool, n, hn, rfl⟩
    exact ⟨.int n, ⟨hbool, n, hn, rfl⟩, rfl⟩

/-- A check stores just what the option admits. -/
theorem checked_eq_ok_iff : checked name value = .ok stored ↔ name.Admits value stored := by
  cases name with
  | hosts => exact checked_hosts_eq_ok_iff
  | port | version | timeout => exact checked_integer_eq_ok_iff rfl
  | _ =>
      -- The other validators look at no more than the constructor, and give a value back as it is.
      rw [checked_eq_ok_iff_exists]
      cases value <;>
        simp [OptionName.validator, OptionName.Admits, Validator.apply, Validator.refuse, storedOf,
          eq_comm]

/-- What a validator refuses, the configuration refuses. -/
theorem failsByConfiguration_checked_of
    (h : FailsBy Failure.IsRefusal (name.validator.apply value)) :
    FailsBy Failure.IsConfiguration (checked name value) := by
  unfold checked
  cases hgiven : name.validator.apply value with
  | ok given => cases given <;> exact .ok _
  | error reason =>
      have hrefusal := h reason hgiven
      rw [Failure.IsRefusal] at hrefusal
      simp only [hrefusal, if_true]
      exact .error rfl

/-- A check refuses every value that the option does not admit, but for an infinite number where an
integer is asked for. -/
theorem failsByConfiguration_checked_iff :
    FailsBy Failure.IsConfiguration (checked name value) ↔ ¬ name.Overflows value := by
  constructor
  · rintro h ⟨hnumeric, x, rfl, hinfinite⟩
    obtain ⟨text, hvalidator⟩ := OptionName.exists_validator_of_isNumeric hnumeric
    have hoverflow : checked name (.float x) = .error (Failure.misuse .overflow) := by
      unfold checked
      rw [hvalidator, Validator.apply, Validator.integer_of_isInfinite hinfinite]
      rfl
    exact nomatch h _ hoverflow
  · intro h
    apply failsByConfiguration_checked_of
    cases hnumeric : name.isNumeric with
    | true =>
        obtain ⟨text, hvalidator⟩ := OptionName.exists_validator_of_isNumeric hnumeric
        rw [hvalidator, Validator.apply]
        refine Validator.failsByRefusal_integer (fun x hx => ?_) text
        exact Bool.eq_false_iff.2 fun hinfinite => h ⟨hnumeric, x, hx, hinfinite⟩
    | false =>
        exact Validator.failsByRefusal_apply _ value
          ((OptionName.takesIntegers_validator name).trans hnumeric)

/-! ## Setting -/

/-- The option with a key admits a value, and what is stored for it. -/
def Admits (key : String) (value : Value) (name : OptionName) (stored : Value) : Prop :=
  name.key = key ∧ name.Admits value stored

/-- An infinite number is given under the key of an option that takes integers. -/
def Overflows (key : String) (value : Value) : Prop :=
  ∃ name : OptionName, name.key = key ∧ name.Overflows value

theorem set_key (config : Configuration) (name : OptionName) (value : Value) :
    config.set (.str name.key) value = config.put name <$> checked name value := by
  unfold set
  rw [OptionName.ofValue?_key, map_eq_pure_bind]
  rfl

theorem set_of_unknown (h : ∀ name : OptionName, name.key ≠ key) :
    config.set (.str key) value = .error (Refusal.unknownOption key).toFailure := by
  unfold set
  rw [OptionName.ofValue?_of_unknown h]
  rfl

/-- Options are set to what they admit. -/
theorem set_eq_ok_iff :
    config.set (.str key) value = .ok changed ↔
      ∃ name stored, Admits key value name stored ∧ changed = config.put name stored := by
  by_cases hknown : ∃ name : OptionName, name.key = key
  · obtain ⟨name, rfl⟩ := hknown
    have hadmits (other : OptionName) (stored : Value) :
        Admits name.key value other stored ↔ other = name ∧ checked name value = .ok stored := by
      rw [Admits, OptionName.key_inj, checked_eq_ok_iff]
      exact and_congr_right fun h => h ▸ Iff.rfl
    simp only [set_key, hadmits]
    cases checked name value with
    | error failure => simp [Functor.map, Except.map]
    | ok given => simp [Functor.map, Except.map, eq_comm]
  · have hunknown := not_exists.1 hknown
    rw [set_of_unknown hunknown]
    refine iff_of_false (fun h => by cases h) ?_
    rintro ⟨name, stored, hadmits, -⟩
    exact hunknown name hadmits.1

/-- A configuration that can be set has an option set to what it admits, whatever the key. -/
theorem exists_of_set_eq_ok {key value : Value} (h : config.set key value = .ok changed) :
    ∃ name stored, name.Admits value stored ∧ changed = config.put name stored := by
  obtain ⟨name?, -, h⟩ := exists_of_bind_eq_ok h
  cases name? with
  | none =>
      obtain ⟨text, -, h⟩ := exists_of_bind_eq_ok h
      cases h
  | some name =>
      obtain ⟨stored, hchecked, h⟩ := exists_of_bind_eq_ok h
      cases h
      exact ⟨name, stored, checked_eq_ok_iff.1 hchecked, rfl⟩

/-- A key that is no option is refused, and so is every value that an option does not admit but for
an infinite number where an integer is asked for. -/
theorem failsByConfiguration_set_iff :
    FailsBy Failure.IsConfiguration (config.set (.str key) value) ↔ ¬ Overflows key value := by
  by_cases hknown : ∃ name : OptionName, name.key = key
  · obtain ⟨name, rfl⟩ := hknown
    have hoverflows : Overflows name.key value ↔ name.Overflows value := by
      simp [Overflows, OptionName.key_inj]
    rw [hoverflows, set_key, FailsBy.map_iff, failsByConfiguration_checked_iff]
  · have hunknown := not_exists.1 hknown
    rw [set_of_unknown hunknown]
    refine iff_of_true (.error rfl) ?_
    rintro ⟨name, hkey, -⟩
    exact hunknown name hkey

theorem not_overflows_of_admits (h : Admits key value name stored) : ¬ Overflows key value := by
  have hset : ({} : Configuration).set (.str key) value = .ok (put {} name stored) :=
    set_eq_ok_iff.2 ⟨name, stored, h, rfl⟩
  refine failsByConfiguration_set_iff.1 (?_ : FailsBy _ (({} : Configuration).set _ _))
  rw [hset]
  exact .ok _

/-! ## Setting several options -/

/-- Options as the entries of a dictionary. -/
def entriesOf (options : List (String × Value)) : List (Value × Value) :=
  options.map fun entry => (.str entry.1, entry.2)

/-- The first option that is not admitted is given an infinite number in place of an integer. -/
def FirstFaultOverflows (options : List (String × Value)) : Prop :=
  ∃ earlier key value later, options = earlier ++ (key, value) :: later ∧
    (∀ entry ∈ earlier, ∃ name stored, Admits entry.1 entry.2 name stored) ∧ Overflows key value

theorem not_firstFaultOverflows_nil : ¬ FirstFaultOverflows [] := by
  rintro ⟨earlier, key, value, later, heq, -⟩
  simp at heq

theorem firstFaultOverflows_cons {options : List (String × Value)} :
    FirstFaultOverflows ((key, value) :: options) ↔
      Overflows key value ∨
        (∃ name stored, Admits key value name stored) ∧ FirstFaultOverflows options := by
  constructor
  · rintro ⟨earlier, otherKey, other, later, heq, hearlier, hoverflows⟩
    cases earlier with
    | nil =>
        cases heq
        exact .inl hoverflows
    | cons entry earlier =>
        cases heq
        rw [List.forall_mem_cons] at hearlier
        exact .inr ⟨hearlier.1, earlier, otherKey, other, later, rfl, hearlier.2, hoverflows⟩
  · rintro (hoverflows | ⟨hadmits, earlier, otherKey, other, later, rfl, hearlier, hoverflows⟩)
    · exact ⟨[], key, value, options, rfl, by simp, hoverflows⟩
    · exact ⟨(key, value) :: earlier, otherKey, other, later, rfl,
        List.forall_mem_cons.2 ⟨hadmits, hearlier⟩, hoverflows⟩

/-- Options are set one after the other, up to the first that is not admitted. -/
theorem failsByConfiguration_setAll_iff (options : List (String × Value)) :
    FailsBy Failure.IsConfiguration (config.setAll (entriesOf options)) ↔
      ¬ FirstFaultOverflows options := by
  induction options generalizing config with
  | nil => exact iff_of_true (.ok _) not_firstFaultOverflows_nil
  | cons entry options ih =>
      obtain ⟨key, value⟩ := entry
      have hsteps : config.setAll (entriesOf ((key, value) :: options)) =
          config.set (.str key) value >>= fun changed => changed.setAll (entriesOf options) := rfl
      rw [hsteps, firstFaultOverflows_cons]
      cases hset : config.set (.str key) value with
      | ok changed =>
          obtain ⟨name, stored, hadmits, -⟩ := set_eq_ok_iff.1 hset
          simp only [not_overflows_of_admits hadmits, false_or,
            (⟨name, stored, hadmits⟩ : ∃ name stored, Admits key value name stored), true_and]
          exact ih
      | error failure =>
          have hnone : ¬ ∃ name stored, Admits key value name stored := by
            rintro ⟨name, stored, hadmits⟩
            exact nomatch hset.symm.trans (set_eq_ok_iff.2 ⟨name, stored, hadmits, rfl⟩)
          simp only [hnone, false_and, or_false]
          have hset_iff : FailsBy Failure.IsConfiguration (config.set (.str key) value) ↔
              ¬ Overflows key value := failsByConfiguration_set_iff
          rw [← hset_iff, hset]
          rfl

/-- A configuration is made from options, if there are any, by setting them. -/
theorem ofOptions_eq (options : Option (List (String × Value))) :
    ofOptions (options.elim .null fun options => .dict (entriesOf options)) =
      setAll {} (entriesOf (options.getD [])) := by
  match options with
  | none => rfl
  | some [] => rfl
  | some (entry :: options) => rfl

end Configuration

/-! ## What comes of setting an option -/

namespace Connection

/-- An option is set to what it admits of the value, and nothing else changes. -/
def StoresOption (key : String) (value : Value) (start : Connection × World) : Prop :=
  ∃ name stored, Configuration.Admits key value name stored ∧
    exec (setOption (.str key) value) start =
      (.ok (), ({ start.1 with configuration := start.1.configuration.put name stored }, start.2))

/-- The configuration refuses, and nothing changes. -/
def RefusesOption (key : String) (value : Value) (start : Connection × World) : Prop :=
  ∃ failure, failure.IsConfiguration ∧
    exec (setOption (.str key) value) start = (.error failure, start)

theorem exec_setOption (key value : Value) (start : Connection × World) :
    exec (setOption key value) start =
      match start.1.configuration.set key value with
      | .ok configuration => (.ok (), ({ start.1 with configuration }, start.2))
      | .error failure => (.error failure, start) := by
  unfold setOption
  rw [exec_bind, exec_state]
  dsimp only
  rw [exec_bind, exec_lift]
  cases start.1.configuration.set key value <;> rfl

theorem stores_or_refuses_iff {key : String} {value : Value} {start : Connection × World} :
    StoresOption key value start ∨ RefusesOption key value start ↔
      FailsBy Failure.IsConfiguration (start.1.configuration.set (.str key) value) := by
  unfold StoresOption RefusesOption
  rw [exec_setOption]
  cases hset : start.1.configuration.set (.str key) value with
  | ok changed =>
      obtain ⟨name, stored, hadmits, rfl⟩ := Configuration.set_eq_ok_iff.1 hset
      exact iff_of_true (.inl ⟨name, stored, hadmits, rfl⟩) (.ok _)
  | error failure =>
      constructor
      · rintro (⟨_, _, _, h⟩ | ⟨_, hconfiguration, h⟩)
        · cases h
        · cases h
          exact .error hconfiguration
      · exact fun h => .inr ⟨failure, h failure rfl, rfl⟩

/-- An option is set to what it admits of the value, with nothing else changed, or the
configuration refuses, with nothing changed, unless an infinite number is given for an option that
takes integers. Options that a configuration is made from fare alike: it is made, or refuses, unless
the first of them that is not admitted is given such a number. -/
theorem setting_settles_iff (start : Connection × World) (key : String) (value : Value)
    (options : Option (List (String × Value))) :
    (StoresOption key value start ∨ RefusesOption key value start ↔
      ¬ Configuration.Overflows key value) ∧
    (FailsBy Failure.IsConfiguration (Configuration.ofOptions
        (options.elim .null fun options => .dict (Configuration.entriesOf options))) ↔
      ¬ Configuration.FirstFaultOverflows (options.getD [])) := by
  rw [stores_or_refuses_iff, Configuration.ofOptions_eq]
  exact ⟨Configuration.failsByConfiguration_set_iff,
    Configuration.failsByConfiguration_setAll_iff _⟩

/-- An infinite port is neither stored nor refused. -/
theorem infinite_port_overflows :
    ¬ (StoresOption "port" (.float (.infinity false)) (default, {}) ∨
      RefusesOption "port" (.float (.infinity false)) (default, {})) := by
  rw [stores_or_refuses_iff, Configuration.failsByConfiguration_set_iff, not_not]
  exact ⟨.port, rfl, rfl, .infinity false, rfl, by decide⟩

end Connection

end Directory
