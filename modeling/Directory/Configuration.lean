import Directory.Validator
import Directory.Value.Text

/-!
# Configuration

The options of a connection. Every option has a default and a validator; setting an option to a
value that the validator refuses leaves the configuration as it was.
-/

namespace Directory

/-- The options. -/
inductive OptionName where
  | hosts
  | port
  | baseName
  | username
  | password
  | useSsl
  | useTls
  | version
  | timeout
  | followReferrals
  | options
deriving DecidableEq, Repr

namespace OptionName

/-- The options in their order. -/
def all : List OptionName :=
  [.hosts, .port, .baseName, .username, .password, .useSsl, .useTls, .version, .timeout,
    .followReferrals, .options]

/-- Every option is listed. -/
theorem mem_all (name : OptionName) : name ∈ all := by
  cases name <;> simp [all]

/-- The key of an option. -/
def key : OptionName → String
  | .hosts => "hosts"
  | .port => "port"
  | .baseName => "base_dn"
  | .username => "username"
  | .password => "password"
  | .useSsl => "use_ssl"
  | .useTls => "use_tls"
  | .version => "version"
  | .timeout => "timeout"
  | .followReferrals => "follow_referrals"
  | .options => "options"

/-- The option that a value is the key of. A value that cannot be a key is refused. -/
def ofValue? (value : Value) : Except Failure (Option OptionName) := do
  let value ← value.requireKey
  return all.find? fun name => value.isStr name.key

/-- The value of an option that was never set. -/
def default : OptionName → Value
  | .hosts => .list []
  | .port => .int 389
  | .baseName => .str ""
  | .username => .null
  | .password => .null
  | .useSsl => .bool false
  | .useTls => .bool false
  | .version => .int 3
  | .timeout => .int 5
  | .followReferrals => .bool false
  | .options => .dict []

/-- The validator of an option. -/
def validator : OptionName → Validator
  | .hosts => .chain [.isList "Option [hosts] must be a list",
      .each (.chain [.isString "Option [hosts] must only contain strings",
        .notEmpty "Option [hosts] must not contain empty hosts"]) Validator.eachText]
  | .port => .isInteger "Option [port] must be an integer"
  | .baseName => .isString "Option [base_dn] must be a string"
  | .username => .optional (.isString "Option [username] must be a string")
  | .password => .optional (.isString "Option [password] must be a string")
  | .useSsl => .isBoolean "Option [use_ssl] must be a boolean"
  | .useTls => .isBoolean "Option [use_tls] must be a boolean"
  | .version => .isInteger "Option [version] must be an integer"
  | .timeout => .isInteger "Option [timeout] must be an integer"
  | .followReferrals => .isBoolean "Option [follow_referrals] must be a boolean"
  | .options => .isMapping "Option [options] must be a dictionary"

end OptionName

/-- A configuration: a value for every option. -/
structure Configuration where
  value : OptionName → Value := OptionName.default

namespace Configuration

/-- The options with their values, in order. -/
def all (config : Configuration) : List (Value × Value) :=
  OptionName.all.map fun name => (.str name.key, config.value name)

/-- The refusal of a key that is no option. -/
def unknownOption (key : Value) : Except Failure α := do
  throw (Refusal.unknownOption (← key.text)).toFailure

/-- Give an option a value without checking it. -/
def put (config : Configuration) (name : OptionName) (value : Value) : Configuration :=
  ⟨fun other => if other = name then value else config.value other⟩

/-- The value that is stored for a value that is set. A refusal by the validator becomes one of the
configuration. -/
def checked (name : OptionName) (value : Value) : Except Failure Value :=
  match name.validator.apply value with
  | .ok (.tuple items) => .ok (.list items)
  | .ok value => .ok value
  | .error failure =>
    if failure.isA .wrongType || failure.isA .wrongValue then
      .error (Refusal.invalidOption failure.report).toFailure
    else .error failure

/-- Set an option. -/
def set (config : Configuration) (key value : Value) : Except Failure Configuration := do
  match ← OptionName.ofValue? key with
  | some name => return config.put name (← checked name value)
  | none => unknownOption key

/-- The value of an option. -/
def get (config : Configuration) (key : Value) : Except Failure Value := do
  match ← OptionName.ofValue? key with
  | some name => return config.value name
  | none => unknownOption key

/-- A key is that of an option. -/
def has (key : Value) : Except Failure Bool :=
  return (← OptionName.ofValue? key).isSome

/-- Set several options, in order. -/
def setAll (config : Configuration) : List (Value × Value) → Except Failure Configuration
  | [] => .ok config
  | (key, value) :: entries => do
    let config ← config.set key value
    config.setAll entries

/-- A configuration with the given options set. Nothing is the same as no options. -/
def ofOptions (options : Value) : Except Failure Configuration := do
  if options.isTrue then
    Configuration.setAll {} (← options.entries)
  else return {}

/-- The configured hosts. -/
def hosts (config : Configuration) : List Value :=
  match config.value .hosts with
  | .list hosts => hosts
  | _ => []

/-- A value that is shared is changed for all who hold it: append to the list that an option has as
its value. -/
def append (config : Configuration) (key value : Value) : Except Failure Configuration := do
  match ← OptionName.ofValue? key with
  | some name =>
    match config.value name with
    | .list items => return config.put name (.list (items ++ [value]))
    | _ => throw (Failure.misuse .unknownMember)
  | none => unknownOption key

end Configuration

end Directory
