import Directory.Value.Access

/-!
# Validators

A validator checks a value and gives it back, possibly converted. A value that does not pass is
refused with the validator's own words.
-/

namespace Directory

/-- A check on a value. The text is what a refusal says. -/
inductive Validator where
  | notEmpty (text : String)
  | each (validator : Validator) (text : String)
  | isInteger (text : String)
  | isBoolean (text : String)
  | isString (text : String)
  | isList (text : String)
  | isMapping (text : String)
  | optional (validator : Validator)
  | chain (validators : List Validator)

namespace Validator

/-- The words of a refusal where none are given. -/
def notEmptyText : String := "Field must not be empty"

@[inherit_doc notEmptyText]
def eachText : String := "Value must be iterable"

@[inherit_doc notEmptyText]
def isIntegerText : String := "Value must be an integer"

@[inherit_doc notEmptyText]
def isBooleanText : String := "Value must be a boolean"

@[inherit_doc notEmptyText]
def isStringText : String := "Value must be a string"

@[inherit_doc notEmptyText]
def isListText : String := "Value must be a list"

@[inherit_doc notEmptyText]
def isMappingText : String := "Value must be a dictionary"

/-- The validators without parts, by name, each with its words where none are given. -/
def plain : List (String × (String → Validator) × String) :=
  [("not_empty", .notEmpty, notEmptyText), ("is_integer", .isInteger, isIntegerText),
    ("is_boolean", .isBoolean, isBooleanText), ("is_string", .isString, isStringText),
    ("is_list", .isList, isListText), ("is_mapping", .isMapping, isMappingText)]

/-- The refusal of a value. -/
def refuse (text : String) : Except Failure α :=
  .error { kind := .wrongValue, text := some text }

/-- A value that is null, or has members and has none. -/
def isEmpty (value : Value) : Bool :=
  match value with
  | .null => true
  | value => value.items?.isSome && !value.isTrue

/-- The members of a value that is checked member by member. Texts and bytes are not. -/
def members (value : Value) (text : String) : Except Failure (List Value) :=
  let refusal : Failure := { kind := .wrongType, text := some text }
  match value with
  | .str _ | .bytes _ => .error refusal
  | value => value.items?.elim (.error refusal) .ok

/-- The integer that a value stands for. A truth value stands for none. -/
def integer (value : Value) (text : String) : Except Failure Value :=
  match value with
  | .bool _ => refuse text
  | value =>
    match value.toInt with
    | .ok n => .ok (.int n)
    | .error failure =>
      if failure.isA .wrongType || failure.isA .wrongValue then refuse text else .error failure

mutual

/-- Check a value and give it back, possibly converted. -/
def apply (validator : Validator) (value : Value) : Except Failure Value :=
  match validator with
  | .notEmpty text => if isEmpty value then refuse text else .ok value
  | .each inner text => do
    let values ← members value text
    return .tuple (← values.mapM fun value => inner.apply value)
  | .isInteger text => integer value text
  | .isBoolean text =>
    match value with
    | .bool b => .ok (.bool b)
    | _ => refuse text
  | .isString text =>
    match value with
    | .str s => .ok (.str s)
    | _ => refuse text
  | .isList text =>
    match value with
    | .list items | .tuple items => .ok (.list items)
    | _ => refuse text
  | .isMapping text =>
    match value with
    | .dict entries => .ok (.dict entries)
    | _ => refuse text
  | .optional inner =>
    match value with
    | .null => .ok .null
    | value => inner.apply value
  | .chain validators => applyAll validators value

/-- Apply validators in turn, each to what the one before gave. -/
def applyAll (validators : List Validator) (value : Value) : Except Failure Value :=
  match validators with
  | [] => .ok value
  | validator :: validators => do
    let value ← validator.apply value
    applyAll validators value

end

end Validator

end Directory
