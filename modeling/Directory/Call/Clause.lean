import Directory.Call.Basic
import Directory.Query.Builder

/-!
# Calls on query builders

The clauses by the names under which a builder is called. A name that ends in that of an operator
stands for a criterion with that operator; a name that begins with `or_` adds an alternative.
-/

namespace Directory.Clause

/-- The operators that a call can be named for. -/
def operatorNames : List (String × Operator) :=
  [("equals", .equals), ("not_equals", .bang), ("approximately_equals", .approximately),
    ("has", .has), ("not_has", .notHas), ("contains", .contains), ("not_contains", .notContains),
    ("starts_with", .startsWith), ("not_starts_with", .notStartsWith), ("ends_with", .endsWith),
    ("not_ends_with", .notEndsWith)]

/-- The bucket in the name of a call, and the name without it. -/
def bucketOf (name : String) : Bucket × String :=
  match name.toList with
  | 'o' :: 'r' :: '_' :: rest => (.any, String.ofList rest)
  | _ => (.all, name)

/-- The operator that a call is named for. -/
def operatorOf? (name : String) : Option Operator :=
  (operatorNames.find? fun entry => "where_" ++ entry.1 = (bucketOf name).2).map Prod.snd

/-- The criterion with an operator that a call stands for. -/
def ofOperator (op : Operator) (call : Call) : Except Failure Clause := do
  let bucket := Value.str (bucketOf call.name).1.name
  let no := Value.bool false
  if op.isPresence then
    match ← call.arguments ["attribute"] with
    | [attr] => return .where_ attr (some (.str op.token)) none bucket no
    | _ => throw Failure.wrongType
  else
    match ← call.arguments ["attribute", "value"] with
    | [attr, value] => return .where_ attr (some (.str op.token)) (some value) bucket no
    | _ => throw Failure.wrongType

/-- A clause with one argument. -/
def ofOne (call : Call) (param : String) (make : Value → Clause) : Except Failure Clause := do
  match ← call.arguments [param] with
  | [value] => return make value
  | _ => throw Failure.wrongType

/-- A clause without arguments. -/
def ofNone (call : Call) (clause : Clause) : Except Failure Clause := do
  let _ ← call.arguments []
  return clause

/-- The clause that a call stands for. The inner clauses are for the builder that the call gives.
What a builder has, but does not do, cannot be called. -/
def ofCallNamed (call : Call) (inner : List Clause) : Except Failure Clause := do
  let bucket := Value.str (bucketOf call.name).1.name
  match call.name with
  | "where" =>
    match ← call.given ["attribute", "operator", "value", "boolean", "raw"] with
    | [some attr, operator, value, boolean, raw] =>
      return .where_ attr operator value (boolean.getD bucket) (raw.getD (.bool false))
    | _ => throw Failure.wrongType
  | "or_where" =>
    match ← call.given ["attribute", "operator", "value", "raw"] with
    | [some attr, operator, value, raw] =>
      return .where_ attr operator value bucket (raw.getD (.bool false))
    | _ => throw Failure.wrongType
  | "where_raw" | "or_where_raw" =>
    match ← call.given ["attribute", "operator", "value"] with
    | [some attr, operator, value] => return .where_ attr operator value bucket (.bool true)
    | _ => throw Failure.wrongType
  | "where_in" =>
    match ← call.arguments ["attribute", "values"] with
    | [attr, values] => return .whereIn attr values
    | _ => throw Failure.wrongType
  | "where_between" =>
    match ← call.arguments ["attribute", "values"] with
    | [attr, values] => return .whereBetween attr values
    | _ => throw Failure.wrongType
  | "and_filter" => ofOne call "callback" (.nest .all)
  | "or_filter" => ofOne call "callback" (.nest .any)
  | "not_filter" => ofOne call "callback" (.nest .negated)
  | "add_filter" =>
    match ← call.argumentsOr ["node"] [("bucket", .str Bucket.all.name)] with
    | [node, bucket] => return .addFilter node bucket
    | _ => throw Failure.wrongType
  | "raw_filter" =>
    if call.named.isEmpty then return .rawFilter call.args else throw Failure.wrongType
  | "select" => if call.named.isEmpty then return .select call.args else throw Failure.wrongType
  | "clear_filters" => ofNone call .clearFilters
  | "in_" => ofOne call "base_dn" .under
  | "limit" => ofOne call "limit" .limit
  | "search" => ofNone call (.scope .subtree)
  | "list" => ofNone call (.scope .children)
  | "read" => ofNone call (.scope .entry)
  | "get_query" => ofNone call .query
  | "get_selects" => ofNone call .selects
  | "is_nested" => ofNone call .nested
  | "base_dn" | "connection" | "filters" | "type" => throw Failure.wrongType
  | "clone" => ofNone call (.clone inner)
  | "new_instance" =>
    match ← call.argumentsOr [] [("base_dn", .null)] with
    | [base] => return .newInstance base inner
    | _ => throw Failure.wrongType
  | "new_nested_instance" =>
    match ← call.argumentsOr [] [("callback", .null)] with
    | [callback] => return .newNested callback inner
    | _ => throw Failure.wrongType
  | _ => throw Call.unknown

/-- The clause that a call stands for. A call that cannot be made still is a clause: it fails when
it is run. The inner clauses are for the builder that the call gives. -/
def ofCall (call : Call) (inner : List Clause) : Clause :=
  let made :=
    match operatorOf? call.name with
    | some op => ofOperator op call
    | none => ofCallNamed call inner
  match made with
  | .ok clause => clause
  | .error failure => if failure.isA .unknownMember then .unknown else .misfit

end Directory.Clause
