import Directory.Call.Clause
import Directory.Query.Execution

/-!
# Calls on queries

The ways to execute a query by the names under which they are called. A paged search with a callback
is not among them, because a callback is no value.
-/

namespace Directory.Query

/-- A call with an entry's name and one more argument. -/
def callEntry (call : Call) (param : String) (operation : Value → Value → Action Query Value) :
    Action Query Value := do
  match ← call.arguments ["dn", param] with
  | [name, argument] => operation name argument
  | _ => throw Failure.wrongType

/-- Ask the builder of a query for something that is a value. Calls that give a builder are for
building and are not made on a query. -/
def askBuilder (call : Call) : Action Query Value := do
  let (reply, _) := (Clause.ofCall call []).run.run.run (← Action.state).builder
  match ← reply with
  | .value value => return value
  | _ => throw Call.unknown

/-- Carry out a call. -/
def call (call : Call) : Action Query Value := do
  match call.name with
  | "get" => do
    let (_, attrs) ← call.argumentsAndMore []
    get attrs
  | "first" => do
    let (_, attrs) ← call.argumentsAndMore []
    first attrs
  | "find" =>
    match ← call.argumentsAndMore ["dn"] with
    | ([name], attrs) => find name attrs
    | _ => throw Failure.wrongType
  | "find_by" =>
    match ← call.argumentsAndMore ["attribute", "value"] with
    | ([attr, value], attrs) => findBy attr value attrs
    | _ => throw Failure.wrongType
  | "paginate" =>
    match ← call.argumentsOr [] [("per_page", .int 1000), ("critical", .bool false)] with
    | [perPage, critical] => paginate perPage critical
    | _ => throw Failure.wrongType
  | "insert" => callEntry call "attributes" insert
  | "update" => callEntry call "modifications" update
  | "add" => callEntry call "attributes" (modifyEach .add)
  | "replace" => callEntry call "attributes" (modifyEach .replace)
  | "remove" => callEntry call "attributes" (modifyEach .delete)
  | "delete" =>
    match ← call.arguments ["dn"] with
    | [name] => delete name
    | _ => throw Failure.wrongType
  | "rename" =>
    match ← call.argumentsOr ["dn", "new_rdn"]
        [("new_parent_dn", .null), ("delete_old_rdn", .bool true)] with
    | [name, newName, newParent, deleteOld] => rename name newName newParent deleteOld
    | _ => throw Failure.wrongType
  | _ => askBuilder call

end Directory.Query
