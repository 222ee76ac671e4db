import Directory.Transport.Basic

/-!
# Calls by name

Every operation can be called by its name, with arguments by place and by name. A call whose
arguments do not fit the parameters of the operation is refused before anything is done.
-/

namespace Directory

/-- A call of an operation. -/
structure Call where
  name : String
  args : List Value := []
  named : List (String × Value) := []

namespace Call

/-- The arguments for parameters, in their order; none for a parameter that is given no argument.
There may not be more arguments by place than parameters, and an argument by name must be for one of
the others. -/
def given (call : Call) (params : List String) : Except Failure (List (Option Value)) :=
  let rest := params.drop call.args.length
  if call.args.length ≤ params.length && call.named.all fun entry => rest.contains entry.1 then
    .ok (call.args.map some ++ rest.map fun param => call.named.lookup param)
  else .error Failure.wrongType

/-- The arguments for parameters that must be given, followed by those for parameters with a
default. -/
def argumentsOr (call : Call) (params : List String) (optional : List (String × Value)) :
    Except Failure (List Value) := do
  let arguments ← call.given (params ++ optional.map Prod.fst)
  let defaults := params.map (fun _ => none) ++ optional.map fun entry => some entry.2
  (arguments.zip defaults).mapM fun (argument, default) =>
    match argument.or default with
    | some value => .ok value
    | none => .error Failure.wrongType

/-- The arguments for parameters that must all be given. -/
def arguments (call : Call) (params : List String) : Except Failure (List Value) :=
  call.argumentsOr params []

/-- The arguments for parameters that must all be given, and further arguments by place, which there
are only if every parameter is given by place. -/
def argumentsAndMore (call : Call) (params : List String) :
    Except Failure (List Value × List Value) := do
  let more := call.args.drop params.length
  let own : Call := { call with args := call.args.take params.length }
  return (← own.arguments params, more)

/-- The refusal of a call of an operation that does not exist. -/
def unknown : Failure :=
  Failure.misuse .unknownMember

end Call

end Directory
