import Directory.Connection.Run
import Directory.Paging
import Directory.Query.Builder

/-!
# Executing queries

What can be done with a query once it is built: search in several ways, and change entries. A search
works on a builder of its own wherever it needs other options than the query has, so it leaves the
query as it was.
-/

namespace Directory

/-- A query: a builder with the connection that it is for. -/
structure Query where
  builder : Builder
  connection : Connection

namespace Query

/-- The connection of a query. -/
def link : Focus Query Connection :=
  ⟨connection, fun query connection => { query with connection }⟩

/-- Carry out clauses on a builder of its own. -/
def refine (builder : Builder) (clauses : List Clause) : Except Failure Builder :=
  match (Clause.runAll clauses).run.run builder with
  | (.ok (), builder) => .ok builder
  | (.error failure, _) => .error failure

/-- The builder that clauses make of one for everything under the configured base. -/
def build (connection : Connection) (clauses : List Clause) : Except Failure Builder :=
  refine (.new (connection.configuration.value .baseName) (.bool false)) clauses

/-- Run an action on a query of the connection. The builder is given back as the action leaves
it. -/
def within (builder : Builder) (action : Action Query α) : Action Connection (α × Builder) :=
  ExceptT.mk fun (connection, world) =>
    let (result, (query, world)) := action.run.run (⟨builder, connection⟩, world)
    (result.map (·, query.builder), (query.connection, world))

/-- Search once with the options of a builder. -/
def execute (builder : Builder) (filter : Value) (controls : Option (List Control)) :
    Action Transport SearchResult := do
  Transport.search builder.scope builder.base filter (.list (← builder.selects))
    (.int builder.limit) controls

/-- The time between two readings of the clock, in milliseconds with two decimal places. Between
two whole readings it is whole. -/
def elapsed (started ended : Value) : Except Failure Value :=
  match started.asInt?, ended.asInt?, started.toBinary?, ended.toBinary? with
  | some a, some b, _, _ => .ok (.int ((b - a) * 1000))
  | _, _, some a, some b => return .float ((((← b).sub (← a)).scale 1000).roundPlaces 2)
  | _, _, _, _ => .error Failure.wrongType

/-- Announce that a query was executed. -/
def announce (name : String) (builder : Builder) (filter : String) (started : Value) :
    Action Connection Unit := do
  let ended ← Action.outside Effect.now
  let time ← elapsed started ended
  Value.note [(← Action.state).transport.host, time, builder.base]
  Connection.announce (.queryExecuted (.str name) builder.base (.str filter) time)

/-- The entries that a builder's search finds. -/
def entriesOf (builder : Builder) : Action Connection Value := do
  let filter ← builder.query
  let started ← Action.outside Effect.now
  let result ← Connection.run (Connection.onTransport (execute builder (.str filter) none))
  announce builder.scope.name builder filter started
  return result.entries

/-- The builder for a search that asks for some attributes; asking for none changes nothing. -/
def selecting (builder : Builder) (attrs : List Value) : Except Failure Builder :=
  if attrs.isEmpty then .ok builder else do (← builder.clone).select attrs

/-- The first of the entries, or null. -/
def firstOf (entries : Value) : Except Failure Value :=
  if entries.isTrue then entries.first else .ok .null

/-- The first entry that a builder's search finds. -/
def firstEntryOf (builder : Builder) (attrs : List Value) : Action Connection Value := do
  let builder ← (← builder.clone).withLimit (.int 1)
  firstOf (← entriesOf (← selecting builder attrs))

/-- The entries that match the query. -/
def get (attrs : List Value) : Action Query Value := do
  let builder ← selecting (← Action.state).builder attrs
  (entriesOf builder).on link

/-- The first entry that matches the query, or null. -/
def first (attrs : List Value) : Action Query Value := do
  let builder := (← Action.state).builder
  (firstEntryOf builder attrs).on link

/-- The entry with a name, or null. -/
def find (name : Value) (attrs : List Value) : Action Query Value := do
  let has : Clause := .where_ (.str "objectclass") (some (.str Operator.has.token)) none
    (.str Bucket.all.name) (.bool false)
  let builder ← refine ((← Action.state).builder.newInstance name) [.scope .entry, has]
  (firstEntryOf builder attrs).on link

/-- The first entry that matches the query and has a value for an attribute, or null. -/
def findBy (attr value : Value) (attrs : List Value) : Action Query Value := do
  let equals : Clause := .where_ attr (some (.str Operator.equals.token)) (some value)
    (.str Bucket.all.name) (.bool false)
  let builder ← refine (← (← Action.state).builder.clone) [equals]
  (firstEntryOf builder attrs).on link

/-- The entries that match the query, fetched in pages. -/
def paginate (perPage critical : Value) : Action Query Value := do
  let builder := (← Action.state).builder
  let filter ← builder.query
  let started ← Action.outside Effect.now
  let pages ← (Connection.run (Connection.onTransport do
    let paging ← Paging.make (.str filter) perPage critical
    paging.pages builder.scope (execute builder))).on link
  (announce "paginate" builder filter started).on link
  return .list (← (pages.mapM Value.items : Except Failure (List (List Value)))).flatten

/-- Fetch the entries that match the query in pages, and hand each page to a callback with its
number as soon as it is there. The callback ends the search by giving `false`, and then the answer
is `false`. -/
def chunk (perPage critical : Value) (callback : Nat → Value → Action Query Value) :
    Action Query Bool := do
  let copied ← (← Action.state).builder.clone
  let builder := { copied with limit := 0 }
  let filter ← builder.query
  let started ← Action.outside Effect.now
  let isComplete ← Connection.runWithin link do
    let paging ← Paging.make (.str filter) perPage critical
    paging.fold builder.scope
      (fun filter controls => (execute builder filter controls).on (link.andThen Connection.link))
      (fun number entries _ => do
        match ← callback number entries with
        | .bool false => return .done false
        | _ => return .yield true)
      true
  (announce "chunk" (← Action.state).builder filter started).on link
  return isComplete

/-- Run an operation of the transport on the connection of the query. -/
def perform (operation : Action Transport Value) : Action Query Value :=
  (Connection.run (Connection.onTransport operation)).on link

/-- Create an entry, which must have a name and an object class. -/
def insert (name attrs : Value) : Action Query Value := do
  if !name.isTrue then throw Refusal.entryWithoutName.toFailure
  if !(← Value.anyIsWord "objectclass" (← attrs.items)) then
    throw Refusal.entryWithoutClass.toFailure
  perform (Transport.add name attrs)

/-- Carry out a batch of modifications. -/
def update (name changes : Value) : Action Query Value :=
  perform (Transport.modify name changes)

/-- Make one change to each of several attributes of an entry. -/
def modifyEach (change : Change) (name attrs : Value) : Action Query Value :=
  perform (Transport.modifyEach change name attrs)

/-- Delete an entry. -/
def delete (name : Value) : Action Query Value :=
  perform (Transport.delete name)

/-- What follows the first comma of a name. -/
def parentOf (name : Value) : Except Failure Value := do
  if !(← name.holds (.str ",")) then return .str ""
  match name with
  | .str s => return .str (String.ofList ((s.toList.dropWhile (· ≠ ',')).drop 1))
  | _ => throw (Failure.misuse .unknownMember)

/-- Rename or move an entry. The answer is its new name. -/
def rename (name newName newParent deleteOld : Value) : Action Query Value := do
  let _ ← perform (Transport.rename name newName newParent deleteOld)
  let newParent ←
    match newParent with
    | .null => parentOf name
    | newParent => pure newParent
  return .str (← Value.join "," ([newName, newParent].filter Value.isTrue))

end Query

end Directory
