import Directory.Transport.Direct
import Directory.Transport.Wire

/-!
# Operations of transports

The operations that every transport has, whatever its link.
-/

namespace Directory

/-- What is done with the given values of an attribute. -/
inductive Change where
  | add
  | replace
  | delete
deriving DecidableEq, Repr

/-- The name of a change in a batch of modifications. -/
def Change.name : Change → String
  | .add => "MODIFY_ADD"
  | .replace => "MODIFY_REPLACE"
  | .delete => "MODIFY_DELETE"

namespace Transport

/-- The transport has a direct link. -/
def isDirect (transport : Transport) : Bool :=
  match transport.link with
  | .direct .. => true
  | .wire _ => false

/-- A new transport with the same kind of link. -/
def renewed (transport : Transport) : Effect Transport :=
  match transport.link with
  | .direct .. => return direct (← Effect.newTransport)
  | .wire _ => return wire

/-- Run the operation for the link. -/
def choose (directly overWire : Action Transport α) : Action Transport α := do
  if (← Action.state).isDirect then directly else overWire

/-- Connect to a host. -/
def connect (host port : Value) : Action Transport Value :=
  choose (Direct.connect host port) (Wire.connect host port)

/-- Start TLS on the handle. -/
def startTls : Action Transport Value :=
  choose Direct.startTls Wire.startTls

/-- Bind as a user, or as no one if there is no username. A bind that the server refuses is a
response and no failure. -/
def bind (username password : Value) : Action Transport Response :=
  choose (Direct.bind username password) (Wire.bind username password)

/-- Search in a scope under a base. -/
def search (scope : Scope) (base filter attrs limit : Value) (controls : Option (List Control)) :
    Action Transport SearchResult :=
  choose (Direct.search scope base filter attrs limit controls)
    (Wire.search scope base filter attrs limit controls)

/-- Create an entry. -/
def add (name attrs : Value) : Action Transport Value :=
  choose (Direct.perform (.add name attrs)) (Wire.perform "add" (.add name attrs))

/-- Carry out a batch of modifications. -/
def modify (name changes : Value) : Action Transport Value :=
  choose (Direct.perform (.modify name changes)) (Wire.perform "modify" (.modify name changes))

/-- Delete an entry. -/
def delete (name : Value) : Action Transport Value :=
  choose (Direct.perform (.delete name)) (Wire.perform "delete" (.delete name))

/-- Rename or move an entry. -/
def rename (name newName newParent deleteOld : Value) : Action Transport Value :=
  choose (Direct.perform (.rename name newName newParent deleteOld))
    (Wire.perform "rename" (.rename name newName newParent deleteOld))

/-- Set options, given by a dictionary or as a row of pairs. The pairs before one that does not fit
are set. -/
def setOptions (options : Value) : Action Transport Unit :=
  match options with
  | .dict entries => Action.change (·.withOptions entries)
  | options => do
    for item in ← options.items do
      let (name, value) ← item.pair
      let name ← name.requireKey
      Action.change (·.withOptions [(name, value)])

/-- Release the handle. -/
def close : Action Transport Value :=
  choose Direct.close Wire.close

/-- The values that are given for an attribute. -/
def givenValues : Value → List Value
  | .null => []
  | .list items | .tuple items | .set items => items
  | value => [value]

/-- The batch of modifications that makes one change to each of several attributes. -/
def changesOf (change : Change) (attrs : Value) : Except Failure Value := do
  return .dict ((← attrs.entries).map fun (name, value) =>
    (name, .list [.tuple [.str change.name, .list (givenValues value)]]))

/-- Make one change to each of several attributes of an entry. -/
def modifyEach (change : Change) (name attrs : Value) : Action Transport Value := do
  modify name (← changesOf change attrs)

end Transport

end Directory
