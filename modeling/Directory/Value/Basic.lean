import Directory.Binary64.Basic

/-!
# Values, filters and query clauses

A search filter is a tree of conditions. Everything that a caller can put into one is a `Value`, and
a `Clause` is one call on a query builder. The three are defined together: a filter holds values, a
value may be a filter or a callback, and a callback is a list of clauses.
-/

namespace Directory

/-- What a condition asks of the values of its attribute. `plain` says nothing further and is
rendered as `equals` is. -/
inductive Test where
  | plain
  | equals
  | approximately
  | atLeast
  | atMost
  | startsWith
  | endsWith
  | contains
deriving DecidableEq, Repr

/-- How a group combines its children. -/
inductive Junction where
  | all
  | any
deriving DecidableEq, Repr

/-- How far below its base a search reaches. -/
inductive Scope where
  | subtree
  | children
  | entry
deriving DecidableEq, Repr

/-- The name of a search in a scope. -/
def Scope.name : Scope → String
  | .subtree => "search"
  | .children => "list"
  | .entry => "read"

/-- The scope with a name. -/
def Scope.ofName? (name : String) : Option Scope :=
  [subtree, children, entry].find? (·.name == name)

/-- What is done with the filters that a callback collects: all of them must hold, any of them, or
not all of them. -/
inductive Nesting where
  | all
  | any
  | negated
deriving DecidableEq, Repr

mutual

/-- A value as callers and servers supply it. The entries of a dictionary are in order, with
distinct keys. A callback has a number that tells it from other callbacks. -/
inductive Value where
  | null
  | bool (b : Bool)
  | int (n : Int)
  | float (x : Binary64)
  | str (s : String)
  | bytes (bs : List UInt8)
  | list (items : List Value)
  | tuple (items : List Value)
  | set (items : List Value)
  | dict (entries : List (Value × Value))
  | filter (node : Filter)
  | callback (number : Nat) (clauses : List Clause)

/-- A search filter. `blank` is a node that cannot be rendered, and `foreign` holds a value that was
given where a node belongs. -/
inductive Filter where
  | condition (test : Test) (attr value : Value)
  | has (attr : Value)
  | raw (text : Value)
  | not (child : Filter)
  | group (junction : Junction) (children : List Filter)
  | blank
  | foreign (value : Value)

/-- One call on a query builder. The clauses that `clone`, `newInstance` and `newNested` carry are
run on the builder that the call gives; `misfit` is a call whose arguments do not fit, and `unknown`
a call of something that a builder does not do. -/
inductive Clause where
  | where_ (attr : Value) (operator value : Option Value) (bucket raw : Value)
  | whereIn (attr values : Value)
  | whereBetween (attr values : Value)
  | nest (nesting : Nesting) (callback : Value)
  | addFilter (node bucket : Value)
  | rawFilter (texts : List Value)
  | clearFilters
  | select (attrs : List Value)
  | under (base : Value)
  | limit (count : Value)
  | scope (scope : Scope)
  | query
  | selects
  | nested
  | clone (clauses : List Clause)
  | newInstance (base : Value) (clauses : List Clause)
  | newNested (callback : Value) (clauses : List Clause)
  | misfit
  | unknown

end

instance : Inhabited Value := ⟨.null⟩

/-- The node that a value is, or the value in the place of one. -/
def Value.toFilter : Value → Filter
  | .filter node => node
  | value => .foreign value

/-- The value that a node is. -/
def Filter.toValue : Filter → Value
  | .foreign value => value
  | node => .filter node

/-- A child that is a node and not a value in the place of one. -/
def Filter.isNode : Filter → Bool
  | .foreign _ => false
  | _ => true

end Directory
