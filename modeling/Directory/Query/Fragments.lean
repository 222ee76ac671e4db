import Directory.Filter.Basic
import Directory.Value.Equality

/-!
# Filter fragments

A query collects its filters in three buckets, and the filter of the query is their combination:
every raw and every plain fragment must hold, and one of the alternatives if there are any.
-/

namespace Directory

/-- The buckets, in the order in which they are combined. -/
inductive Bucket where
  | raw
  | all
  | any
deriving DecidableEq, Repr

namespace Bucket

/-- The name of a bucket. -/
def name : Bucket → String
  | .raw => "raw"
  | .all => "and"
  | .any => "or"

/-- The bucket that a value names. -/
def ofValue? (value : Value) : Option Bucket :=
  [raw, all, any].find? fun bucket => value.isStr bucket.name

end Bucket

/-- The collected fragments. A bucket with another name exists once it has been cleared under that
name; it takes fragments, but its fragments are not combined with the others. -/
structure Fragments where
  raw : List Filter := []
  all : List Filter := []
  any : List Filter := []
  others : List (Value × List Filter) := []

namespace Fragments

/-- The fragments in one of the three buckets. -/
def bucket (fragments : Fragments) : Bucket → List Filter
  | .raw => fragments.raw
  | .all => fragments.all
  | .any => fragments.any

/-- Replace the fragments in one of the three buckets. -/
def setBucket (fragments : Fragments) (bucket : Bucket) (nodes : List Filter) : Fragments :=
  match bucket with
  | .raw => { fragments with raw := nodes }
  | .all => { fragments with all := nodes }
  | .any => { fragments with any := nodes }

/-- Add a fragment at the end of one of the three buckets. -/
def push (fragments : Fragments) (bucket : Bucket) (node : Filter) : Fragments :=
  fragments.setBucket bucket (fragments.bucket bucket ++ [node])

/-- Pushing adds to the bucket that is named. -/
@[simp] theorem bucket_push_self (fragments : Fragments) (bucket : Bucket) (node : Filter) :
    (fragments.push bucket node).bucket bucket = fragments.bucket bucket ++ [node] := by
  cases bucket <;> rfl

/-- Pushing leaves the other buckets alone. -/
theorem bucket_push_of_ne (fragments : Fragments) {bucket other : Bucket} (node : Filter)
    (h : other ≠ bucket) : (fragments.push bucket node).bucket other = fragments.bucket other := by
  cases bucket <;> cases other <;> first | rfl | exact absurd rfl h

/-- Add a fragment to the bucket that a value names. -/
def add (fragments : Fragments) (node : Filter) (bucket : Value) : Except Failure Fragments := do
  match Bucket.ofValue? (← bucket.requireKey) with
  | some own => return fragments.push own node
  | none =>
    match Value.lookup? fragments.others bucket with
    | some nodes =>
      return { fragments with others := Value.insert fragments.others bucket (nodes ++ [node]) }
    | none => throw (Refusal.unknownBucket (← bucket.text)).toFailure

/-- The fragments in the bucket that a value names. -/
def get (fragments : Fragments) (bucket : Value) : Except Failure (List Filter) := do
  match Bucket.ofValue? (← bucket.requireKey) with
  | some own => return fragments.bucket own
  | none =>
    match Value.lookup? fragments.others bucket with
    | some nodes => return nodes
    | none => throw (Failure.misuse .missingKey)

/-- All the buckets with their fragments. -/
def entries (fragments : Fragments) : List (Value × List Filter) :=
  [(.str Bucket.raw.name, fragments.raw), (.str Bucket.all.name, fragments.all),
    (.str Bucket.any.name, fragments.any)] ++ fragments.others

/-- Empty the bucket that a value names. -/
def clear (fragments : Fragments) (bucket : Value) : Except Failure Fragments := do
  match Bucket.ofValue? (← bucket.requireKey) with
  | some own => return fragments.setBucket own []
  | none => return { fragments with others := Value.insert fragments.others bucket [] }

/-- A copy with the three buckets and no others. It has no place for the fragments of any other
bucket. -/
def copy (fragments : Fragments) : Except Failure Fragments := do
  match fragments.others.find? (!·.2.isEmpty) with
  | none => return { fragments with others := [] }
  | some (bucket, _) => throw (Refusal.unknownBucket (← bucket.text)).toFailure

/-- Only the three buckets hold what is copied. -/
theorem copy_eq_ok_iff {fragments copied : Fragments} :
    fragments.copy = .ok copied ↔
      (∀ entry ∈ fragments.others, entry.2 = []) ∧ copied = { fragments with others := [] } := by
  have hnone : fragments.others.find? (!·.2.isEmpty) = none ↔
      ∀ entry ∈ fragments.others, entry.2 = [] := by
    simp only [List.find?_eq_none, Bool.not_eq_true', Bool.not_eq_false, List.isEmpty_iff]
  rw [← hnone]
  unfold copy
  cases fragments.others.find? (!·.2.isEmpty) with
  | none => exact ⟨fun h => ⟨rfl, (Except.ok.inj h).symm⟩, fun h => congrArg Except.ok h.2.symm⟩
  | some entry =>
      obtain ⟨bucket, nodes⟩ := entry
      refine ⟨fun h => ?_, fun h => absurd h.1 (Option.some_ne_none _)⟩
      dsimp only at h
      cases htext : bucket.text with
      | error failure =>
          rw [htext] at h
          cases h
      | ok text =>
          rw [htext] at h
          cases h

/-- No bucket holds a fragment. -/
def isEmpty (fragments : Fragments) : Bool :=
  fragments.entries.all fun entry => entry.2.isEmpty

/-- The alternatives as at most one fragment. -/
def alternatives (fragments : Fragments) : List Filter :=
  match fragments.any with
  | [] => []
  | [node] => [node]
  | nodes => [.group .any nodes]

/-- The fragments combined into one filter. -/
def combined (fragments : Fragments) : Option Filter :=
  match fragments.raw ++ fragments.all ++ fragments.alternatives with
  | [] => none
  | [node] => some node
  | nodes => some (.group .all nodes)

/-- The combined filter unless it stands for nothing. -/
def toFilter? (fragments : Fragments) : Option Filter :=
  fragments.combined.filter (!·.isNothing)

/-- The filter string of the combined filter; it is empty if there is none. -/
def compile (fragments : Fragments) : Except Failure String :=
  match fragments.toFilter? with
  | some node => node.text
  | none => .ok ""

end Fragments

end Directory
