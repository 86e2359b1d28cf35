import GitCensus.Database.Basic
import GitCensus.Repository.Object
/-!
# Repositories

A repository holds objects by id and references by name.  A reference names an object
or another reference.  The objects are stored in packs and in loose files.
-/

namespace GitCensus

inductive Repository.Reference where
  | direct (id : ObjectId)
  /-- The reference of another name. -/
  | symbolic (name : Bytes)
deriving DecidableEq

/-- A repository.  The objects are what its packs and loose files come to when they are
resolved in full. -/
structure Repository where
  objects : List (ObjectId × Repository.Object) := []
  references : List (Bytes × Repository.Reference) := []
  packs : List Database.Pack := []
  loose : List (ObjectId × Bytes) := []

namespace Repository

def object? (r : Repository) (id : ObjectId) : Option Object := r.objects.lookup id

def objectMap (r : Repository) : ObjectMap :=
  ObjectMap.ofList (r.objects.reverse.map fun (id, o) => (id, o.stored))

/-- The packs and loose files of a repository as a database. -/
def database (r : Repository) : Database where
  packs := r.packs
  loose := some r.loose
  full := r.objectMap

/-- The object that a reference stands for, through at most `steps` references. -/
def follow? (r : Repository) : (steps : Nat) → (name : Bytes) → Option ObjectId
  | 0, _ => none
  | steps + 1, name =>
    match r.references.lookup name with
    | none => none
    | some (.direct id) => some id
    | some (.symbolic name) => follow? r steps name

/-- The most references that one leads through. -/
def longestChain : Nat := 5

def reference? (r : Repository) (name : Bytes) : Option ObjectId :=
  r.follow? longestChain name

def resolved (r : Repository) : List (Bytes × ObjectId) :=
  r.references.filterMap fun (name, _) => (r.reference? name).map fun id => (name, id)

def idOf? (spec : String) : Option ObjectId :=
  if spec.toList.all fun c => (Text.Hex.digitValue? c).isSome then
    (ObjectId.ofHex spec).toOption
  else none

/-- The object that a text names: an id, or the name of a reference, in full or without
the beginning of a branch, a tag or any reference. -/
def resolve? (r : Repository) (spec : String) : Option ObjectId :=
  match idOf? spec with
  | some id => some id
  | none =>
    ["", "refs/heads/", "refs/tags/", "refs/"].findSome? fun before =>
      r.reference? (Bytes.ofText (before ++ spec))

/-- Follows commits and tags for at most `limit` steps to what they stand for. -/
def peelWithin (r : Repository) : (limit : Nat) → ObjectId → ObjectId
  | 0, id => id
  | limit + 1, id =>
    match (r.object? id).bind Object.next? with
    | some next => peelWithin r limit next
    | none => id

/-- The most steps from a commit or a tag to what it stands for. -/
def peelLimit : Nat := 50

/-- The tree or other object that commits and tags lead to. -/
def peel (r : Repository) (id : ObjectId) : ObjectId := r.peelWithin peelLimit id

end Repository

end GitCensus
