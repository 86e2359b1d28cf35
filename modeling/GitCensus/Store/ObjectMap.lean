import GitCensus.Store.Basic
/-!
# Objects in memory

A map from ids to objects, as the plainest store: it answers from its contents and
stays as it is.
-/

namespace GitCensus

/-- An object: its kind, the size its header states, and its content. -/
structure StoredObject where
  kind : ObjectKind
  size : Int
  content : Bytes
deriving DecidableEq, Inhabited

namespace StoredObject

/-- The object of a kind with some content; its size is the length of the content. -/
def ofContent (kind : ObjectKind) (content : Bytes) : StoredObject :=
  ⟨kind, content.length, content⟩

def header (o : StoredObject) : Header := ⟨o.kind, o.size⟩

end StoredObject

theorem mem_of_lookup {α β : Type} [BEq α] [LawfulBEq α] {entries : List (α × β)} {key : α}
    {value : β} (h : entries.lookup key = some value) : (key, value) ∈ entries := by
  obtain ⟨before, after, rfl, -⟩ := List.lookup_eq_some_iff.mp h
  simp

/-- Objects by id; an id stands at most once. -/
abbrev ObjectMap := List (ObjectId × StoredObject)

namespace ObjectMap

def find? (m : ObjectMap) (id : ObjectId) : Option StoredObject := m.lookup id

theorem mem_of_find? {m : ObjectMap} {id : ObjectId} {o : StoredObject}
    (h : m.find? id = some o) : (id, o) ∈ m :=
  mem_of_lookup h

def erase (m : ObjectMap) (id : ObjectId) : ObjectMap := m.filter fun entry => entry.1 ≠ id

/-- The map with an object under an id, in place of any object there was. -/
def insert (m : ObjectMap) (id : ObjectId) (o : StoredObject) : ObjectMap :=
  (id, o) :: m.erase id

/-- The map with all given objects, later ones in place of earlier ones. -/
def ofList (objects : List (ObjectId × StoredObject)) : ObjectMap :=
  objects.foldl (fun m entry => m.insert entry.1 entry.2) []

def readHeader (m : ObjectMap) (id : ObjectId) : Except Fault Header :=
  match m.find? id with
  | none => .error (.missing id)
  | some o => .ok o.header

def readTree (m : ObjectMap) (id : ObjectId) : Except Fault Bytes :=
  match m.find? id with
  | none => .error (.missing id)
  | some o =>
    if o.kind = .tree then .ok o.content
    else .error (.wrongKind id o.kind.name ObjectKind.tree.name)

def store : Store ObjectMap where
  readHeader id m := (m.readHeader id, m)
  readTree id m := (m.readTree id, m)

end ObjectMap

end GitCensus
