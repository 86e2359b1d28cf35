/-!
# Kinds of objects

The four kinds a store can hold.  A store may also name a kind that is none of
them; such a name is kept as it came.
-/

namespace GitCensus

inductive ObjectKind where
  | blob
  | tree
  | commit
  | tag
  /-- A kind that no object should have. -/
  | other (name : String)
deriving DecidableEq, Repr, Inhabited

namespace ObjectKind

def name : ObjectKind → String
  | blob => "blob"
  | tree => "tree"
  | commit => "commit"
  | tag => "tag"
  | other name => name

def ofName? (s : String) : Option ObjectKind :=
  if s = "blob" then some blob
  else if s = "tree" then some tree
  else if s = "commit" then some commit
  else if s = "tag" then some tag
  else none

def ofName (s : String) : ObjectKind := (ofName? s).getD (other s)

instance : ToString ObjectKind := ⟨name⟩

@[simp] theorem name_ofName (s : String) : (ofName s).name = s := by
  unfold ofName ofName?
  split <;> (try split) <;> (try split) <;> (try split) <;> simp_all [name]

end ObjectKind

/-- What a store tells about an object without its content. -/
structure Header where
  kind : ObjectKind
  size : Int
deriving DecidableEq, Repr, Inhabited

end GitCensus
