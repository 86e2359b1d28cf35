import GitCensus.ObjectId
/-!
# Tree entries

A tree lists named entries.  The mode of an entry tells its kind by four bits; all
that is no subtree, link or submodule counts as a blob.
-/

namespace GitCensus

/-- What an entry of a tree names. -/
inductive EntryKind where
  | tree
  | blob
  | link
  | submodule
deriving DecidableEq, Repr, Inhabited

namespace EntryKind

def name : EntryKind → String
  | tree => "tree"
  | blob => "blob"
  | link => "link"
  | submodule => "submodule"

/-- The type bits of a mode: bits 12 to 15, those of a negative mode in two's
complement. -/
def typeBits (mode : Int) : Int := mode / 0o10000 % 0o20

def ofMode (mode : Int) : EntryKind :=
  if typeBits mode = 0o04 then tree
  else if typeBits mode = 0o16 then submodule
  else if typeBits mode = 0o12 then link
  else blob

end EntryKind

structure Entry where
  mode : Nat
  name : Bytes
  id : ObjectId
deriving DecidableEq, Inhabited

def Entry.kind (e : Entry) : EntryKind := EntryKind.ofMode e.mode

end GitCensus
