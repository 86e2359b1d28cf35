import GitCensus.Fault
/-!
# Object stores

A store answers two questions about an id: the header of the object, and the
payload of a tree.  An answer may change the store's state, so the same question
can be answered differently the next time.
-/

namespace GitCensus

/-- The two queries of an object store with state `σ`. -/
structure Store (σ : Type) where
  /-- The kind and size of an object. -/
  readHeader : ObjectId → σ → Except Fault Header × σ
  /-- The payload of a tree. -/
  readTree : ObjectId → σ → Except Fault Bytes × σ

inductive Request where
  | header (id : ObjectId)
  | tree (id : ObjectId)
deriving DecidableEq

def Request.text : Request → String
  | .header id => "header " ++ id.hex
  | .tree id => "tree " ++ id.hex

end GitCensus
