import GitCensus.Census.Pending
import GitCensus.Census.Table
import GitCensus.Size.Tally
import GitCensus.Store.Basic
/-!
# The state of a census

A census measures objects of one store and remembers what it has measured: the
sizes of blobs, the statistics of trees, the trees still pending, and notes on the
progress of the work.
-/

namespace GitCensus

/-- A note on the progress of sizing. -/
inductive Note where
  /-- A tree has to wait for subtrees, with so many trees pending. -/
  | waits (id : ObjectId) (pending : Nat)
  /-- Sizing a tree failed with these trees pending. -/
  | abandoned (id : ObjectId) (pending : Pending)
deriving DecidableEq

def Note.text : Note → String
  | .waits id pending =>
    "tree " ++ id.hex ++ " waits for subtrees (" ++ toString pending ++ " pending)"
  | .abandoned id pending => "sizing " ++ id.hex ++ " failed; " ++ pending.text

/-- The state of sizing the objects of a store with state `σ`. -/
structure Census (σ : Type) where
  store : σ
  blobs : Table BlobSize := {}
  trees : Table TreeSize := {}
  pending : Pending := {}
  /-- The notes so far, newest first. -/
  notes : List Note := []

namespace Census

variable {σ : Type}

def push (c : Census σ) (id : ObjectId) : Census σ := { c with pending := c.pending.push id }

def pop (c : Census σ) : Census σ := { c with pending := ⟨c.pending.ids.tail⟩ }

def note (c : Census σ) (n : Note) : Census σ := { c with notes := n :: c.notes }

/-- Records the size of a blob from the size its header states. -/
def recordBlob (c : Census σ) (id : ObjectId) (size : Int) : Census σ :=
  { c with blobs := c.blobs.record id (BlobSize.ofHeader size) }

def recordTree (c : Census σ) (id : ObjectId) (size : TreeSize) : Census σ :=
  { c with trees := c.trees.record id size }

def askHeader (S : Store σ) (id : ObjectId) (c : Census σ) : Except Fault Header × Census σ :=
  let (answer, store) := S.readHeader id c.store
  (answer, { c with store })

def askTree (S : Store σ) (id : ObjectId) (c : Census σ) : Except Fault Bytes × Census σ :=
  let (answer, store) := S.readTree id c.store
  (answer, { c with store })

end Census

end GitCensus
