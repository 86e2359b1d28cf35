import GitCensus.Bytes
import GitCensus.Size.Record
/-!
# Tallying a tree

The statistics of a tree are gathered entry by entry and then closed once, which
counts the tree's own level.  Depth, path length and entries per tree are maxima;
the counts and the byte total are capped sums.
-/

namespace GitCensus

/-- What one entry adds to the statistics of its tree. -/
inductive Contribution where
  | blob (name : Bytes) (size : Int)
  | link (name : Bytes)
  | submodule (name : Bytes)
  /-- A subtree with its finished statistics. -/
  | subtree (name : Bytes) (size : TreeSize)
deriving DecidableEq

/-- The longest path through a subtree: its name, and a separator with the longest
path below if there is any. -/
def pathLengthThrough (name : Bytes) (below : Int) : Int :=
  if below > 0 then addCapped (name.length + 1) below else name.length

namespace TreeSize

/-- Records an entry without anything below it. -/
def addLeaf (t : TreeSize) (name : Bytes) : TreeSize :=
  { t with
    maxDepth := max t.maxDepth 1
    maxPathLength := max t.maxPathLength name.length }

def add (t : TreeSize) : Contribution → TreeSize
  | .blob name size =>
    let t := t.addLeaf name
    { t with
      blobCount := addCapped t.blobCount 1
      blobSize := addCapped t.blobSize size }
  | .link name =>
    let t := t.addLeaf name
    { t with linkCount := addCapped t.linkCount 1 }
  | .submodule name =>
    let t := t.addLeaf name
    { t with submoduleCount := addCapped t.submoduleCount 1 }
  | .subtree name child => {
      maxDepth := max t.maxDepth child.maxDepth
      maxPathLength := max t.maxPathLength (pathLengthThrough name child.maxPathLength)
      treeCount := addCapped t.treeCount child.treeCount
      maxTreeEntries := max t.maxTreeEntries child.maxTreeEntries
      blobCount := addCapped t.blobCount child.blobCount
      blobSize := addCapped t.blobSize child.blobSize
      linkCount := addCapped t.linkCount child.linkCount
      submoduleCount := addCapped t.submoduleCount child.submoduleCount }

/-- The statistics gathered from contributions in order, before they are closed. -/
def gather (contributions : List Contribution) : TreeSize := contributions.foldl add {}

/-- Counts the tree's own level, with the number of its entries. -/
def close (t : TreeSize) (entries : Int) : TreeSize :=
  { t with
    maxDepth := addCapped t.maxDepth 1
    maxTreeEntries := max t.maxTreeEntries entries }

end TreeSize

/-- Statistics being gathered, and whether they have been closed. -/
structure Tally where
  record : TreeSize := {}
  closed : Bool := false
deriving DecidableEq, Repr, Inhabited

namespace Tally

def closedTwice : String := "TreeSizeBuilder already finalized"

/-- Adds what one entry contributes; a closed tally goes on counting. -/
def add (t : Tally) (c : Contribution) : Tally := { t with record := t.record.add c }

/-- Closes the tally, once: the finished statistics, and the tally marked closed. -/
def close? (t : Tally) (entries : Int) : Option (TreeSize × Tally) :=
  if t.closed then none else some (t.record.close entries, { t with closed := true })

end Tally

end GitCensus
