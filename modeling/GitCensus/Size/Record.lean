import GitCensus.ObjectKind
import GitCensus.Size.Capped
/-!
# Size records

The size of a blob is its length.  The size of a tree is eight statistics over
everything below it.
-/

namespace GitCensus

/-- The size of a blob in bytes. -/
structure BlobSize where
  size : Int
deriving DecidableEq, Repr, Inhabited

structure TreeSize where
  /-- The most levels below and including the tree. -/
  maxDepth : Int := 0
  /-- The longest path below the tree, in bytes. -/
  maxPathLength : Int := 0
  /-- The number of trees, this one included. -/
  treeCount : Int := 1
  /-- The most entries of a single tree. -/
  maxTreeEntries : Int := 0
  blobCount : Int := 0
  blobSize : Int := 0
  linkCount : Int := 0
  submoduleCount : Int := 0
deriving DecidableEq, Repr, Inhabited

def statisticsText (fields : List (String × Int)) : String :=
  ", ".intercalate (fields.map fun (name, n) => name ++ "=" ++ toString n)

def BlobSize.statistics (b : BlobSize) : List (String × Int) := [("blob_size", b.size)]

def BlobSize.text (b : BlobSize) : String := statisticsText b.statistics

/-- The size of a blob whose header states `size` bytes; larger than the largest
count is recorded as that count. -/
def BlobSize.ofHeader (size : Int) : BlobSize := ⟨min size maxCount⟩

/-- The eight statistics of a tree by name, in the order of reports. -/
def TreeSize.statistics (t : TreeSize) : List (String × Int) := [
  ("max_depth", t.maxDepth),
  ("max_path_length", t.maxPathLength),
  ("tree_count", t.treeCount),
  ("max_tree_entries", t.maxTreeEntries),
  ("blob_count", t.blobCount),
  ("blob_size", t.blobSize),
  ("link_count", t.linkCount),
  ("submodule_count", t.submoduleCount)]

def TreeSize.text (t : TreeSize) : String := statisticsText t.statistics

/-- The size of an object that can be sized. -/
inductive ObjectSize where
  | blob (size : BlobSize)
  | tree (size : TreeSize)
deriving DecidableEq, Repr, Inhabited

namespace ObjectSize

def kind : ObjectSize → ObjectKind
  | blob _ => .blob
  | tree _ => .tree

def statistics : ObjectSize → List (String × Int)
  | blob size => size.statistics
  | tree size => size.statistics

def text (s : ObjectSize) : String := statisticsText s.statistics

end ObjectSize

end GitCensus
