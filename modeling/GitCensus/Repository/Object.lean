import GitCensus.Digest.Sha1
import GitCensus.Store.ObjectMap
import GitCensus.Text.Decimal
/-!
# Objects of a repository

Blobs and trees are their contents; commits name a tree, and tags name any object.
The id of an object is the digest of its kind, its size and its content.
-/

namespace GitCensus.Repository

/-- A commit: a tree, the commits before it, and who made it. -/
structure Commit where
  root : ObjectId
  parents : List ObjectId := []
  author : Bytes
  committer : Bytes
  /-- Further lines before the message. -/
  more : Bytes := []
  message : Bytes
deriving DecidableEq

/-- A tag: a name for an object. -/
structure Tag where
  target : ObjectId
  targetKind : Bytes
  name : Bytes
  tagger : Bytes
  message : Bytes
deriving DecidableEq

inductive Object where
  | blob (content : Bytes)
  | tree (listing : Bytes)
  | commit (c : Commit)
  | tag (t : Tag)
deriving DecidableEq

/-- A line that says something about an object: a word and a value. -/
def line (word : String) (value : Bytes) : Bytes :=
  Bytes.ofAscii word ++ Bytes.space :: value ++ [Bytes.lineFeed]

def Commit.content (c : Commit) : Bytes :=
  line "tree" c.root.hexBytes ++ c.parents.flatMap (fun p => line "parent" p.hexBytes) ++
    line "author" c.author ++ line "committer" c.committer ++ c.more ++
    Bytes.lineFeed :: c.message

def Tag.content (t : Tag) : Bytes :=
  line "object" t.target.hexBytes ++ line "type" t.targetKind ++ line "tag" t.name ++
    line "tagger" t.tagger ++ Bytes.lineFeed :: t.message

namespace Object

def kind : Object → ObjectKind
  | blob _ => .blob
  | tree _ => .tree
  | commit _ => .commit
  | tag _ => .tag

def content : Object → Bytes
  | blob content => content
  | tree listing => listing
  | commit c => c.content
  | tag t => t.content

/-- What the digest of an object is taken of. -/
def digested (o : Object) : Bytes :=
  Bytes.ofAscii o.kind.name ++ Bytes.space :: Text.Decimal.digits o.content.length ++
    Bytes.nul :: o.content

def id (o : Object) : ObjectId := ⟨Sha1.digest o.digested, Sha1.length_digest _⟩

def stored (o : Object) : StoredObject := StoredObject.ofContent o.kind o.content

def next? : Object → Option ObjectId
  | commit c => some c.root
  | tag t => some t.target
  | blob _ | tree _ => none

end Object

end GitCensus.Repository
