import GitCensus.Inflate.Stream
import GitCensus.Repository.Basic
/-!
# Repositories in files

A repository whose objects are loose is kept in files: one for each object, named by the
two parts of its id and compressed, one for each reference, and one that lists further
references.
-/

namespace GitCensus.Repository

/-- Files by path, relative to the directory of the repository. -/
abbrev Files := List (String × Bytes)

namespace Files

/-- The value of the first line, if the line starts with the given word, and the bytes
after the line. -/
def readLine? (word : String) (bs : Bytes) : Option (Bytes × Bytes) :=
  match Bytes.cut Bytes.lineFeed bs with
  | none => none
  | some (first, rest) =>
    match Bytes.cut Bytes.space first with
    | some (w, value) => if w = Bytes.ofAscii word then some (value, rest) else none
    | none => none

def readId? (bs : Bytes) : Option ObjectId := (ObjectId.ofHexBytes bs).toOption

/-- Reads up to `steps` lines with parents of a commit. -/
def readParents : (steps : Nat) → Bytes → List ObjectId × Bytes
  | 0, bs => ([], bs)
  | steps + 1, bs =>
    match readLine? "parent" bs with
    | none => ([], bs)
    | some (value, rest) =>
      let (more, rest) := readParents steps rest
      ((readId? value).toList ++ more, rest)

def readCommit? (content : Bytes) : Option Commit := do
  let (root, rest) ← readLine? "tree" content
  let (parents, rest) := readParents rest.length rest
  let (author, rest) ← readLine? "author" rest
  let (committer, rest) ← readLine? "committer" rest
  let pieces := Bytes.splitOn Bytes.lineFeed rest
  let more := (pieces.takeWhile (!·.isEmpty)).flatMap (· ++ [Bytes.lineFeed])
  let message := List.intercalate [Bytes.lineFeed] (pieces.dropWhile (!·.isEmpty)).tail
  return { root := ← readId? root, parents, author, committer, more, message }

def readTag? (content : Bytes) : Option Tag := do
  let (target, rest) ← readLine? "object" content
  let (targetKind, rest) ← readLine? "type" rest
  let (name, rest) ← readLine? "tag" rest
  let (tagger, rest) ← readLine? "tagger" rest
  return { target := ← readId? target, targetKind, name, tagger, message := rest.drop 1 }

def readObject? (inflated : Bytes) : Option Object :=
  match Bytes.cut Bytes.nul inflated with
  | none => none
  | some (header, content) =>
    match ObjectKind.ofName? (Text.ascii (header.takeWhile (· ≠ Bytes.space))) with
    | some .blob => some (.blob content)
    | some .tree => some (.tree content)
    | some .commit => (readCommit? content).map .commit
    | some .tag => (readTag? content).map .tag
    | _ => none

/-- The most bytes that a file may inflate to. -/
def inflateLimit : Nat := 0x10000000000

/-- The id of the object in a file, if its path is that of an object. -/
def objectId? (path : String) : Option ObjectId :=
  match path.splitOn "/" with
  | ["objects", first, second] => (ObjectId.ofHex (first ++ second)).toOption
  | _ => none

def object? (path : String) (file : Bytes) : Option (ObjectId × Object) := do
  let id ← objectId? path
  let inflated ← (Inflate.inflate inflateLimit file).toOption
  return (id, ← readObject? inflated)

def readReference? (file : Bytes) : Option Reference :=
  let first := (Bytes.splitOn Bytes.lineFeed file).headD []
  match Bytes.cut Bytes.space first with
  | some (word, name) => if word = Bytes.ofAscii "ref:" then some (.symbolic name) else none
  | none => (readId? first).map .direct

/-- The reference in a file, if its path is that of a reference. -/
def reference? (path : String) (file : Bytes) : Option (Bytes × Reference) :=
  if path = "HEAD" || "refs/".toList.isPrefixOf path.toList then
    (readReference? file).map fun target => (Bytes.ofText path, target)
  else none

/-- The references in a list of them, one on each line after its id. -/
def listedReferences (file : Bytes) : List (Bytes × Reference) :=
  (Bytes.splitOn Bytes.lineFeed file).filterMap fun entry =>
    match Bytes.cut Bytes.space entry with
    | some (id, name) => (readId? id).map fun id => (name, .direct id)
    | none => none

/-- The repository in files.  A reference with a file of its own counts before one that is
only listed. -/
def repository (files : Files) : Repository where
  objects := files.filterMap fun (path, file) => object? path file
  references :=
    let own := files.filterMap fun (path, file) => reference? path file
    let listed := listedReferences ((files.lookup "packed-refs").getD [])
    own ++ listed.filter fun e => (own.lookup e.1).isNone
  loose := files.filterMap fun (path, file) => (objectId? path).map fun id => (id, file)

end Files

end GitCensus.Repository
