import GitCensus.Census.Basic
/-!
# Sizing with a work stack

A tree is sized from the records of its subtrees.  While some of them have no
record, they are put on top of it on the work stack, and it is read again when
they are done.  A failure empties the stack; records made before it stay.
-/

namespace GitCensus.Census

variable {σ : Type}

/-- The size of a blob, from its record or else from its header. -/
def blobSize (S : Store σ) (id : ObjectId) (c : Census σ) : Except Fault BlobSize × Census σ :=
  match c.blobs.find? id with
  | some size => (.ok size, c)
  | none =>
    match c.askHeader S id with
    | (.error fault, c) => (.error fault, c)
    | (.ok header, c) =>
      if header.kind = .blob then (.ok (BlobSize.ofHeader header.size), c.recordBlob id header.size)
      else (.error (.wrongKind id header.kind.name ObjectKind.blob.name), c)

/-- What reading the entries of a tree has found: whether a subtree without a record
was among them, and the statistics of the entries before it. -/
structure Scan where
  waiting : Bool := false
  gathered : TreeSize := {}
deriving DecidableEq

/-- Adds a contribution, unless the tree has to wait anyway. -/
def Scan.add (s : Scan) (contribution : Contribution) : Scan :=
  if s.waiting then s else { s with gathered := s.gathered.add contribution }

/-- Reads one entry.  A subtree without a record is put on the stack; a blob is
looked up even when the tree has to wait. -/
def scanEntry (S : Store σ) (e : Entry) (s : Scan) (c : Census σ) :
    Except Fault Scan × Census σ :=
  match e.kind with
  | .tree =>
    match c.trees.find? e.id with
    | none => (.ok { s with waiting := true }, c.push e.id)
    | some size => (.ok (s.add (.subtree e.name size)), c)
  | .submodule => (.ok (s.add (.submodule e.name)), c)
  | .link => (.ok (s.add (.link e.name)), c)
  | .blob =>
    match c.blobSize S e.id with
    | (.error fault, c) => (.error fault, c)
    | (.ok blob, c) => (.ok (s.add (.blob e.name blob.size)), c)

/-- Reads entries in order, up to the first failure. -/
def scanEntries (S : Store σ) : List Entry → Scan → Census σ → Except Fault Scan × Census σ
  | [], s, c => (.ok s, c)
  | e :: rest, s, c =>
    match scanEntry S e s c with
    | (.error fault, c) => (.error fault, c)
    | (.ok s, c) => scanEntries S rest s c

/-- Reads a tree once.  Its statistics are delivered if all subtrees have records;
otherwise the missing ones are on the stack afterwards, with a note. -/
def attempt (S : Store σ) (id : ObjectId) (c : Census σ) :
    Except Fault (Option TreeSize) × Census σ :=
  match c.askTree S id with
  | (.error fault, c) => (.error fault, c)
  | (.ok data, c) =>
    let listing := Tree.decode data
    match scanEntries S listing.entries {} c with
    | (.error fault, c) => (.error fault, c)
    | (.ok s, c) =>
      match listing.fault with
      | some cause => (.error (.malformedTree cause), c)
      | none =>
        if s.waiting then (.ok none, c.note (.waits id c.pending.size))
        else (.ok (some (s.gathered.close listing.entries.length)), c)

/-- One round of work on the tree on top of the stack.  A tree with a record is
taken off; so is one that could be sized, after its record is made. -/
def round (S : Store σ) (id : ObjectId) (c : Census σ) : Except Fault Unit × Census σ :=
  if (c.trees.find? id).isSome then (.ok (), c.pop)
  else match c.attempt S id with
    | (.error fault, c) => (.error fault, c)
    | (.ok none, c) => (.ok (), c)
    | (.ok (some size), c) => (.ok (), (c.recordTree id size).pop)

/-- Works until the stack is empty or a round fails.  `none` means that more than the
given number of rounds would be needed. -/
def work (S : Store σ) : Nat → Census σ → Option (Except Fault Unit × Census σ)
  | rounds, c =>
    match c.pending.ids with
    | [] => some (.ok (), c)
    | id :: _ =>
      match rounds with
      | 0 => none
      | rounds + 1 =>
        match c.round S id with
        | (.error fault, c) => some (.error fault, c)
        | (.ok (), c) => work S rounds c

/-- The statistics of a tree, from its record or else by working within a number of
rounds.  After a failure the stack is empty and a note tells what was on it. -/
def treeSize (S : Store σ) (rounds : Nat) (id : ObjectId) (c : Census σ) :
    Option (Except Fault TreeSize × Census σ) :=
  match c.trees.find? id with
  | some size => some (.ok size, c)
  | none =>
    match work S rounds (c.push id) with
    | none => none
    | some (.error fault, c) =>
      some (.error fault, { c.note (.abandoned id c.pending) with pending := {} })
    | some (.ok (), c) =>
      match c.trees.find? id with
      | some size => some (.ok size, c)
      | none => some (.error (.unrecorded id), c)

/-- The size of a blob or tree.  The header is asked for first, whatever has been
recorded; commits and tags have no size. -/
def objectSize (S : Store σ) (rounds : Nat) (id : ObjectId) (c : Census σ) :
    Option (Except Fault ObjectSize × Census σ) :=
  match c.askHeader S id with
  | (.error fault, c) => some (.error fault, c)
  | (.ok header, c) =>
    match header.kind with
    | .blob =>
      match c.blobs.find? id with
      | some size => some (.ok (.blob size), c)
      | none => some (.ok (.blob (BlobSize.ofHeader header.size)), c.recordBlob id header.size)
    | .tree => (treeSize S rounds id c).map fun (answer, c) => (answer.map .tree, c)
    | .commit | .tag => some (.error (.unsizedKind id header.kind.name), c)
    | .other kind => some (.error (.protocol (.unknownKind id kind)), c)

end GitCensus.Census
