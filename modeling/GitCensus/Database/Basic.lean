import GitCensus.Database.Loose
import GitCensus.Database.Pack
import GitCensus.Store.ObjectMap
/-!
# An object database

A database holds objects in packs and in loose files and can resolve any of them in
full.  Headers are read without that where possible: from the entry of a pack, else
from the beginning of a loose file.  The index over all packs is made when the
first header is asked for, and the file of a pack is opened when it is first read and
stays open.  Both are given up when the database is closed.
-/

namespace GitCensus

/-- Where the entry of an object starts. -/
structure Database.Location where
  pack : Database.Pack
  /-- The place of the pack among all packs, by which its file is known. -/
  number : Nat
  offset : Nat
deriving Inhabited

/-- The largest offset that a file can be moved to; no file goes on beyond it. -/
def Database.farthestOffset : Nat := 0x7fffffffffffffff

/-- Why there is no header at a location: its file ends before, or cannot even be moved there. -/
def Database.Location.fault (l : Database.Location) : Fault :=
  if l.offset ≤ farthestOffset then .endOfPack else .offsetTooLarge

/-- A database: its contents, the index if it has been made, the sizes of the indexes made
so far, newest first, and the files that are open, by number. -/
structure Database where
  packs : List Database.Pack := []
  /-- The loose files, if there is a directory for them. -/
  loose : Option (List (ObjectId × Bytes)) := none
  /-- What resolving in full finds. -/
  full : ObjectMap
  index : Option (List (ObjectId × Database.Location)) := none
  indexed : List Nat := []
  opened : List (Nat × Database.Pack.Handle) := []

namespace Database

/-- The entries of all packs that have a file, those of later packs first. -/
def entriesOf (packs : List Pack) : List (ObjectId × Location) :=
  ((packs.zipIdx.filter (·.1.hasFile)).flatMap fun (pack, number) =>
    pack.offsets.map fun (id, offset) => (id, ⟨pack, number, offset⟩)).reverse

def indexNote (size : Nat) : String := "indexed " ++ toString size ++ " packed objects"

/-- The index, and the database with the index made. -/
def withIndex (d : Database) : List (ObjectId × Location) × Database :=
  match d.index with
  | some index => (index, d)
  | none =>
    let index := entriesOf d.packs
    let size := (index.map (·.1)).eraseDups.length
    (index, { d with index := some index, indexed := size :: d.indexed })

/-- The file at a location as it was left, or opened if it is not open. -/
def handle (l : Location) (d : Database) : Pack.Handle :=
  (d.opened.lookup l.number).getD (.ofPack l.pack)

/-- Reads the header of the entry at a location; the file stays open. -/
def readEntry (l : Location) (d : Database) : Option EntryHeader × Database :=
  let (header, file) := (d.handle l).readHeader l.offset
  (header, { d with opened := (l.number, file) :: d.opened.filter (·.1 ≠ l.number) })

/-- The header of the loose file of an id, if there is one. -/
def looseHeader? (d : Database) (id : ObjectId) : Option (Except Fault Header) :=
  (d.loose.bind (·.lookup id)).map (Loose.readHeader id)

/-- The header of an object: from its pack entry, unless that only tells a difference;
else from its loose file; else by resolving it in full. -/
def readHeader (id : ObjectId) (d : Database) : Except Fault Header × Database :=
  let (index, d) := d.withIndex
  match index.lookup id with
  | some location =>
    let (entry, d) := d.readEntry location
    match entry with
    | none => (.error location.fault, d)
    | some entry =>
      match entry.kind? with
      | some kind => (.ok ⟨kind, entry.size⟩, d)
      | none => (d.full.readHeader id, d)
  | none => ((d.looseHeader? id).getD (d.full.readHeader id), d)

/-- The payload of a tree, by resolving it in full. -/
def readTree (id : ObjectId) (d : Database) : Except Fault Bytes × Database :=
  (d.full.readTree id, d)

def close (d : Database) : Database := { d with index := none, opened := [] }

def store : Store Database where
  readHeader := readHeader
  readTree := readTree

end Database

end GitCensus
