import GitCensus.ObjectId
import GitCensus.ObjectKind
/-!
# Pack files

A pack file holds entries one after the other, and an index tells at which offset
the entry of an id starts.  The header of an entry is its type and the size of its
content in groups of bits: four in the first byte, seven in each further one, the
lowest group first.  The top bit of a byte tells that another group follows.
-/

namespace GitCensus.Database

structure EntryHeader where
  /-- Three bits that tell what the entry holds. -/
  type : Nat
  /-- The size of the content. -/
  size : Nat
deriving DecidableEq, Repr, Inhabited

namespace EntryHeader

/-- The kind that a type stands for; other types are entries that only tell how they
differ from another one. -/
def kind? (h : EntryHeader) : Option ObjectKind :=
  match h.type with
  | 1 => some .commit
  | 2 => some .tree
  | 3 => some .blob
  | 4 => some .tag
  | _ => none

/-- Reads the groups of seven bits that follow what has been read of a size, each to be put
in from the bit `shift` on, up to the first byte without the top bit; then what has not
been read. -/
def readGroups (shift size : Nat) : Bytes → Option Nat × Bytes
  | [] => (none, [])
  | b :: unread =>
    let size := size ||| (b &&& 0x7f).toNat <<< shift
    if b &&& 0x80 = 0 then (some size, unread) else readGroups (shift + 7) size unread

/-- Reads a header, or nothing when the bytes end inside it; then what has not been read. -/
def read : Bytes → Option EntryHeader × Bytes
  | [] => (none, [])
  | b :: unread =>
    let type := (b >>> 4 &&& 7).toNat
    let size := (b &&& 0x0f).toNat
    if b &&& 0x80 = 0 then (some ⟨type, size⟩, unread)
    else
      let (size, unread) := readGroups 4 size unread
      (size.map fun size => ⟨type, size⟩, unread)

def writeGroups (n : Nat) : Bytes :=
  if n < 0x80 then [UInt8.ofNat n]
  else UInt8.ofNat (0x80 + n % 0x80) :: writeGroups (n / 0x80)
termination_by n
decreasing_by omega

def write (h : EntryHeader) : Bytes :=
  let first := h.type % 8 * 0x10 + h.size % 0x10
  if h.size < 0x10 then [UInt8.ofNat first]
  else UInt8.ofNat (0x80 + first) :: writeGroups (h.size / 0x10)

end EntryHeader

/-- A pack: its content and the offsets of its entries. -/
structure Pack where
  content : Bytes
  offsets : List (ObjectId × Nat)
  /-- Whether the content is in a file of its own. -/
  hasFile : Bool := true
deriving Inhabited

namespace Pack

def headerAt? (p : Pack) (offset : Nat) : Option EntryHeader :=
  (EntryHeader.read (p.content.drop offset)).1

/-- The file of a pack that has been opened: its content, and what is still to be read
from where the file stands. -/
structure Handle where
  content : Bytes
  unread : Bytes

namespace Handle

/-- Opens the file of a pack; it stands at its beginning. -/
def ofPack (p : Pack) : Handle := ⟨p.content, p.content⟩

def seek (offset : Nat) (f : Handle) : Handle := { f with unread := f.content.drop offset }

/-- Reads the header of the entry at an offset.  The file stands after it afterwards. -/
def readHeader (offset : Nat) (f : Handle) : Option EntryHeader × Handle :=
  let f := f.seek offset
  let (header, unread) := EntryHeader.read f.unread
  (header, { f with unread })

end Handle

end Pack

end GitCensus.Database
