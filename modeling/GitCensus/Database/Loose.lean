import GitCensus.Fault
import GitCensus.Inflate.Stream
/-!
# Loose objects

A loose object is a file with the compressed text of its kind, a space, its size, a
NUL and its content.  Only the beginning of the file is inflated for the header.
-/

namespace GitCensus.Database.Loose

/-- The most bytes of a file that are read for its header. -/
def inputPortion : Nat := 64

def outputPortion : Nat := 256

def parseHeader (id : ObjectId) (inflated : Bytes) : Except Fault Header :=
  match Bytes.cut Bytes.nul inflated with
  | none => .error (.protocol (.corruptLooseHeader id))
  | some (header, _) =>
    let (kind, size) := (Bytes.cut Bytes.space header).getD (header, [])
    if !Bytes.isDigits size then .error (.protocol (.invalidLooseSize size id))
    else match Text.Decimal.read? size with
      | none => .error (.digitsToRead size.length)
      | some n => .ok ⟨ObjectKind.ofName (Text.ascii kind), n⟩

def readHeader (id : ObjectId) (file : Bytes) : Except Fault Header :=
  match Inflate.inflate outputPortion (file.take inputPortion) with
  | .error cause => .error (.protocol (.corruptLoose id cause))
  | .ok inflated => parseHeader id inflated

end GitCensus.Database.Loose
