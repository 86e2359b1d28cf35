import GitCensus.Bytes
import GitCensus.Inflate.Fault
/-!
# Reading bits

Compressed data is read bit by bit, each byte from its lowest bit on, and numbers
are given from their lowest bit on.  Reading stops for good where the data ends or
where it is faulty.
-/

namespace GitCensus.Inflate

/-- The data still to read: what is left of the byte begun, and the bytes after it. -/
structure Source where
  buffered : List Bool := []
  rest : Bytes
deriving DecidableEq, Inhabited

inductive Stop where
  /-- The data ends here. -/
  | ended
  | failed (fault : Fault)
deriving DecidableEq

/-- A way of reading an `α`. -/
abbrev Reader (α : Type) := StateT Source (Except Stop) α

namespace Reader

variable {α : Type}

def fail (fault : Fault) : Reader α := fun _ => .error (.failed fault)

def bitsOf (b : UInt8) : List Bool := (List.range 8).map b.toNat.testBit

def bit : Reader Bool := fun s =>
  match s.buffered with
  | x :: buffered => .ok (x, { s with buffered })
  | [] =>
    match s.rest with
    | [] => .error .ended
    | b :: rest => .ok (b.toNat % 2 = 1, ⟨(bitsOf b).drop 1, rest⟩)

def bits : Nat → Reader Nat
  | 0 => pure 0
  | n + 1 => do
    let low ← bit
    let high ← bits n
    return low.toNat + 2 * high

/-- Passes over what is left of the byte begun. -/
def align : Reader Unit := fun s => .ok ((), { s with buffered := [] })

/-- Takes up to `n` whole bytes. -/
def bytes (n : Nat) : Reader Bytes := fun s =>
  .ok (s.rest.take n, { s with rest := s.rest.drop n })

end Reader

end GitCensus.Inflate
