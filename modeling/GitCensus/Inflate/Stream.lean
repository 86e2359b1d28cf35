import GitCensus.Inflate.Block
/-!
# Inflating a stream

A stream is a two-byte header, blocks, and a checksum of the output.  Inflating
goes on while there is input and while no output is due that there is no space
for; where it stops, the output so far is delivered.  A fault is reported only if
it is met before that.
-/

namespace GitCensus.Inflate

/-- The output so far, newest byte first, and the space that is left for more. -/
structure Output where
  bytes : Bytes := []
  space : Nat
deriving DecidableEq

namespace Output

/-- Adds bytes as far as there is space, and tells whether there was space for all. -/
def append (out : Output) (bs : Bytes) : Output × Bool :=
  (⟨(bs.take out.space).reverse ++ out.bytes, out.space - bs.length⟩, bs.length ≤ out.space)

/-- Repeats output from `distance` bytes back, byte by byte. -/
def copy (distance : Nat) : Nat → Output → Output
  | 0, out => out
  | n + 1, out =>
    copy distance n ⟨(out.bytes[distance - 1]?).getD 0 :: out.bytes, out.space - 1⟩

def toList (out : Output) : Bytes := out.bytes.reverse

/-- The checksum of the output: two sums modulo the largest prime below `2 ^ 16`. -/
def checksum (out : Output) : Nat :=
  let (low, high) := out.toList.foldl (fun (low, high) b =>
    let low := (low + b.toNat) % 65521
    (low, (high + low) % 65521)) (1, 0)
  high * 65536 + low

end Output

/-- Where inflating stands: the output so far, and what is left to read, or nothing
when inflating has stopped. -/
abbrev Progress := Output × Option Source

/-- Runs a reader and goes on with what it read; the output stays as it is when the
reader stops. -/
def proceed {α : Type} (read : Reader α) (out : Output) (s : Source)
    (next : α → Source → Except Fault Progress) : Except Fault Progress :=
  match read s with
  | .error .ended => .ok (out, none)
  | .error (.failed fault) => .error fault
  | .ok (a, s) => next a s

/-- Inflates the symbols of a compressed block up to its end; each takes a bit at least,
so `steps` need not be more than there are bits. -/
def symbols (codes : Codes) : (steps : Nat) → Output → Source → Except Fault Progress
  | 0, out, _ => .ok (out, none)
  | steps + 1, out, s =>
    proceed (readSymbol codes) out s fun symbol s =>
      match symbol with
      | .endOfBlock => .ok (out, some s)
      | .literal b =>
        if out.space = 0 then .ok (out, none)
        else symbols codes steps ⟨b :: out.bytes, out.space - 1⟩ s
      | .copy length distance =>
        if out.space = 0 then .ok (out, none)
        else if out.bytes.length < distance then .error .distanceTooFar
        else
          let copied := out.copy distance (min length out.space)
          if out.space < length then .ok (copied, none)
          else symbols codes steps copied s

/-- Reads the length of a stored block, which is sent twice, once inverted. -/
def readStoredLength : Reader Nat := do
  Reader.align
  let length ← Reader.bits 16
  let inverted ← Reader.bits 16
  if length + inverted = 0xffff then return length else Reader.fail .storedLengths

def stored (out : Output) (s : Source) : Except Fault Progress :=
  proceed readStoredLength out s fun length s =>
    proceed (Reader.bytes length) out s fun bs s =>
      let (out, complete) := out.append bs
      .ok (out, if complete && bs.length = length then some s else none)

/-- Reads the header of a block: whether it is the last one, and its type. -/
def readBlockHeader : Reader (Bool × Nat) := do
  let last ← Reader.bit
  let type ← Reader.bits 2
  return (last, type)

/-- Reads the checksum, highest byte first, and compares it. -/
def readChecksum (out : Output) : Reader Unit := do
  Reader.align
  let a ← Reader.bits 8
  let b ← Reader.bits 8
  let c ← Reader.bits 8
  let d ← Reader.bits 8
  if ((a * 256 + b) * 256 + c) * 256 + d = out.checksum then return ()
  else Reader.fail .dataCheck

def block (type steps : Nat) (out : Output) (s : Source) : Except Fault Progress :=
  match type with
  | 0 => stored out s
  | 1 => symbols fixedCodes steps out s
  | 2 => proceed readCodes out s fun codes s => symbols codes steps out s
  | _ => .error .blockType

def blocks : (steps : Nat) → Output → Source → Except Fault Progress
  | 0, out, _ => .ok (out, none)
  | steps + 1, out, s =>
    proceed readBlockHeader out s fun (last, type) s =>
      match block type steps out s with
      | .error fault => .error fault
      | .ok (out, none) => .ok (out, none)
      | .ok (out, some s) =>
        if last then proceed (readChecksum out) out s fun _ s => .ok (out, some s)
        else blocks steps out s

/-- Reads the header of a stream: two bytes whose checksum, method and window size have
to be right, in this order. -/
def readStreamHeader : Reader Unit := do
  let first ← Reader.bits 8
  let second ← Reader.bits 8
  if (first * 256 + second) % 31 ≠ 0 then Reader.fail .headerCheck
  else if first % 16 ≠ 8 then Reader.fail .compressionMethod
  else if 7 < first / 16 then Reader.fail .windowSize
  else if second / 32 % 2 = 1 then do
    let _ ← Reader.bits 32
    Reader.fail .presetDictionary
  else return ()

/-- Inflates a stream, which may be cut off, as far as there is space for output. -/
def stream (steps space : Nat) (data : Bytes) : Except Fault Progress :=
  proceed readStreamHeader { space } { rest := data } fun _ s => blocks steps { space } s

/-- Inflates a stream, which may be cut off, to at most `space` bytes. -/
def inflate (space : Nat) (data : Bytes) : Except Fault Bytes := do
  let (out, _) ← stream (8 * data.length + 1) space data
  return out.toList

end GitCensus.Inflate
