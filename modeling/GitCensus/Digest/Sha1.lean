import GitCensus.Bytes
/-!
# SHA-1

The digest of a byte string: the string is padded to blocks of sixteen words, and each
block is mixed into five words of state in eighty rounds.
-/

namespace GitCensus.Sha1

structure State where
  a : UInt32
  b : UInt32
  c : UInt32
  d : UInt32
  e : UInt32
deriving DecidableEq, Repr

namespace State

def start : State := ⟨0x67452301, 0xefcdab89, 0x98badcfe, 0x10325476, 0xc3d2e1f0⟩

def add (s t : State) : State := ⟨s.a + t.a, s.b + t.b, s.c + t.c, s.d + t.d, s.e + t.e⟩

end State

def rotate (w n : UInt32) : UInt32 := (w <<< n) ||| (w >>> (32 - n))

def wordBytes (w : UInt32) : Bytes :=
  [(w >>> 24).toUInt8, (w >>> 16).toUInt8, (w >>> 8).toUInt8, w.toUInt8]

def ofBytes (bs : Bytes) : UInt32 := bs.foldl (fun w b => (w <<< 8) ||| b.toUInt32) 0

def words : (n : Nat) → Bytes → List UInt32
  | 0, _ => []
  | n + 1, bs => ofBytes (bs.take 4) :: words n (bs.drop 4)

/-- The next `n` words of the schedule, of which the next sixteen are given. -/
def schedule : (n : Nat) → (window : List UInt32) → List UInt32
  | 0, _ => []
  | n + 1, window =>
    match window with
    | [] => []
    | w :: rest =>
      let mixed := w ^^^ window.getD 2 0 ^^^ window.getD 8 0 ^^^ window.getD 13 0
      w :: schedule n (rest ++ [rotate mixed 1])

def roundTerm (round : Nat) (s : State) : UInt32 :=
  if round < 20 then ((s.b &&& s.c) ||| (~~~s.b &&& s.d)) + 0x5a827999
  else if round < 40 then (s.b ^^^ s.c ^^^ s.d) + 0x6ed9eba1
  else if round < 60 then
    ((s.b &&& s.c) ||| (s.b &&& s.d) ||| (s.c &&& s.d)) + 0x8f1bbcdc
  else (s.b ^^^ s.c ^^^ s.d) + 0xca62c1d6

def round (s : State) (w : UInt32 × Nat) : State :=
  ⟨rotate s.a 5 + roundTerm w.2 s + s.e + w.1, s.a, rotate s.b 30, s.c, s.d⟩

def absorb (s : State) (block : Bytes) : State :=
  s.add ((schedule 80 (words 16 block)).zipIdx.foldl round s)

/-- Mixes the first `n` blocks of a byte string into the state. -/
def absorbBlocks : (n : Nat) → Bytes → State → State
  | 0, _, s => s
  | n + 1, bs, s => absorbBlocks n (bs.drop 64) (absorb s (bs.take 64))

def lengthBytes (n : Nat) : Bytes :=
  (List.range 8).reverse.map fun i => UInt8.ofNat (n / Nat.pow 256 i)

/-- A message followed by a one bit, zeros up to eight bytes before the end of a block,
and its length in bits. -/
def pad (message : Bytes) : Bytes :=
  message ++ 0x80 :: List.replicate ((119 - message.length % 64) % 64) 0 ++
    lengthBytes (8 * message.length)

def State.bytes (s : State) : Bytes :=
  wordBytes s.a ++ wordBytes s.b ++ wordBytes s.c ++ wordBytes s.d ++ wordBytes s.e

def digest (message : Bytes) : Bytes :=
  let padded := pad message
  (absorbBlocks (padded.length / 64) padded .start).bytes

@[simp] theorem length_digest (message : Bytes) : (digest message).length = 20 := rfl

end GitCensus.Sha1
