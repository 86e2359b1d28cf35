import GitCensus.Bytes
/-!
# Hexadecimal text

Every byte is written as two lower-case digits.  Reading takes digits of either
case and passes over blanks between bytes, never inside one.
-/

namespace GitCensus.Text.Hex

def digit (n : Nat) : Char :=
  if n < 10 then Char.ofNat (0x30 + n) else Char.ofNat (0x57 + n)

/-- The two digits of a byte, high half first. -/
def pair (b : UInt8) : List Char := [digit (b.toNat / 16), digit (b.toNat % 16)]

def encode (bs : Bytes) : List Char := bs.flatMap pair

def text (bs : Bytes) : String := String.ofList (encode bs)

def digitValue? (c : Char) : Option Nat :=
  let n := c.toNat
  if 0x30 ≤ n ∧ n ≤ 0x39 then some (n - 0x30)
  else if 0x61 ≤ n ∧ n ≤ 0x66 then some (n - 0x57)
  else if 0x41 ≤ n ∧ n ≤ 0x46 then some (n - 0x37)
  else none

/-- The six blanks that may stand between bytes. -/
def isBlank (c : Char) : Bool :=
  c.toNat = 0x20 || (0x09 ≤ c.toNat && c.toNat ≤ 0x0d)

/-- Reads digit pairs from an index on; an error is the index of the character
that is no digit. -/
def decodeFrom (index : Nat) : List Char → Except Nat Bytes
  | [] => .ok []
  | c :: rest =>
    if isBlank c then decodeFrom (index + 1) rest
    else match digitValue? c, rest with
      | none, _ => .error index
      | some _, [] => .error (index + 1)
      | some high, d :: rest =>
        match digitValue? d with
        | none => .error (index + 1)
        | some low => (decodeFrom (index + 2) rest).map (UInt8.ofNat (16 * high + low) :: ·)

/-- Reads digit pairs; a character outside ASCII is reported before any other fault. -/
def decode (cs : List Char) : Except Nat Bytes :=
  match cs.findIdx? (fun c => 0x80 ≤ c.toNat) with
  | some index => .error index
  | none => decodeFrom 0 cs

end GitCensus.Text.Hex
