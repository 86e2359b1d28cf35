import GitCensus.Bytes
/-!
# Octal modes

Modes are written in octal without leading zeros and read with any number of them.
-/

namespace GitCensus.Octal

/-- Whether a byte is one of the digits `0` to `7`. -/
def isDigit (b : UInt8) : Bool := 0x30 ≤ b && b ≤ 0x37

def read? (digits : Bytes) : Option Nat :=
  if !digits.isEmpty && digits.all isDigit then some (Bytes.value 8 digits) else none

/-- The octal digits of a number, put in front of `rest`. -/
def writeOnto (n : Nat) (rest : Bytes) : Bytes :=
  if h : n < 8 then UInt8.ofNat (0x30 + n) :: rest
  else writeOnto (n / 8) (UInt8.ofNat (0x30 + n % 8) :: rest)
termination_by n
decreasing_by omega

def write (n : Nat) : Bytes := writeOnto n []

end GitCensus.Octal
