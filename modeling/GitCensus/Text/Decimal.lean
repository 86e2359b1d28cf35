import GitCensus.Bytes
/-!
# Decimal numbers with a length limit

Numbers are read and written only up to a fixed number of digits.  Reading counts
every digit given, leading zeros too.
-/

namespace GitCensus.Text.Decimal

/-- The most digits a number may be read from or written with. -/
def digitLimit : Nat := 4300

def read? (digits : Bytes) : Option Nat :=
  if digits.length ≤ digitLimit then some (Bytes.value 10 digits) else none

def isWritable (n : Int) : Bool := n.natAbs < Nat.pow 10 digitLimit

def digits (n : Nat) : Bytes := Bytes.ofAscii (toString n)

def padLeft (width : Nat) (s : String) : String :=
  String.ofList (List.replicate (width - s.length) ' ') ++ s

def padRight (width : Nat) (s : String) : String :=
  s ++ String.ofList (List.replicate (width - s.length) ' ')

end GitCensus.Text.Decimal
