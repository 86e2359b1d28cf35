/-!
# Byte strings

Object payloads, entry names and protocol lines are lists of bytes.  `cut` is
the one separator search that every reader here is built from.
-/

namespace GitCensus

abbrev Bytes := List UInt8

namespace Bytes

/-- The separator between words and between the mode and the name of an entry. -/
def space : UInt8 := 0x20

def lineFeed : UInt8 := 0x0a

/-- The end of an entry name and of a loose header. -/
def nul : UInt8 := 0x00

def ofText (s : String) : Bytes := s.toUTF8.toList

/-- The bytes of a text of ASCII characters, one a character. -/
def ofAscii (s : String) : Bytes := s.toList.map fun c => UInt8.ofNat c.toNat

/-- The bytes before and after the first `mark`, if there is one. -/
def cut (mark : UInt8) (bs : Bytes) : Option (Bytes × Bytes) :=
  match bs.dropWhile (· ≠ mark) with
  | [] => none
  | _ :: after => some (bs.takeWhile (· ≠ mark), after)

def same : Bytes → Bytes → Bool
  | [], [] => true
  | a :: as, b :: bs => a == b && same as bs
  | _, _ => false

theorem same_iff {a b : Bytes} : same a b = true ↔ a = b := by
  induction a generalizing b with
  | nil => cases b <;> simp [same]
  | cons x a ih => cases b <;> simp [same, ih]

/-- The pieces between the occurrences of `mark`; there is always one more than marks. -/
def splitOn (mark : UInt8) (bs : Bytes) : List Bytes :=
  bs.foldr (fun b pieces =>
    if b = mark then [] :: pieces
    else match pieces with
      | [] => [[b]]
      | piece :: rest => (b :: piece) :: rest) [[]]

/-- Whether a byte is one of the digits `0` to `9`. -/
def isDigit (b : UInt8) : Bool := 0x30 ≤ b && b ≤ 0x39

def isDigits (bs : Bytes) : Bool := !bs.isEmpty && bs.all isDigit

/-- The number that the digits of a byte string denote in a base. -/
def value (base : Nat) (digits : Bytes) : Nat :=
  digits.foldl (fun n d => n * base + (d.toNat - 0x30)) 0

theorem cut_length {mark : UInt8} {bs before after : Bytes}
    (h : cut mark bs = some (before, after)) : after.length < bs.length := by
  unfold cut at h
  split at h
  · cases h
  · next x rest hdrop =>
    cases h
    have := congrArg List.length (List.takeWhile_append_dropWhile (p := (· ≠ mark)) (l := bs))
    rw [hdrop] at this
    simp only [List.length_append, List.length_cons] at this
    omega

end Bytes

end GitCensus
