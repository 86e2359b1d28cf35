import GitCensus.Text.Hex
import GitCensus.Unicode.Printable
/-!
# Quoted values in messages

A quoted value stands between apostrophes, or between double quotes when it holds
an apostrophe and no double quote.  The mark in use and the backslash are escaped,
tab, line feed and carriage return have letters of their own, and whatever is not
printable is written by number.  A quoted byte string has a `b` in front.
-/

namespace GitCensus.Text.Quoted

/-- The mark put around a value, given whether the value holds either mark. -/
def mark (apostrophe double : Bool) : Char :=
  if apostrophe && !double then '\x22' else '\x27'

def padded (width n : Nat) : List Char :=
  (List.range width).reverse.map fun i => Hex.digit (n / Nat.pow 16 i % 16)

/-- The escape of a character that has a letter for it. -/
def letterEscape? (q c : Char) : Option (List Char) :=
  if c = q || c = '\\' then some ['\\', c]
  else if c = '\t' then some ['\\', 't']
  else if c = '\n' then some ['\\', 'n']
  else if c = '\r' then some ['\\', 'r']
  else none

/-- A character escaped by number, in the shortest of the three widths. -/
def numberEscape (n : Nat) : List Char :=
  if n < 0x100 then '\\' :: 'x' :: padded 2 n
  else if n < 0x10000 then '\\' :: 'u' :: padded 4 n
  else '\\' :: 'U' :: padded 8 n

def escape (q c : Char) : List Char :=
  match letterEscape? q c with
  | some written => written
  | none => if Unicode.isPrintable c then [c] else numberEscape c.toNat

def text (s : String) : String :=
  let cs := s.toList
  let q := mark (cs.contains '\x27') (cs.contains '\x22')
  String.ofList (q :: cs.flatMap (escape q) ++ [q])

def escapeByte (q : Char) (b : UInt8) : List Char :=
  match letterEscape? q (Char.ofNat b.toNat) with
  | some written => written
  | none => if 0x20 ≤ b && b < 0x7f then [Char.ofNat b.toNat] else numberEscape b.toNat

def bytes (bs : Bytes) : String :=
  let q := mark (bs.contains 0x27) (bs.contains 0x22)
  String.ofList ('b' :: q :: bs.flatMap (escapeByte q) ++ [q])

end GitCensus.Text.Quoted
