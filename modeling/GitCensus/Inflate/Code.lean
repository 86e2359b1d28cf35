import GitCensus.Inflate.Source
/-!
# Canonical codes

A code is given by the lengths of its words alone.  Words of one length count
upwards in the order of their symbols, and shorter words come before longer ones.
-/

namespace GitCensus.Inflate

def maxWordLength : Nat := 15

/-- A code word and the symbol it stands for. -/
structure CodeWord where
  length : Nat
  value : Nat
  symbol : Nat
deriving DecidableEq, Repr

/-- A code: its words, and the length of the longest. -/
structure Code where
  words : List CodeWord
  longest : Nat
deriving DecidableEq, Repr

namespace Code

def countOf (lengths : List Nat) (length : Nat) : Nat :=
  if length = 0 then 0 else lengths.count length

/-- The first word of a length. -/
def firstOf (lengths : List Nat) : Nat → Nat
  | 0 => 0
  | length + 1 => 2 * (firstOf lengths length + countOf lengths length)

/-- The room that words of up to a length leave, in words of that length; negative
when there are too many words. -/
def room (lengths : List Nat) : Nat → Int
  | 0 => 1
  | length + 1 => 2 * room lengths length - countOf lengths (length + 1)

/-- Whether words of some length find no room. -/
def isOverfull (lengths : List Nat) : Bool :=
  (List.range (maxWordLength + 1)).any fun length => room lengths length < 0

/-- The words of a code, one for each symbol with a length other than zero. -/
def wordsOf (lengths : List Nat) : List CodeWord :=
  lengths.zipIdx.filterMap fun (length, symbol) =>
    if length = 0 then none
    else some ⟨length, firstOf lengths length + (lengths.take symbol).count length, symbol⟩

/-- The code with the given word lengths.  It has to be full, but for a code without
any word, and, where `oneWord` allows it, for a code of words of length one. -/
def ofLengths? (oneWord : Bool) (lengths : List Nat) : Option Code :=
  let longest := lengths.foldl max 0
  if isOverfull lengths then none
  else if longest ≠ 0 ∧ 0 < room lengths maxWordLength ∧ ¬(oneWord ∧ longest = 1) then none
  else some ⟨wordsOf lengths, longest⟩

/-- Reads one word, continuing from the bits read so far; `none` when as many bits as
the longest word has are none. -/
def readFrom (c : Code) : (more length value : Nat) → Reader (Option Nat)
  | 0, _, _ => pure none
  | more + 1, length, value => do
    let low ← Reader.bit
    let value := 2 * value + low.toNat
    match c.words.find? fun w => w.length = length + 1 && w.value = value with
    | some w => return some w.symbol
    | none => c.readFrom more (length + 1) value

/-- Reads one word and delivers its symbol, if it is a word.  At least one bit is read. -/
def read (c : Code) : Reader (Option Nat) := c.readFrom (max c.longest 1) 0 0

end Code

end GitCensus.Inflate
