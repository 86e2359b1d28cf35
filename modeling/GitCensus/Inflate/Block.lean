import GitCensus.Inflate.Code
/-!
# Compressed blocks

A compressed block is a row of symbols: bytes, copies of earlier output, and an end.
Its two codes are either fixed or sent ahead of it, themselves in coded form.
-/

namespace GitCensus.Inflate

inductive Symbol where
  | literal (b : UInt8)
  /-- Repeats output from `distance` bytes back. -/
  | copy (length distance : Nat)
  | endOfBlock
deriving DecidableEq, Repr

/-- The code of literals and lengths, and the code of distances. -/
structure Codes where
  literals : Code
  distances : Code

/-- The smallest value and the number of further bits of each length symbol. -/
def lengthBases : List (Nat × Nat) := [
  (3, 0), (4, 0), (5, 0), (6, 0), (7, 0), (8, 0), (9, 0), (10, 0), (11, 1), (13, 1), (15, 1),
  (17, 1), (19, 2), (23, 2), (27, 2), (31, 2), (35, 3), (43, 3), (51, 3), (59, 3), (67, 4),
  (83, 4), (99, 4), (115, 4), (131, 5), (163, 5), (195, 5), (227, 5), (258, 0)]

/-- The smallest value and the number of further bits of each distance symbol. -/
def distanceBases : List (Nat × Nat) := [
  (1, 0), (2, 0), (3, 0), (4, 0), (5, 1), (7, 1), (9, 2), (13, 2), (17, 3), (25, 3), (33, 4),
  (49, 4), (65, 5), (97, 5), (129, 6), (193, 6), (257, 7), (385, 7), (513, 8), (769, 8),
  (1025, 9), (1537, 9), (2049, 10), (3073, 10), (4097, 11), (6145, 11), (8193, 12),
  (12289, 12), (16385, 13), (24577, 13)]

/-- Reads the value of a symbol that stands for a range of values. -/
def readValue (bases : List (Nat × Nat)) (symbol : Option Nat) (fault : Fault) : Reader Nat :=
  match symbol.bind fun s => bases[s]? with
  | none => Reader.fail fault
  | some (base, more) => do
    let rest ← Reader.bits more
    return base + rest

def readSymbol (codes : Codes) : Reader Symbol := do
  match ← codes.literals.read with
  | none => Reader.fail .literalLengthCode
  | some s =>
    if s < 256 then return .literal (UInt8.ofNat s)
    else if s = 256 then return .endOfBlock
    else
      let length ← readValue lengthBases (some (s - 257)) .literalLengthCode
      let symbol ← codes.distances.read
      let distance ← readValue distanceBases symbol .distanceCode
      return .copy length distance

/-- The word lengths of the fixed code of literals and lengths. -/
def fixedLiteralLengths : List Nat :=
  List.replicate 144 8 ++ List.replicate 112 9 ++ List.replicate 24 7 ++ List.replicate 8 8

/-- The codes that need not be sent. -/
def fixedCodes : Codes where
  literals := ⟨Code.wordsOf fixedLiteralLengths, 9⟩
  distances := ⟨Code.wordsOf (List.replicate 32 5), 5⟩

/-- The order in which the lengths of the code for lengths are sent. -/
def lengthOrder : List Nat :=
  [16, 17, 18, 0, 8, 7, 9, 6, 10, 5, 11, 4, 12, 3, 13, 2, 14, 1, 15]

/-- Reads `n` numbers of three bits. -/
def readShortLengths : Nat → Reader (List Nat)
  | 0 => pure []
  | n + 1 => do
    let first ← Reader.bits 3
    let rest ← readShortLengths n
    return first :: rest

/-- Reads word lengths in coded form until there are `wanted` of them; `done` holds those
read, newest first.  Each step adds at least one, so `steps` need not be more than are
wanted. -/
def readLengths (code : Code) (wanted : Nat) : (steps : Nat) → (done : List Nat) → Reader (List Nat)
  | 0, done => pure done.reverse
  | steps + 1, done => do
    if wanted ≤ done.length then return done.reverse
    let again (value base more : Nat) : Reader (List Nat) := do
      let count ← Reader.bits more
      if wanted < done.length + base + count then Reader.fail .bitLengthRepeat
      else readLengths code wanted steps (List.replicate (base + count) value ++ done)
    match (← code.read).getD 0 with
    | 16 =>
      match done with
      | [] => do
        let _ ← Reader.bits 2
        Reader.fail .bitLengthRepeat
      | last :: _ => again last 3 2
    | 17 => again 0 3 3
    | 18 => again 0 11 7
    | length => readLengths code wanted steps (length :: done)

def readCodes : Reader Codes := do
  let literalCount := (← Reader.bits 5) + 257
  let distanceCount := (← Reader.bits 5) + 1
  let shortCount := (← Reader.bits 4) + 4
  if 286 < literalCount ∨ 30 < distanceCount then Reader.fail .tooManySymbols
  else
    let short ← readShortLengths shortCount
    let sent := lengthOrder.zip short
    match Code.ofLengths? false ((List.range 19).map fun s => (sent.lookup s).getD 0) with
    | none => Reader.fail .codeLengthsSet
    | some code =>
      let wanted := literalCount + distanceCount
      let lengths ← readLengths code wanted (wanted + 1) []
      if lengths[256]? = some 0 then Reader.fail .missingEndOfBlock
      else match Code.ofLengths? true (lengths.take literalCount) with
        | none => Reader.fail .literalLengthsSet
        | some literals =>
          match Code.ofLengths? true (lengths.drop literalCount) with
          | none => Reader.fail .distancesSet
          | some distances => return ⟨literals, distances⟩

end GitCensus.Inflate
