/-!
# Faults of compressed streams

What can be wrong with a compressed stream, and the wording of each.
-/

namespace GitCensus.Inflate

/-- Why a compressed stream cannot be read. -/
inductive Fault where
  /-- The first two bytes are no multiple of 31. -/
  | headerCheck
  | compressionMethod
  | windowSize
  /-- The stream needs a preset dictionary. -/
  | presetDictionary
  | blockType
  | storedLengths
  | tooManySymbols
  | codeLengthsSet
  | bitLengthRepeat
  | missingEndOfBlock
  | literalLengthsSet
  | distancesSet
  | literalLengthCode
  | distanceCode
  | distanceTooFar
  /-- The checksum at the end differs. -/
  | dataCheck
deriving DecidableEq, Repr

/-- The cause of a fault in words, for those that have words. -/
def Fault.cause? : Fault → Option String
  | .headerCheck => some "incorrect header check"
  | .compressionMethod => some "unknown compression method"
  | .windowSize => some "invalid window size"
  | .presetDictionary => none
  | .blockType => some "invalid block type"
  | .storedLengths => some "invalid stored block lengths"
  | .tooManySymbols => some "too many length or distance symbols"
  | .codeLengthsSet => some "invalid code lengths set"
  | .bitLengthRepeat => some "invalid bit length repeat"
  | .missingEndOfBlock => some "invalid code -- missing end-of-block"
  | .literalLengthsSet => some "invalid literal/lengths set"
  | .distancesSet => some "invalid distances set"
  | .literalLengthCode => some "invalid literal/length code"
  | .distanceCode => some "invalid distance code"
  | .distanceTooFar => some "invalid distance too far back"
  | .dataCheck => some "incorrect data check"

def Fault.message (f : Fault) : String :=
  match f.cause? with
  | some cause => "Error -3 while decompressing data: " ++ cause
  | none => "Error 2 while decompressing data"

end GitCensus.Inflate
