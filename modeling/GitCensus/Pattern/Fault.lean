import GitCensus.Pattern.Basic
import GitCensus.Text.Decimal
import GitCensus.Text.Quoted
/-!
# Faults of patterns

Why a text is no pattern, with the wording and the place of each fault.
-/

namespace GitCensus.Pattern

/-- What is wrong with a pattern. -/
inductive Cause where
  | badEscapeAtEnd
  | badEscape (text : String)
  | incompleteEscape (text : String)
  | octalTooLarge (text : String)
  | missingBrace
  /-- A name that has to stand here is empty. -/
  | missingName (what : String)
  | unterminatedName (terminator : String)
  | badNameCharacter (name : String)
  | undefinedCharacter (name : String)
  | unknownName (name : String)
  | nameTaken (name : String) (index earlier : Nat)
  | openGroup
  | groupInLook
  | invalidReference (index : Nat)
  | groupZero
  | unterminatedSet
  | badRange (low high : String)
  | nothingToRepeat
  | multipleRepeat
  | minAboveMax
  | unexpectedEnd
  | unknownExtension (text : String)
  | unterminatedComment
  | unterminatedGroup
  | tooManyBranches
  | optionsNotAtStart
  | unbalanced
  | localeOption
  | incompatibleOptions
  | missingOptionEnd
  | unknownOption
  | missingOption
  | missingColon
  | turningOnWhole
  | turningOffClass
  | turningOffWhole
  | optionOnAndOff
  | lookNotFixed
  | lookTooFar
  /-- A part is repeated although that is turned off. -/
  | templateRepeat (greed : Greed)
deriving DecidableEq, Repr

def Cause.message : Cause → String
  | .badEscapeAtEnd => "bad escape (end of pattern)"
  | .badEscape text => "bad escape " ++ text
  | .incompleteEscape text => "incomplete escape " ++ text
  | .octalTooLarge text => "octal escape value " ++ text ++ " outside of range 0-0o377"
  | .missingBrace => "missing \x7b"
  | .missingName what => "missing " ++ what
  | .unterminatedName terminator => "missing " ++ terminator ++ ", unterminated name"
  | .badNameCharacter name => "bad character in group name " ++ Text.Quoted.text name
  | .undefinedCharacter name => "undefined character name " ++ Text.Quoted.text name
  | .unknownName name => "unknown group name " ++ Text.Quoted.text name
  | .nameTaken name index earlier =>
    "redefinition of group name " ++ Text.Quoted.text name ++ " as group " ++ toString index ++
      "; was group " ++ toString earlier
  | .openGroup => "cannot refer to an open group"
  | .groupInLook => "cannot refer to group defined in the same lookbehind subpattern"
  | .invalidReference index => "invalid group reference " ++ toString index
  | .groupZero => "bad group number"
  | .unterminatedSet => "unterminated character set"
  | .badRange low high => "bad character range " ++ low ++ "-" ++ high
  | .nothingToRepeat => "nothing to repeat"
  | .multipleRepeat => "multiple repeat"
  | .minAboveMax => "min repeat greater than max repeat"
  | .unexpectedEnd => "unexpected end of pattern"
  | .unknownExtension text => "unknown extension ?" ++ text
  | .unterminatedComment => "missing ), unterminated comment"
  | .unterminatedGroup => "missing ), unterminated subpattern"
  | .tooManyBranches => "conditional backref with more than two branches"
  | .optionsNotAtStart => "global flags not at the start of the expression"
  | .unbalanced => "unbalanced parenthesis"
  | .localeOption => "bad inline flags: cannot use 'L' flag with a str pattern"
  | .incompatibleOptions => "bad inline flags: flags 'a', 'u' and 'L' are incompatible"
  | .missingOptionEnd => "missing -, : or )"
  | .unknownOption => "unknown flag"
  | .missingOption => "missing flag"
  | .missingColon => "missing :"
  | .turningOnWhole => "bad inline flags: cannot turn on global flag"
  | .turningOffClass => "bad inline flags: cannot turn off flags 'a', 'u' and 'L'"
  | .turningOffWhole => "bad inline flags: cannot turn off global flag"
  | .optionOnAndOff => "bad inline flags: flag turned on and off"
  | .lookNotFixed => "look-behind requires fixed-width pattern"
  | .lookTooFar => "looks too much behind"
  | .templateRepeat greed =>
    "internal: unsupported template operator " ++ match greed with
      | .greedy => "MAX_REPEAT"
      | .lazy => "MIN_REPEAT"
      | .possessive => "POSSESSIVE_REPEAT"

inductive Fault where
  /-- Something is wrong, at an index of the text if it has a place. -/
  | malformed (cause : Cause) (index : Option Nat)
  /-- A repeat count is larger than any count may be. -/
  | countTooLarge
  /-- A repeat count has too many digits to be read. -/
  | countTooLong (digits : Nat)
  /-- Options for ASCII and for Unicode are both on. -/
  | asciiAndUnicode
deriving DecidableEq, Repr

/-- Line and column of an index, both for texts with more than one line only. -/
def placeText (pattern : List Char) (index : Nat) : String :=
  if pattern.contains '\n' then
    let before := pattern.take index
    let line := before.count '\n' + 1
    let column := (before.reverse.takeWhile (· ≠ '\n')).length + 1
    " (line " ++ toString line ++ ", column " ++ toString column ++ ")"
  else ""

def Fault.message (pattern : String) : Fault → String
  | .malformed cause none => cause.message
  | .malformed cause (some index) =>
    cause.message ++ " at position " ++ toString index ++ placeText pattern.toList index
  | .countTooLarge => "the repetition number is too large"
  | .countTooLong digits =>
    "Exceeds the limit (" ++ toString Text.Decimal.digitLimit ++
      " digits) for integer string conversion: value has " ++ toString digits ++
      " digits; use sys.set_int_max_str_digits() to increase the limit"
  | .asciiAndUnicode => "ASCII and UNICODE flags are incompatible"

end GitCensus.Pattern
