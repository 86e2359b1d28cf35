import GitCensus.Pattern.Token
import GitCensus.Text.Hex
/-!
# Escapes in patterns

A backslash gives the next character a meaning or takes one away: places, classes of
characters, characters by number, and references to groups.
-/

namespace GitCensus.Pattern

def isDigitChar (c : Char) : Bool := '0' ≤ c && c ≤ '9'

def isOctalChar (c : Char) : Bool := '0' ≤ c && c ≤ '7'

def isAsciiLetter (c : Char) : Bool := ('a' ≤ c && c ≤ 'z') || ('A' ≤ c && c ≤ 'Z')

def isHexChar (c : Char) : Bool := (Text.Hex.digitValue? c).isSome

def numberOf (base : Nat) (digits : List Char) : Nat :=
  digits.foldl (fun n c => n * base + (Text.Hex.digitValue? c).getD 0) 0

/-- The control characters, and the backslash, with a letter of their own. -/
def letterChar? : Char → Option Nat
  | 'a' => some 0x07
  | 'b' => some 0x08
  | 'f' => some 0x0c
  | 'n' => some 0x0a
  | 'r' => some 0x0d
  | 't' => some 0x09
  | 'v' => some 0x0b
  | '\\' => some 0x5c
  | _ => none

/-- The classes with a letter of their own, in capitals when negated. -/
def category? : Char → Option Member
  | 'd' => some (.category .digit false)
  | 'D' => some (.category .digit true)
  | 's' => some (.category .blank false)
  | 'S' => some (.category .blank true)
  | 'w' => some (.category .word false)
  | 'W' => some (.category .word true)
  | _ => none

/-- The places with a letter of their own. -/
def anchor? : Char → Option Anchor
  | 'A' => some .textStart
  | 'b' => some .wordBoundary
  | 'B' => some .noWordBoundary
  | 'Z' => some .textEnd
  | _ => none

namespace Reader

/-- Reads a character number of exactly `width` hexadecimal digits after the letter. -/
def hexEscape (letter : Char) (width : Nat) : Reader Nat := do
  let digits ← readWhile isHexChar width
  let written := '\\' :: letter :: digits
  if digits.length ≠ width then fail (.incompleteEscape (String.ofList written)) written.length
  else
    let n := numberOf 16 digits
    if 0x110000 ≤ n then fail (.badEscape (String.ofList written)) written.length
    else return n

/-- Reads a character name in braces.  No names are known. -/
def namedEscape : Reader Nat := do
  if !(← accept '\x7b') then fail .missingBrace
  else
    let given ← name '\x7d' "character name"
    fail (.undefinedCharacter given) (given.length + 4)

/-- Reads the rest of an escape that stands for a character by number or for itself. -/
def charEscape (c : Char) : Reader Nat := do
  if c = 'x' then hexEscape c 2
  else if c = 'u' then hexEscape c 4
  else if c = 'U' then hexEscape c 8
  else if c = 'N' then namedEscape
  else if isAsciiLetter c || isDigitChar c then
    fail (.badEscape (String.ofList ['\\', c])) 2
  else return c.toNat

/-- The value of up to three octal digits, which must be a byte. -/
def octal (digits : List Char) : Reader Nat :=
  let n := numberOf 8 digits
  if 0o377 < n then
    fail (.octalTooLarge (String.ofList ('\\' :: digits))) (digits.length + 1)
  else return n

/-- Reads an escape inside a character set, after its first two characters. -/
def setEscape (c : Char) : Reader Member := do
  match letterChar? c, category? c with
  | some n, _ => return .char n
  | none, some m => return m
  | none, none =>
    if isOctalChar c then return .char (← octal (c :: (← readWhile isOctalChar 2)))
    else return .char (← charEscape c)

/-- Checks that a group may be referred to: not while it is open, and in a look behind
only if it was there before. -/
def checkReference (index back : Nat) : Reader Unit := do
  let s ← get
  if (s.widths[index]?.join).isNone then fail .openGroup back
  else match s.lookGroups with
    | some before => if before ≤ index then fail .groupInLook else return ()
    | none => return ()

/-- Reads an escape that starts with a digit other than zero: three octal digits are a
character, anything else refers to a group. -/
def numberEscape (c : Char) : Reader Node := do
  let second ← readWhile isDigitChar 1
  let third ←
    if isOctalChar c && second.all isOctalChar && !second.isEmpty then
      readWhile isOctalChar 1
    else pure []
  if !third.isEmpty then
    return .one (.oneOf false [.char (← octal (c :: second ++ third))])
  else
    let digits := c :: second
    let index := numberOf 10 digits
    if index < (← get).widths.length then
      checkReference index (digits.length + 1)
      return .again index
    else fail (.invalidReference index) digits.length

/-- Reads an escape outside a character set, after its first two characters. -/
def escape (c : Char) : Reader Node := do
  match anchor? c, category? c, letterChar? c with
  | some a, _, _ => return .anchor a
  | none, some m, _ => return .one (.oneOf false [m])
  | none, none, some n => return .one (.oneOf false [.char n])
  | none, none, none =>
    if c = '0' then
      return .one (.oneOf false [.char (numberOf 8 (← readWhile isOctalChar 2))])
    else if isDigitChar c then numberEscape c
    else return .one (.oneOf false [.char (← charEscape c)])

end Reader

end GitCensus.Pattern
