import GitCensus.Pattern.Basic
import GitCensus.Unicode.Alphanumeric
import GitCensus.Unicode.Blank
import GitCensus.Unicode.Digit
import GitCensus.Unicode.Lowercase
/-!
# Characters in sets

Which characters a set of a pattern holds, under the options in force.
-/

namespace GitCensus.Pattern

def isAsciiWord (c : Char) : Bool := c.isAlphanum || c = '_'

def Category.holds (ascii : Bool) (category : Category) (c : Char) : Bool :=
  match category, ascii with
  | .digit, true => c.isDigit
  | .digit, false => Unicode.isDecimalDigit c
  | .blank, true => c = ' ' || ('\t' ≤ c && c ≤ '\r')
  | .blank, false => Unicode.isBlank c
  | .word, true => isAsciiWord c
  | .word, false => Unicode.isAlphanumeric c || c = '_'

/-- The lower case of a code point, for ASCII letters alone or for all. -/
def lowercase (ascii : Bool) (c : Nat) : Nat :=
  if ascii then if 'A'.toNat ≤ c && c ≤ 'Z'.toNat then c + 32 else c
  else Unicode.lowercase c

/-- The code points that count as the same as a given one when case is ignored. -/
def alike (ascii : Bool) (c : Nat) : List Nat :=
  if ascii then
    let l := lowercase true c
    if 'a'.toNat ≤ l && l ≤ 'z'.toNat then [l, l - 32] else [l]
  else
    let l := Unicode.lowercase c
    (l :: Unicode.variants l).flatMap Unicode.uppercases

def Member.covers (x : Nat) : Member → Bool
  | .char c => x = c
  | .range low high => low ≤ x && x ≤ high
  | .category .. => false

/-- Whether a member of a set holds a character, or covers one that counts as the same. -/
def Member.holds (options : Options) (c : Char) : Member → Bool
  | .category kind negated => kind.holds options.ascii c != negated
  | member =>
    if options.ignoreCase then (alike options.ascii c.toNat).any member.covers
    else member.covers c.toNat

def CharSet.holds (options : Options) (c : Char) : CharSet → Bool
  | .any => options.dotAll || c ≠ '\n'
  | .oneOf negated members => members.any (Member.holds options c) != negated

end GitCensus.Pattern
