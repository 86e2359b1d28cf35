import GitCensus.Unicode.Boundaries
/-!
# Blank characters

Characters with a bidirectional class of white space or separator, or of category
Zs, as of Unicode 14.
-/

namespace GitCensus.Unicode

def blankBoundaries : List Nat := [
    0x9, 0xe, 0x1c, 0x21, 0x85, 0x86, 0xa0, 0xa1, 0x1680, 0x1681, 0x2000, 0x200b, 0x2028, 0x202a,
    0x202f, 0x2030, 0x205f, 0x2060, 0x3000, 0x3001]

def isBlank (c : Char) : Bool := inside blankBoundaries c.toNat

end GitCensus.Unicode
