/-!
# Patterns

The structure of a regular expression: sets of characters, places, repeats, groups,
references to groups and looks around.  Options such as ignoring case hold for parts
of a pattern, so they stand in its structure.
-/

namespace GitCensus.Pattern

/-- Classes of characters with a letter of their own. -/
inductive Category where
  | digit
  | blank
  | word
deriving DecidableEq, Repr

/-- One part of a character set; characters are given by code point. -/
inductive Member where
  | char (c : Nat)
  | range (low high : Nat)
  | category (c : Category) (negated : Bool)
deriving DecidableEq, Repr

inductive CharSet where
  /-- Every character, or every one but the line feed. -/
  | any
  | oneOf (negated : Bool) (members : List Member)
deriving DecidableEq, Repr

inductive Anchor where
  /-- The start of the text, or of a line. -/
  | lineStart
  /-- The end of the text, also before a last line feed, or the end of a line. -/
  | lineEnd
  | textStart
  | textEnd
  | wordBoundary
  | noWordBoundary
deriving DecidableEq, Repr

/-- Options of a pattern or of a part of it. -/
structure Options where
  ignoreCase : Bool := false
  multiline : Bool := false
  /-- The dot also stands for the line feed. -/
  dotAll : Bool := false
  /-- Categories hold ASCII characters only. -/
  ascii : Bool := false
  unicode : Bool := false
  /-- Blanks and comments in the pattern do not count. -/
  verbose : Bool := false
  /-- Parts must not be repeated. -/
  template : Bool := false
deriving DecidableEq, Repr, Inhabited

/-- How many times a repeated part is tried first. -/
inductive Greed where
  /-- As often as possible, then less often. -/
  | greedy
  /-- As seldom as possible, then more often. -/
  | lazy
  /-- As often as possible, and never less often. -/
  | possessive
deriving DecidableEq, Repr

inductive Node where
  | empty
  | one (set : CharSet)
  | anchor (a : Anchor)
  | cat (first second : Node)
  | alt (first second : Node)
  /-- A part repeated `min` to `max` times, without limit if there is no `max`. -/
  | repeated (min : Nat) (max : Option Nat) (greed : Greed) (body : Node)
  /-- A group whose text is kept under a number. -/
  | capture (index : Nat) (body : Node)
  /-- A group with options turned on and off. -/
  | scoped (on off : Options) (body : Node)
  /-- A group that is not tried in another way once it has matched. -/
  | atomic (body : Node)
  /-- What follows here has to match, or must not. -/
  | ahead (negated : Bool) (body : Node)
  /-- What stands before here, so many characters of it, has to match, or must not. -/
  | behind (negated : Bool) (width : Nat) (body : Node)
  /-- The text of a group again. -/
  | again (index : Nat)
  /-- One of two parts, depending on whether a group has matched. -/
  | ifMatched (index : Nat) (yes no : Node)
deriving Repr, Inhabited

def Node.ofList : List Node → Node
  | [] => .empty
  | [n] => n
  | n :: rest => .cat n (ofList rest)

/-- The least and the greatest number of characters that a part can match. -/
structure Width where
  least : Nat
  greatest : Nat
deriving DecidableEq, Repr, Inhabited

/-- Widths are not told apart from here on. -/
def Width.limit : Nat := 0x10000000000000000

/-- The width of a part, given the widths of the groups before it. -/
def Node.width (groups : Nat → Width) : Node → Width
  | .empty | .anchor _ | .ahead .. | .behind .. => ⟨0, 0⟩
  | .one _ => ⟨1, 1⟩
  | .cat a b =>
    let a := a.width groups
    let b := b.width groups
    capped ⟨a.least + b.least, a.greatest + b.greatest⟩
  | .alt a b =>
    let a := a.width groups
    let b := b.width groups
    ⟨min a.least b.least, max a.greatest b.greatest⟩
  | .repeated least greatest _ body =>
    let w := body.width groups
    let most := match greatest with
      | some n => w.greatest * n
      | none => if w.greatest = 0 then 0 else Width.limit
    capped ⟨w.least * least, most⟩
  | .capture _ body | .scoped _ _ body | .atomic body => body.width groups
  | .again index => groups index
  | .ifMatched _ yes no =>
    let a := yes.width groups
    let b := no.width groups
    ⟨min a.least b.least, max a.greatest b.greatest⟩
where
  /-- A width up to the limit. -/
  capped (w : Width) : Width := ⟨min w.least Width.limit, min w.greatest Width.limit⟩

end GitCensus.Pattern
