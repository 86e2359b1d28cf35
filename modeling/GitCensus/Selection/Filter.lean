import GitCensus.Pattern.Matching
/-!
# Filters of reference names

A filter is written either as a path, which stands for the reference of that name and
all below it, or as a pattern between slashes, which the whole name has to match.
-/

namespace GitCensus.Selection

inductive Filter where
  /-- The reference of this name and those below it. -/
  | below (path : String)
  /-- The references whose whole name matches. -/
  | pattern (text : String) (compiled : Pattern.Compiled)

namespace Filter

inductive Fault where
  | empty
  /-- The text between the slashes is no pattern. -/
  | badPattern (text : String) (cause : Pattern.Fault)
deriving DecidableEq, Repr

def Fault.message : Fault → String
  | empty => "empty reference pattern"
  | badPattern text cause =>
    match cause with
    | .malformed .. =>
      "invalid regexp: " ++ Text.Quoted.text text ++ ": " ++ cause.message text
    | _ => cause.message text

/-- Whether a name is a path or lies below it.  A path that ends in a slash stands for
what starts with it. -/
def isBelow (path name : List Char) : Bool :=
  if path.getLast? = some '/' then path.isPrefixOf name
  else name = path || (path ++ ['/']).isPrefixOf name

def covers (f : Filter) (name : String) : Bool :=
  match f with
  | below path => isBelow path.toList name.toList
  | pattern _ compiled => compiled.matches name

/-- The text between the slashes at both ends of a text. -/
def between? (cs : List Char) : Option (List Char) :=
  match cs with
  | '/' :: rest => if rest.getLast? = some '/' then some rest.dropLast else none
  | _ => none

def parse (s : String) : Except Fault Filter :=
  match between? s.toList with
  | some inner =>
    let text := String.ofList inner
    match Pattern.compile text with
    | .ok compiled => .ok (pattern text compiled)
    | .error cause => .error (.badPattern text cause)
  | none => if s.isEmpty then .error .empty else .ok (below s)

def debugText : Filter → String
  | below path => "PrefixFilter(" ++ Text.Quoted.text path ++ ")"
  | pattern text _ => "RegexpFilter(" ++ Text.Quoted.text text ++ ")"

end Filter

end GitCensus.Selection
