import GitCensus.Pattern.Basic
import GitCensus.Pattern.Fault
/-!
# Reading pattern tokens

A pattern is read token by token; a backslash and the character after it are one
token.  A backslash at the very end is a fault as soon as the token before it has
been read.
-/

namespace GitCensus.Pattern

/-- A character, or a backslash with the character after it. -/
inductive Token where
  | plain (c : Char)
  | escaped (c : Char)
deriving DecidableEq, Repr

namespace Token

/-- The token as it stands in the pattern. -/
def chars : Token → List Char
  | plain c => [c]
  | escaped c => ['\\', c]

def text (t : Token) : String := String.ofList t.chars

def length (t : Token) : Nat := t.chars.length

end Token

/-- Where reading stands, and what has been learnt about groups and options. -/
structure ReadState where
  rest : List Char
  index : Nat := 0
  options : Options := {}
  /-- The names of groups. -/
  names : List (String × Nat) := []
  /-- The widths of the groups so far from number 0 on; open ones have none. -/
  widths : List (Option Width) := [none]
  /-- The number of groups before the outermost look behind that is being read. -/
  lookGroups : Option Nat := none
  /-- Groups that conditions ask for by number, and where each first does. -/
  asked : List (Nat × Nat) := []
deriving Inhabited

/-- A way of reading part of a pattern. -/
abbrev Reader (α : Type) := StateT ReadState (Except Fault) α

namespace Reader

variable {α : Type}

def failAt (cause : Cause) (index : Nat) : Reader α :=
  fun _ => .error (.malformed cause (some index))

/-- Fails so many characters before the next token. -/
def fail (cause : Cause) (back : Nat := 0) : Reader α :=
  fun s => .error (.malformed cause (some (s.index - back)))

def here : Reader Nat := fun s => .ok (s.index, s)

/-- The next token, which stays to be read. -/
def peek : Reader (Option Token) := fun s =>
  .ok (match s.rest with
    | [] => none
    | '\\' :: c :: _ => some (.escaped c)
    | c :: _ => some (.plain c), s)

/-- Checks that the next token is not a lone backslash at the end. -/
def checkNext : Reader Unit := fun s =>
  if s.rest = ['\\'] then .error (.malformed .badEscapeAtEnd (some s.index)) else .ok ((), s)

def next : Reader (Option Token) := do
  let token ← peek
  let length := (token.map Token.length).getD 0
  modify fun s => { s with rest := s.rest.drop length, index := s.index + length }
  checkNext
  return token

/-- Reads a given character if it comes next, and tells whether it did. -/
def accept (c : Char) : Reader Bool := do
  if (← peek) = some (.plain c) then
    let _ ← next
    return true
  else return false

def readWhile (kind : Char → Bool) : (n : Nat) → Reader (List Char)
  | 0 => pure []
  | n + 1 => do
    match ← peek with
    | some (.plain c) =>
      if kind c then
        let _ ← next
        return c :: (← readWhile kind n)
      else return []
    | _ => return []

def remaining : Reader Nat := fun s => .ok (s.rest.length, s)

/-- Reads a name up to its terminator; `steps` bounds the number of tokens. -/
def readName (terminator : Char) (what : String) : (steps : Nat) → (done : List Char) →
    Reader String
  | 0, done => return String.ofList done
  | steps + 1, done => do
    match ← next with
    | none =>
      if done.isEmpty then fail (.missingName what)
      else fail (.unterminatedName (String.singleton terminator)) done.length
    | some (.plain c) =>
      if c = terminator then
        if done.isEmpty then fail (.missingName what) 1 else return String.ofList done
      else readName terminator what steps (done ++ [c])
    | some token => readName terminator what steps (done ++ token.chars)

/-- Reads a name that is not empty up to its terminator. -/
def name (terminator : Char) (what : String) : Reader String := do
  readName terminator what ((← remaining) + 1) []

end Reader

end GitCensus.Pattern
