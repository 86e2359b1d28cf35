import GitCensus.Pattern.Escape
/-!
# Character sets in patterns

A set in brackets lists characters, ranges and classes.  A closing bracket that comes
first, and a hyphen that comes last, stand for themselves.
-/

namespace GitCensus.Pattern.Reader

/-- Reads one element of a set whose first token is given. -/
def setElement : Token → Reader Member
  | .escaped c => setEscape c
  | .plain c => return .char c.toNat

/-- Reads the elements of a set up to its closing bracket; `start` is the index of the
opening bracket and `steps` bounds the number of elements. -/
def setElements (start : Nat) : (steps : Nat) → (done : List Member) → Reader (List Member)
  | 0, done => return done
  | steps + 1, done => do
    match ← next with
    | none => failAt .unterminatedSet start
    | some token =>
      if token = .plain ']' && !done.isEmpty then return done
      else
        let low ← setElement token
        if !(← accept '-') then setElements start steps (done ++ [low])
        else match ← next with
          | none => failAt .unterminatedSet start
          | some (.plain ']') => return done ++ [low, .char '-'.toNat]
          | some last =>
            let high ← setElement last
            let fault : Reader (List Member) :=
              fail (.badRange token.text last.text) (token.length + 1 + last.length)
            match low, high with
            | .char a, .char b =>
              if b < a then fault else setElements start steps (done ++ [.range a b])
            | _, _ => fault

/-- Reads a set whose opening bracket has been read. -/
def charSet : Reader Node := do
  let start := (← here) - 1
  let negated ← accept '^'
  return .one (.oneOf negated (← setElements start ((← remaining) + 1) []))

end GitCensus.Pattern.Reader
