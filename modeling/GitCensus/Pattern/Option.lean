import GitCensus.Pattern.Token
import GitCensus.Unicode.Alphanumeric
import GitCensus.Unicode.Identifier
/-!
# Options inside patterns

A group may start with letters that turn options on, and after a hyphen with letters
that turn options off.  Without a colon they hold for the whole pattern.
-/

namespace GitCensus.Pattern

namespace Options

/-- The options that are on in either. -/
def union (a b : Options) : Options where
  ignoreCase := a.ignoreCase || b.ignoreCase
  multiline := a.multiline || b.multiline
  dotAll := a.dotAll || b.dotAll
  ascii := a.ascii || b.ascii
  unicode := a.unicode || b.unicode
  verbose := a.verbose || b.verbose
  template := a.template || b.template

/-- The options that are on in the first and not in the second. -/
def without (a b : Options) : Options where
  ignoreCase := a.ignoreCase && !b.ignoreCase
  multiline := a.multiline && !b.multiline
  dotAll := a.dotAll && !b.dotAll
  ascii := a.ascii && !b.ascii
  unicode := a.unicode && !b.unicode
  verbose := a.verbose && !b.verbose
  template := a.template && !b.template

/-- Whether some option is on in both. -/
def overlaps (a b : Options) : Bool :=
  (a.ignoreCase && b.ignoreCase) || (a.multiline && b.multiline) || (a.dotAll && b.dotAll) ||
    (a.ascii && b.ascii) || (a.unicode && b.unicode) || (a.verbose && b.verbose) ||
    (a.template && b.template)

/-- The options inside a group; turning on ASCII or Unicode turns off the other. -/
def inside (outer on off : Options) : Options :=
  let outer :=
    if on.ascii || on.unicode then { outer with ascii := false, unicode := false } else outer
  (outer.union on).without off

/-- The options with a letter of their own. -/
def ofLetter? : Char → Option Options
  | 'i' => some { ignoreCase := true }
  | 'm' => some { multiline := true }
  | 's' => some { dotAll := true }
  | 'x' => some { verbose := true }
  | 'a' => some { ascii := true }
  | 't' => some { template := true }
  | 'u' => some { unicode := true }
  | _ => none

end Options

namespace Reader

def isLetter : Option Token → Bool
  | some (.plain c) =>
    Unicode.isAlphanumeric c && c ≠ '_' && Unicode.inside Unicode.identifierStartBoundaries c.toNat
  | _ => false

/-- Fails at a token that is no option letter; what is missing if it is no letter at all
is given. -/
def noOption {α : Type} (token : Option Token) (missing : Cause) : Reader α :=
  match token with
  | none => fail missing
  | some t => fail (if isLetter token then .unknownOption else missing) t.length

/-- What ends the letters that turn options on. -/
inductive OptionsEnd where
  | whole
  | group
  | hyphen
deriving DecidableEq

/-- Reads the letters that turn options on, from `token` on. -/
def optionsOn : (steps : Nat) → (on : Options) → (token : Option Token) →
    Reader (Options × OptionsEnd)
  | 0, _, _ => fail .missingOptionEnd
  | steps + 1, on, token => do
    match token with
    | some (.plain 'L') => fail .localeOption
    | some (.plain c) =>
      match Options.ofLetter? c with
      | none => noOption token .missingOptionEnd
      | some option =>
        let on := on.union option
        if (option.ascii || option.unicode) && on.ascii && on.unicode then
          fail .incompatibleOptions
        else
          match ← next with
          | some (.plain ')') => return (on, .whole)
          | some (.plain ':') => return (on, .group)
          | some (.plain '-') => return (on, .hyphen)
          | following => optionsOn steps on following
    | _ => noOption token .missingOptionEnd

/-- Reads the letters that turn options off, from `token` on, up to the colon. -/
def optionsOff : (steps : Nat) → (off : Options) → (token : Option Token) →
    (missing : Cause) → Reader Options
  | 0, _, _, missing => fail missing
  | steps + 1, off, token, missing => do
    match token with
    | some (.plain 'L') => fail .turningOffClass
    | some (.plain c) =>
      match Options.ofLetter? c with
      | none => noOption token missing
      | some option =>
        if option.ascii || option.unicode then fail .turningOffClass
        else
          let off := off.union option
          match ← next with
          | some (.plain ':') => return off
          | following => optionsOff steps off following .missingColon
    | _ => noOption token missing

/-- Reads options from their first character on: for the whole pattern, which turns them
on and delivers nothing, or for a group. -/
def groupOptions (first : Char) : Reader (Option (Options × Options)) := do
  let steps := (← remaining) + 2
  let (on, ended) ←
    if first = '-' then pure ({}, OptionsEnd.hyphen)
    else optionsOn steps {} (some (.plain first))
  if ended = .whole then
    modify fun s => { s with options := s.options.union on }
    return none
  else if on.template then fail .turningOnWhole 1
  else
    let off ← if ended = .hyphen then optionsOff steps {} (← next) .missingOption else pure {}
    if off.template then fail .turningOffWhole 1
    else if on.overlaps off then fail .optionOnAndOff 1
    else return some (on, off)

end Reader

end GitCensus.Pattern
