import GitCensus.Pattern.Option
import GitCensus.Pattern.Set
import GitCensus.Unicode.Blank
/-!
# Reading patterns

A pattern is branches between bars, a branch is a sequence of parts, and a part may be
a group with branches of its own.  Groups are numbered by their opening bracket.
-/

namespace GitCensus.Pattern

namespace Reader

/-- Blanks that a verbose pattern passes over. -/
def isPatternBlank (c : Char) : Bool := Text.Hex.isBlank c

/-- Passes over a comment up to the end of its line. -/
def skipLine : (steps : Nat) → Reader Unit
  | 0 => return ()
  | steps + 1 => do
    match ← next with
    | none => return ()
    | some (.plain '\n') => return ()
    | some _ => skipLine steps

def skipComment (start : Nat) : (steps : Nat) → Reader Unit
  | 0 => failAt .unterminatedComment start
  | steps + 1 => do
    match ← next with
    | none => failAt .unterminatedComment start
    | some (.plain ')') => return ()
    | some _ => skipComment start steps

/-- Every repeat count is below this. -/
def countBound : Nat := 0xffffffff

/-- Reads the rest of a count in braces; `none` when the brace stands for itself. -/
def braces : Reader (Option (Nat × Option Nat)) := do
  if (← peek) = some (.plain '\x7d') then return none
  else
    let start ← get
    let lowDigits ← readWhile isDigitChar (← remaining)
    let comma ← accept ','
    let highDigits ← if comma then readWhile isDigitChar (← remaining) else pure lowDigits
    if !(← accept '\x7d') then
      set start
      return none
    else
      let low ← bound lowDigits
      let high ← bound highDigits
      if high.any fun n => n < low.getD 0 then failAt .minAboveMax start.index
      else return some (low.getD 0, high)
where
  /-- The bound written with the given digits. -/
  bound (digits : List Char) : Reader (Option Nat) := do
    if digits.isEmpty then return none
    else if Text.Decimal.digitLimit < digits.length then
      fun _ => .error (.countTooLong digits.length)
    else
      let n := numberOf 10 digits
      if countBound ≤ n then fun _ => .error .countTooLarge else return some n

/-- Repeats the last part read; `start` is the index of the quantifier. -/
def quantify (start min : Nat) (max : Option Nat) : (done : List Node) → Reader (List Node)
  | [] => failAt .nothingToRepeat start
  | .anchor _ :: _ => failAt .nothingToRepeat start
  | .repeated .. :: _ => failAt .multipleRepeat start
  | last :: rest => do
    let lazy ← accept '?'
    let possessive ← if lazy then pure false else accept '+'
    let greed := if lazy then Greed.lazy else if possessive then .possessive else .greedy
    return .repeated min max greed last :: rest

/-- Checks a group name that ends one character before the next token. -/
def checkName (given : String) : Reader Unit :=
  if Unicode.isIdentifier given then return ()
  else fail (.badNameCharacter given) (given.length + 1)

/-- Opens a group and delivers its number. -/
def openGroup (given : Option String) : Reader Nat := do
  let s ← get
  let index := s.widths.length
  match given with
  | none => set { s with widths := s.widths ++ [none] }
  | some given =>
    match s.names.lookup given with
    | some earlier => fail (.nameTaken given index earlier) (given.length + 1)
    | none =>
      set { s with widths := s.widths ++ [none], names := (given, index) :: s.names }
  return index

/-- The widths of the groups read so far. -/
def groupWidths (s : ReadState) (index : Nat) : Width := (s.widths[index]?.join).getD ⟨0, 0⟩

def closeGroup (index : Nat) (body : Node) : Reader Unit :=
  modify fun s => { s with widths := s.widths.set index (some (body.width (groupWidths s))) }

/-- Reads a reference to a group by name, after its `=`. -/
def namedReference : Reader Node := do
  let given ← name ')' "group name"
  checkName given
  match (← get).names.lookup given with
  | none => fail (.unknownName given) (given.length + 1)
  | some index =>
    checkReference index (given.length + 1)
    return .again index

/-- The number that the text of a condition stands for, if it is one.  Blanks around it,
a plus sign and single underscores between digits are passed over. -/
def conditionNumber? (given : String) : Option Nat :=
  let trim (cs : List Char) : List Char := cs.dropWhile Unicode.isBlank
  let cs := (trim (trim given.toList).reverse).reverse
  let cs := match cs with
    | '+' :: rest => rest
    | cs => cs
  let rec digits : Bool → List Char → Option (List Char)
    | afterDigit, [] => if afterDigit then some [] else none
    | afterDigit, '_' :: rest => if afterDigit then digits false rest else none
    | _, c :: rest => if isDigitChar c then (digits true rest).map (c :: ·) else none
  match digits false cs with
  | some ds => if Text.Decimal.digitLimit < ds.length then none else some (numberOf 10 ds)
  | none => none

/-- No pattern has as many groups. -/
def groupBound : Nat := 0x3fffffff

/-- Reads the group that a condition asks for, after its opening bracket. -/
def condition : Reader Nat := do
  let given ← name ')' "group name"
  let back := given.length + 1
  let index ←
    if Unicode.isIdentifier given then do
      match (← get).names.lookup given with
      | none => fail (.unknownName given) back
      | some index => pure index
    else match conditionNumber? given with
      | none => fail (.badNameCharacter given) back
      | some 0 => fail .groupZero back
      | some index =>
        if groupBound ≤ index then fail (.invalidReference index) back
        else
          let s ← get
          if (s.asked.lookup index).isNone then
            set { s with asked := s.asked ++ [(index, s.index - back)] }
          pure index
  if (← get).lookGroups.isSome then checkReference index 0
  return index

/-- What a group with a question mark turns out to be. -/
inductive GroupKind where
  | capture (given : Option String)
  | scoped (on off : Options)
  | atomic
  | ahead (negated : Bool)
  | behind (negated : Bool)
  | condition
  /-- Nothing more is to be read. -/
  | done (node : Option Node)

/-- Reads the beginning of a group whose opening bracket, at `start`, has been read.
`atStart` tells whether nothing of the pattern stands before it. -/
def groupKind (start : Nat) (atStart : Bool) : Reader GroupKind := do
  if !(← accept '?') then return .capture none
  else match ← next with
    | none => fail .unexpectedEnd
    | some (.plain 'P') =>
      match ← next with
      | some (.plain '<') =>
        let given ← name '>' "group name"
        checkName given
        return .capture (some given)
      | some (.plain '=') => return .done (some (← namedReference))
      | none => fail .unexpectedEnd
      | some t => fail (.unknownExtension ("P" ++ t.text)) (t.length + 2)
    | some (.plain ':') => return .scoped {} {}
    | some (.plain '#') =>
      skipComment start ((← remaining) + 1)
      return .done none
    | some (.plain '=') => return .ahead false
    | some (.plain '!') => return .ahead true
    | some (.plain '<') =>
      match ← next with
      | none => fail .unexpectedEnd
      | some (.plain '=') => return .behind false
      | some (.plain '!') => return .behind true
      | some t => fail (.unknownExtension ("<" ++ t.text)) (t.length + 2)
    | some (.plain '(') => return .condition
    | some (.plain '>') => return .atomic
    | some t =>
      match t with
      | .plain c =>
        if c = '-' || c = 'L' || (Options.ofLetter? c).isSome then
          match ← groupOptions c with
          | some (on, off) => return .scoped on off
          | none => if atStart then return .done none else failAt .optionsNotAtStart start
        else fail (.unknownExtension t.text) (t.length + 1)
      | .escaped _ => fail (.unknownExtension t.text) (t.length + 1)

/-- Reads the closing bracket of the group that was opened at `start`. -/
def closing (start : Nat) : Reader Unit := do
  if !(← accept ')') then failAt .unterminatedGroup start

mutual

/-- Reads branches between bars.  `fuel` bounds the depth of the recursion, `top` tells
whether these are the branches of the whole pattern. -/
def branches (fuel : Nat) (verbose top first : Bool) : Reader Node :=
  match fuel with
  | 0 => fail .unexpectedEnd
  | fuel + 1 => do
    let branch ← sequence fuel verbose (top && first) []
    if ← accept '|' then
      let options := (← get).options
      let verbose := if top then options.verbose else verbose
      return .alt branch (← branches fuel verbose top false)
    else return branch

/-- Reads a sequence of parts; `done` holds those read, the last one first, and `first`
tells whether the sequence begins the pattern. -/
def sequence (fuel : Nat) (verbose first : Bool) (done : List Node) : Reader Node :=
  match fuel with
  | 0 => fail .unexpectedEnd
  | fuel + 1 => do
    match ← peek with
    | none | some (.plain '|') | some (.plain ')') => return Node.ofList done.reverse
    | some token =>
      let start ← here
      let _ ← next
      match token with
      | .escaped c => sequence fuel verbose first ((← escape c) :: done)
      | .plain c =>
        if verbose && isPatternBlank c then sequence fuel verbose first done
        else if verbose && c = '#' then
          skipLine ((← remaining) + 1)
          sequence fuel verbose first done
        else match c with
          | '[' => sequence fuel verbose first ((← charSet) :: done)
          | '.' => sequence fuel verbose first (.one .any :: done)
          | '^' => sequence fuel verbose first (.anchor .lineStart :: done)
          | '$' => sequence fuel verbose first (.anchor .lineEnd :: done)
          | '?' => sequence fuel verbose first (← quantify start 0 (some 1) done)
          | '*' => sequence fuel verbose first (← quantify start 0 none done)
          | '+' => sequence fuel verbose first (← quantify start 1 none done)
          | '\x7b' =>
            match ← braces with
            | none => sequence fuel verbose first (.one (.oneOf false [.char c.toNat]) :: done)
            | some (min, max) => sequence fuel verbose first (← quantify start min max done)
          | '(' =>
            match ← group fuel verbose (first && done.isEmpty) start with
            | some node => sequence fuel verbose first (node :: done)
            | none =>
              let options := (← get).options
              let verbose := if first && done.isEmpty then options.verbose else verbose
              sequence fuel verbose first done
          | c => sequence fuel verbose first (.one (.oneOf false [.char c.toNat]) :: done)

/-- Reads a group whose opening bracket, at `start`, has been read; comments and options
for the whole pattern deliver nothing. -/
def group (fuel : Nat) (verbose atStart : Bool) (start : Nat) : Reader (Option Node) :=
  match fuel with
  | 0 => fail .unexpectedEnd
  | fuel + 1 => do
    match ← groupKind start atStart with
    | .done node => return node
    | .capture given =>
      let index ← openGroup given
      let body ← branches fuel verbose false false
      closing start
      closeGroup index body
      return some (.capture index body)
    | .scoped on off =>
      let body ← branches fuel ((verbose || on.verbose) && !off.verbose) false false
      closing start
      return some (.scoped on off body)
    | .atomic =>
      let body ← branches fuel verbose false false
      closing start
      return some (.atomic body)
    | .ahead negated =>
      let body ← branches fuel verbose false false
      closing start
      return some (.ahead negated body)
    | .behind negated =>
      let outer := (← get).lookGroups
      if outer.isNone then modify fun s => { s with lookGroups := some s.widths.length }
      let body ← branches fuel verbose false false
      modify fun s => { s with lookGroups := outer }
      closing start
      let w := body.width (groupWidths (← get))
      return some (.behind negated (if w.least = w.greatest then w.least else Width.limit) body)
    | .condition =>
      let index ← condition
      let yes ← sequence fuel verbose false []
      let no ←
        if ← accept '|' then do
          let no ← sequence fuel verbose false []
          if (← peek) = some (.plain '|') then fail .tooManyBranches
          pure no
        else pure .empty
      closing start
      return some (.ifMatched index yes no)

end

end Reader

/-- What is wrong with the structure of a pattern: a look behind without a fixed width, or
a repeat where parts must not be repeated. -/
def Node.fault? (template : Bool) : Node → Option Cause
  | .empty | .one _ | .anchor _ | .again _ => none
  | .cat a b | .alt a b | .ifMatched _ a b => (a.fault? template).or (b.fault? template)
  | .repeated _ _ greed body =>
    if template then some (.templateRepeat greed) else body.fault? template
  | .capture _ body | .scoped _ _ body | .atomic body | .ahead _ body => body.fault? template
  | .behind _ width body =>
    if width = Width.limit then some .lookNotFixed
    else if 0x100000000 ≤ width then some .lookTooFar
    else body.fault? template

/-- A pattern that has been read: its structure and the options for the whole of it. -/
structure Compiled where
  node : Node
  options : Options
deriving Repr, Inhabited

def Reader.whole (fuel : Nat) : Reader Compiled := do
  checkNext
  let node ← branches fuel false true true
  let s ← get
  if s.options.ascii && s.options.unicode then fun _ => .error .asciiAndUnicode
  else if (← peek).isSome then fail .unbalanced
  else match s.asked.find? fun (index, _) => s.widths.length ≤ index with
    | some (index, place) => failAt (.invalidReference index) place
    | none =>
      match node.fault? s.options.template with
      | some cause => fun _ => .error (.malformed cause none)
      | none => return ⟨node, s.options⟩

/-- Reads a pattern from its text.  Every step of the reader passes over a token or goes
one level down, so the depth of its recursion is bounded by the length of the text. -/
def compile (text : String) : Except Fault Compiled :=
  let cs := text.toList
  ((Reader.whole (4 * cs.length + 4)).run { rest := cs }).map (·.1)

end GitCensus.Pattern
