import GitCensus.Pattern.Character
import GitCensus.Pattern.Reader
/-!
# Matching patterns

The ways in which a part of a pattern can match are tried in order until what comes
after the part matches as well, so a part takes what comes after it as an argument.
-/

namespace GitCensus.Pattern

/-- What a group has matched: so many of the characters that stood after its start. -/
structure Span where
  after : List Char
  length : Nat

def Span.text (s : Span) : List Char := s.after.take s.length

/-- A place in a text, with what the groups before it have matched. -/
structure Place where
  /-- The characters before the place, the nearest first. -/
  before : List Char := []
  after : List Char
  index : Nat := 0
  groups : List (Nat × Span) := []

namespace Place

/-- The place after the next character, which is given with those after it. -/
def past (p : Place) (c : Char) (rest : List Char) : Place :=
  { p with before := c :: p.before, after := rest, index := p.index + 1 }

def back? (p : Place) : (n : Nat) → Option Place
  | 0 => some p
  | n + 1 =>
    match p.before with
    | c :: rest =>
      back? { p with before := rest, after := c :: p.after, index := p.index - 1 } n
    | [] => none

def pastText? (same : Char → Char → Bool) : (text : List Char) → Place → Option Place
  | [], p => some p
  | c :: text, p =>
    match p.after with
    | d :: rest => if same c d then pastText? same text (p.past d rest) else none
    | [] => none

/-- Whether a place lies between a word character and another one or none. -/
def isWordBoundary (options : Options) (p : Place) : Bool :=
  let isWord (c : Option Char) : Bool := c.any (Category.word.holds options.ascii)
  isWord p.before.head? != isWord p.after.head?

end Place

/-- Whether a place is one that an anchor stands for.  An empty text has neither a word
boundary nor a place that is none. -/
def Anchor.holds (options : Options) (p : Place) : Anchor → Bool
  | .textStart => p.before.isEmpty
  | .textEnd => p.after.isEmpty
  | .lineStart => p.before.isEmpty || (options.multiline && p.before.head? = some '\n')
  | .lineEnd =>
    p.after.isEmpty || p.after = ['\n'] || (options.multiline && p.after.head? = some '\n')
  | .wordBoundary => p.isWordBoundary options
  | .noWordBoundary => !(p.before.isEmpty && p.after.isEmpty) && !p.isWordBoundary options

/-- What has to match from a place on; it delivers the last place. -/
abbrev Continuation := Place → Option Place

/-- One part of a pattern, given what comes after it. -/
abbrev Step := Continuation → Continuation

def times (part : Step) : (n : Nat) → Step
  | 0, next => next
  | n + 1, next => part (times part n next)

/-- A part again and again, at most `max` times.  A repeat that passes over nothing is the
last one, so `fuel` may be the number of characters that are left, and one more. -/
def upTo (lazy : Bool) (part : Step) : (fuel : Nat) → (max : Option Nat) → Step
  | 0, _, next => next
  | _ + 1, some 0, next => next
  | fuel + 1, max, next => fun p =>
    let again : Continuation := part fun q =>
      if q.index = p.index then next q else upTo lazy part fuel (max.map (· - 1)) next q
    if lazy then (next p).or (again p) else (again p).or (next p)

/-- A part `n` times, each time in the first way that there is. -/
def firstTimes (part : Step) : (n : Nat) → Continuation
  | 0, p => some p
  | n + 1, p => part some p >>= firstTimes part n

/-- A part as often as there is a way, at most `max` times, each time in the first way. -/
def firstUpTo (part : Step) : (fuel : Nat) → (max : Option Nat) → Place → Place
  | 0, _, p => p
  | _ + 1, some 0, p => p
  | fuel + 1, max, p =>
    match part some p with
    | none => p
    | some q => if q.index = p.index then q else firstUpTo part fuel (max.map (· - 1)) q

/-- Matches a part of a pattern and then what comes after it. -/
def Node.run : Node → Options → Step
  | .empty, _, next => next
  | .one set, options, next => fun p =>
    match p.after with
    | c :: rest => if set.holds options c then next (p.past c rest) else none
    | [] => none
  | .anchor a, options, next => fun p => if a.holds options p then next p else none
  | .cat first second, options, next => first.run options (second.run options next)
  | .alt first second, options, next => fun p =>
    (first.run options next p).or (second.run options next p)
  | .repeated min max greed body, options, next =>
    let part : Step := fun after => body.run options after
    let more := max.map (· - min)
    match greed with
    | .possessive => fun p =>
      match firstTimes part min p with
      | some q => next (firstUpTo part (q.after.length + 1) more q)
      | none => none
    | .greedy => times part min fun q => upTo false part (q.after.length + 1) more next q
    | .lazy => times part min fun q => upTo true part (q.after.length + 1) more next q
  | .capture index body, options, next => fun p =>
    body.run options (fun q =>
      next { q with groups := (index, ⟨p.after, q.index - p.index⟩) :: q.groups }) p
  | .scoped on off body, options, next => body.run (options.inside on off) next
  | .atomic body, options, next => fun p => body.run options some p >>= next
  | .ahead negated body, options, next => fun p =>
    match body.run options some p with
    | some q => if negated then none else next { p with groups := q.groups }
    | none => if negated then next p else none
  | .behind negated width body, options, next => fun p =>
    match p.back? width >>= body.run options some with
    | some q => if negated then none else next { p with groups := q.groups }
    | none => if negated then next p else none
  | .again index, options, next => fun p =>
    let same (c d : Char) : Bool :=
      c = d || (options.ignoreCase &&
        lowercase options.ascii c.toNat = lowercase options.ascii d.toNat)
    match p.groups.lookup index with
    | some span => p.pastText? same span.text >>= next
    | none => none
  | .ifMatched index yes no, options, next => fun p =>
    if (p.groups.lookup index).isSome then yes.run options next p else no.run options next p

def Compiled.matches (pattern : Compiled) (text : String) : Bool :=
  let atEnd : Continuation := fun p => if p.after.isEmpty then some p else none
  (pattern.node.run pattern.options atEnd { after := text.toList }).isSome

end GitCensus.Pattern
