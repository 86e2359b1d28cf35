import GitCensus.Census.Sizing
import GitCensus.Report.Maxima
/-!
# Sessions

A session sizes objects one after the other and keeps the lines that tell of its
progress: what is sized next, and the notes that the store and the census make
meanwhile.
-/

namespace GitCensus.CommandLine

open Report (Row Maxima)

/-- A census with the lines on its progress so far. -/
structure Session (σ : Type) where
  census : Census σ
  lines : List String := []

/-- A store and the notes that its states hold, the oldest first. -/
structure Source (σ : Type) where
  store : Store σ
  notes : σ → List String

namespace Session

variable {σ : Type}

def say (line : String) (s : Session σ) : Session σ := { s with lines := s.lines ++ [line] }

/-- The lines on what has happened between two states of the census. -/
def news (S : Source σ) (before after : Census σ) : List String :=
  let ofStore := (S.notes after.store).drop (S.notes before.store).length
  let ofCensus := (after.notes.take (after.notes.length - before.notes.length)).reverse
  ofStore.map ("gitsizes.backend: " ++ ·) ++ ofCensus.map fun n => "gitsizes.cache: " ++ n.text

def measure (S : Source σ) (rounds : Nat) (id : ObjectId) (s : Session σ) :
    Option (Except Fault ObjectSize × Session σ) :=
  (s.census.objectSize S.store rounds id).map fun (answer, census) =>
    (answer, { census, lines := s.lines ++ news S s.census census })

/-- Sizes named objects in order, up to the first that has no size. -/
def sizeAll (S : Source σ) (rounds : Nat) :
    List (String × ObjectId) → Session σ → Option (Except Fault (List Row) × Session σ)
  | [], s => some (.ok [], s)
  | (name, id) :: rest, s =>
    match (s.say ("Sizing " ++ name ++ " (" ++ id.hex ++ ")")).measure S rounds id with
    | none => none
    | some (.error fault, s) => some (.error fault, s)
    | some (.ok size, s) =>
      (sizeAll S rounds rest s).map fun (rows, s) => (rows.map (⟨name, id, size⟩ :: ·), s)

/-- Sizes named objects in order and gathers the largest values of the trees among them,
up to the first object that has no size. -/
def scanAll (S : Source σ) (rounds : Nat) :
    List (String × ObjectId) → Maxima → Session σ → Option (Except Fault Maxima × Session σ)
  | [], maxima, s => some (.ok maxima, s)
  | (name, id) :: rest, maxima, s =>
    match s.measure S rounds id with
    | none => none
    | some (.error fault, s) => some (.error fault, s)
    | some (.ok (.blob _), s) => scanAll S rounds rest maxima s
    | some (.ok (.tree size), s) => scanAll S rounds rest (maxima.add name size) s

def sizedLine (s : Session σ) : String :=
  "Sized " ++ toString s.census.trees.size ++ " trees, " ++ toString s.census.blobs.size ++
    " blobs"

end Session

end GitCensus.CommandLine
