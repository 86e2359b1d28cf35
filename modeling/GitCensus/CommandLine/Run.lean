import GitCensus.CommandLine.Invocation
import GitCensus.CommandLine.Session
import GitCensus.Repository.Access
/-!
# Running the program

A call is understood as a whole before a repository is opened, objects are resolved
before one is sized, and a report is written only when all has been sized.
-/

namespace GitCensus.CommandLine

open Selection (Rule)

structure Host where
  /-- The repository at a path. -/
  repository? : String → Option Repository
  /-- Whether a program can be started. -/
  hasProgram : String → Bool
  /-- Whether the command line extra is installed. -/
  hasExtra : Bool := true

/-- Why a call that has been understood fails. -/
inductive Failure where
  | noRepository
  | absentRepository (path : String)
  | unknownReference (spec : String)
  | absentProgram (name : String)
  | sizing (cause : Fault)
deriving DecidableEq

def Failure.message : Failure → String
  | .noRepository => "No repository specified. Use --repo or set GITSIZES_REPO."
  | .absentRepository path => Repository.absentText path
  | .unknownReference spec => "Unknown ref: " ++ spec
  | .absentProgram name =>
    "[Errno 2] No such file or directory: " ++ Text.Quoted.text name
  | .sizing cause => cause.message

/-- The fault that a failure does not report: one that callers are not told of as a sizing
error ends the program as it is. -/
def Failure.unreported? : Failure → Option Fault
  | .sizing cause => if cause.isReported then none else some cause
  | _ => none

structure Outcome where
  exitCode : Nat
  output : String
  errors : String
  /-- The fault that broke the program off, if one did.  A trace of the program, which is not
  part of this model, stands behind the errors then. -/
  brokenOff : Option Fault := none
deriving DecidableEq

def missingExtra : String :=
  "Error: the gitsizes CLI requires the 'cli' extra.\n" ++
    "Install it with:  pip install gitsizes[cli]\n"

/-- The outcome of a call that has been understood, given the lines on its progress. -/
def outcome (verbose : Bool) (result : Except Failure String) (lines : List String) : Outcome :=
  let progress := if verbose then Report.lines lines else ""
  match result with
  | .ok output => { exitCode := 0, output, errors := progress }
  | .error f =>
    match f.unreported? with
    | none => { exitCode := 1, output := "", errors := progress ++ "Error: " ++ f.message ++ "\n" }
    | some fault => { exitCode := 1, output := "", errors := progress, brokenOff := some fault }

def openRepository (host : Host) (i : Invocation) : Except Failure Repository :=
  match i.repository with
  | none => .error .noRepository
  | some path =>
    if path.isEmpty then .error .noRepository
    else match host.repository? path with
      | some r => .ok r
      | none => .error (.absentRepository path)

/-- Opens the store of a repository that a call asks for. -/
def openStore (host : Host) (i : Invocation) (r : Repository) :
    Except Failure Repository.Access :=
  match i.backend with
  | .database => .ok (.openDatabase r)
  | .server =>
    if host.hasProgram i.serverProgram then .ok (.openClient r)
    else .error (.absentProgram i.serverProgram)

def target (r : Repository) (spec : String) : Except Failure (String × ObjectId) :=
  match r.resolve? spec with
  | some id => .ok (spec, r.peel id)
  | none => .error (.unknownReference spec)

def targets (r : Repository) : List String → Except Failure (List (String × ObjectId))
  | [] => .ok []
  | spec :: rest =>
    match target r spec with
    | .error f => .error f
    | .ok t => (targets r rest).map (t :: ·)

def source : Source Repository.Access := ⟨Repository.Access.store, Repository.Access.notes⟩

/-- What a task leaves behind: its report or why there is none, and the lines on its
progress. -/
abbrev TaskResult := Except Failure String × List String

def runSize (rounds : Nat) (host : Host) (i : Invocation) (objects : List String)
    (format : Report.Format) : Option TaskResult :=
  let opened : Except Failure (List (String × ObjectId) × Repository.Access) := do
    let r ← openRepository host i
    let ts ← targets r objects
    return (ts, ← openStore host i r)
  match opened with
  | .error f => some (.error f, [])
  | .ok (ts, access) =>
    (Session.sizeAll source rounds ts { census := { store := access } }).map
      fun (rows, s) => match rows with
        | .ok rows => (.ok (Report.sizes format rows), s.lines)
        | .error cause => (.error (.sizing cause), s.lines)

/-- The name of the reference to what is checked out. -/
def headName : Bytes := Bytes.ofAscii "HEAD"

/-- Associates values with texts; of two values for a text, the later one stays. -/
def associate {α : Type} (entries : List (String × α)) : List (String × α) :=
  entries.foldl (fun kept e => kept.filter (fun k => k.1 ≠ e.1) ++ [e]) []

/-- The references of a repository by decoded name. -/
def namedReferences (r : Repository) : List (String × ObjectId) :=
  associate ((r.resolved.filter fun e => e.1 ≠ headName).map fun (name, id) =>
    (Text.utf8 name, id))

def runScan (rounds : Nat) (host : Host) (i : Invocation) (rules : List Rule)
    (format : Report.Format) : Option TaskResult :=
  match openRepository host i with
  | .error f => some (.error f, [])
  | .ok r =>
    let references := namedReferences r
    let selected := Selection.select rules references
    let line := "Scanning " ++ toString selected.length ++ " of " ++
      toString references.length ++ " references"
    match openStore host i r with
    | .error f => some (.error f, [line])
    | .ok access =>
      let ts := selected.map fun (name, id) => (name, r.peel id)
      (Session.scanAll source rounds ts [] { census := { store := access }, lines := [line] }).map
        fun (maxima, s) => match maxima with
          | .ok maxima => (.ok (Report.maxima format maxima), (s.say s.sizedLine).lines)
          | .error cause => (.error (.sizing cause), s.lines)

def perform (rounds : Nat) (host : Host) (i : Invocation) : Option TaskResult :=
  match i.task with
  | .size objects format => runSize rounds host i objects format
  | .scan rules format => runScan rounds host i rules format

/-- Runs the program on its arguments.  There is no outcome only if the given number of
rounds does not suffice to size some tree. -/
def run (rounds : Nat) (host : Host) (env : Environment) (args : List String) :
    Option Outcome :=
  if !host.hasExtra then some { exitCode := 1, output := "", errors := missingExtra }
  else match Invocation.read env args with
    | .error e => some { exitCode := 2, output := "", errors := e.text }
    | .ok i => (perform rounds host i).map fun (result, lines) =>
        outcome i.verbose result lines

end GitCensus.CommandLine
