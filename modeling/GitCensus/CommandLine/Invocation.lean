import GitCensus.CommandLine.Arguments
import GitCensus.Report.Format
import GitCensus.Selection.Order
/-!
# Invocations

What a call of the program asks for, read from its arguments and from variables of the
environment.  Options of the program stand before the name of the command, options of
the command anywhere after it.
-/

namespace GitCensus.CommandLine

open Report (Format)
open Selection (Filter Group Rule Supply)

/-- The ways of asking a repository for objects. -/
inductive Backend where
  /-- Over channels to an object server. -/
  | server
  /-- From the object database. -/
  | database
deriving DecidableEq, Repr, Inhabited

namespace Backend

def all : List Backend := [server, database]

def name : Backend → String
  | server => "git"
  | database => "dulwich"

def ofName? (s : String) : Option Backend := all.find? fun b => b.name = s

end Backend

inductive Key where
  | repository
  | backend
  | serverProgram
  | verbose
  | format
  /-- A rule that includes or excludes what a filter covers. -/
  | filter (includes : Bool)
  /-- A rule that includes or excludes a group. -/
  | group (g : Group) (includes : Bool)
deriving DecidableEq, Repr

/-- The name that an option goes by inside its command. -/
def Key.name : Key → String
  | repository => "repo"
  | backend => "backend"
  | serverProgram => "git_cmd"
  | verbose => "verbose"
  | format => "fmt"
  | filter includes => Rule.filterName includes
  | group g includes => Rule.groupName g includes

def repositorySpec : OptionSpec Key :=
  { key := .repository, long := "--repo", letter := some 'r' }

def formatSpec : OptionSpec Key := { key := .format, long := "--format" }

def programSpecs : List (OptionSpec Key) := [
  repositorySpec,
  { key := .backend, long := "--backend" },
  { key := .serverProgram, long := "--git" },
  { key := .verbose, long := "--verbose", letter := some 'v', takesValue := false }]

def sizeSpecs : List (OptionSpec Key) := [repositorySpec, formatSpec]

def filterOption (includes : Bool) : String := if includes then "--include" else "--exclude"

def groupOption (g : Group) (includes : Bool) : String :=
  (if includes then "--" else "--no-") ++ g.name

def scanSpecs : List (OptionSpec Key) :=
  [repositorySpec, { key := .filter true, long := filterOption true },
    { key := .filter false, long := filterOption false }] ++
  (Group.all.flatMap fun g => [true, false].map fun includes =>
    { key := .group g includes, long := groupOption g includes, takesValue := false }) ++
  [formatSpec]

/-- The variables of the environment that stand in for options. -/
structure Environment where
  repository : Option String := none
  backend : Option String := none
  serverProgram : Option String := none
deriving DecidableEq, Repr

/-- Reads the environment; a variable that is empty does not count. -/
def Environment.ofVariables (lookup : String → Option String) : Environment where
  repository := (lookup "GITSIZES_REPO").filter (!·.isEmpty)
  backend := (lookup "GITSIZES_BACKEND").filter (!·.isEmpty)
  serverProgram := (lookup "GITSIZES_GIT").filter (!·.isEmpty)

inductive Task where
  | size (objects : List String) (format : Format)
  | scan (rules : List Rule) (format : Format)

structure Invocation where
  repository : Option String
  backend : Backend
  serverProgram : String
  verbose : Bool
  task : Task

/-- Arguments that are not understood, with the command whose they are. -/
structure UsageError where
  page : Page
  fault : UsageFault
deriving DecidableEq, Repr

def UsageError.text (e : UsageError) : String := e.fault.report e.page

def formatOf (a : Arguments Key) : Except UsageFault Format :=
  match a.value? .format with
  | none => .ok .text
  | some s =>
    match Format.ofName? s with
    | some format => .ok format
    | none => .error (.badChoice formatSpec.long s (Format.all.map Format.name))

def backendOf (env : Environment) (a : Arguments Key) : Except UsageFault Backend :=
  match (a.value? .backend).or env.backend with
  | none => .ok .server
  | some s =>
    match Backend.ofName? s with
    | some backend => .ok backend
    | none => .error (.badChoice "--backend" s (Backend.all.map Backend.name))

def filterOf (includes : Bool) (o : Occurrence Key) : Except UsageFault Filter :=
  (Filter.parse (o.value.getD "")).mapError (.badFilter (filterOption includes))

/-- The filters that one of the two options for them gives, in the order in which it was given. -/
def filtersOf (a : Arguments Key) (includes : Bool) : Except UsageFault (List Filter) :=
  (a.options.filter fun o => o.key = .filter includes).mapM (filterOf includes)

/-- The names of the rules that options stand for, in the order in which they were given. -/
def ruleNames (a : Arguments Key) : List String :=
  (a.options.map fun o => o.key.name).filter fun name => name ∈ Rule.names

def checkKey (a : Arguments Key) : Key → Except UsageFault Unit
  | .format => (formatOf a).map fun _ => ()
  | .filter includes => (filtersOf a includes).map fun _ => ()
  | _ => .ok ()

/-- Checks the values of all options, option by option in the order in which they were
first given. -/
def checkKeys (a : Arguments Key) : List Key → Except UsageFault Unit
  | [] => .ok ()
  | key :: rest =>
    match checkKey a key with
    | .error fault => .error fault
    | .ok () => checkKeys a rest

def readSize (args : List String) : Except UsageFault (Arguments Key × Task) := do
  let a ← Arguments.read sizeSpecs true args
  let format ← formatOf a
  if a.operands.isEmpty then .error (.missingOperand "OBJECTS...")
  else .ok (a, .size a.operands format)

/-- Reads the arguments of the command that scans references.  The names of the rules and the
filters for them come apart from the options, and are put together when all else is right. -/
def readScan (args : List String) : Except UsageFault (Arguments Key × Task) := do
  let a ← Arguments.read scanSpecs true args
  checkKeys a a.keys
  let included ← filtersOf a true
  let excluded ← filtersOf a false
  let format ← formatOf a
  if !a.operands.isEmpty then .error (.extraOperands a.operands)
  else
    let (rules, _) ← (Supply.rules (ruleNames a) ⟨included, excluded⟩).mapError .badRule
    return (a, .scan rules format)

/-- Reads the arguments of the program up to the name of the command. -/
def readProgram (env : Environment) (args : List String) :
    Except UsageFault (Arguments Key × Backend) := do
  let a ← Arguments.read programSpecs false args
  return (a, ← backendOf env a)

/-- The command of a name, and the reader of its arguments. -/
def command? (name : String) :
    Option (Page × (List String → Except UsageFault (Arguments Key × Task))) :=
  if name = "size" then some (.size, readSize)
  else if name = "scan" then some (.scan, readScan)
  else none

/-- The fault of a name that no command has.  If the name looks like an option, the
arguments from it on are read as those of the program first. -/
def unknownCommand (env : Environment) (name : String) (args : List String) : UsageFault :=
  match readProgram env (name :: args) with
  | .error fault => fault
  | .ok _ => .unknownCommand name

/-- Reads a call of the program.  The repository is the one given to the command, else
that of the environment, else the one given to the program. -/
def Invocation.read (env : Environment) (args : List String) : Except UsageError Invocation :=
  match readProgram env args with
  | .error fault => .error ⟨.program, fault⟩
  | .ok (a, backend) =>
    match a.operands with
    | [] => .error ⟨.program, .missingCommand⟩
    | name :: rest =>
      match command? name with
      | none => .error ⟨.program, unknownCommand env name rest⟩
      | some (page, readCommand) =>
        match readCommand rest with
        | .error fault => .error ⟨page, fault⟩
        | .ok (b, task) => .ok {
            repository :=
              (b.value? .repository).or (env.repository.or (a.value? .repository))
            backend
            serverProgram := ((a.value? .serverProgram).or env.serverProgram).getD "git"
            verbose := a.has .verbose
            task }

end GitCensus.CommandLine
