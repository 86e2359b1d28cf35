import GitCensus.CommandLine.Usage
/-!
# Arguments

Arguments are options and operands.  An option has a long name, which may carry its
value after an equals sign, and perhaps a letter; letters may stand together behind one
hyphen, and the last of them may carry its value.  A value that is not carried is the
next argument, whatever that looks like.  Two hyphens end the options.
-/

namespace GitCensus.CommandLine

structure OptionSpec (κ : Type) where
  key : κ
  /-- The long name, with its hyphens. -/
  long : String
  letter : Option Char := none
  takesValue : Bool := true
deriving DecidableEq

/-- An option as it was given, with its value if it takes one. -/
structure Occurrence (κ : Type) where
  key : κ
  value : Option String := none
deriving DecidableEq, Repr

/-- What has been read from arguments: the options in order, and the operands. -/
structure Arguments (κ : Type) where
  options : List (Occurrence κ) := []
  operands : List String := []
deriving DecidableEq, Repr

/-- What one argument turns out to be. -/
inductive Reading (κ : Type) where
  | operand
  | options (given : List (Occurrence κ))
  /-- Options, and one more that takes the next argument as its value. -/
  | wanting (given : List (Occurrence κ)) (spec : OptionSpec κ) (shown : String)

namespace Reading

variable {κ : Type} (specs : List (OptionSpec κ))

/-- Reads letters that stand behind one hyphen, after the options in `given`. -/
def ofLetters : (letters : List Char) → (given : List (Occurrence κ)) →
    Except UsageFault (Reading κ)
  | [], given => .ok (.options given)
  | c :: rest, given =>
    let shown := String.ofList ['-', c]
    match specs.find? fun s => s.letter = some c with
    | none => .error (.unknownOption shown)
    | some spec =>
      if !spec.takesValue then ofLetters rest (given ++ [⟨spec.key, none⟩])
      else if rest.isEmpty then .ok (.wanting given spec shown)
      else .ok (.options (given ++ [⟨spec.key, some (String.ofList rest)⟩]))

/-- Reads an argument that starts with a hyphen, by its long name or else letter by
letter; two hyphens announce a long name for certain. -/
def ofHyphened (arg : List Char) : Except UsageFault (Reading κ) :=
  let long := String.ofList (arg.takeWhile (· ≠ '='))
  let carried := match arg.dropWhile (· ≠ '=') with
    | [] => none
    | _ :: value => some (String.ofList value)
  match specs.find? fun s => s.long = long with
  | some spec =>
    match carried, spec.takesValue with
    | none, true => .ok (.wanting [] spec long)
    | some value, true => .ok (.options [⟨spec.key, some value⟩])
    | none, false => .ok (.options [⟨spec.key, none⟩])
    | some _, false => .error (.takesNoValue long)
  | none =>
    if ['-', '-'].isPrefixOf arg then .error (.unknownOption long)
    else ofLetters specs arg.tail []

def ofArgument (arg : String) : Except UsageFault (Reading κ) :=
  match arg.toList with
  | '-' :: c :: rest => ofHyphened specs ('-' :: c :: rest)
  | _ => .ok .operand

end Reading

namespace Arguments

variable {κ : Type}

def withOptions (given : List (Occurrence κ)) (a : Arguments κ) : Arguments κ :=
  { a with options := given ++ a.options }

def withOperand (operand : String) (a : Arguments κ) : Arguments κ :=
  { a with operands := operand :: a.operands }

/-- Reads arguments.  If options may not stand after operands, the first operand ends
the options. -/
def read (specs : List (OptionSpec κ)) (mixed : Bool) :
    List String → Except UsageFault (Arguments κ)
  | [] => .ok {}
  | arg :: rest =>
    if arg = "--" then .ok { operands := rest }
    else match Reading.ofArgument specs arg with
      | .error fault => .error fault
      | .ok .operand =>
        if mixed then (read specs mixed rest).map (withOperand arg)
        else .ok { operands := arg :: rest }
      | .ok (.options given) => (read specs mixed rest).map (withOptions given)
      | .ok (.wanting given spec shown) =>
        match rest with
        | [] => .error (.needsValue shown)
        | value :: rest =>
          (read specs mixed rest).map (withOptions (given ++ [⟨spec.key, some value⟩]))

/-- The value of the last occurrence of an option. -/
def value? [DecidableEq κ] (a : Arguments κ) (key : κ) : Option String :=
  (a.options.filter fun o => o.key = key).getLast?.bind (·.value)

def has [DecidableEq κ] (a : Arguments κ) (key : κ) : Bool := a.options.any fun o => o.key = key

/-- The options that were given, each once, by their first occurrence. -/
def keys [DecidableEq κ] (a : Arguments κ) : List κ := (a.options.map (·.key)).eraseDups

end Arguments

end GitCensus.CommandLine
