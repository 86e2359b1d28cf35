import GitCensus.Selection.Order
/-!
# Faults of usage

What can be wrong with the arguments of the program, with the wording of each fault.
-/

namespace GitCensus.CommandLine

/-- The commands that have a usage text: the program itself and its two commands. -/
inductive Page where
  | program
  | size
  | scan
deriving DecidableEq, Repr

namespace Page

def name : Page → String
  | program => "gitsizes"
  | size => "gitsizes size"
  | scan => "gitsizes scan"

def operands : Page → String
  | program => "[OPTIONS] COMMAND [ARGS]..."
  | size => "[OPTIONS] OBJECTS..."
  | scan => "[OPTIONS]"

def text (p : Page) : String :=
  "Usage: " ++ p.name ++ " " ++ p.operands ++ "\nTry '" ++ p.name ++ " --help' for help.\n\n"

end Page

inductive UsageFault where
  | needsValue (option : String)
  | takesNoValue (option : String)
  | unknownOption (option : String)
  | unknownCommand (name : String)
  | missingCommand
  | missingOperand (name : String)
  | extraOperands (operands : List String)
  /-- The value of an option is none of its choices. -/
  | badChoice (option value : String) (choices : List String)
  /-- The value of an option is no filter of reference names. -/
  | badFilter (option : String) (cause : Selection.Filter.Fault)
  /-- The options for rules and their filters do not fit together. -/
  | badRule (cause : Selection.Rule.Fault)
deriving DecidableEq, Repr

namespace UsageFault

def message : UsageFault → String
  | needsValue option => "Option " ++ Text.Quoted.text option ++ " requires an argument."
  | takesNoValue option => "Option " ++ Text.Quoted.text option ++ " does not take a value."
  | unknownOption option => "No such option " ++ Text.Quoted.text option ++ "."
  | unknownCommand name => "No such command " ++ Text.Quoted.text name ++ "."
  | missingCommand => "Missing command."
  | missingOperand name => "Missing argument '" ++ name ++ "'."
  | extraOperands operands =>
    (if operands.length = 1 then "Got unexpected extra argument ("
      else "Got unexpected extra arguments (") ++ " ".intercalate operands ++ ")"
  | badChoice option value choices =>
    "Invalid value for '" ++ option ++ "': " ++ Text.Quoted.text value ++ " is not one of " ++
      ", ".intercalate (choices.map Text.Quoted.text) ++ "."
  | badFilter option cause => "Invalid value for '" ++ option ++ "': " ++ cause.message
  | badRule cause => cause.message

/-- Whether a fault is shown under the usage of the command.  Options that lack a value
or have one too many are reported alone. -/
def showsPage : UsageFault → Bool
  | needsValue _ | takesNoValue _ => false
  | _ => true

def report (page : Page) (f : UsageFault) : String :=
  (if f.showsPage then page.text else "") ++ "Error: " ++ f.message ++ "\n"

end UsageFault

end GitCensus.CommandLine
