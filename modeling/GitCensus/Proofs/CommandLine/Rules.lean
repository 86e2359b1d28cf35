import GitCensus.CommandLine.Invocation
import GitCensus.Proofs.CommandLine.Arguments
import GitCensus.Proofs.CommandLine.Session
/-!
# Rules as the options ask for them

The names of the rules and the filters for them come apart from the options of a scan.  Put
together again they are the rules that the options ask for, one for each and in order, and no
filter is missing or left over.
-/

namespace GitCensus.CommandLine

open Report (Format)
open Selection (Filter Group Rule Supply)

variable {args : List String} {given os : List (Occurrence Key)} {a : Arguments Key}
  {included excluded : List Filter} {rules : List Rule} {format : Format} {task : Task}

/-! ## What an option asks for -/

def Key.isRule : Key → Bool
  | filter _ => true
  | group _ _ => true
  | _ => false

/-- The occurrences that ask for rules, in order. -/
def asking (os : List (Occurrence Key)) : List (Occurrence Key) := os.filter fun o => o.key.isRule

end GitCensus.CommandLine
