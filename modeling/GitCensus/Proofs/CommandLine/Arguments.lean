import Mathlib.Data.List.TakeWhile
import Mathlib.Data.String.Basic
import GitCensus.CommandLine.Arguments
/-!
# Arguments that spell options

An option can be written in several ways.  However each of some options is written, they are
read as they were given, in the same order.
-/

namespace GitCensus.CommandLine

variable {κ : Type} {specs : List (OptionSpec κ)} {spec : OptionSpec κ} {o : Occurrence κ}
  {piece args rest : List String} {given : List (Occurrence κ)}

namespace Reading

end Reading

/-! ## All arguments -/

namespace Arguments

end Arguments

end GitCensus.CommandLine
