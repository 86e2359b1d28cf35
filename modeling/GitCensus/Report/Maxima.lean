import GitCensus.Report.Sizes
import GitCensus.Text.Decimal
/-!
# Reports of largest values

For each statistic of trees, the largest value found and the first name it was found
under.
-/

namespace GitCensus.Report

/-- The largest value of a statistic and where it was found. -/
structure Maximum where
  statistic : String
  value : Int
  holder : String
deriving DecidableEq, Repr, Inhabited

def Maximum.raised (m : Maximum) (value : Int) (holder : String) : Maximum :=
  if m.value < value then { m with value, holder } else m

/-- The largest values so far, one for each statistic once a tree has been found. -/
abbrev Maxima := List Maximum

namespace Maxima

def add (holder : String) (size : TreeSize) : Maxima → Maxima
  | [] => size.statistics.map fun (statistic, value) => ⟨statistic, value, holder⟩
  | maxima => maxima.zipWith (fun m (_, value) => m.raised value holder) size.statistics

end Maxima

def Maximum.text (m : Maximum) : String :=
  Text.Decimal.padRight 18 m.statistic ++ " " ++ Text.Decimal.padLeft 12 (toString m.value) ++
    "  " ++ m.holder

def Maximum.json (m : Maximum) : String × String :=
  (m.statistic, Json.object [("value", Json.number m.value), ("ref", Json.text m.holder)])

def maxima (format : Format) (ms : Maxima) : String :=
  match format with
  | .text => lines (ms.map Maximum.text)
  | .json | .jsonLines => lines [Json.object (ms.map Maximum.json)]

end GitCensus.Report
