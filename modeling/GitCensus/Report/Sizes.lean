import GitCensus.ObjectId
import GitCensus.Report.Format
import GitCensus.Report.Json
import GitCensus.Size.Record
/-!
# Reports of sizes

A report of the sizes of objects, in the order in which they were asked for.
-/

namespace GitCensus.Report

/-- The size of an object, with the name it was asked for by. -/
structure Row where
  name : String
  id : ObjectId
  size : ObjectSize
deriving DecidableEq

namespace Row

def text (r : Row) : String :=
  r.name ++ " " ++ r.size.kind.name ++ " " ++ r.id.hex ++ ": " ++ r.size.text

def json (r : Row) : String :=
  Json.object ([("name", Json.text r.name), ("oid", Json.text r.id.hex),
    ("type", Json.text r.size.kind.name)] ++
      r.size.statistics.map fun (key, n) => (key, Json.number n))

end Row

def lines (ls : List String) : String := String.join (ls.map (· ++ "\n"))

def sizes (format : Format) (rows : List Row) : String :=
  match format with
  | .text => lines (rows.map Row.text)
  | .json => lines [Json.list (rows.map Row.json)]
  | .jsonLines => lines (rows.map Row.json)

end GitCensus.Report
