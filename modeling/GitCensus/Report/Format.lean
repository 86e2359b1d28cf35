/-!
# Formats of reports
-/

namespace GitCensus.Report

inductive Format where
  | text
  /-- One JSON value. -/
  | json
  /-- One JSON value on each line. -/
  | jsonLines
deriving DecidableEq, Repr, Inhabited

namespace Format

def all : List Format := [text, json, jsonLines]

def name : Format → String
  | text => "text"
  | json => "json"
  | jsonLines => "jsonl"

def ofName? (s : String) : Option Format := all.find? fun f => f.name = s

end Format

end GitCensus.Report
