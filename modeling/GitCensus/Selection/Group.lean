import GitCensus.Selection.Filter
/-!
# Groups of references

The places in the hierarchy of references that have a name of their own.
-/

namespace GitCensus.Selection

inductive Group where
  | branches
  | tags
  | remotes
  | notes
deriving DecidableEq, Repr, Inhabited

namespace Group

def all : List Group := [branches, tags, remotes, notes]

def name : Group → String
  | branches => "branches"
  | tags => "tags"
  | remotes => "remotes"
  | notes => "notes"

/-- The path that the names of a group's references start with. -/
def path : Group → String
  | branches => "refs/heads/"
  | tags => "refs/tags/"
  | remotes => "refs/remotes/"
  | notes => "refs/notes/"

def ofName? (s : String) : Option Group := all.find? fun g => g.name = s

def unknownText (s : String) : String := "unknown reference group: " ++ Text.Quoted.text s

def filter (g : Group) : Filter := .below g.path

end Group

end GitCensus.Selection
