import GitCensus.Selection.Group
/-!
# Selecting references by rules

Rules include or exclude the names that they cover, and later rules override earlier
ones.  Names that no rule covers are selected unless the first rule is an inclusion.
-/

namespace GitCensus.Selection

structure Rule where
  /-- Whether the covered names are included rather than excluded. -/
  includes : Bool
  covers : String → Bool

namespace Rule

def ofFilter (includes : Bool) (f : Filter) : Rule := ⟨includes, f.covers⟩

/-- Applies a rule to whether a name has been selected so far. -/
def apply (name : String) (selected : Bool) (r : Rule) : Bool :=
  if r.includes then selected || r.covers name else selected && !r.covers name

end Rule

/-- Whether names are selected before any rule applies. -/
def selectedAtFirst (rules : List Rule) : Bool :=
  match rules with
  | [] => true
  | r :: _ => !r.includes

def selects (rules : List Rule) (name : String) : Bool :=
  rules.foldl (Rule.apply name) (selectedAtFirst rules)

/-- The form of a selection without rules that is shown for debugging. -/
def everythingText : String := "ALL"

/-- The references that rules select, ascending by name. -/
def select {α : Type} (rules : List Rule) (references : List (String × α)) :
    List (String × α) :=
  (references.filter fun r => selects rules r.1).mergeSort fun a b => a.1 ≤ b.1

end GitCensus.Selection
