import GitCensus.Selection.Rule
/-!
# Rules in a given order

Names tell in order which rules there are.  A rule on a group has the group in its name.  A
rule on what a filter covers takes the next filter of one of two rows, which stand apart from
the names.
-/

namespace GitCensus.Selection

namespace Rule

/-- The name of rules that include or exclude what a filter covers. -/
def filterName (includes : Bool) : String := if includes then "include" else "exclude"

/-- What the name of a rule begins with that excludes a group. -/
def exclusionMark : String := "no_"

def groupName (g : Group) (includes : Bool) : String :=
  if includes then g.name else exclusionMark ++ g.name

def names : List String :=
  [true, false].map filterName ++ Group.all.map (groupName · true) ++
    Group.all.map (groupName · false)

/-- Why there is no rule of a name. -/
inductive Fault where
  /-- No filter is left for the rule. -/
  | noFilter
  /-- The name is that of no group. -/
  | unknownGroup (name : String)
deriving DecidableEq, Repr

def Fault.message : Fault → String
  | noFilter => ""
  | unknownGroup name => Group.unknownText name

/-- The rule that includes or excludes the group of a name. -/
def ofGroup (includes : Bool) (name : String) : Except Fault Rule :=
  match Group.ofName? name with
  | some g => .ok (.ofFilter includes g.filter)
  | none => .error (.unknownGroup name)

end Rule

/-- The filters that have not been taken for rules yet, in order. -/
structure Supply where
  included : List Filter
  excluded : List Filter

namespace Supply

/-- Takes the next filter for a rule that includes or excludes. -/
def take (includes : Bool) (s : Supply) : Except Rule.Fault (Filter × Supply) :=
  match includes, s with
  | true, ⟨f :: included, excluded⟩ => .ok (f, ⟨included, excluded⟩)
  | false, ⟨included, f :: excluded⟩ => .ok (f, ⟨included, excluded⟩)
  | _, _ => .error .noFilter

/-- The rule of a name, and the filters that are left. -/
def rule (name : String) (s : Supply) : Except Rule.Fault (Rule × Supply) :=
  if name = Rule.filterName true ∨ name = Rule.filterName false then
    let includes := name = Rule.filterName true
    (s.take includes).map fun (f, s) => (.ofFilter includes f, s)
  else
    let mark := Rule.exclusionMark.toList
    let made :=
      if mark.isPrefixOf name.toList then
        Rule.ofGroup false (String.ofList (name.toList.drop mark.length))
      else Rule.ofGroup true name
    made.map fun r => (r, s)

/-- The rules of names in order, and the filters that are left. -/
def rules : List String → Supply → Except Rule.Fault (List Rule × Supply)
  | [], s => .ok ([], s)
  | name :: names, s =>
    match s.rule name with
    | .error fault => .error fault
    | .ok (r, s) => (rules names s).map fun (rs, s) => (r :: rs, s)

end Supply

end GitCensus.Selection
