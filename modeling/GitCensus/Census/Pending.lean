import GitCensus.ObjectId
import GitCensus.Text.Decimal
/-!
# Pending trees

The trees whose sizes are being computed stand on a stack, which stands in for the
calls of a recursion.
-/

namespace GitCensus

/-- The stack of trees to size, the next one first. -/
structure Pending where
  ids : List ObjectId := []
deriving DecidableEq, Inhabited

namespace Pending

inductive Fault where
  | nothingOnTop
  | nothingToDrop
deriving DecidableEq, Repr

def Fault.message : Fault → String
  | .nothingOnTop => "list index out of range"
  | .nothingToDrop => "pop from empty list"

def size (p : Pending) : Nat := p.ids.length

def push (p : Pending) (id : ObjectId) : Pending := ⟨id :: p.ids⟩

def top (p : Pending) : Except Fault ObjectId :=
  match p.ids with
  | [] => .error .nothingOnTop
  | id :: _ => .ok id

def drop (p : Pending) : Except Fault Pending :=
  match p.ids with
  | [] => .error .nothingToDrop
  | _ :: rest => .ok ⟨rest⟩

/-- The trees on the stack, numbered from the bottom. -/
def text (p : Pending) : String :=
  let line : ObjectId × Nat → String := fun (id, index) =>
    Text.Decimal.padLeft 8 (toString index) ++ " " ++ id.hex
  "\n".intercalate
    (("todo list has " ++ toString p.size ++ " items") :: p.ids.reverse.zipIdx.map line)

end Pending

end GitCensus
