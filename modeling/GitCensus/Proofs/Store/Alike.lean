import GitCensus.Store.ObjectMap
/-!
# Stores that answer alike

Two stores are alike if, in states that correspond, they give the same answers and end
in states that correspond again.  Then no conversation can tell them apart, whatever is
asked next in view of the answers so far.
-/

namespace GitCensus

variable {σ τ : Type}

/-- The stores answer alike in corresponding states. -/
structure Store.Alike (S : Store σ) (T : Store τ) (R : σ → τ → Prop) : Prop where
  header : ∀ {s t} id, R s t → (T.readHeader id t).1 = (S.readHeader id s).1 ∧
    R (S.readHeader id s).2 (T.readHeader id t).2
  tree : ∀ {s t} id, R s t → (T.readTree id t).1 = (S.readTree id s).1 ∧
    R (S.readTree id s).2 (T.readTree id t).2

inductive Answer where
  | header (answer : Except Fault Header)
  | tree (answer : Except Fault Bytes)

def Answer.fault? : Answer → Option Fault
  | .header (.error fault) => some fault
  | .tree (.error fault) => some fault
  | .header (.ok _) => none
  | .tree (.ok _) => none

def Request.headerId? : Request → Option ObjectId
  | .header id => some id
  | .tree _ => none

def Request.treeId? : Request → Option ObjectId
  | .header _ => none
  | .tree id => some id

namespace Store

def ask (S : Store σ) : Request → σ → Answer × σ
  | .header id, s =>
    let (answer, s) := S.readHeader id s
    (.header answer, s)
  | .tree id, s =>
    let (answer, s) := S.readTree id s
    (.tree answer, s)

/-- Puts requests to a store, each chosen from what was asked and answered before it:
the requests with their answers, newest first. -/
def converse (S : Store σ) (next : List (Request × Answer) → Request) :
    Nat → σ → List (Request × Answer) × σ
  | 0, s => ([], s)
  | n + 1, s =>
    let (log, s) := S.converse next n s
    let (answer, s) := S.ask (next log) s
    ((next log, answer) :: log, s)

variable {S : Store σ} {T : Store τ} {R : σ → τ → Prop} {s : σ} {t : τ}

theorem converse_succ (next : List (Request × Answer) → Request) (n : Nat) :
    S.converse next (n + 1) s =
      ((next (S.converse next n s).1,
          (S.ask (next (S.converse next n s).1) (S.converse next n s).2).1) ::
        (S.converse next n s).1,
        (S.ask (next (S.converse next n s).1) (S.converse next n s).2).2) := rfl

theorem Alike.ask (hR : S.Alike T R) (h : R s t) (request : Request) :
    (T.ask request t).1 = (S.ask request s).1 ∧
      R (S.ask request s).2 (T.ask request t).2 := by
  cases request with
  | header id => exact ⟨congrArg Answer.header (hR.header id h).1, (hR.header id h).2⟩
  | tree id => exact ⟨congrArg Answer.tree (hR.tree id h).1, (hR.tree id h).2⟩

theorem Alike.converse (hR : S.Alike T R) (h : R s t)
    (next : List (Request × Answer) → Request) (n : Nat) :
    (T.converse next n t).1 = (S.converse next n s).1 ∧
      R (S.converse next n s).2 (T.converse next n t).2 := by
  induction n with
  | zero => exact ⟨rfl, h⟩
  | succ n ih =>
      obtain ⟨hlog, hstate⟩ := ih
      obtain ⟨hanswer, hstate'⟩ := hR.ask hstate (next (S.converse next n s).1)
      rw [converse_succ, converse_succ, hlog, hanswer]
      exact ⟨rfl, hstate'⟩

end Store

end GitCensus
