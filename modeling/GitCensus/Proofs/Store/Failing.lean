import GitCensus.Proofs.Store.Serving
/-!
# Stores that fail at will

A store some of whose requests fail before they reach it.  Which ones, and with what
fault, is laid down in advance by the number of the request.
-/

namespace GitCensus

/-- A store's state with the faults of the requests to come, and the number of
requests that failed this way so far. -/
structure Failing (σ : Type) where
  inner : σ
  plan : Nat → Option Fault
  injected : Nat := 0

namespace Failing

variable {σ α : Type} {S : Store σ} {m : ObjectMap} {I J : σ → Prop}

/-- Passes one request on, unless the plan has a fault for it. -/
def pass (ask : σ → Except Fault α × σ) (f : Failing σ) : Except Fault α × Failing σ :=
  match f.plan 0 with
  | some fault => (.error fault, ⟨f.inner, fun n => f.plan (n + 1), f.injected + 1⟩)
  | none =>
    let (answer, inner) := ask f.inner
    (answer, ⟨inner, fun n => f.plan (n + 1), f.injected⟩)

def store (S : Store σ) : Store (Failing σ) where
  readHeader id := pass (S.readHeader id)
  readTree id := pass (S.readTree id)

private theorem answered_pass {ask : σ → Except Fault α × σ} {s : Failing σ} {n : Nat}
    {right : Except Fault α} (hle : n ≤ s.injected) (h : Answered J right (ask s.inner)) :
    Answered (fun s => J s.inner ∨ n < s.injected) right (pass ask s) := by
  unfold pass
  cases s.plan 0 with
  | some fault => exact .inr ⟨⟨fault, rfl⟩, .inr (Nat.lt_succ_of_le hle)⟩
  | none => exact h.imp id fun h => ⟨h.1, .inl h.2⟩

private theorem keeps_pass {ask : σ → Except Fault α × σ} {s : Failing σ} {n : Nat}
    (hs : I s.inner ∧ n ≤ s.injected) (h : I (ask s.inner).2) :
    I (pass ask s).2.inner ∧ n ≤ (pass ask s).2.injected := by
  unfold pass
  cases s.plan 0 with
  | some fault => exact ⟨hs.1, Nat.le_succ_of_le hs.2⟩
  | none => exact ⟨h, hs.2⟩

/-- While no further request is made to fail, the store serves what it serves alone. -/
theorem store_serves (h : S.Serves m I J) (n : Nat) :
    (store S).Serves m (fun s => I s.inner ∧ n ≤ s.injected)
      (fun s => J s.inner ∨ n < s.injected) where
  keeps := ⟨fun id hs => keeps_pass hs (h.keeps.header id hs.1),
    fun id hs => keeps_pass hs (h.keeps.tree id hs.1)⟩
  header id hs := answered_pass hs.2 (h.header id hs.1)
  tree id hs := answered_pass hs.2 (h.tree id hs.1)

end Failing

end GitCensus
