import GitCensus.Proofs.Store.Serving
/-!
# Stores with a budget

A store spends if every payload it delivers leaves it with less than before.  Such a
store cannot be read forever, whatever it holds.
-/

namespace GitCensus

variable {σ α : Type}

/-- No answer adds to what is left, and each payload takes something away. -/
structure Store.Spends (S : Store σ) (I : σ → Prop) (left : σ → Nat) : Prop where
  header : ∀ {s} id, I s → left (S.readHeader id s).2 ≤ left s
  tree : ∀ {s} id, I s → left (S.readTree id s).2 ≤ left s
  payload : ∀ {s id data}, I s → (S.readTree id s).1 = .ok data →
    left (S.readTree id s).2 < left s

namespace Metered

variable {S : Store σ} {I : σ → Prop} {left : σ → Nat}

private theorem remaining_pass_le {request : Request} {ask : σ → Except Fault α × σ}
    {s : Metered σ} : (pass request ask s).2.remaining.getD 0 ≤ s.remaining.getD 0 := by
  by_cases hzero : s.remaining = some 0
  · simp [pass_refused hzero]
  · rw [pass_passed hzero]
    cases s.remaining <;> simp

private theorem remaining_pass_lt {request : Request} {ask : σ → Except Fault α × σ}
    {s : Metered σ} {value : α} (hlimit : s.remaining.isSome)
    (h : (pass request ask s).1 = .ok value) :
    (pass request ask s).2.remaining.getD 0 < s.remaining.getD 0 := by
  by_cases hzero : s.remaining = some 0
  · rw [pass_refused hzero] at h
    cases h
  · obtain ⟨k, hk⟩ := Option.isSome_iff_exists.mp hlimit
    have hpos : k ≠ 0 := by
      rintro rfl
      exact hzero hk
    rw [pass_passed hzero, hk]
    simp only [Option.map_some, Option.getD_some]
    omega

theorem store_spends (S : Store σ) :
    (store S).Spends (fun s => s.remaining.isSome) (fun s => s.remaining.getD 0) where
  header _ _ := remaining_pass_le
  tree _ _ := remaining_pass_le
  payload hlimit h := remaining_pass_lt hlimit h

private theorem left_pass {request : Request} {ask : σ → Except Fault α × σ} {s : Metered σ}
    (h : left (ask s.inner).2 ≤ left s.inner) :
    left (pass request ask s).2.inner ≤ left s.inner := by
  by_cases hzero : s.remaining = some 0
  · simp [pass_refused hzero]
  · rw [pass_passed hzero]
    exact h

theorem store_spends_inner (h : S.Spends I left) :
    (store S).Spends (fun s => I s.inner) (fun s => left s.inner) where
  header id hI := left_pass (h.header id hI)
  tree id hI := left_pass (h.tree id hI)
  payload {s id data} hI hok := by
    have hzero : s.remaining ≠ some 0 := by
      intro hzero
      simp [store, pass_refused hzero] at hok
    simp only [store, pass_passed hzero] at hok ⊢
    exact h.payload hI hok

end Metered

end GitCensus
