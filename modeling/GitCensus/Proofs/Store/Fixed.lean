import GitCensus.Proofs.Store.Serving
/-!
# Stores that do not change

A store that holds fixed objects gives the same answer whenever it is asked the same.
The states it may be in are left to the store: it may count, index or buffer, as long
as no answer tells.
-/

namespace GitCensus

variable {σ α : Type}

/-- The store answers alike in all states with `I`, and is in one of them again after
each answer that is not a fault. -/
structure Store.Steady (S : Store σ) (I : σ → Prop) : Prop where
  header : ∀ {s s'} id, I s → I s' → (S.readHeader id s').1 = (S.readHeader id s).1
  tree : ∀ {s s'} id, I s → I s' → (S.readTree id s').1 = (S.readTree id s).1
  keepsHeader : ∀ {s id answer}, I s → (S.readHeader id s).1 = .ok answer →
    I (S.readHeader id s).2
  keepsTree : ∀ {s id data}, I s → (S.readTree id s).1 = .ok data → I (S.readTree id s).2

/-- The store answers alike in all states with `I`, and faults are no exception: it is in
one of them again after every answer. -/
structure Store.Fixed (S : Store σ) (I : σ → Prop) : Prop where
  keeps : S.Keeps I
  header : ∀ {s s'} id, I s → I s' → (S.readHeader id s').1 = (S.readHeader id s).1
  tree : ∀ {s s'} id, I s → I s' → (S.readTree id s').1 = (S.readTree id s).1

theorem Store.Fixed.steady {S : Store σ} {I : σ → Prop} (h : S.Fixed I) : S.Steady I where
  header := h.header
  tree := h.tree
  keepsHeader hs _ := h.keeps.header _ hs
  keepsTree hs _ := h.keeps.tree _ hs

/-- A store that carries a steady one along is steady. -/
theorem Store.Steady.lift {τ : Type} {S : Store σ} {S' : Store τ} {I : σ → Prop} (h : S.Steady I)
    (put : σ → τ)
    (hheader : ∀ id s, S'.readHeader id (put s) =
      ((S.readHeader id s).1, put (S.readHeader id s).2))
    (htree : ∀ id s, S'.readTree id (put s) = ((S.readTree id s).1, put (S.readTree id s).2)) :
    S'.Steady fun t => ∃ s, t = put s ∧ I s where
  header := by
    rintro _ _ id ⟨s, rfl, hs⟩ ⟨s', rfl, hs'⟩
    rw [hheader, hheader, h.header id hs hs']
  tree := by
    rintro _ _ id ⟨s, rfl, hs⟩ ⟨s', rfl, hs'⟩
    rw [htree, htree, h.tree id hs hs']
  keepsHeader := by
    rintro _ id answer ⟨s, rfl, hs⟩ hanswer
    rw [hheader] at hanswer ⊢
    exact ⟨_, rfl, h.keepsHeader hs hanswer⟩
  keepsTree := by
    rintro _ id data ⟨s, rfl, hs⟩ hdata
    rw [htree] at hdata ⊢
    exact ⟨_, rfl, h.keepsTree hs hdata⟩

namespace ObjectMap

/-- A map is fixed. -/
theorem store_fixed (m : ObjectMap) : store.Fixed (· = m) where
  keeps := m.store_serves.keeps
  header _ hs hs' := by rw [hs, hs']
  tree _ hs hs' := by rw [hs, hs']

end ObjectMap

namespace Metered

variable {S : Store σ} {I : σ → Prop}

theorem answer_of_pass {request : Request} {ask : σ → Except Fault α × σ} {s : Metered σ}
    (h : s.remaining = none) : (pass request ask s).1 = (ask s.inner).1 := by
  rw [pass_passed (by simp [h])]

/-- A meter without a limit does not change what a store answers. -/
theorem store_fixed (h : S.Fixed I) :
    (store S).Fixed fun s => I s.inner ∧ s.remaining = none where
  keeps := (keeps_inner h.keeps).and (keeps_unlimited S)
  header id hs hs' := by
    show (pass _ _ _).1 = (pass _ _ _).1
    rw [answer_of_pass hs.2, answer_of_pass hs'.2, h.header id hs.1 hs'.1]
  tree id hs hs' := by
    show (pass _ _ _).1 = (pass _ _ _).1
    rw [answer_of_pass hs.2, answer_of_pass hs'.2, h.tree id hs.1 hs'.1]

end Metered

end GitCensus
