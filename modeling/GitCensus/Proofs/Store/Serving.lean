import GitCensus.Store.Metered
import GitCensus.Store.ObjectMap
/-!
# Stores that serve an object map

A store serves a map if it answers each request as the map does, or fails.  The
states it may be in and the states right after a failure are left to the store, so
that one notion covers a map in memory, a meter with a limit and failures at will.
-/

namespace GitCensus

variable {σ α β : Type}

/-- The store keeps a property of its states, whatever it is asked. -/
structure Store.Keeps (S : Store σ) (I : σ → Prop) : Prop where
  header : ∀ {s} id, I s → I (S.readHeader id s).2
  tree : ∀ {s} id, I s → I (S.readTree id s).2

/-- An answer is the right one, or a failure that leaves a state with `J`. -/
def Answered (J : σ → Prop) (right : Except Fault α) (reply : Except Fault α × σ) : Prop :=
  reply.1 = right ∨ (∃ fault, reply.1 = .error fault) ∧ J reply.2

/-- In states with `I` the store answers as the map does, or fails and shows `J`. -/
structure Store.Serves (S : Store σ) (m : ObjectMap) (I J : σ → Prop) : Prop where
  keeps : S.Keeps I
  header : ∀ {s} id, I s → Answered J (m.readHeader id) (S.readHeader id s)
  tree : ∀ {s} id, I s → Answered J (m.readTree id) (S.readTree id s)

theorem Store.Keeps.and {S : Store σ} {I I' : σ → Prop} (h : S.Keeps I) (h' : S.Keeps I') :
    S.Keeps fun s => I s ∧ I' s :=
  ⟨fun id hs => ⟨h.header id hs.1, h'.header id hs.2⟩,
    fun id hs => ⟨h.tree id hs.1, h'.tree id hs.2⟩⟩

theorem Answered.eq_of_ok {J : σ → Prop} {right : Except Fault α} {reply : Except Fault α × σ}
    {value : α} (h : Answered J right reply) (hok : reply.1 = .ok value) : right = .ok value := by
  rcases h with h | ⟨⟨fault, hfault⟩, -⟩
  · rw [← h, hok]
  · rw [hfault] at hok
    cases hok

theorem Answered.of_error {J : σ → Prop} {right : Except Fault α} {right' : Except Fault β}
    {reply : Except Fault α × σ} {fault : Fault} (h : Answered J right reply)
    (hfault : reply.1 = .error fault) (hsame : right = .error fault → right' = .error fault) :
    Answered J right' (.error fault, reply.2) := by
  rcases h with h | ⟨-, hJ⟩
  · exact .inl (hsame (h.symm.trans hfault)).symm
  · exact .inr ⟨⟨fault, rfl⟩, hJ⟩

theorem Answered.mono {J J' : σ → Prop} {right : Except Fault α} {reply : Except Fault α × σ}
    (h : Answered J right reply) (hJ : J reply.2 → J' reply.2) : Answered J' right reply :=
  h.imp id fun h => ⟨h.1, hJ h.2⟩

namespace ObjectMap

/-- A map serves itself and never fails. -/
theorem store_serves (m : ObjectMap) : store.Serves m (· = m) (fun _ => False) where
  keeps := ⟨fun _ h => h, fun _ h => h⟩
  header _ h := .inl (by rw [← h]; rfl)
  tree _ h := .inl (by rw [← h]; rfl)

end ObjectMap

namespace Metered

variable {S : Store σ} {m : ObjectMap} {I J : σ → Prop}

theorem pass_refused {request : Request} {ask : σ → Except Fault α × σ} {s : Metered σ}
    (h : s.remaining = some 0) : pass request ask s = (.error (.channel .limitReached), s) := by
  rw [pass, if_pos h]

theorem pass_passed {request : Request} {ask : σ → Except Fault α × σ} {s : Metered σ}
    (h : s.remaining ≠ some 0) :
    pass request ask s = ((ask s.inner).1,
      ⟨(ask s.inner).2, request :: s.requests, s.remaining.map (· - 1)⟩) := by
  rw [pass, if_neg h]

private theorem answered_pass {request : Request} {ask : σ → Except Fault α × σ}
    {s : Metered σ} {right : Except Fault α} (h : Answered J right (ask s.inner)) :
    Answered (fun s => J s.inner ∨ s.remaining = some 0) right (pass request ask s) := by
  by_cases hzero : s.remaining = some 0
  · rw [pass_refused hzero]
    exact .inr ⟨⟨_, rfl⟩, .inr hzero⟩
  · rw [pass_passed hzero]
    exact h.imp id fun h => ⟨h.1, .inl h.2⟩

private theorem inner_pass {request : Request} {ask : σ → Except Fault α × σ}
    {s : Metered σ} (hI : I s.inner) (h : I (ask s.inner).2) :
    I (pass request ask s).2.inner := by
  by_cases hzero : s.remaining = some 0
  · rw [pass_refused hzero]
    exact hI
  · rw [pass_passed hzero]
    exact h

theorem keeps_inner (h : S.Keeps I) : (store S).Keeps fun s => I s.inner :=
  ⟨fun id hI => inner_pass hI (h.header id hI), fun id hI => inner_pass hI (h.tree id hI)⟩

private theorem remaining_pass_eq_none {request : Request} {ask : σ → Except Fault α × σ}
    {s : Metered σ} (h : s.remaining = none) : (pass request ask s).2.remaining = none := by
  rw [pass_passed (by simp [h]), h]
  rfl

private theorem remaining_pass_isSome {request : Request} {ask : σ → Except Fault α × σ}
    {s : Metered σ} (h : s.remaining.isSome) : (pass request ask s).2.remaining.isSome := by
  by_cases hzero : s.remaining = some 0
  · rw [pass_refused hzero]
    exact h
  · rw [pass_passed hzero]
    simpa using h

theorem keeps_unlimited (S : Store σ) : (store S).Keeps fun s => s.remaining = none :=
  ⟨fun _ h => remaining_pass_eq_none h, fun _ h => remaining_pass_eq_none h⟩

theorem keeps_limited (S : Store σ) : (store S).Keeps fun s => s.remaining.isSome :=
  ⟨fun _ h => remaining_pass_isSome h, fun _ h => remaining_pass_isSome h⟩

/-- A store behind a meter serves what it serves alone, until the limit is reached. -/
theorem store_serves (h : S.Serves m I J) :
    (store S).Serves m (fun s => I s.inner) (fun s => J s.inner ∨ s.remaining = some 0) where
  keeps := keeps_inner h.keeps
  header id hI := answered_pass (h.header id hI)
  tree id hI := answered_pass (h.tree id hI)

/-- Without a limit nothing is refused. -/
theorem store_serves_unlimited (h : S.Serves m I J) :
    (store S).Serves m (fun s => I s.inner ∧ s.remaining = none) (fun s => J s.inner) where
  keeps := (keeps_inner h.keeps).and (keeps_unlimited S)
  header id hI := (answered_pass (h.header id hI.1)).mono fun hJ => by
    simpa [pass_passed, hI.2] using hJ
  tree id hI := (answered_pass (h.tree id hI.1)).mono fun hJ => by
    simpa [pass_passed, hI.2] using hJ

end Metered

end GitCensus
