import GitCensus.Proofs.Census.Measured
import GitCensus.Proofs.Census.Requests
import GitCensus.Proofs.Store.Failing
/-!
# Failing and trying again

Requests to the store may fail at any moment of any call.  The records that a census
has made by then are right and complete below themselves, so that a later call goes
on from them and ends as if nothing had failed.
-/

namespace GitCensus.Census

variable {σ : Type} {S : Store σ} {m : ObjectMap} {I J : σ → Prop} {c : Census σ}

/-- Between calls, the records of a census are those that the map calls for. -/
structure Faithful (m : ObjectMap) (c : Census σ) : Prop where
  pending : c.pending.ids = []
  /-- Everything that a recorded tree names has a record. -/
  closed : ∀ id size, c.trees.find? id = some size →
    ∃ entries, m.entries? id = some entries ∧
      ∀ e ∈ entries, (e.kind = .tree → (c.trees.find? e.id).isSome) ∧
        (e.kind = .blob → (c.blobs.find? e.id).isSome)
  /-- A census without records gives each recorded blob the same size. -/
  blobs : ∀ id size, c.blobs.find? id = some size →
    (blobSize ObjectMap.store id { store := m }).1 = .ok size
  /-- A census without records gives each recorded tree the same size. -/
  trees : ∀ id size, c.trees.find? id = some size →
    ∃ rounds c', treeSize ObjectMap.store rounds id { store := m } = some (.ok size, c')

theorem Sound.faithful (hsound : Sound m c) (hpending : c.pending.ids = []) :
    Faithful m c := by
  refine ⟨hpending, fun id size hfind => ?_, fun id size hfind => ?_, fun id size hfind => ?_⟩
  · obtain ⟨entries, hentries, hfold⟩ := hsound.folds hfind
    exact ⟨entries, hentries, TreeSize.ofEntries?_isSome_iff.mp (by rw [← fold?, hfold]; rfl)⟩
  · have hanswered : Answered (fun _ => False) (m.blobSize id)
        (blobSize ObjectMap.store id { store := m }) :=
      blobSize_answered m.store_serves ⟨rfl, .empty m⟩ rfl
    rw [hanswered.resolve_right fun hfailed => hfailed.2, hsound.blobs hfind]
  · exact exists_treeSize_fresh (hsound.trees hfind)

/-- Whichever requests fail, each call leaves a faithful state with all earlier records
in it.  A tree that is sized without a further failure gets the answer that a census
without records gets from the map, and on the way nothing is asked for that has a
record. -/
theorem retry_after_failures {plan : Nat → Option Fault}
    {c : Census (Metered (Failing ObjectMap))}
    (hc : Reachable (Metered.store (Failing.store ObjectMap.store))
      { inner := { inner := m, plan } } c) :
    Faithful m c ∧
    (∀ rounds call answer c',
      c.perform (Metered.store (Failing.store ObjectMap.store)) rounds call =
        some (answer, c') → Faithful m c' ∧ c.KeptIn c') ∧
    ∀ rounds t answer c',
      c.treeSize (Metered.store (Failing.store ObjectMap.store)) rounds t = some (answer, c') →
      c'.store.inner.injected = c.store.inner.injected →
        (∃ rounds' c'', treeSize ObjectMap.store rounds' t { store := m } =
          some (answer, c'')) ∧
        (∃ made, Asked c c' made) ∧
        (c.trees.find? t = none →
          ∀ c₁, Rounds (Metered.store (Failing.store ObjectMap.store)) (c.push t) c₁ →
            ∃ made, Asked c₁ c' made) := by
  have hserves (n : Nat) :=
    Metered.store_serves_unlimited (Failing.store_serves m.store_serves n)
  have hfaithful {c : Census (Metered (Failing ObjectMap))}
      (hc : Reachable (Metered.store (Failing.store ObjectMap.store))
        { inner := { inner := m, plan } } c) : Faithful m c := by
    have hfit := hc.fit (hserves 0) ⟨⟨rfl, Nat.le_refl 0⟩, rfl⟩
    exact hfit.sound.faithful hc.pending
  refine ⟨hfaithful hc, fun rounds call answer c' hcall => ?_,
    fun rounds t answer c' htree hinjected => ⟨?_, treeSize_asked htree⟩⟩
  · exact ⟨hfaithful (hc.call hcall), perform_keptIn hcall⟩
  · obtain ⟨⟨⟨hmap, -⟩, hlimit⟩, hsound⟩ :=
      hc.fit (hserves 0) ⟨⟨rfl, Nat.le_refl 0⟩, rfl⟩
    have houtcome := outcome_of_treeSize (hserves c.store.inner.injected)
      ⟨⟨⟨hmap, Nat.le_refl _⟩, hlimit⟩, hsound⟩ hc.pending htree
    rcases houtcome with hfailed | houtcome
    · rcases hfailed with hfalse | hlt
      · exact hfalse.elim
      · omega
    · exact exists_treeSize_fresh houtcome

open ObjectMap (shared sharedSize)
open ObjectId (repeating)

/-- A census of the shared map whose sixth request fails. -/
def interruptedCensus : Census (Metered (Failing ObjectMap)) where
  store := { inner := {
    inner := shared
    plan := fun n => if n = 5 then some (.channel .limitReached) else none } }

/-- The failure hits the second reading of the third tree, when the second tree and both blobs
have records.  The records are kept, and sizing the first tree again gives what it gives without
the failure, with three requests, none of them for what had a record. -/
theorem retry_after_failures_shared :
    ∃ c c' : Census (Metered (Failing ObjectMap)),
      (∃ rounds, interruptedCensus.perform (Metered.store (Failing.store ObjectMap.store)) rounds
        (.tree (repeating 1)) = some (.error (.channel .limitReached), c)) ∧
      c.trees.toList.map Prod.fst = [repeating 2] ∧
      c.blobs.toList.map Prod.fst = [repeating 9, repeating 8] ∧ Faithful shared c ∧
      (∃ rounds, c.treeSize (Metered.store (Failing.store ObjectMap.store)) rounds (repeating 1) =
        some (.ok sharedSize, c')) ∧
      (∃ rounds c'', treeSize ObjectMap.store rounds (repeating 1) { store := shared } =
        some (.ok sharedSize, c'')) ∧
      Faithful shared c' ∧ c.KeptIn c' ∧
      Asked c c' [.tree (repeating 1), .tree (repeating 3), .tree (repeating 1)] := by
  have hfirst : (interruptedCensus.perform (Metered.store (Failing.store ObjectMap.store)) 9
      (.tree (repeating 1))).map (fun a => (faultOf a.1, a.2.trees.toList.map Prod.fst,
        a.2.blobs.toList.map Prod.fst)) =
      some (some (.channel .limitReached), [repeating 2], [repeating 9, repeating 8]) := by
    decide +kernel
  obtain ⟨⟨answer, c⟩, hfirst, hfacts⟩ := Option.map_eq_some_iff.mp hfirst
  obtain ⟨hanswer, htrees, hblobs⟩ := by simpa only [Prod.mk.injEq] using hfacts
  have hboth : ((interruptedCensus.perform (Metered.store (Failing.store ObjectMap.store)) 9
      (.tree (repeating 1))).bind fun a =>
        (a.2.treeSize (Metered.store (Failing.store ObjectMap.store)) 9 (repeating 1)).map fun b =>
          (b.1.toOption, decide (b.2.store.inner.injected = a.2.store.inner.injected),
            decide (b.2.store.requests = [.tree (repeating 1), .tree (repeating 3),
              .tree (repeating 1)] ++ a.2.store.requests))) =
      some (some sharedSize, true, true) := by
    decide +kernel
  rw [hfirst] at hboth
  obtain ⟨⟨answer', c'⟩, hsecond, hfacts⟩ := Option.map_eq_some_iff.mp hboth
  obtain ⟨hanswer', hinjected, hrequests⟩ := by simpa only [Prod.mk.injEq] using hfacts
  have hc : Reachable (Metered.store (Failing.store ObjectMap.store))
      interruptedCensus.store c := .call .start hfirst
  obtain ⟨hfaithful, hcalls, hretry⟩ := retry_after_failures hc
  obtain ⟨hfresh, ⟨made, hasked⟩, -⟩ :=
    hretry 9 (repeating 1) answer' c' hsecond (of_decide_eq_true hinjected)
  have hcall : c.perform (Metered.store (Failing.store ObjectMap.store)) 9 (.tree (repeating 1)) =
      some (answer'.map .tree, c') := by
    rw [perform, hsecond]
    rfl
  obtain ⟨hfaithful', hkept⟩ := hcalls 9 _ _ c' hcall
  have hmade := hasked.requests
  rw [of_decide_eq_true hrequests] at hmade
  rw [← List.append_cancel_right hmade] at hasked
  cases answer with
  | ok size => cases hanswer
  | error fault =>
      cases answer' with
      | error fault => cases hanswer'
      | ok size =>
          obtain rfl := Option.some.inj hanswer
          obtain rfl := Option.some.inj hanswer'
          exact ⟨c, c', ⟨9, hfirst⟩, htrees, hblobs, hfaithful, ⟨9, hsecond⟩, hfresh, hfaithful',
            hkept, hasked⟩

end GitCensus.Census
