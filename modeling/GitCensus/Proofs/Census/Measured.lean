import GitCensus.Proofs.Census.Call
import GitCensus.Proofs.Census.Outcome
/-!
# Which trees are measured

Over an object map that answers the same way each time, sizing a tree ends with its
statistics exactly if the part below it is complete and finite, whatever was sized
before, and the statistics are those of the plain recursion.
-/

namespace GitCensus.Census

variable {m : ObjectMap} {c : Census ObjectMap}

/-- In each state that calls can lead to, a tree gets a size if and only if it can be
measured; the size is the one that recursion over its entries finds. -/
theorem treeSize_ok_iff_measurable (hc : Reachable ObjectMap.store m c) (t : ObjectId) :
    ((∃ rounds size c', c.treeSize ObjectMap.store rounds t = some (.ok size, c')) ↔
      m.Measurable t) ∧
    ∀ rounds size c', c.treeSize ObjectMap.store rounds t = some (.ok size, c') →
      ∃ levels, m.sizeWithin levels t = some size := by
  have hS := m.store_serves
  have hfit := hc.fit hS rfl
  have hfound : ∀ rounds size c', c.treeSize ObjectMap.store rounds t = some (.ok size, c') →
      ∃ levels, m.sizeWithin levels t = some size := by
    intro rounds size c' htree
    have houtcome := outcome_of_treeSize hS hfit hc.pending htree
    exact houtcome.resolve_left id
  refine ⟨⟨?_, fun hmeasurable => ?_⟩, hfound⟩
  · rintro ⟨rounds, size, c', htree⟩
    obtain ⟨levels, hlevels⟩ := hfound rounds size c' htree
    exact ObjectMap.measurable_iff_sizeWithin.mpr ⟨levels, size, hlevels⟩
  · obtain ⟨levels, size, hlevels⟩ := ObjectMap.measurable_iff_sizeWithin.mp hmeasurable
    have houtcome : m.Outcome t (.ok size) := ⟨levels, hlevels⟩
    obtain ⟨rounds, answer, c', htree, hanswer⟩ :=
      exists_treeSize_of_outcome hS hfit hc.pending houtcome
    rw [hanswer.resolve_left id] at htree
    exact ⟨rounds, size, c', htree⟩

open ObjectMap (shared sharedSize)
open ObjectId (repeating)

/-- After its second tree has been sized and its fourth one has been asked for as a blob, the
first tree of the shared map gets its size.  The fourth tree, which names itself, gets none. -/
theorem treeSize_ok_iff_measurable_shared :
    ∃ c, Reachable ObjectMap.store shared c ∧
      c.trees.toList.map Prod.fst = [repeating 2] ∧ c.blobs.toList.map Prod.fst = [repeating 9] ∧
      (∃ rounds c', c.treeSize ObjectMap.store rounds (repeating 1) =
        some (.ok sharedSize, c')) ∧
      (∃ levels, shared.sizeWithin levels (repeating 1) = some sharedSize) ∧
      ∀ rounds size c', c.treeSize ObjectMap.store rounds (repeating 4) ≠ some (.ok size, c') := by
  have hcalls : ((perform ObjectMap.store 2 (.tree (repeating 2)) { store := shared }).bind fun a =>
      (a.2.perform ObjectMap.store 0 (.blob (repeating 4))).map fun b =>
        (b.1.toOption, b.2.trees.toList.map Prod.fst, b.2.blobs.toList.map Prod.fst)) =
          some (none, [repeating 2], [repeating 9]) := by decide +kernel
  obtain ⟨⟨first, c₁⟩, hfirst, hcalls⟩ := Option.bind_eq_some_iff.mp hcalls
  obtain ⟨⟨second, c⟩, hsecond, hfacts⟩ := Option.map_eq_some_iff.mp hcalls
  obtain ⟨-, htrees, hblobs⟩ := by simpa only [Prod.mk.injEq] using hfacts
  have hc : Reachable ObjectMap.store shared c := .call (.call .start hfirst) hsecond
  obtain ⟨hsized, hfound⟩ := treeSize_ok_iff_measurable hc (repeating 1)
  obtain ⟨rounds, size, c', htree⟩ := hsized.mpr ObjectMap.measurable_shared
  obtain ⟨levels, hlevels⟩ := hfound rounds size c' htree
  have hsize : shared.sizeWithin 4 (repeating 1) = some sharedSize := by decide +kernel
  obtain rfl := ObjectMap.sizeWithin_unique hlevels hsize
  refine ⟨c, hc, htrees, hblobs, ⟨rounds, c', htree⟩, ⟨levels, hlevels⟩, ?_⟩
  intro rounds size c' hcycle
  have hmeasurable := (treeSize_ok_iff_measurable hc (repeating 4)).1.mp ⟨rounds, size, c', hcycle⟩
  exact ObjectMap.not_acyclicFrom_shared hmeasurable.acyclic

end GitCensus.Census
