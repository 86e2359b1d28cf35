import GitCensus.Proofs.Census.Refinement
import GitCensus.Proofs.Store.Probe
/-!
# What sizing a tree comes to

Unless the store fails of its own accord, a census with sound records answers what
the map alone determines, whichever records it already has: the size of the tree, or
the first fault below it.
-/

namespace GitCensus

namespace ObjectMap

variable {m : ObjectMap}

theorem probeAll_of_filter {f : ObjectId → Option (Except Fault Unit)} {p : ObjectId → Bool}
    {ids : List ObjectId} {answer : Except Fault Unit}
    (hleft : ∀ id ∈ ids, p id = false → f id = some (.ok ()))
    (h : probeAll f (ids.filter p) = some answer) : probeAll f ids = some answer := by
  induction ids with
  | nil => exact h
  | cons id rest ih =>
      have hrest := ih fun id' hid' => hleft id' (by simp [hid'])
      rw [probeAll_cons]
      cases hp : p id with
      | false =>
          rw [List.filter_cons_of_neg (by simp [hp])] at h
          rw [hleft id (by simp) hp]
          exact hrest h
      | true =>
          rw [List.filter_cons_of_pos hp, probeAll_cons] at h
          rcases hf : f id with _ | ⟨fault | ⟨⟩⟩
          · simp [hf] at h
          · simpa [hf] using h
          · simp only [hf] at h
            exact hrest h

end ObjectMap

namespace Census

variable {σ : Type} {S : Store σ} {m : ObjectMap} {I J : σ → Prop}
variable {c c' c₁ : Census σ} {id : ObjectId}

theorem Sound.exists_probe (hsound : Sound m c) (h : (c.trees.find? id).isSome) :
    ∃ levels, m.probe levels id = some (.ok ()) := by
  obtain ⟨size, hsize⟩ := Option.isSome_iff_exists.mp h
  obtain ⟨levels, hlevels⟩ := hsound.trees hsize
  exact ⟨levels, ObjectMap.probe_eq_ok_iff.mpr ⟨size, hlevels⟩⟩

theorem blobSize_answered (hS : S.Serves m I J) (hfit : Fit m I c)
    {answer : Except Fault BlobSize} (h : c.blobSize S id = (answer, c')) :
    Answered J (m.blobSize id) (answer, c'.store) := by
  cases hfind : c.blobs.find? id with
  | some size =>
      rw [blobSize_of_recorded hfind] at h
      obtain ⟨rfl, rfl⟩ := Prod.mk.inj h
      exact .inl (hfit.sound.blobs hfind).symm
  | none =>
      rw [blobSize_of_unrecorded hfind, askHeader_eq] at h
      have hheader := hS.header id hfit.store
      cases hanswer : (S.readHeader id c.store).1 with
      | error fault =>
          simp only [hanswer] at h
          obtain ⟨rfl, rfl⟩ := Prod.mk.inj h
          refine hheader.of_error hanswer fun hright => ?_
          rw [ObjectMap.blobSize, hright]
      | ok header =>
          have hread := hheader.eq_of_ok hanswer
          simp only [hanswer] at h
          by_cases hkind : header.kind = .blob
          · rw [if_pos hkind] at h
            obtain ⟨rfl, rfl⟩ := Prod.mk.inj h
            exact .inl (ObjectMap.blobSize_of_header hread hkind).symm
          · rw [if_neg hkind] at h
            obtain ⟨rfl, rfl⟩ := Prod.mk.inj h
            refine .inl ?_
            rw [ObjectMap.blobSize, hread]
            simp only [hkind, if_false]

theorem resolveBlobs_answered (hS : S.Serves m I J) (hfit : Fit m I c)
    {entries : List Entry} {answer : Except Fault Unit}
    (h : c.resolveBlobs S entries = (answer, c')) :
    Answered J (m.resolveBlobs entries) (answer, c'.store) := by
  induction entries generalizing c with
  | nil =>
      obtain ⟨rfl, rfl⟩ := Prod.mk.inj h
      exact .inl rfl
  | cons e rest ih =>
      simp only [resolveBlobs] at h
      rw [ObjectMap.resolveBlobs]
      by_cases hkind : e.kind = .blob
      · rw [if_pos hkind] at h ⊢
        rcases hblob : c.blobSize S e.id with ⟨fault | size, c₁⟩
        · have hanswered := blobSize_answered hS hfit hblob
          simp only [hblob] at h
          obtain ⟨rfl, rfl⟩ := Prod.mk.inj h
          refine hanswered.of_error rfl fun hright => ?_
          rw [hright]
        · have hsize := (blobSize_answered hS hfit hblob).eq_of_ok rfl
          simp only [hblob] at h
          have hrun : Run S I none c c₁ := blobSize_run hblob
          rw [hsize]
          exact ih (hrun.fit hS hfit) h
      · rw [if_neg hkind] at h ⊢
        exact ih hfit h

/-- A survey finds what the map alone determines, unless the store fails. -/
theorem survey_answered (hS : S.Serves m I J) (hfit : Fit m I c)
    {answer : Except Fault (List Entry)} (h : c.survey S id = (answer, c')) :
    Answered J (m.survey id) (answer, c'.store) := by
  unfold survey at h
  rw [ObjectMap.survey]
  have htree := hS.tree id hfit.store
  rcases hask : c.askTree S id with ⟨fault | data, c₁⟩
  · obtain ⟨hread, rfl⟩ := askTree_spec hask
    simp only [hask] at h
    obtain ⟨rfl, rfl⟩ := Prod.mk.inj h
    refine htree.of_error hread fun hright => ?_
    rw [hright]
  · obtain ⟨hread, hc₁⟩ := askTree_spec hask
    simp only [hask] at h
    rw [htree.eq_of_ok hread]
    have hfit₁ : Fit m I c₁ := by
      rw [hc₁]
      exact ⟨hS.keeps.tree id hfit.store, hfit.sound.of_tables rfl rfl⟩
    rcases hblobs : c₁.resolveBlobs S (Tree.decode data).entries with ⟨fault | ⟨⟩, c₂⟩
    · have hanswered := resolveBlobs_answered hS hfit₁ hblobs
      simp only [hblobs] at h
      obtain ⟨rfl, rfl⟩ := Prod.mk.inj h
      refine hanswered.of_error rfl fun hright => ?_
      simp only [hright]
    · have hresolved := (resolveBlobs_answered hS hfit₁ hblobs).eq_of_ok rfl
      simp only [hblobs] at h
      simp only [hresolved]
      left
      cases hfault : (Tree.decode data).fault with
      | some cause =>
          simp only [hfault, Prod.mk.injEq] at h
          exact h.1.symm
      | none =>
          simp only [hfault, Prod.mk.injEq] at h
          exact h.1.symm

/-! ## Visits and probes -/

theorem visitAll_probed (hS : S.Serves m I J) {depth : Nat}
    (hvisit : ∀ {id c answer c'}, Fit m I c →
      visit S depth id c = some (answer, c') →
        J c'.store ∨ ∃ levels, m.probe levels id = some answer)
    {ids : List ObjectId} {answer : Except Fault Unit} (hfit : Fit m I c)
    (h : visitAll (visit S depth) ids c = some (answer, c')) :
    J c'.store ∨ ∃ levels, ObjectMap.probeAll (m.probe levels) ids = some answer := by
  induction ids generalizing c with
  | nil =>
      obtain ⟨rfl, rfl⟩ := Prod.mk.inj (Option.some.inj h)
      exact .inr ⟨0, rfl⟩
  | cons id rest ih =>
      rw [visitAll_cons] at h
      rcases hresult : visit S depth id c with _ | ⟨fault | ⟨⟩, c₁⟩
      · simp [hresult] at h
      · simp only [hresult, Option.some.injEq, Prod.mk.injEq] at h
        obtain ⟨rfl, rfl⟩ := h
        rcases hvisit hfit hresult with hfailed | ⟨levels, hlevels⟩
        · exact .inl hfailed
        · exact .inr ⟨levels, by rw [ObjectMap.probeAll_cons, hlevels]⟩
      · simp only [hresult] at h
        have hvisited := visit_visited hS hfit hresult
        have hfit₁ := hvisited.run.fit hS hfit
        obtain ⟨k, hk⟩ := hfit₁.sound.exists_probe (hvisited.done rfl id (by simp))
        rcases ih hfit₁ h with hfailed | ⟨k', hk'⟩
        · exact .inl hfailed
        · refine .inr ⟨max k k', ?_⟩
          rw [ObjectMap.probeAll_cons, ObjectMap.probe_mono (Nat.le_max_left k k') hk]
          exact ObjectMap.probeAll_mono
            (fun _ _ hprobe => ObjectMap.probe_mono (Nat.le_max_right k k') hprobe) hk'

theorem Sound.exists_probe_of_unrecorded (hsound : Sound m c) {entries : List Entry}
    {levels : Nat} {answer : Except Fault Unit} (hsurvey : m.survey id = .ok entries)
    (h : ObjectMap.probeAll (m.probe levels) (c.unrecorded entries).reverse = some answer) :
    ∃ levels', m.probe levels' id = some answer := by
  obtain ⟨k, hk⟩ := ObjectMap.exists_levels_forall (Entry.subtrees entries)
    (P := fun k u => (c.trees.find? u).isSome → m.probe k u = some (.ok ()))
    (fun hle hpassed hsome => ObjectMap.probe_mono hle (hpassed hsome))
    (fun u _ => by
      by_cases hsome : (c.trees.find? u).isSome
      · obtain ⟨k, hk⟩ := hsound.exists_probe hsome
        exact ⟨k, fun _ => hk⟩
      · exact ⟨0, fun h => absurd h hsome⟩)
  refine ⟨max k levels + 1, ?_⟩
  rw [ObjectMap.probe, hsurvey]
  rw [unrecorded, ← List.filter_reverse] at h
  have hmore := ObjectMap.probeAll_mono (fun _ _ hprobe =>
    ObjectMap.probe_mono (Nat.le_max_right k levels) hprobe) h
  refine ObjectMap.probeAll_of_filter (fun u hu hrecorded => ?_) hmore
  refine ObjectMap.probe_mono (Nat.le_max_left k levels) ?_
  exact hk u (List.mem_reverse.mp hu) (by simpa using hrecorded)

/-- A visit fails with the first fault below the tree, unless the store fails. -/
theorem probe_of_visit (hS : S.Serves m I J) {depth : Nat} {answer : Except Fault Unit}
    (hfit : Fit m I c) (h : visit S depth id c = some (answer, c')) :
    J c'.store ∨ ∃ levels, m.probe levels id = some answer := by
  induction depth generalizing id c answer c' with
  | zero => simp [visit] at h
  | succ depth ih =>
      rcases answer with fault | ⟨⟩
      swap
      · have hvisited := visit_visited hS hfit h
        have hfit' := hvisited.run.fit hS hfit
        exact .inr (hfit'.sound.exists_probe (hvisited.done rfl id (by simp)))
      have hend := visitEnd hS hfit depth id
      rw [h] at hend
      cases hend with
      | unread hnew hsurvey =>
          refine (survey_answered hS hfit hsurvey).symm.imp (·.2) fun hright => ⟨1, ?_⟩
          rw [ObjectMap.probe, ← hright]
      | @failedBelow entries _ c₁ _ hnew hsurvey hmissing hbelow =>
          have hrun : Run S I none c c₁ := survey_run hnew hsurvey
          have hright := (survey_answered hS hfit hsurvey).eq_of_ok rfl
          have hfit₁ := hrun.fit hS hfit
          rcases visitAll_probed hS ih hfit₁ hbelow with
            hfailed | ⟨levels, hlevels⟩
          · exact .inl hfailed
          · exact .inr (hfit₁.sound.exists_probe_of_unrecorded hright hlevels)
      | unreadAgain hnew hsurvey hmissing hbelow hnew' hsurvey' =>
          have hrun : Run S I none c _ := survey_run hnew hsurvey
          have hvisited := visitAll_visited hS (visit_visited hS) (hrun.fit hS hfit) hbelow
          have hrun' : Run S I none c _ := hrun.trans hvisited.run
          have hright := (survey_answered hS hfit hsurvey).eq_of_ok rfl
          rcases survey_answered hS (hrun'.fit hS hfit) hsurvey' with hsame | hfailed
          · rw [hright] at hsame
            cases hsame
          · exact .inl hfailed.2

theorem visitAll_ends (hS : S.Serves m I J) {depth : Nat}
    (hvisit : ∀ {id c answer}, Fit m I c → m.probe depth id = some answer →
      visit S depth id c ≠ none)
    {p : ObjectId → Bool} {ids : List ObjectId} {answer : Except Fault Unit} (hfit : Fit m I c)
    (hleft : ∀ id ∈ ids, p id = false → ∃ levels, m.probe levels id = some (.ok ()))
    (h : ObjectMap.probeAll (m.probe depth) ids = some answer) :
    visitAll (visit S depth) (ids.filter p) c ≠ none := by
  induction ids generalizing c with
  | nil => simp [visitAll]
  | cons id rest ih =>
      rw [ObjectMap.probeAll_cons] at h
      have hleft' := fun id' (hid' : id' ∈ rest) => hleft id' (by simp [hid'])
      -- a tree that is known to have a size is passed by the probe
      have hrest (hk : ∃ levels, m.probe levels id = some (.ok ())) :
          ObjectMap.probeAll (m.probe depth) rest = some answer := by
        obtain ⟨k, hk⟩ := hk
        rcases hprobe : m.probe depth id with _ | found
        · simp [hprobe] at h
        · obtain rfl := ObjectMap.probe_unique hk hprobe
          simpa [hprobe] using h
      cases hp : p id with
      | false =>
          rw [List.filter_cons_of_neg (by simp [hp])]
          exact ih hfit hleft' (hrest (hleft id (by simp) hp))
      | true =>
          rw [List.filter_cons_of_pos hp, visitAll_cons]
          have hends : visit S depth id c ≠ none := by
            rcases hprobe : m.probe depth id with _ | found
            · simp [hprobe] at h
            · exact hvisit hfit hprobe
          rcases hresult : visit S depth id c with _ | ⟨fault | ⟨⟩, c₁⟩
          · exact absurd hresult hends
          · simp
          · have hvisited := visit_visited hS hfit hresult
            have hfit₁ := hvisited.run.fit hS hfit
            exact ih hfit₁ hleft'
              (hrest (hfit₁.sound.exists_probe (hvisited.done rfl id (by simp))))

/-- A visit ends at least as early as the probe without records. -/
theorem visit_ne_none_of_probe (hS : S.Serves m I J) {depth : Nat} {answer : Except Fault Unit}
    (hfit : Fit m I c) (h : m.probe depth id = some answer) :
    visit S depth id c ≠ none := by
  induction depth generalizing id c answer with
  | zero => simp [ObjectMap.probe] at h
  | succ depth ih =>
      intro hnone
      have hend := visitEnd hS hfit depth id
      rw [hnone] at hend
      cases hend with
      | tooDeep hnew hsurvey hmissing hbelow =>
          have hrun : Run S I none c _ := survey_run hnew hsurvey
          have hright := (survey_answered hS hfit hsurvey).eq_of_ok rfl
          have hfit₁ := hrun.fit hS hfit
          rw [ObjectMap.probe, hright] at h
          rw [unrecorded, ← List.filter_reverse] at hbelow
          refine visitAll_ends hS ih hfit₁
            (fun u _ hrecorded => ?_) h hbelow
          exact hfit₁.sound.exists_probe (by simpa using hrecorded)

/-! ## Tree sizes -/

theorem outcome_of_visitSize (hS : S.Serves m I J) (hfit : Fit m I c)
    {depth : Nat} {answer : Except Fault TreeSize}
    (h : c.visitSize S depth id = some (answer, c')) : J c'.store ∨ m.Outcome id answer := by
  unfold visitSize at h
  rcases hvisit : visit S depth id c with _ | ⟨fault | ⟨⟩, c₁⟩
  · simp [hvisit] at h
  · simp only [hvisit, Option.some.injEq, Prod.mk.injEq] at h
    obtain ⟨rfl, rfl⟩ := h
    exact probe_of_visit hS hfit hvisit
  · have hvisited := visit_visited hS hfit hvisit
    obtain ⟨size, hsize⟩ := Option.isSome_iff_exists.mp (hvisited.done rfl id (by simp))
    simp only [hvisit, hsize, Option.some.injEq, Prod.mk.injEq] at h
    obtain ⟨rfl, rfl⟩ := h
    exact .inr ((hvisited.run.fit hS hfit).sound.trees hsize)

/-- Where sizing a tree ends, it ends as the map alone determines, or the store failed. -/
theorem outcome_of_treeSize (hS : S.Serves m I J) (hfit : Fit m I c)
    (hpending : c.pending.ids = []) {rounds : Nat} {answer : Except Fault TreeSize}
    (h : c.treeSize S rounds id = some (answer, c')) : J c'.store ∨ m.Outcome id answer := by
  obtain ⟨depth, answer', c'', hvisit⟩ := visitSize_of_treeSize hS hfit hpending h
  obtain ⟨rounds', notes, htree⟩ := treeSize_of_visitSize hS hfit hpending hvisit
  obtain ⟨rfl, rfl⟩ := Prod.mk.inj (treeSize_unique h htree)
  have houtcome := outcome_of_visitSize hS hfit hvisit
  exact houtcome

/-- What the map determines is what sizing ends with, unless the store fails. -/
theorem exists_treeSize_of_outcome (hS : S.Serves m I J) (hfit : Fit m I c)
    (hpending : c.pending.ids = []) {answer : Except Fault TreeSize} (h : m.Outcome id answer) :
    ∃ rounds answer' c', c.treeSize S rounds id = some (answer', c') ∧
      (J c'.store ∨ answer' = answer) := by
  obtain ⟨levels, found, hprobe⟩ : ∃ levels found, m.probe levels id = some found := by
    rcases answer with fault | size
    · obtain ⟨levels, hlevels⟩ := h
      exact ⟨levels, _, hlevels⟩
    · obtain ⟨levels, hlevels⟩ := h
      exact ⟨levels, _, ObjectMap.probe_eq_ok_iff.mpr ⟨size, hlevels⟩⟩
  obtain ⟨answer', c', hvisit⟩ :=
    exists_visitSize_of_visit (visit_ne_none_of_probe hS hfit hprobe)
  obtain ⟨rounds, notes, htree⟩ := treeSize_of_visitSize hS hfit hpending hvisit
  refine ⟨rounds, answer', _, htree, ?_⟩
  exact (outcome_of_visitSize hS hfit hvisit).imp_right fun h' => h'.unique h

/-- What the map determines is what a census without records answers. -/
theorem exists_treeSize_fresh {answer : Except Fault TreeSize}
    (h : m.Outcome id answer) :
    ∃ rounds c', treeSize ObjectMap.store rounds id { store := m } = some (answer, c') := by
  obtain ⟨rounds, answer', c', htree, hanswer⟩ :=
    exists_treeSize_of_outcome m.store_serves ⟨rfl, .empty m⟩ rfl h
  rw [hanswer.resolve_left fun hfalse => hfalse] at htree
  exact ⟨rounds, c', htree⟩

end Census

end GitCensus
