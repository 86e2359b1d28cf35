import GitCensus.Proofs.Census.Refinement
import GitCensus.Proofs.Census.Requests
import GitCensus.Proofs.Census.Verdict
/-!
# Clearing trees off the stack

How trees on top of the work stack come to have records, as one derivation over the
trees, whatever stands below them: a tree with a record is taken off, a tree whose
subtrees have records is sized, and a tree that has to wait is sized after its missing
subtrees have been cleared.  Nothing in a derivation goes round a cycle, so that a tree
that waits has no record yet when its turn comes again.
-/

namespace GitCensus.Census

variable {σ : Type} {S : Store σ} {I : σ → Prop} {s : σ} {c c' c'' : Census σ}
variable {id : ObjectId} {ids ids' : List ObjectId} {k n : Nat}

theorem mem_subtrees_of_mem_unrecorded {entries : List Entry} (h : id ∈ c.unrecorded entries) :
    id ∈ Entry.subtrees entries :=
  List.mem_of_mem_filter h

theorem eq_or_isSome_of_recordTree {size : TreeSize} {v : ObjectId}
    (h : ((c.recordTree id size).trees.find? v).isSome) :
    v = id ∨ (c.trees.find? v).isSome := by
  obtain ⟨found, hfound⟩ := Option.isSome_iff_exists.mp h
  rcases Table.find?_record_eq_some hfound with ⟨rfl, -⟩ | hold
  · exact .inl rfl
  · exact .inr (by rw [hold]; rfl)

/-- So many rounds of work that succeed. -/
inductive RoundsIn (S : Store σ) : Nat → Census σ → Census σ → Prop
  | refl (c : Census σ) : RoundsIn S 0 c c
  | head {n : Nat} {c c₁ c' : Census σ} (hround : Round S c c₁) (h : RoundsIn S n c₁ c') :
      RoundsIn S (n + 1) c c'

namespace RoundsIn

theorem trans (h : RoundsIn S k c c') (h' : RoundsIn S n c' c'') :
    RoundsIn S (k + n) c c'' := by
  induction h with
  | refl => rwa [Nat.zero_add]
  | head hround _ ih =>
      rw [Nat.succ_add]
      exact .head hround (ih h')

theorem rounds (h : RoundsIn S n c c') : Rounds S c c' := by
  induction h with
  | refl => exact .refl
  | head hround _ ih => exact .head hround ih

theorem work (h : RoundsIn S k c c') (n : Nat) : c.work S (k + n) = c'.work S n := by
  induction h with
  | refl => rw [Nat.zero_add]
  | @head k c c₁ c' hround _ ih =>
      obtain ⟨id, rest, hpending, hround⟩ := hround
      rw [Nat.succ_add, ← ih, Census.work]
      simp only [hpending, hround]

end RoundsIn

/-- Clearing some trees off the stack, in so many rounds. -/
inductive Clears (S : Store σ) : List ObjectId → Nat → Census σ → Census σ → Prop
  | nil (c : Census σ) : Clears S [] 0 c c
  | recorded {id : ObjectId} {ids : List ObjectId} {k : Nat} {c c' : Census σ}
      (hrecorded : (c.trees.find? id).isSome) (hrest : Clears S ids k c c') :
      Clears S (id :: ids) (k + 1) c c'
  | sized {id : ObjectId} {ids : List ObjectId} {k : Nat} {c c₁ c' : Census σ}
      {entries : List Entry} {size : TreeSize} (hnew : c.trees.find? id = none)
      (hsurvey : c.survey S id = (.ok entries, c₁)) (hfold : c₁.fold? entries = some size)
      (hrest : Clears S ids k (c₁.recordTree id size) c') : Clears S (id :: ids) (k + 1) c c'
  | waits {id : ObjectId} {ids : List ObjectId} {k n : Nat} {c c₁ c₂ c₃ c' : Census σ}
      {entries : List Entry} {size : TreeSize} (hnew : c.trees.find? id = none)
      (hsurvey : c.survey S id = (.ok entries, c₁)) (hmissing : c₁.unrecorded entries ≠ [])
      (hbelow : Clears S (c₁.unrecorded entries).reverse k c₁ c₂)
      (hnew' : c₂.trees.find? id = none) (hsurvey' : c₂.survey S id = (.ok entries, c₃))
      (hfold : c₃.fold? entries = some size)
      (hrest : Clears S ids n (c₃.recordTree id size) c') :
      Clears S (id :: ids) (k + (n + 1) + 1) c c'

namespace Clears

theorem append (h : Clears S ids k c c') (h' : Clears S ids' n c' c'') :
    ∃ m, Clears S (ids ++ ids') m c c'' := by
  induction h with
  | nil => exact ⟨n, h'⟩
  | recorded hrecorded _ ih =>
      obtain ⟨m, hm⟩ := ih h'
      exact ⟨m + 1, .recorded hrecorded hm⟩
  | sized hnew hsurvey hfold _ ih =>
      obtain ⟨m, hm⟩ := ih h'
      exact ⟨m + 1, .sized hnew hsurvey hfold hm⟩
  | waits hnew hsurvey hmissing hbelow hnew' hsurvey' hfold _ _ ih =>
      obtain ⟨m, hm⟩ := ih h'
      exact ⟨_, .waits hnew hsurvey hmissing hbelow hnew' hsurvey' hfold hm⟩

/-- Clearing is work on the top of a stack that leaves the rest of it as it is. -/
theorem roundsIn (h : Clears S ids k c c') (rest : List ObjectId) (notes : List Note) :
    ∃ notes', RoundsIn S k (c.withStack (ids ++ rest) notes) (c'.withStack rest notes') := by
  induction h generalizing rest notes with
  | nil c => exact ⟨notes, .refl _⟩
  | @recorded id ids _ _ _ hrecorded _ ih =>
      obtain ⟨notes', hrest⟩ := ih rest notes
      exact ⟨notes', .head ⟨id, _, rfl, round_of_recorded (ids ++ rest) notes hrecorded⟩ hrest⟩
  | @sized id ids _ _ _ _ _ _ hnew hsurvey hfold _ ih =>
      obtain ⟨notes', hrest⟩ := ih rest notes
      have hround := round_of_survey_fold (ids ++ rest) notes hnew hsurvey hfold
      exact ⟨notes', .head ⟨id, _, rfl, hround⟩ hrest⟩
  | @waits id ids _ _ _ _ _ _ _ _ _ hnew hsurvey hmissing _ hnew' hsurvey' hfold _ ihbelow ih =>
      obtain ⟨notes₁, hround⟩ :=
        round_of_survey_waits (id :: (ids ++ rest)) notes hnew hsurvey hmissing
      obtain ⟨notes₂, hbelow⟩ := ihbelow (id :: (ids ++ rest)) notes₁
      have hround' := round_of_survey_fold (ids ++ rest) notes₂ hnew' hsurvey' hfold
      obtain ⟨notes', hrest⟩ := ih rest notes₂
      have hagain := hbelow.trans (.head ⟨id, _, rfl, hround'⟩ hrest)
      exact ⟨notes', .head ⟨id, _, rfl, hround⟩ hagain⟩

theorem work (h : Clears S ids k c c') (notes : List Note) :
    ∃ notes', (c.withStack ids notes).work S k = some (.ok (), c'.withStack [] notes') := by
  obtain ⟨notes', hrounds⟩ := h.roundsIn [] notes
  refine ⟨notes', ?_⟩
  rw [List.append_nil] at hrounds
  rw [← Nat.add_zero k, hrounds.work, work_empty]

theorem done (h : Clears S ids k c c') : ∀ u ∈ ids, (c'.trees.find? u).isSome := by
  obtain ⟨notes', hwork⟩ := h.work []
  exact (work_pending hwork).2

/-! ## Clearing over a store that does not change -/

section Steady

variable (hS : S.Steady I) (hs : I s)
include hS hs

theorem run (h : Clears S ids k c c') (hc : Consistent S s I c) : Run S I none c c' := by
  induction h with
  | nil => exact .refl _
  | recorded _ _ ih => exact ih hc
  | sized hnew hsurvey hfold _ ih =>
      have hrecord := survey_record_run hc.store hnew hsurvey hfold
      exact hrecord.trans (ih (hrecord.consistent hS hs hc))
  | waits hnew hsurvey _ _ hnew' hsurvey' hfold _ ihbelow ih =>
      have hfirst : Run S I none _ _ := survey_run hnew hsurvey
      have hbelow := hfirst.trans (ihbelow (hfirst.consistent hS hs hc))
      have hrecord := hbelow.trans
        (survey_record_run (hbelow.consistent hS hs hc).store hnew' hsurvey' hfold)
      exact hrecord.trans (ih (hrecord.consistent hS hs hc))

theorem consistent (h : Clears S ids k c c') (hc : Consistent S s I c) : Consistent S s I c' :=
  (h.run hS hs hc).consistent hS hs hc

/-- What gets a record stands at or below one of the trees that are cleared. -/
theorem reaches (h : Clears S ids k c c') (hc : Consistent S s I c) {v : ObjectId}
    (hv : (c'.trees.find? v).isSome) :
    (c.trees.find? v).isSome ∨ ∃ u ∈ ids, Relation.ReflTransGen (Lists S s) u v := by
  induction h with
  | nil => exact .inl hv
  | recorded _ _ ih =>
      refine (ih hc hv).imp_right ?_
      rintro ⟨u, hu, hreach⟩
      exact ⟨u, by simp [hu], hreach⟩
  | sized hnew hsurvey hfold _ ih =>
      have hrecord := survey_record_run hc.store hnew hsurvey hfold
      rcases ih (hrecord.consistent hS hs hc) hv with hold | ⟨u, hu, hreach⟩
      · rcases eq_or_isSome_of_recordTree hold with rfl | hold
        · exact .inr ⟨_, by simp, .refl⟩
        · exact .inl (by rwa [(survey_spec hsurvey).2.1] at hold)
      · exact .inr ⟨u, by simp [hu], hreach⟩
  | @waits id _ _ _ _ c₁ _ _ _ entries _ hnew hsurvey _ hbelow hnew' hsurvey' hfold _ ihbelow
      ih =>
      have hfirst : Run S I none _ _ := survey_run hnew hsurvey
      have hc₁ := hfirst.consistent hS hs hc
      have hc₂ := hbelow.consistent hS hs hc₁
      have hrecord := survey_record_run hc₂.store hnew' hsurvey' hfold
      rcases ih (hrecord.consistent hS hs hc₂) hv with hold | ⟨u, hu, hreach⟩
      · rcases eq_or_isSome_of_recordTree hold with rfl | hold
        · exact .inr ⟨_, by simp, .refl⟩
        · rw [(survey_spec hsurvey').2.1] at hold
          rcases ihbelow hc₁ hold with hold | ⟨u, hu, hreach⟩
          · exact .inl (by rwa [(survey_spec hsurvey).2.1] at hold)
          · have hentries : entriesAt S s id = .ok entries := by
              rw [← hc.survey_eq hS hs id, hsurvey]
            have hlists : Lists S s id u :=
              ⟨entries, hentries, mem_subtrees_of_mem_unrecorded (List.mem_reverse.mp hu)⟩
            exact .inr ⟨id, by simp, .head hlists hreach⟩
      · exact .inr ⟨u, by simp [hu], hreach⟩

/-- A tree below which the missing subtrees have been cleared is sized when it is read
again. -/
theorem exists_fold {entries : List Entry} {c₁ c₂ : Census σ} (hc : Consistent S s I c)
    (hnew : c.trees.find? id = none) (hsurvey : c.survey S id = (.ok entries, c₁))
    (hbelow : Clears S (c₁.unrecorded entries).reverse k c₁ c₂) :
    ∃ c₃ size, c₂.survey S id = (.ok entries, c₃) ∧ c₃.fold? entries = some size := by
  have hfirst : Run S I none c c₁ := survey_run hnew hsurvey
  have hc₁ := hfirst.consistent hS hs hc
  have hkept := (hbelow.run hS hs hc₁).keptIn
  have hsame := (hbelow.consistent hS hs hc₁).survey_eq hS hs id
  rw [← hc.survey_eq hS hs id, hsurvey] at hsame
  rcases hsurvey' : c₂.survey S id with ⟨answer, c₃⟩
  rw [hsurvey'] at hsame
  obtain rfl : answer = .ok entries := hsame
  have hnone : c₃.unrecorded entries = [] := by
    refine unrecorded_eq_nil_iff.mpr fun e he hkind => ?_
    rw [(survey_spec hsurvey').2.1]
    cases hfind : c₁.trees.find? e.id with
    | some size => exact hkept.trees.isSome (by simp [hfind])
    | none =>
        refine hbelow.done e.id (List.mem_reverse.mpr (List.mem_filter.mpr ⟨?_, by simp [hfind]⟩))
        exact Entry.mem_subtrees.mpr ⟨e, he, hkind, rfl⟩
  obtain ⟨size, hsize⟩ := Option.isSome_iff_exists.mp (fold?_isSome_of_survey hsurvey' hnone)
  exact ⟨c₃, size, rfl, hsize⟩

theorem exists_of_forall {c : Census σ}
    (h : ∀ u ∈ ids, ∀ c, Consistent S s I c → ∃ k c', Clears S [u] k c c')
    (hc : Consistent S s I c) : ∃ k c', Clears S ids k c c' := by
  induction ids generalizing c with
  | nil => exact ⟨0, c, .nil c⟩
  | cons u ids ih =>
      obtain ⟨k, c₁, hfirst⟩ := h u (by simp) c hc
      obtain ⟨n, c', hrest⟩ := ih (fun v hv => h v (by simp [hv])) (hfirst.consistent hS hs hc)
      obtain ⟨m, hall⟩ := hfirst.append hrest
      exact ⟨m, c', hall⟩

/-- A tree that has a size can be cleared off the stack. -/
theorem exists_of_verdict {size : TreeSize} (h : Verdict S s id (.ok size))
    (hc : Consistent S s I c) : ∃ k c', Clears S [id] k c c' := by
  have hacyclic := h.not_transGen
  generalize hanswer : Except.ok size = answer at h
  induction h generalizing size c with
  | unread => cases hanswer
  | failedBelow => cases hanswer
  | @sized id entries sizes _ hentries hsubtrees _ ih =>
      cases hnew : c.trees.find? id with
      | some recorded => exact ⟨1, c, .recorded (by simp [hnew]) (.nil c)⟩
      | none =>
          have hanswer' := hc.survey_eq hS hs id
          rcases hsurvey : c.survey S id with ⟨answer, c₁⟩
          rw [hsurvey, hentries] at hanswer'
          obtain rfl : answer = .ok entries := hanswer'
          by_cases hmissing : c₁.unrecorded entries = []
          · obtain ⟨size, hfold⟩ :=
              Option.isSome_iff_exists.mp (fold?_isSome_of_survey hsurvey hmissing)
            exact ⟨1, _, .sized hnew hsurvey hfold (.nil _)⟩
          · have hfirst : Run S I none c c₁ := survey_run hnew hsurvey
            have hc₁ := hfirst.consistent hS hs hc
            have hmem {u : ObjectId} (hu : u ∈ (c₁.unrecorded entries).reverse) :
                u ∈ Entry.subtrees entries :=
              mem_subtrees_of_mem_unrecorded (List.mem_reverse.mp hu)
            obtain ⟨k, c₂, hbelow⟩ := exists_of_forall hS hs
              (fun u (hu : u ∈ (c₁.unrecorded entries).reverse) c hc =>
                ih u (hmem hu) hc (hsubtrees u (hmem hu)).not_transGen rfl) hc₁
            obtain ⟨c₃, size, hsurvey', hfold⟩ := exists_fold hS hs hc hnew hsurvey hbelow
            have hnew' : c₂.trees.find? id = none := by
              by_contra hne
              rcases hbelow.reaches hS hs hc₁ (Option.isSome_iff_ne_none.mpr hne) with
                hold | ⟨u, hu, hreach⟩
              · rw [(survey_spec hsurvey).2.1, hnew] at hold
                cases hold
              · exact hacyclic (.head' ⟨entries, hentries, hmem hu⟩ hreach)
            exact ⟨_, _, .waits hnew hsurvey hmissing hbelow hnew' hsurvey' hfold (.nil _)⟩

end Steady

end Clears

end GitCensus.Census
