import GitCensus.Proofs.Census.Run
/-!
# Sound records

A census of a store that serves an object map records nothing but what the map
says, and records a tree only after everything below it.  Both hold at every
moment, whatever fails.
-/

namespace GitCensus

variable {σ : Type}

namespace Census

variable {S : Store σ} {m : ObjectMap} {I J : σ → Prop} {c c' : Census σ} {id : ObjectId}

/-- Every record is the size that the map gives, and a recorded tree is complete: all
its subtrees and blobs have records, of which its own is the fold. -/
structure Sound (m : ObjectMap) (c : Census σ) : Prop where
  blobs : ∀ {id size}, c.blobs.find? id = some size → m.blobSize id = .ok size
  trees : ∀ {id size}, c.trees.find? id = some size →
    ∃ levels, m.sizeWithin levels id = some size
  folds : ∀ {id size}, c.trees.find? id = some size →
    ∃ entries, m.entries? id = some entries ∧ c.fold? entries = some size

theorem Sound.empty (s : σ) : Sound m ({ store := s } : Census σ) :=
  ⟨by simp [Table.find?], by simp [Table.find?], by simp [Table.find?]⟩

theorem Sound.of_tables (h : Sound m c) (hblobs : c'.blobs = c.blobs)
    (htrees : c'.trees = c.trees) : Sound m c' := by
  refine ⟨fun hfind => h.blobs (hblobs ▸ hfind), fun hfind => h.trees (htrees ▸ hfind),
    fun hfind => ?_⟩
  obtain ⟨entries, hentries, hfold⟩ := h.folds (htrees ▸ hfind)
  exact ⟨entries, hentries, by rw [fold?, hblobs, htrees]; exact hfold⟩

theorem Sound.recordBlob (h : Sound m c) {header : Header} (hnew : c.blobs.find? id = none)
    (hread : m.readHeader id = .ok header) (hkind : header.kind = .blob) :
    Sound m (c.recordBlob id header.size) := by
  have hkept : c.KeptIn (c.recordBlob id header.size) :=
    ⟨Table.keptIn_record hnew, .refl _⟩
  refine ⟨fun hfind => ?_, h.trees, fun hfind => ?_⟩
  · rcases Table.find?_record_eq_some hfind with ⟨rfl, rfl⟩ | hold
    · exact ObjectMap.blobSize_of_header hread hkind
    · exact h.blobs hold
  · obtain ⟨entries, hentries, hfold⟩ := h.folds hfind
    exact ⟨entries, hentries, fold?_mono hkept hfold⟩

/-- The fold of sound records is the size that the recursion finds. -/
theorem Sound.sizeWithin_of_fold? (h : Sound m c) {entries : List Entry} {size : TreeSize}
    (hentries : m.entries? id = some entries) (hfold : c.fold? entries = some size) :
    ∃ levels, m.sizeWithin levels id = some size := by
  have hknown := TreeSize.ofEntries?_isSome_iff.mp (by rw [← fold?, hfold]; rfl)
  obtain ⟨levels, hlevels⟩ := ObjectMap.exists_levels_forall (Entry.subtrees entries)
    (P := fun k u => ∀ size, c.trees.find? u = some size → m.sizeWithin k u = some size)
    (fun hle hk size hsize => ObjectMap.sizeWithin_mono hle (hk size hsize))
    (fun u hu => by
      obtain ⟨e, he, hkind, rfl⟩ := Entry.mem_subtrees.mp hu
      obtain ⟨size, hsize⟩ := Option.isSome_iff_exists.mp ((hknown e he).1 hkind)
      obtain ⟨k, hk⟩ := h.trees hsize
      exact ⟨k, fun size' hsize' => by rw [hk, ← hsize, hsize']⟩)
  refine ⟨levels + 1, ObjectMap.sizeWithin_succ_eq_some_iff.mpr ⟨entries, hentries, ?_⟩⟩
  refine TreeSize.ofEntries?_mono (fun e he hkind b hb => ?_) (fun e he hkind => ?_) hfold
  · rw [h.blobs hb]
    rfl
  · exact hlevels e.id (Entry.mem_subtrees.mpr ⟨e, he, hkind, rfl⟩)

theorem Sound.recordTree (h : Sound m c) {entries : List Entry} {size : TreeSize}
    (hnew : c.trees.find? id = none) (hentries : m.entries? id = some entries)
    (hfold : c.fold? entries = some size) : Sound m (c.recordTree id size) := by
  have hkept : c.KeptIn (c.recordTree id size) := ⟨.refl _, Table.keptIn_record hnew⟩
  refine ⟨h.blobs, fun hfind => ?_, fun hfind => ?_⟩
  · rcases Table.find?_record_eq_some hfind with ⟨rfl, rfl⟩ | hold
    · exact h.sizeWithin_of_fold? hentries hfold
    · exact h.trees hold
  · rcases Table.find?_record_eq_some hfind with ⟨rfl, rfl⟩ | hold
    · exact ⟨entries, hentries, fold?_mono hkept hfold⟩
    · obtain ⟨entries', hentries', hfold'⟩ := h.folds hold
      exact ⟨entries', hentries', fold?_mono hkept hfold'⟩

theorem Move.sound (hS : S.Serves m I J) (hI : I c.store) (h : Move S I c c')
    (hsound : Sound m c) : Sound m c' := by
  cases h with
  | stack => exact hsound.of_tables rfl rfl
  | @blob id _ hnew hanswer hkind =>
      have hread := (hS.header _ hI).eq_of_ok hanswer
      have hasked : Sound m (c.askHeader S id).2 := hsound.of_tables rfl rfl
      exact hasked.recordBlob hnew hread hkind
  | tree => exact hsound.of_tables rfl rfl
  | record hs hnew hread hdecode hfold =>
      have hentries := ObjectMap.entries?_eq_some_iff.mpr
        ⟨_, (hS.tree _ hs).eq_of_ok hread, hdecode⟩
      exact hsound.recordTree hnew hentries hfold

/-- A census of a store that serves a map stays sound, also where it fails. -/
theorem Run.sound {end' : Option Fault} (hS : S.Serves m I J) (hI : I c.store)
    (h : Run S I end' c c') (hsound : Sound m c) : Sound m c' := by
  induction h with
  | refl => exact hsound
  | move hrun hmove ih => exact hmove.sound hS (hrun.keeps hS.keeps hI) (ih hI hsound)
  | stop _ hstop _ _ ih =>
      exact (ih hI hsound).of_tables hstop.tables.1 hstop.tables.2

/-- The store is in a state in which it serves the map, and the records are sound. -/
structure Fit (m : ObjectMap) (I : σ → Prop) (c : Census σ) : Prop where
  store : I c.store
  sound : Sound m c

theorem Run.fit {end' : Option Fault} (hS : S.Serves m I J) (h : Run S I end' c c')
    (hfit : Fit m I c) : Fit m I c' :=
  ⟨h.keeps hS.keeps hfit.store, h.sound hS hfit.store hfit.sound⟩

end Census

end GitCensus
