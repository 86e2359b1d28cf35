import Mathlib.Logic.Relation
import GitCensus.Proofs.Census.Run
import GitCensus.Proofs.Store.Fixed
/-!
# Verdicts

What sizing a tree comes to if the store does not change: the size of the tree, or the
first fault that is met below it.  The subtrees are gone through from the last entry to
the first, so that a fault below one of them counts only if all later ones have sizes.

A verdict speaks of the store alone.  Records that agree with the verdicts leave every
answer of a census as it is without them.
-/

namespace GitCensus.Census

variable {σ : Type} {S : Store σ} {I : σ → Prop} {s : σ} {c c' : Census σ} {id : ObjectId}

/-- The size of a blob, as a census without records finds it. -/
def blobAt (S : Store σ) (s : σ) (id : ObjectId) : Except Fault BlobSize :=
  (blobSize S id { store := s }).1

/-- The entries of a tree, as a census without records finds them. -/
def entriesAt (S : Store σ) (s : σ) (id : ObjectId) : Except Fault (List Entry) :=
  (survey S id { store := s }).1

inductive Verdict (S : Store σ) (s : σ) : ObjectId → Except Fault TreeSize → Prop
  | unread {id : ObjectId} {fault : Fault} (h : entriesAt S s id = .error fault) :
      Verdict S s id (.error fault)
  | failedBelow {id u : ObjectId} {entries : List Entry} {before after : List ObjectId}
      {sizes : ObjectId → TreeSize} {fault : Fault} (h : entriesAt S s id = .ok entries)
      (hsplit : (Entry.subtrees entries).reverse = before ++ u :: after)
      (hbefore : ∀ v ∈ before, Verdict S s v (.ok (sizes v)))
      (hfault : Verdict S s u (.error fault)) : Verdict S s id (.error fault)
  | sized {id : ObjectId} {entries : List Entry} {sizes : ObjectId → TreeSize}
      {size : TreeSize} (h : entriesAt S s id = .ok entries)
      (hsubtrees : ∀ u ∈ Entry.subtrees entries, Verdict S s u (.ok (sizes u)))
      (hsize : TreeSize.ofEntries? (fun b => (blobAt S s b).toOption)
        (fun u => some (sizes u)) entries = some size) : Verdict S s id (.ok size)

namespace Verdict

theorem mem_or_eq_of_split {u u' : ObjectId} {before before' after after' : List ObjectId}
    (h : before ++ u :: after = before' ++ u' :: after') :
    u ∈ before' ∨ u' ∈ before ∨ u = u' := by
  rcases List.append_eq_append_iff.mp h with ⟨between, rfl, hrest⟩ | ⟨between, rfl, hrest⟩
  · cases between with
    | nil => exact .inr (.inr (List.cons.inj hrest).1)
    | cons v between =>
        obtain ⟨rfl, -⟩ := List.cons.inj hrest
        exact .inl (by simp)
  · cases between with
    | nil => exact .inr (.inr (List.cons.inj hrest).1.symm)
    | cons v between =>
        obtain ⟨rfl, -⟩ := List.cons.inj hrest
        exact .inr (.inl (by simp))

theorem unique {answer answer' : Except Fault TreeSize} (h : Verdict S s id answer)
    (h' : Verdict S s id answer') : answer = answer' := by
  induction h generalizing answer' with
  | unread hentries =>
      cases h' with
      | unread hentries' =>
          exact congrArg Except.error (Except.error.inj (hentries.symm.trans hentries'))
      | failedBelow hentries' => cases hentries.symm.trans hentries'
      | sized hentries' => cases hentries.symm.trans hentries'
  | @failedBelow _ u entries before _ _ _ hentries hsplit hbefore hfault ihbefore ihfault =>
      cases h' with
      | unread hentries' => cases hentries.symm.trans hentries'
      | @failedBelow _ u' _ _ _ _ fault' hentries' hsplit' hbefore' hfault' =>
          obtain rfl := Except.ok.inj (hentries.symm.trans hentries')
          rcases mem_or_eq_of_split (hsplit.symm.trans hsplit') with hmem | hmem | rfl
          · cases ihfault (hbefore' u hmem)
          · cases ihbefore u' hmem hfault'
          · exact congrArg Except.error (Except.error.inj (ihfault hfault'))
      | sized hentries' hsubtrees' =>
          obtain rfl := Except.ok.inj (hentries.symm.trans hentries')
          have hmem : u ∈ Entry.subtrees entries :=
            List.mem_reverse.mp (by rw [hsplit]; simp)
          cases ihfault (hsubtrees' u hmem)
  | @sized id entries sizes size hentries hsubtrees hsize ih =>
      cases h' with
      | unread hentries' => cases hentries.symm.trans hentries'
      | @failedBelow _ u _ _ _ _ _ hentries' hsplit' _ hfault' =>
          obtain rfl := Except.ok.inj (hentries.symm.trans hentries')
          have hmem : u ∈ Entry.subtrees entries :=
            List.mem_reverse.mp (by rw [hsplit']; simp)
          cases ih u hmem hfault'
      | @sized _ _ sizes' size' hentries' hsubtrees' hsize' =>
          obtain rfl := Except.ok.inj (hentries.symm.trans hentries')
          have hsame : TreeSize.ofEntries? (fun b => (blobAt S s b).toOption)
              (fun u => some (sizes' u)) entries = some size := by
            refine TreeSize.ofEntries?_mono (fun _ _ _ _ hb => hb) (fun e he hkind t ht => ?_) hsize
            have hmem : e.id ∈ Entry.subtrees entries :=
              Entry.mem_subtrees.mpr ⟨e, he, hkind, rfl⟩
            rw [← ht, Except.ok.inj (ih e.id hmem (hsubtrees' e.id hmem))]
          exact congrArg Except.ok (Option.some.inj (hsame.symm.trans hsize'))

end Verdict

/-- A tree is among the subtrees of another one. -/
def Lists (S : Store σ) (s : σ) (t u : ObjectId) : Prop :=
  ∃ entries, entriesAt S s t = .ok entries ∧ u ∈ Entry.subtrees entries

/-- A tree that has a size does not stand below itself. -/
theorem Verdict.not_transGen {size : TreeSize} (h : Verdict S s id (.ok size)) :
    ¬ Relation.TransGen (Lists S s) id id := by
  generalize hanswer : Except.ok size = answer at h
  induction h generalizing size with
  | unread => cases hanswer
  | failedBelow => cases hanswer
  | sized hentries _ _ ih =>
      intro hcycle
      obtain ⟨u, hlists, hreach⟩ := Relation.TransGen.head'_iff.mp hcycle
      have ⟨entries, hentries', hmem⟩ := hlists
      obtain rfl := Except.ok.inj (hentries.symm.trans hentries')
      exact ih u hmem rfl (Relation.TransGen.tail' hreach hlists)

/-- The store is in a state in which it gives its answers, and the records agree with
them. -/
structure Consistent (S : Store σ) (s : σ) (I : σ → Prop) (c : Census σ) : Prop where
  store : I c.store
  blobs : ∀ {id size}, c.blobs.find? id = some size → blobAt S s id = .ok size
  trees : ∀ {id size}, c.trees.find? id = some size → Verdict S s id (.ok size)

theorem Consistent.fresh (hs : I s) : Consistent S s I { store := s } :=
  ⟨hs, by simp [Table.find?], by simp [Table.find?]⟩

theorem Consistent.of_tables (h : Consistent S s I c) (hstore : I c'.store)
    (hblobs : c'.blobs = c.blobs) (htrees : c'.trees = c.trees) : Consistent S s I c' :=
  ⟨hstore, fun hfind => h.blobs (hblobs ▸ hfind), fun hfind => h.trees (htrees ▸ hfind)⟩

theorem Consistent.exists_verdict (h : Consistent S s I c) (hsome : (c.trees.find? id).isSome) :
    ∃ size, Verdict S s id (.ok size) := by
  obtain ⟨size, hsize⟩ := Option.isSome_iff_exists.mp hsome
  exact ⟨size, h.trees hsize⟩

theorem Consistent.find?_eq_none {fault : Fault} (h : Consistent S s I c)
    (hverdict : Verdict S s id (.error fault)) : c.trees.find? id = none := by
  cases hfind : c.trees.find? id with
  | none => rfl
  | some size => cases hverdict.unique (h.trees hfind)

theorem Consistent.recordTree (h : Consistent S s I c) {entries : List Entry}
    {size : TreeSize} (hentries : entriesAt S s id = .ok entries)
    (hfold : c.fold? entries = some size) : Consistent S s I (c.recordTree id size) := by
  have hverdict : Verdict S s id (.ok size) := by
    have hknown := TreeSize.ofEntries?_isSome_iff.mp (by rw [← fold?, hfold]; rfl)
    have hsubtrees : ∀ u ∈ Entry.subtrees entries,
        Verdict S s u (.ok ((c.trees.find? u).getD {})) := by
      intro u hu
      obtain ⟨e, he, hkind, rfl⟩ := Entry.mem_subtrees.mp hu
      obtain ⟨size, hsize⟩ := Option.isSome_iff_exists.mp ((hknown e he).1 hkind)
      simpa [hsize] using h.trees hsize
    refine .sized hentries hsubtrees ?_
    refine TreeSize.ofEntries?_mono (fun e _ _ b hb => ?_) (fun e _ _ t ht => ?_) hfold
    · simp only [h.blobs hb, Except.toOption]
    · simp only [ht, Option.getD_some]
  refine ⟨h.store, h.blobs, fun hfind => ?_⟩
  rcases Table.find?_record_eq_some hfind with ⟨rfl, rfl⟩ | hold
  · exact hverdict
  · exact h.trees hold

/-! ## The same answers -/

theorem survey_fst (id : ObjectId) (c : Census σ) : (c.survey S id).1 =
    match (S.readTree id c.store).1 with
    | .error fault => .error fault
    | .ok data =>
      match ((c.askTree S id).2.resolveBlobs S (Tree.decode data).entries).1 with
      | .error fault => .error fault
      | .ok () =>
        match (Tree.decode data).fault with
        | some cause => .error (.malformedTree cause)
        | none => .ok (Tree.decode data).entries := by
  unfold survey
  rcases hask : c.askTree S id with ⟨fault | data, c₁⟩
  · simp only [(askTree_spec hask).1]
  · simp only [(askTree_spec hask).1]
    rcases c₁.resolveBlobs S (Tree.decode data).entries with ⟨fault | ⟨⟩, c₂⟩
    · rfl
    · cases (Tree.decode data).fault <;> rfl

section Steady

variable (hS : S.Steady I) (hs : I s)
include hS hs

theorem blobAt_of_header {header : Header} (h : I c.store)
    (hanswer : (S.readHeader id c.store).1 = .ok header) (hkind : header.kind = .blob) :
    blobAt S s id = .ok (BlobSize.ofHeader header.size) := by
  have hfresh : ({ store := s } : Census σ).blobs.find? id = none := rfl
  rw [blobAt, blobSize_of_unrecorded hfresh, askHeader_eq, ← hS.header id hs h, hanswer]
  simp [hkind]

theorem Consistent.recordBlob (h : Consistent S s I c) {header : Header}
    (hanswer : (S.readHeader id c.store).1 = .ok header) (hkind : header.kind = .blob) :
    Consistent S s I ((c.askHeader S id).2.recordBlob id header.size) := by
  refine ⟨hS.keepsHeader h.store hanswer, fun hfind => ?_, h.trees⟩
  rcases Table.find?_record_eq_some hfind with ⟨rfl, rfl⟩ | hold
  · exact blobAt_of_header hS hs h.store hanswer hkind
  · exact h.blobs hold

theorem Consistent.blobSize_eq (h : Consistent S s I c) (id : ObjectId) :
    (c.blobSize S id).1 = blobAt S s id := by
  cases hfind : c.blobs.find? id with
  | some size => rw [blobSize_of_recorded hfind, h.blobs hfind]
  | none =>
      have hfresh : ({ store := s } : Census σ).blobs.find? id = none := rfl
      rw [blobAt, blobSize_of_unrecorded hfresh, blobSize_of_unrecorded hfind, askHeader_eq,
        askHeader_eq, hS.header id hs h.store]
      cases (S.readHeader id s).1 with
      | error fault => rfl
      | ok header => by_cases hkind : header.kind = .blob <;> simp [hkind]

theorem Consistent.of_blobSize (h : Consistent S s I c) {size : BlobSize}
    (hblob : c.blobSize S id = (.ok size, c')) : Consistent S s I c' := by
  cases hfind : c.blobs.find? id with
  | some recorded =>
      rw [blobSize_of_recorded hfind] at hblob
      obtain ⟨-, rfl⟩ := Prod.mk.inj hblob
      exact h
  | none =>
      rw [blobSize_of_unrecorded hfind, askHeader_eq] at hblob
      cases hanswer : (S.readHeader id c.store).1 with
      | error fault => simp [hanswer] at hblob
      | ok header =>
          simp only [hanswer] at hblob
          by_cases hkind : header.kind = .blob
          · rw [if_pos hkind] at hblob
            obtain ⟨-, rfl⟩ := Prod.mk.inj hblob
            exact h.recordBlob hS hs hanswer hkind
          · rw [if_neg hkind] at hblob
            cases (Prod.mk.inj hblob).1

theorem Consistent.resolveBlobs_eq (h : Consistent S s I c) (h' : Consistent S s I c')
    (entries : List Entry) : (c.resolveBlobs S entries).1 = (c'.resolveBlobs S entries).1 := by
  induction entries generalizing c c' with
  | nil => rfl
  | cons e rest ih =>
      simp only [resolveBlobs]
      by_cases hkind : e.kind = .blob
      · have hsame := (h.blobSize_eq hS hs e.id).trans (h'.blobSize_eq hS hs e.id).symm
        rw [if_pos hkind, if_pos hkind]
        rcases hblob : c.blobSize S e.id with ⟨fault | size, c₁⟩
        · rcases hblob' : c'.blobSize S e.id with ⟨fault' | size', c₁'⟩
          · rw [hblob, hblob'] at hsame
            exact congrArg Except.error (Except.error.inj hsame)
          · rw [hblob, hblob'] at hsame
            cases hsame
        · rcases hblob' : c'.blobSize S e.id with ⟨fault' | size', c₁'⟩
          · rw [hblob, hblob'] at hsame
            cases hsame
          · exact ih (h.of_blobSize hS hs hblob) (h'.of_blobSize hS hs hblob')
      · rw [if_neg hkind, if_neg hkind]
        exact ih h h'

/-- A survey finds what it finds without records. -/
theorem Consistent.survey_eq (h : Consistent S s I c) (id : ObjectId) :
    (c.survey S id).1 = entriesAt S s id := by
  have hfresh : Consistent S s I { store := s } := .fresh hs
  rw [entriesAt, survey_fst, survey_fst, hS.tree id hs h.store]
  cases hread : (S.readTree id s).1 with
  | error fault => rfl
  | ok data =>
      have hread' : (S.readTree id c.store).1 = .ok data := (hS.tree id hs h.store).trans hread
      have hasked : Consistent S s I (c.askTree S id).2 :=
        h.of_tables (hS.keepsTree h.store hread') rfl rfl
      have hasked' : Consistent S s I (askTree S id { store := s }).2 :=
        hfresh.of_tables (hS.keepsTree hs hread) rfl rfl
      simp only [hasked.resolveBlobs_eq hS hs hasked']

/-! ## Runs -/

theorem Move.consistent (h : Move S I c c') (hc : Consistent S s I c) :
    Consistent S s I c' := by
  cases h with
  | stack => exact hc.of_tables hc.store rfl rfl
  | blob _ hanswer hkind => exact hc.recordBlob hS hs hanswer hkind
  | tree _ hanswer => exact hc.of_tables (hS.keepsTree hc.store hanswer) rfl rfl
  | @record id s' data entries size hs' hnew hread hdecode hfold =>
      have hknown := TreeSize.ofEntries?_isSome_iff.mp (by rw [← fold?, hfold]; rfl)
      have hother : Consistent S s I { c with store := s' } := hc.of_tables hs' rfl rfl
      refine hc.recordTree ?_ hfold
      rw [← hother.survey_eq hS hs, survey_fst, hread]
      have hresolved := resolveBlobs_of_recorded (S := S)
        (c := { c with store := (S.readTree id s').2 }) fun e he => (hknown e he).2
      simp only [askTree, hdecode, hresolved]

theorem Run.consistent (h : Run S I none c c') (hc : Consistent S s I c) :
    Consistent S s I c' := by
  generalize hend : (none : Option Fault) = end' at h
  induction h with
  | refl => exact hc
  | move _ hmove ih => exact hmove.consistent hS hs (ih hc hend)
  | stop => cases hend

end Steady

/-- Over a fixed store the records agree after a fault as well. -/
theorem Run.consistent_of_fixed {end' : Option Fault} (hS : S.Fixed I) (hs : I s)
    (h : Run S I end' c c') (hc : Consistent S s I c) : Consistent S s I c' := by
  cases h with
  | refl => exact hc
  | move hrun hmove => exact (hrun.move hmove).consistent hS.steady hs hc
  | stop hrun hstop pending notes =>
      have hrun' := hrun.consistent hS.steady hs hc
      have hstopped := hstop.keeps hS.keeps hrun'.store
      exact hrun'.of_tables hstopped hstop.tables.1 hstop.tables.2

end GitCensus.Census
