import Mathlib.Algebra.GroupWithZero.Nat
import GitCensus.Proofs.Census.History
/-!
# Each tree is read at most twice

The same tree can stand on the work stack many times, put there by different parents and
by repeated entries, before and after it is sized.  Still its payload is asked for once,
or twice if a subtree had no record yet, and the rounds of work are bounded by the
entries of the trees that get records, however many paths lead to them.
-/

namespace GitCensus

namespace Table

variable {β : Type} {t : Table β} {id : ObjectId}

theorem notMem_of_find?_eq_none (h : t.find? id = none) : id ∉ t.records.map Prod.fst := by
  intro hmem
  obtain ⟨e, he, rfl⟩ := List.mem_map.mp hmem
  have hne := List.lookup_eq_none_iff.mp h e he
  simp at hne

end Table

namespace Census

variable {σ : Type} {S : Store σ} {I : σ → Prop} {s : σ} {c c' c₁ : Census σ}
variable {id t u : ObjectId} {ids : List ObjectId} {k rounds : Nat}

/-! ## The rounds of work -/

/-- The subtrees that the payload of a tree lists, repeats counted. -/
def subtreesAt (S : Store σ) (s : σ) (id : ObjectId) : List ObjectId :=
  match (S.readTree id s).1 with
  | .ok data => Entry.subtrees (Tree.decode data).entries
  | .error _ => []

theorem subtreesAt_of_survey (hS : S.Steady I) (hs : I s) (hI : I c.store)
    {entries : List Entry} (h : c.survey S id = (.ok entries, c')) :
    subtreesAt S s id = Entry.subtrees entries := by
  obtain ⟨-, -, -, -, hall⟩ := survey_spec h
  obtain ⟨⟨data, hread, hdecode⟩, -⟩ := hall entries rfl
  rw [subtreesAt, hS.tree id hI hs, hread]
  simp only [hdecode]

/-- The number of entries that are trees, in trees that have got records. -/
def entryCount (S : Store σ) (s : σ) (new : List (ObjectId × TreeSize)) : Nat :=
  (new.map fun e => (subtreesAt S s e.1).length).sum

/-- Clearing trees takes a round for each of them, one for each entry of a tree that gets
a record, and one for each record. -/
theorem Clears.rounds_le (hS : S.Steady I) (hs : I s) (h : Clears S ids k c c')
    (hc : Consistent S s I c) : ∃ new, c'.trees.records = new ++ c.trees.records ∧
      k ≤ ids.length + entryCount S s new + new.length := by
  induction h with
  | nil => exact ⟨[], rfl, by simp [entryCount]⟩
  | recorded _ _ ih =>
      obtain ⟨new, hrecords, hle⟩ := ih hc
      exact ⟨new, hrecords, by simp only [List.length_cons]; omega⟩
  | @sized id _ _ _ _ _ _ size hnew hsurvey hfold _ ih =>
      have hrecord := survey_record_run hc.store hnew hsurvey hfold
      obtain ⟨new, hrecords, hle⟩ := ih (hrecord.consistent hS hs hc)
      refine ⟨new ++ [(id, size)], ?_, ?_⟩
      · rw [hrecords, recordTree, Table.record, (survey_spec hsurvey).2.1]
        simp
      · simp only [entryCount, List.map_append, List.sum_append, List.length_append,
          List.length_cons, List.length_nil] at hle ⊢
        omega
  | @waits id _ _ _ _ c₁ c₂ _ _ entries size hnew hsurvey _ hbelow hnew' hsurvey' hfold _
      ihbelow ih =>
      have hfirst : Run S I none _ _ := survey_run hnew hsurvey
      have hc₁ := hfirst.consistent hS hs hc
      have hc₂ := hbelow.consistent hS hs hc₁
      have hrecord := survey_record_run hc₂.store hnew' hsurvey' hfold
      obtain ⟨below, hbelowRecords, hbelowLe⟩ := ihbelow hc₁
      obtain ⟨new, hrecords, hle⟩ := ih (hrecord.consistent hS hs hc₂)
      have hmissing : (c₁.unrecorded entries).length ≤ (subtreesAt S s id).length := by
        rw [subtreesAt_of_survey hS hs hc.store hsurvey]
        exact List.length_filter_le _ _
      refine ⟨new ++ (id, size) :: below, ?_, ?_⟩
      · rw [hrecords, recordTree, Table.record, (survey_spec hsurvey').2.1, hbelowRecords,
          (survey_spec hsurvey).2.1]
        simp
      · simp only [entryCount, List.map_append, List.map_cons, List.sum_append, List.sum_cons,
          List.length_append, List.length_cons, List.length_reverse] at hle hbelowLe ⊢
        omega

/-- Where sizing a tree succeeds, it has cleared the tree off the stack. -/
theorem clears_of_treeSize (hS : S.Steady I) (hs : I s) (hc : Consistent S s I c)
    (hpending : c.pending.ids = []) {size : TreeSize}
    (h : c.treeSize S rounds t = some (.ok size, c')) :
    ∃ k c₁ notes, Clears S [t] k c c₁ ∧ c' = c₁.withStack [] notes ∧
      c.treeSize S k t = some (.ok size, c') := by
  cases hfind : c.trees.find? t with
  | some recorded =>
      have hsized : c.treeSize S 1 t = some (.ok recorded, c) := by simp only [treeSize, hfind]
      obtain ⟨hsize, rfl⟩ := Prod.mk.inj (treeSize_unique h hsized)
      refine ⟨1, c', c'.notes, .recorded (by simp [hfind]) (.nil c'), ?_, hsize ▸ hsized⟩
      rw [withStack_of_pending hpending]
  | none =>
      have hverdict := (verdict_of_treeSize hS hs hc hpending h).1
      obtain ⟨k, c₁, hclears⟩ := Clears.exists_of_verdict hS hs hverdict hc
      obtain ⟨notes, hwork⟩ := hclears.work c.notes
      obtain ⟨recorded, hrecorded⟩ := Option.isSome_iff_exists.mp (hclears.done t (by simp))
      have hsized : c.treeSize S k t = some (.ok recorded, c₁.withStack [] notes) := by
        rw [← withStack_push, withStack_of_pending hpending] at hwork
        simp only [treeSize, hfind, hwork, withStack_trees, hrecorded]
      obtain ⟨hsize, rfl⟩ := Prod.mk.inj (treeSize_unique h hsized)
      exact ⟨k, c₁, notes, hclears, rfl, hsize ▸ hsized⟩

/-! ## Lookups that succeed -/

/-- A lookup of a blob or a tree that succeeds. -/
inductive Lookup (S : Store σ) : Census σ → Census σ → Prop
  | blob {id : ObjectId} {size : BlobSize} {c c' : Census σ}
      (h : c.blobSize S id = (.ok size, c')) : Lookup S c c'
  | tree {id : ObjectId} {rounds : Nat} {size : TreeSize} {c c' : Census σ}
      (h : c.treeSize S rounds id = some (.ok size, c')) : Lookup S c c'

/-- Lookups of blobs and trees that all succeed. -/
abbrev Lookups (S : Store σ) : Census σ → Census σ → Prop := Relation.ReflTransGen (Lookup S)

theorem Lookups.pending (h : Lookups S c c') (hpending : c.pending.ids = []) :
    c'.pending.ids = [] := by
  induction h with
  | refl => exact hpending
  | tail _ hlookup ih =>
      cases hlookup with
      | blob h => rw [(blobSize_spec h).2.2.1, ih]
      | tree h => exact treeSize_pending ih h

theorem Lookups.run (hS : S.Fixed I) (h : Lookups S c c') (hI : I c.store) :
    Run S I none c c' := by
  induction h with
  | refl => exact .refl c
  | tail _ hlookup ih =>
      cases hlookup with
      | blob h => exact ih.trans (blobSize_run h)
      | tree h => exact ih.trans (treeSize_run hS.keeps (ih.keeps hS.keeps hI) h)

/-- No tree gets a second record. -/
theorem Run.nodup {end' : Option Fault} (h : Run S I end' c c')
    (hnodup : (c.trees.records.map Prod.fst).Nodup) : (c'.trees.records.map Prod.fst).Nodup := by
  induction h with
  | refl => exact hnodup
  | move _ hmove ih =>
      cases hmove with
      | stack => exact ih hnodup
      | blob => exact ih hnodup
      | tree => exact ih hnodup
      | record _ hnew =>
          exact List.nodup_cons.mpr ⟨Table.notMem_of_find?_eq_none hnew, ih hnodup⟩
  | stop _ hstop _ _ ih =>
      rw [withStack_trees, hstop.tables.2]
      exact ih hnodup

end Census

/-! ## The requests -/

namespace Census

variable {σ : Type} {S : Store σ} {I : Metered σ → Prop} {s : Metered σ}
variable {c c' c₁ : Census (Metered σ)} {id t u : ObjectId} {ids : List ObjectId} {k : Nat}

/-- How many times the payload of a tree has been asked for. -/
def reads (id : ObjectId) (c : Census (Metered σ)) : Nat := c.store.requests.count (.tree id)

theorem reads_askHeader (id u : ObjectId) (c : Census (Metered σ)) :
    reads id (c.askHeader (Metered.store S) u).2 = reads id c := by
  rcases Metered.requests_of_pass (.header u) (S.readHeader u) c.store with hlog | hlog
  · exact congrArg (List.count _) hlog
  · exact (congrArg (List.count _) hlog).trans (List.count_cons_of_ne (by simp))

theorem reads_askTree (id : ObjectId) {data : Bytes}
    (h : ((Metered.store S).readTree u c.store).1 = .ok data) :
    reads id (c.askTree (Metered.store S) u).2 = reads id c + if id = u then 1 else 0 := by
  have hlog := congrArg (List.count (.tree id)) (Metered.requests_of_pass_ok h)
  refine hlog.trans ?_
  by_cases heq : id = u
  · rw [if_pos heq, heq, List.count_cons_self]
    rfl
  · rw [if_neg heq, List.count_cons_of_ne (by simpa using fun h => heq h.symm)]
    rfl

theorem reads_blobSize {answer : Except Fault BlobSize}
    (h : c.blobSize (Metered.store S) u = (answer, c')) : reads id c' = reads id c := by
  have hasked := reads_askHeader (S := S) id u c
  cases hfind : c.blobs.find? u with
  | some size =>
      rw [blobSize_of_recorded hfind] at h
      rw [(Prod.mk.inj h).2]
  | none =>
      rw [blobSize_of_unrecorded hfind] at h
      rcases hask : c.askHeader (Metered.store S) u with ⟨fault | header, c₁⟩
      · simp only [hask] at h hasked
        obtain ⟨-, rfl⟩ := Prod.mk.inj h
        exact hasked
      · simp only [hask] at h hasked
        by_cases hkind : header.kind = .blob
        · rw [if_pos hkind] at h
          obtain ⟨-, rfl⟩ := Prod.mk.inj h
          exact hasked
        · rw [if_neg hkind] at h
          obtain ⟨-, rfl⟩ := Prod.mk.inj h
          exact hasked

theorem reads_resolveBlobs {entries : List Entry} {answer : Except Fault Unit}
    (h : c.resolveBlobs (Metered.store S) entries = (answer, c')) : reads id c' = reads id c := by
  induction entries generalizing c with
  | nil => rw [(Prod.mk.inj h).2]
  | cons e rest ih =>
      simp only [resolveBlobs] at h
      by_cases hkind : e.kind = .blob
      · rw [if_pos hkind] at h
        rcases hblob : c.blobSize (Metered.store S) e.id with ⟨fault | size, c₁⟩
        · simp only [hblob] at h
          obtain ⟨-, rfl⟩ := Prod.mk.inj h
          exact reads_blobSize hblob
        · simp only [hblob] at h
          exact (ih h).trans (reads_blobSize hblob)
      · rw [if_neg hkind] at h
        exact ih h

theorem reads_survey (id : ObjectId) {entries : List Entry}
    (h : c.survey (Metered.store S) u = (.ok entries, c')) :
    reads id c' = reads id c + if id = u then 1 else 0 := by
  unfold survey at h
  rcases hask : c.askTree (Metered.store S) u with ⟨fault | data, c₁⟩
  · simp [hask] at h
  · have hasked := reads_askTree id (askTree_spec hask).1
    rw [hask] at hasked
    simp only [hask] at h
    rcases hblobs : c₁.resolveBlobs (Metered.store S) (Tree.decode data).entries with
      ⟨fault | ⟨⟩, c₂⟩
    · simp [hblobs] at h
    · simp only [hblobs] at h
      obtain rfl : c₂ = c' := by cases hfault : (Tree.decode data).fault <;> simp_all
      exact (reads_resolveBlobs hblobs).trans hasked

/-- Between two rounds of the work from a state, a tree without a record comes to be on
top of the stack.  It has not been read since, and one of its subtrees has no record
either. -/
def ReadsEarly (S : Store σ) (s : Metered σ) (id : ObjectId) (start : Census (Metered σ)) :
    Prop :=
  ∃ c rest, Rounds (Metered.store S) start c ∧ c.pending.ids = id :: rest ∧
    c.trees.find? id = none ∧ reads id c = reads id start ∧
    ∃ u ∈ subtreesAt (Metered.store S) s id, c.trees.find? u = none

theorem ReadsEarly.of_rounds {start next : Census (Metered σ)}
    (h : Rounds (Metered.store S) start next) (hreads : reads id next = reads id start)
    (hnext : ReadsEarly S s id next) : ReadsEarly S s id start := by
  obtain ⟨c, rest, hrounds, hpending, hnew, hsame, hmissing⟩ := hnext
  exact ⟨c, rest, h.trans hrounds, hpending, hnew, hsame.trans hreads, hmissing⟩

/-- Between two states a tree has not been read; or it has got its record and has been read
once, or twice if it was read early. -/
def ReadsOnce (id : ObjectId) (early : Prop) (c c' : Census (Metered σ)) : Prop :=
  reads id c' = reads id c ∨
    c.trees.find? id = none ∧ (c'.trees.find? id).isSome ∧
      (reads id c' = reads id c + 1 ∨ reads id c' = reads id c + 2 ∧ early)

theorem ReadsOnce.trans {early early₁ early₂ : Prop} (h : ReadsOnce id early₁ c c₁)
    (h' : ReadsOnce id early₂ c₁ c') (hkept : c.trees.KeptIn c₁.trees)
    (hkept' : c₁.trees.KeptIn c'.trees) (hfirst : early₁ → early)
    (hlater : reads id c₁ = reads id c → early₂ → early) : ReadsOnce id early c c' := by
  rcases h with hsame | ⟨hnew, hdone, hcount⟩
  · rcases h' with hsame' | ⟨hnew', hdone', hcount'⟩
    · exact .inl (hsame'.trans hsame)
    · have hnew : c.trees.find? id = none := by
        cases hfind : c.trees.find? id with
        | none => rfl
        | some size => simp [hkept id size hfind] at hnew'
      rw [hsame] at hcount'
      exact .inr ⟨hnew, hdone', hcount'.imp_right fun h => ⟨h.1, hlater hsame h.2⟩⟩
  · rcases h' with hsame' | ⟨hnew', -⟩
    · rw [← hsame'] at hcount
      exact .inr ⟨hnew, hkept'.isSome hdone, hcount.imp_right fun h => ⟨h.1, hfirst h.2⟩⟩
    · simp [hnew'] at hdone

theorem ReadsOnce.of_record {entries : List Entry} {size : TreeSize}
    (hnew : c.trees.find? u = none) (h : c.survey (Metered.store S) u = (.ok entries, c₁)) :
    ReadsOnce id False c (c₁.recordTree u size) := by
  have hreads := reads_survey id h
  by_cases heq : id = u
  · rw [if_pos heq] at hreads
    refine .inr ⟨heq ▸ hnew, ?_, .inl hreads⟩
    simp [heq, recordTree]
  · rw [if_neg heq] at hreads
    exact .inl hreads

/-- A tree that is read and has to wait is read early. -/
theorem ReadsEarly.of_waits (hS : (Metered.store S).Steady I) (hs : I s) (hI : I c.store)
    {entries : List Entry} (hnew : c.trees.find? u = none)
    (h : c.survey (Metered.store S) u = (.ok entries, c₁)) (hmissing : c₁.unrecorded entries ≠ [])
    (rest : List ObjectId) (notes : List Note) :
    ReadsEarly S s u (c.withStack (u :: rest) notes) := by
  obtain ⟨v, hv⟩ := List.exists_mem_of_ne_nil _ hmissing
  obtain ⟨hmem, hnone⟩ := List.mem_filter.mp hv
  refine ⟨_, rest, .refl, rfl, hnew, rfl, v, ?_, ?_⟩
  · rwa [subtreesAt_of_survey hS hs hI h]
  · rw [(survey_spec h).2.1] at hnone
    exact Option.isNone_iff_eq_none.mp hnone

/-- Clearing trees reads none of them twice, but for a tree that is read early. -/
theorem Clears.readsOnce (hS : (Metered.store S).Steady I) (hs : I s)
    (h : Clears (Metered.store S) ids k c c') (hc : Consistent (Metered.store S) s I c)
    (id : ObjectId) :
    ReadsOnce id (∀ rest notes, ReadsEarly S s id (c.withStack (ids ++ rest) notes)) c c' := by
  induction h with
  | nil => exact .inl rfl
  | @recorded u ids _ c _ hrecorded hrest ih =>
      have hkept := (hrest.run hS hs hc).keptIn.trees
      refine .trans (.inl rfl) (ih hc) (.refl _) hkept False.elim fun _ hearly rest notes => ?_
      have hround := round_of_recorded (S := Metered.store S) (ids ++ rest) notes hrecorded
      exact (hearly rest notes).of_rounds (.single ⟨u, _, rfl, hround⟩) rfl
  | @sized u ids _ c c₁ _ _ size hnew hsurvey hfold hrest ih =>
      have hrecord := survey_record_run hc.store hnew hsurvey hfold
      have hc₂ := hrecord.consistent hS hs hc
      refine .trans (.of_record hnew hsurvey) (ih hc₂) hrecord.keptIn.trees
        (hrest.run hS hs hc₂).keptIn.trees False.elim fun hsame hearly rest notes => ?_
      have hround := round_of_survey_fold (ids ++ rest) notes hnew hsurvey hfold
      exact (hearly rest notes).of_rounds (.single ⟨u, _, rfl, hround⟩) hsame
  | @waits u ids _ _ c c₁ c₂ c₃ c' entries size hnew hsurvey hmissing hbelow hnew' hsurvey'
      hfold hrest ihbelow ih =>
      have hfirst : Run (Metered.store S) I none c c₁ := survey_run hnew hsurvey
      have hc₁ := hfirst.consistent hS hs hc
      have hc₂ := hbelow.consistent hS hs hc₁
      have hbelowRun := hbelow.run hS hs hc₁
      have hrecord := survey_record_run hc₂.store hnew' hsurvey' hfold
      have hc₃ := hrecord.consistent hS hs hc₂
      have hreads := reads_survey id hsurvey
      -- the tree that waits is read before and after what it waits for; another tree is
      -- read below it, and an early read there happens on a higher stack
      have hpassed : ReadsOnce id (∀ rest notes,
          ReadsEarly S s id (c.withStack (u :: ids ++ rest) notes)) c (c₃.recordTree u size) := by
        by_cases heq : id = u
        · subst heq
          have hreads' := reads_survey id hsurvey'
          rw [if_pos rfl] at hreads hreads'
          rcases ihbelow hc₁ with hsame | ⟨-, hdone, -⟩
          · have htwice : reads id (c₃.recordTree id size) = reads id c + 2 := by
              show reads id c₃ = _
              omega
            refine .inr ⟨hnew, by simp [recordTree], .inr ⟨htwice, fun rest notes => ?_⟩⟩
            exact .of_waits hS hs hc.store hnew hsurvey hmissing (ids ++ rest) notes
          · simp [hnew'] at hdone
        · rw [if_neg heq] at hreads
          refine .trans (.trans (.inl hreads) (ihbelow hc₁) hfirst.keptIn.trees
            hbelowRun.keptIn.trees False.elim fun _ hearly rest notes => ?_)
            (.of_record hnew' hsurvey') (hfirst.trans hbelowRun).keptIn.trees
            hrecord.keptIn.trees (fun h => h) fun _ => False.elim
          obtain ⟨notes', hround⟩ :=
            round_of_survey_waits (u :: (ids ++ rest)) notes hnew hsurvey hmissing
          exact (hearly (u :: (ids ++ rest)) notes').of_rounds (.single ⟨u, _, rfl, hround⟩) hreads
      -- an early read among the rest comes after all the rounds for this tree
      have hkept := (hfirst.trans (hbelowRun.trans hrecord)).keptIn.trees
      refine .trans hpassed (ih hc₃) hkept (hrest.run hS hs hc₃).keptIn.trees (fun h => h)
        fun hsame hearly rest notes => ?_
      obtain ⟨notes₁, hround⟩ :=
        round_of_survey_waits (u :: (ids ++ rest)) notes hnew hsurvey hmissing
      obtain ⟨notes₂, hrounds⟩ := hbelow.roundsIn (u :: (ids ++ rest)) notes₁
      have hround' := round_of_survey_fold (ids ++ rest) notes₂ hnew' hsurvey' hfold
      have hall : Rounds (Metered.store S) (c.withStack (u :: ids ++ rest) notes)
          ((c₃.recordTree u size).withStack (ids ++ rest) notes₂) :=
        .head ⟨u, _, rfl, hround⟩ (hrounds.rounds.tail ⟨u, _, rfl, hround'⟩)
      exact (hearly rest notes₂).of_rounds hall hsame

/-- One of the lookups that led to a state was for a tree without a record, and in the
course of it another tree was read for the first time, early. -/
def ReadEarlyIn (S : Store σ) (s : Metered σ) (id : ObjectId) (c c' : Census (Metered σ)) :
    Prop :=
  ∃ c₁ c₂ t rounds size, Lookups (Metered.store S) c c₁ ∧ reads id c₁ = 0 ∧
    c₁.trees.find? t = none ∧ ReadsEarly S s id (c₁.push t) ∧
    c₁.treeSize (Metered.store S) rounds t = some (.ok size, c₂) ∧
    Lookups (Metered.store S) c₂ c'

theorem ReadEarlyIn.tail (h : ReadEarlyIn S s id c c₁)
    (hlookup : Lookup (Metered.store S) c₁ c') : ReadEarlyIn S s id c c' := by
  obtain ⟨c₂, c₃, t, rounds, size, hbefore, hzero, hnew, hearly, htree, hafter⟩ := h
  exact ⟨c₂, c₃, t, rounds, size, hbefore, hzero, hnew, hearly, htree, hafter.tail hlookup⟩

/-- A tree that has been read has a record, and it has been read once, or twice if it was
read early. -/
theorem Lookups.reads_cases (hS : (Metered.store S).Fixed I) (hs : I s)
    (h : Lookups (Metered.store S) { store := s } c) (hempty : s.requests = []) (id : ObjectId) :
    reads id c = 0 ∨ (c.trees.find? id).isSome ∧
      (reads id c = 1 ∨ reads id c = 2 ∧ ReadEarlyIn S s id { store := s } c) := by
  induction h with
  | refl => exact .inl (by simp [reads, hempty])
  | @tail c c' hlookups hlookup ih =>
      have hrun := Lookups.run hS hlookups hs
      have hc : Consistent (Metered.store S) s I c := hrun.consistent hS.steady hs (.fresh hs)
      have hpending := Lookups.pending hlookups rfl
      -- where this lookup does not read the tree, all is as before it
      have hkeep (hsame : reads id c' = reads id c) (hkept : c.trees.KeptIn c'.trees) :
          reads id c' = 0 ∨ (c'.trees.find? id).isSome ∧
            (reads id c' = 1 ∨ reads id c' = 2 ∧ ReadEarlyIn S s id { store := s } c') := by
        rw [hsame]
        refine ih.imp_right fun hread => ⟨hkept.isSome hread.1, ?_⟩
        exact hread.2.imp_right fun htwice => ⟨htwice.1, htwice.2.tail hlookup⟩
      cases hlookup with
      | blob hblob => exact hkeep (reads_blobSize hblob) (blobSize_spec hblob).1.trees
      | @tree t rounds size _ _ htree =>
          cases hnew : c.trees.find? t with
          | some recorded =>
              have hsized : c.treeSize (Metered.store S) 0 t = some (.ok recorded, c) := by
                simp only [treeSize, hnew]
              obtain ⟨-, rfl⟩ := Prod.mk.inj (treeSize_unique htree hsized)
              exact hkeep rfl (.refl _)
          | none =>
              obtain ⟨k, c₁, notes, hclears, rfl, -⟩ :=
                clears_of_treeSize hS.steady hs hc hpending htree
              have hkept := (hclears.run hS.steady hs hc).keptIn.trees
              rcases hclears.readsOnce hS.steady hs hc id with hsame | ⟨hnone, hdone, hcount⟩
              · exact hkeep hsame hkept
              · have hzero : reads id c = 0 := by
                  rcases ih with hzero | ⟨hold, -⟩
                  · exact hzero
                  · simp [hnone] at hold
                have hpush : c.push t = c.withStack [t] c.notes := by
                  rw [← withStack_push, withStack_of_pending hpending]
                rw [hzero] at hcount
                refine .inr ⟨hdone, hcount.imp_right fun htwice => ⟨htwice.1, ?_⟩⟩
                refine ⟨c, _, t, rounds, size, hlookups, hzero, hnew, ?_, htree, .refl⟩
                rw [hpush]
                exact htwice.2 [] c.notes

/-- Over a fixed store, where lookups of blobs and trees all succeed, no header is asked
for twice, no payload three times, and a payload twice only if one of the subtrees in it
had no record when it was read first.  What has a record is not asked for again.  A tree
is sized in at most one round, one for each entry of a tree that gets a record, and one
for each record. -/
theorem lookups_read_at_most_twice {σ : Type} {S : Store σ} {I : σ → Prop} {s : σ}
    (hS : S.Fixed I) (hs : I s) {c : Census (Metered σ)}
    (hc : Lookups (Metered.store S) { store := { inner := s } } c) :
    (∀ id, c.store.requests.count (.header id) ≤ 1) ∧
    (∀ id, reads id c ≤ 2 ∧
      (reads id c = 2 → ReadEarlyIn S { inner := s } id { store := { inner := s } } c)) ∧
    (∀ id, (c.blobs.find? id).isSome →
      ∃ size, c.blobSize (Metered.store S) id = (.ok size, c)) ∧
    (∀ id, (c.trees.find? id).isSome → ∀ rounds,
      ∃ size, c.treeSize (Metered.store S) rounds id = some (.ok size, c)) ∧
    ∀ t rounds size c', c.treeSize (Metered.store S) rounds t = some (.ok size, c') →
      ∃ new, c'.trees.records = new ++ c.trees.records ∧
        (c'.trees.records.map Prod.fst).Nodup ∧
        c.treeSize (Metered.store S) (1 + entryCount S s new + new.length) t =
          some (.ok size, c') := by
  have hT := Metered.store_fixed hS
  have hstart : I ({ inner := s } : Metered σ).inner ∧
      ({ inner := s } : Metered σ).remaining = none := ⟨hs, rfl⟩
  have hrun := hc.run hT hstart
  have hconsistent := hrun.consistent hT.steady hstart (.fresh hstart)
  have hpending := hc.pending rfl
  refine ⟨fun id => ?_, fun id => ?_, fun id hfind => ?_, fun id hfind rounds => ?_,
    fun t rounds size c' htree => ?_⟩
  · obtain ⟨made, hmade⟩ := hrun.asked
    rw [hmade.requests]
    exact (List.append_nil made).symm ▸ hmade.once id
  · rcases hc.reads_cases hT hstart rfl id with hzero | ⟨-, hone | ⟨htwo, hearly⟩⟩
    · exact ⟨by omega, by omega⟩
    · exact ⟨by omega, by omega⟩
    · exact ⟨by omega, fun _ => hearly⟩
  · obtain ⟨size, hsize⟩ := Option.isSome_iff_exists.mp hfind
    exact ⟨size, blobSize_of_recorded hsize⟩
  · obtain ⟨size, hsize⟩ := Option.isSome_iff_exists.mp hfind
    exact ⟨size, by simp only [treeSize, hsize]⟩
  · obtain ⟨k, c₁, notes, hclears, rfl, hsized⟩ :=
      clears_of_treeSize hT.steady hstart hconsistent hpending htree
    obtain ⟨new, hrecords, hle⟩ := hclears.rounds_le hT.steady hstart hconsistent
    have hcount : k ≤ 1 + entryCount S s new + new.length := hle
    obtain ⟨more, hmore⟩ := Nat.exists_eq_add_of_le hcount
    refine ⟨new, hrecords, ?_, ?_⟩
    · exact (hrun.trans (hclears.run hT.steady hstart hconsistent)).nodup List.nodup_nil
    · rw [hmore]
      exact treeSize_mono hsized more

/-- A tree whose only entry is an empty tree waits for it and is read again. -/
theorem lookups_read_at_most_twice_nested : ∃ (m : ObjectMap) (c : Census (Metered ObjectMap)),
    Lookups (Metered.store ObjectMap.store) { store := { inner := m } } c ∧
      reads .zero c = 2 ∧
      ReadEarlyIn ObjectMap.store { inner := m } .zero { store := { inner := m } } c := by
  let below : ObjectId := ⟨List.replicate 20 1, rfl⟩
  let data : Bytes := [0x34, 0x30, 0x30, 0x30, 0x30, 0x20, 0x64, 0x00] ++ below.bytes
  let m : ObjectMap := [(.zero, .ofContent .tree data), (below, .ofContent .tree [])]
  let size : TreeSize := { maxDepth := 2, maxPathLength := 1, treeCount := 2, maxTreeEntries := 1 }
  have hread : Tree.readEntry data = .ok (⟨0o40000, [0x64], below⟩, []) := rfl
  have hdecode : Tree.decode data = ⟨[⟨0o40000, [0x64], below⟩], none⟩ := by
    rw [Tree.decode_of_ok hread, Tree.decode_nil]
  have hkind : Entry.kind ⟨0o40000, [0x64], below⟩ = .tree := by
    unfold Entry.kind
    decide
  have htree (requests : List Request) : (Metered.store ObjectMap.store).readTree .zero
      { inner := m, requests } = (.ok data, { inner := m, requests := .tree .zero :: requests }) :=
    rfl
  have htree' (requests : List Request) : (Metered.store ObjectMap.store).readTree below
      { inner := m, requests } = (.ok [], { inner := m, requests := .tree below :: requests }) :=
    rfl
  have hfirst : round (Metered.store ObjectMap.store) .zero
      { store := { inner := m }, pending := ⟨[.zero]⟩ } =
      (.ok (), { store := { inner := m, requests := [.tree .zero] },
                 pending := ⟨[below, .zero]⟩, notes := [.waits .zero 2] }) := by
    simp only [round, attempt, askTree, htree, hdecode, scanEntries, scanEntry, hkind]
    rfl
  have hbelow : round (Metered.store ObjectMap.store) below
      { store := { inner := m, requests := [.tree .zero] },
        pending := ⟨[below, .zero]⟩, notes := [.waits .zero 2] } =
      (.ok (), { store := { inner := m, requests := [.tree below, .tree .zero] },
                 trees := ⟨[(below, { maxDepth := 1 })]⟩, pending := ⟨[.zero]⟩,
                 notes := [.waits .zero 2] }) := by
    simp only [round, attempt, askTree, htree', Tree.decode_nil, scanEntries]
    rfl
  have hagain : round (Metered.store ObjectMap.store) .zero
      { store := { inner := m, requests := [.tree below, .tree .zero] },
        trees := ⟨[(below, { maxDepth := 1 })]⟩, pending := ⟨[.zero]⟩,
        notes := [.waits .zero 2] } =
      (.ok (), { store := { inner := m, requests := [.tree .zero, .tree below, .tree .zero] },
                 trees := ⟨[(.zero, size), (below, { maxDepth := 1 })]⟩,
                 notes := [.waits .zero 2] }) := by
    simp only [round, attempt, askTree, htree, hdecode, scanEntries, scanEntry, hkind]
    rfl
  have hwork : work (Metered.store ObjectMap.store) 3
      { store := { inner := m }, pending := ⟨[.zero]⟩ } = some (.ok (),
      { store := { inner := m, requests := [.tree .zero, .tree below, .tree .zero] },
        trees := ⟨[(.zero, size), (below, { maxDepth := 1 })]⟩, notes := [.waits .zero 2] }) := by
    simp only [work, hfirst, hbelow, hagain]
  have hsized : treeSize (Metered.store ObjectMap.store) 3 .zero { store := { inner := m } } =
      some (.ok size,
      { store := { inner := m, requests := [.tree .zero, .tree below, .tree .zero] },
        trees := ⟨[(.zero, size), (below, { maxDepth := 1 })]⟩, notes := [.waits .zero 2] }) := by
    simp only [treeSize, push, Pending.push, hwork]
    rfl
  have hc : Lookups (Metered.store ObjectMap.store) { store := { inner := m } } _ :=
    .single (.tree hsized)
  exact ⟨m, _, hc, rfl, ((lookups_read_at_most_twice m.store_fixed rfl hc).2.1 .zero).2 rfl⟩

end Census

end GitCensus
