import GitCensus.Proofs.Census.Survey
import GitCensus.Proofs.Store.Serving
/-!
# What a census can do

Every call of a census is a row of small moves: requests about what has no record
yet, records made from an answer or from other records, and changes of the stack
and the notes.  A call that fails stops at its first failure and makes no move after
it.  What holds before a call and is kept by each of these holds after it.
-/

namespace GitCensus

variable {σ α : Type}

/-- The fault of an answer, if it is one. -/
def faultOf : Except Fault α → Option Fault
  | .error fault => some fault
  | .ok _ => none

namespace Census

variable {S : Store σ} {I K : σ → Prop} {c c' c'' : Census σ} {id : ObjectId}
variable {fault : Fault} {end' : Option Fault}

/-- One move of a census whose store is only ever in states with `I`. -/
inductive Move (S : Store σ) (I : σ → Prop) : Census σ → Census σ → Prop
  | stack (c : Census σ) (pending : List ObjectId) (notes : List Note) :
      Move S I c (c.withStack pending notes)
  /-- A blob without a record is recorded with the size its header states. -/
  | blob {c : Census σ} {id : ObjectId} {header : Header} (hnew : c.blobs.find? id = none)
      (hanswer : (S.readHeader id c.store).1 = .ok header) (hkind : header.kind = .blob) :
      Move S I c ((c.askHeader S id).2.recordBlob id header.size)
  | tree {c : Census σ} {id : ObjectId} {data : Bytes} (hnew : c.trees.find? id = none)
      (hanswer : (S.readTree id c.store).1 = .ok data) : Move S I c (c.askTree S id).2
  /-- A tree without a record is recorded with the fold of the records that one
  complete reading of its payload calls for. -/
  | record {c : Census σ} {id : ObjectId} {s : σ} {data : Bytes} {entries : List Entry}
      {size : TreeSize} (hs : I s) (hnew : c.trees.find? id = none)
      (hread : (S.readTree id s).1 = .ok data) (hdecode : Tree.decode data = ⟨entries, none⟩)
      (hfold : c.fold? entries = some size) : Move S I c (c.recordTree id size)

inductive Stop (S : Store σ) : Fault → Census σ → Census σ → Prop
  | header {c : Census σ} {id : ObjectId} {fault : Fault} (hnew : c.blobs.find? id = none)
      (hanswer : (S.readHeader id c.store).1 = .error fault) :
      Stop S fault c (c.askHeader S id).2
  | wrongKind {c : Census σ} {id : ObjectId} {header : Header}
      (hnew : c.blobs.find? id = none) (hanswer : (S.readHeader id c.store).1 = .ok header)
      (hkind : header.kind ≠ .blob) :
      Stop S (.wrongKind id header.kind.name ObjectKind.blob.name) c (c.askHeader S id).2
  | tree {c : Census σ} {id : ObjectId} {fault : Fault} (hnew : c.trees.find? id = none)
      (hanswer : (S.readTree id c.store).1 = .error fault) :
      Stop S fault c (c.askTree S id).2
  | malformed (c : Census σ) (cause : Tree.Fault) : Stop S (.malformedTree cause) c c

/-- Some moves, and the fault they ended with, if any. -/
inductive Run (S : Store σ) (I : σ → Prop) : Option Fault → Census σ → Census σ → Prop
  | refl (c : Census σ) : Run S I none c c
  | move {c c' c'' : Census σ} (h : Run S I none c c') (hmove : Move S I c' c'') :
      Run S I none c c''
  | stop {c c' c'' : Census σ} {fault : Fault} (h : Run S I none c c')
      (hstop : Stop S fault c' c'') (pending : List ObjectId) (notes : List Note) :
      Run S I (some fault) c (c''.withStack pending notes)

theorem Run.trans (h : Run S I none c c') (h' : Run S I end' c' c'') :
    Run S I end' c c'' := by
  induction h' with
  | refl => exact h
  | move _ hmove ih => exact (ih h).move hmove
  | stop _ hstop pending notes ih => exact (ih h).stop hstop pending notes

theorem Move.run (h : Move S I c c') : Run S I none c c' := (Run.refl c).move h

theorem Stop.run (h : Stop S fault c c') : Run S I (some fault) c c' :=
  (Run.refl c).stop h c'.pending.ids c'.notes

theorem Run.withStack (h : Run S I end' c c') (pending : List ObjectId) (notes : List Note) :
    Run S I end' c (c'.withStack pending notes) := by
  cases h with
  | refl => exact (Move.stack c pending notes).run
  | move h hmove => exact (h.move hmove).move (.stack _ pending notes)
  | stop h hstop _ _ => exact h.stop hstop pending notes

theorem Move.keptIn (h : Move S I c c') : c.KeptIn c' := by
  cases h with
  | stack => exact ⟨.refl _, .refl _⟩
  | blob hnew => exact ⟨Table.keptIn_record hnew, .refl _⟩
  | tree => exact ⟨.refl _, .refl _⟩
  | record _ hnew => exact ⟨.refl _, Table.keptIn_record hnew⟩

theorem Stop.tables (h : Stop S fault c c') : c'.blobs = c.blobs ∧ c'.trees = c.trees := by
  cases h <;> exact ⟨rfl, rfl⟩

theorem Run.keptIn (h : Run S I end' c c') : c.KeptIn c' := by
  induction h with
  | refl => exact .refl _
  | move _ hmove ih => exact ih.trans hmove.keptIn
  | stop _ hstop _ _ ih =>
      obtain ⟨hblobs, htrees⟩ := hstop.tables
      refine ih.trans ⟨?_, ?_⟩
      · rw [withStack_blobs, hblobs]
        exact .refl _
      · rw [withStack_trees, htrees]
        exact .refl _

theorem Move.keeps (hS : S.Keeps K) (h : Move S I c c') (hK : K c.store) : K c'.store := by
  cases h with
  | stack => exact hK
  | blob => exact hS.header _ hK
  | tree => exact hS.tree _ hK
  | record => exact hK

theorem Stop.keeps (hS : S.Keeps K) (h : Stop S fault c c') (hK : K c.store) : K c'.store := by
  cases h with
  | header => exact hS.header _ hK
  | wrongKind => exact hS.header _ hK
  | tree => exact hS.tree _ hK
  | malformed => exact hK

theorem Run.keeps (hS : S.Keeps K) (h : Run S I end' c c') (hK : K c.store) :
    K c'.store := by
  induction h with
  | refl => exact hK
  | move _ hmove ih => exact hmove.keeps hS (ih hK)
  | stop _ hstop _ _ ih =>
      have hkept := hstop.keeps hS (ih hK)
      exact hkept

/-! ## Sizing a tree -/

theorem blobSize_run {answer : Except Fault BlobSize} (h : c.blobSize S id = (answer, c')) :
    Run S I (faultOf answer) c c' := by
  cases hfind : c.blobs.find? id with
  | some size =>
      rw [blobSize_of_recorded hfind] at h
      obtain ⟨rfl, rfl⟩ := Prod.mk.inj h
      exact .refl _
  | none =>
      rw [blobSize_of_unrecorded hfind] at h
      rcases hask : c.askHeader S id with ⟨fault | header, c₁⟩
      · have hrun := (Stop.header hfind (congrArg Prod.fst hask)).run (I := I)
        simp only [hask] at h hrun
        obtain ⟨rfl, rfl⟩ := Prod.mk.inj h
        exact hrun
      · simp only [hask] at h
        by_cases hkind : header.kind = .blob
        · have hrun := (Move.blob (I := I) hfind (congrArg Prod.fst hask) hkind).run
          rw [if_pos hkind] at h
          rw [hask] at hrun
          obtain ⟨rfl, rfl⟩ := Prod.mk.inj h
          exact hrun
        · have hrun := (Stop.wrongKind hfind (congrArg Prod.fst hask) hkind).run (I := I)
          rw [if_neg hkind] at h
          rw [hask] at hrun
          obtain ⟨rfl, rfl⟩ := Prod.mk.inj h
          exact hrun

theorem resolveBlobs_run {entries : List Entry} {answer : Except Fault Unit}
    (h : c.resolveBlobs S entries = (answer, c')) : Run S I (faultOf answer) c c' := by
  induction entries generalizing c with
  | nil =>
      obtain ⟨rfl, rfl⟩ := Prod.mk.inj h
      exact .refl _
  | cons e rest ih =>
      simp only [resolveBlobs] at h
      by_cases hkind : e.kind = .blob
      · rw [if_pos hkind] at h
        rcases hblob : c.blobSize S e.id with ⟨fault | size, c₁⟩
        · have hrun := blobSize_run (I := I) hblob
          simp only [hblob] at h
          obtain ⟨rfl, rfl⟩ := Prod.mk.inj h
          exact hrun
        · have hrun := blobSize_run (I := I) hblob
          simp only [hblob] at h
          exact hrun.trans (ih h)
      · rw [if_neg hkind] at h
        exact ih h

theorem survey_run {answer : Except Fault (List Entry)} (hnew : c.trees.find? id = none)
    (h : c.survey S id = (answer, c')) : Run S I (faultOf answer) c c' := by
  unfold survey at h
  rcases hask : c.askTree S id with ⟨fault | data, c₁⟩
  · have hrun := (Stop.tree hnew (congrArg Prod.fst hask)).run (I := I)
    simp only [hask] at h hrun
    obtain ⟨rfl, rfl⟩ := Prod.mk.inj h
    exact hrun
  · have hrun := (Move.tree (I := I) hnew (congrArg Prod.fst hask)).run
    simp only [hask] at h hrun
    rcases hblobs : c₁.resolveBlobs S (Tree.decode data).entries with ⟨fault | ⟨⟩, c₂⟩
    · have hresolved := hrun.trans (resolveBlobs_run (I := I) hblobs)
      simp only [hblobs] at h
      obtain ⟨rfl, rfl⟩ := Prod.mk.inj h
      exact hresolved
    · have hresolved := hrun.trans (resolveBlobs_run (I := I) hblobs)
      simp only [hblobs] at h
      cases hfault : (Tree.decode data).fault with
      | some cause =>
          simp only [hfault] at h
          obtain ⟨rfl, rfl⟩ := Prod.mk.inj h
          exact hresolved.trans (Stop.malformed _ cause).run
      | none =>
          simp only [hfault] at h
          obtain ⟨rfl, rfl⟩ := Prod.mk.inj h
          exact hresolved

/-- What is recorded after a survey is recorded from the payload that it read. -/
theorem survey_record_run {entries : List Entry} {size : TreeSize} (hI : I c.store)
    (hnew : c.trees.find? id = none) (h : c.survey S id = (.ok entries, c'))
    (hfold : c'.fold? entries = some size) : Run S I none c (c'.recordTree id size) := by
  obtain ⟨-, htrees, -, -, hall⟩ := survey_spec h
  obtain ⟨⟨data, hread, hdecode⟩, -⟩ := hall entries rfl
  exact (survey_run hnew h).move (.record hI (by rw [htrees, hnew]) hread hdecode hfold)

/-- The ways a round can end, by what the survey of the tree on top finds. -/
inductive RoundEnd (S : Store σ) (id : ObjectId) (c : Census σ) :
    Except Fault Unit × Census σ → Prop
  | recorded (hrecorded : (c.trees.find? id).isSome) : RoundEnd S id c (.ok (), c.pop)
  | unread {fault : Fault} {c₁ : Census σ} (hnew : c.trees.find? id = none)
      (hsurvey : c.survey S id = (.error fault, c₁)) (pending : List ObjectId) :
      RoundEnd S id c (.error fault, c₁.withStack pending c.notes)
  | waits {entries : List Entry} {c₁ : Census σ} (hnew : c.trees.find? id = none)
      (hsurvey : c.survey S id = (.ok entries, c₁)) (hmissing : c₁.unrecorded entries ≠ [])
      (notes : List Note) :
      RoundEnd S id c
        (.ok (), c₁.withStack ((c₁.unrecorded entries).reverse ++ c.pending.ids) notes)
  | sized {entries : List Entry} {size : TreeSize} {c₁ : Census σ}
      (hnew : c.trees.find? id = none) (hsurvey : c.survey S id = (.ok entries, c₁))
      (hfold : c₁.fold? entries = some size) :
      RoundEnd S id c (.ok (), (c₁.recordTree id size).withStack c.pending.ids.tail c.notes)

theorem roundEnd (S : Store σ) (id : ObjectId) (c : Census σ) :
    RoundEnd S id c (c.round S id) := by
  cases hfind : c.trees.find? id with
  | some size =>
      rw [round, if_pos (by simp [hfind])]
      exact .recorded (by simp [hfind])
  | none =>
      rcases hsurvey : c.survey S id with ⟨fault | entries, c₁⟩
      · obtain ⟨pending', hround⟩ := round_of_survey_error c.pending.ids c.notes hfind hsurvey
        rw [withStack_self] at hround
        rw [hround]
        exact .unread hfind hsurvey pending'
      · by_cases hmissing : c₁.unrecorded entries = []
        · obtain ⟨size, hsize⟩ :=
            Option.isSome_iff_exists.mp (fold?_isSome_of_survey hsurvey hmissing)
          have hattempt := (attempt_of_survey_ok hsurvey c.pending.ids c.notes).1 hmissing
          rw [withStack_self, hsize] at hattempt
          have hend : RoundEnd S id c
              (.ok (), (c₁.recordTree id size).withStack c.pending.ids.tail c.notes) :=
            .sized hfind hsurvey hsize
          rw [round, if_neg (by simp [hfind]), hattempt]
          exact hend
        · obtain ⟨notes', hround⟩ :=
            round_of_survey_waits c.pending.ids c.notes hfind hsurvey hmissing
          rw [withStack_self] at hround
          rw [hround]
          exact .waits hfind hsurvey hmissing notes'

theorem round_run {answer : Except Fault Unit} (hI : I c.store)
    (h : c.round S id = (answer, c')) : Run S I (faultOf answer) c c' := by
  have hend := roundEnd S id c
  rw [h] at hend
  cases hend with
  | recorded => exact (Move.stack c c.pending.ids.tail c.notes).run
  | unread hnew hsurvey pending => exact (survey_run hnew hsurvey).withStack pending _
  | waits hnew hsurvey _ notes => exact (survey_run hnew hsurvey).withStack _ notes
  | sized hnew hsurvey hfold => exact (survey_record_run hI hnew hsurvey hfold).withStack _ _

/-- A round that succeeds loses no tree from the stack before it has a record. -/
theorem round_pending {rest : List ObjectId} (hpending : c.pending.ids = id :: rest)
    (h : c.round S id = (.ok (), c')) {u : ObjectId} (hu : u ∈ c.pending.ids) :
    (c'.trees.find? u).isSome ∨ u ∈ c'.pending.ids := by
  have hend := roundEnd S id c
  rw [h] at hend
  rw [hpending] at hu
  cases hend with
  | recorded hrecorded =>
      rcases List.mem_cons.mp hu with rfl | hu
      · exact .inl hrecorded
      · exact .inr (by simpa [pop, hpending] using hu)
  | waits => exact .inr (by simp [hpending, List.mem_cons.mp hu])
  | sized =>
      rcases List.mem_cons.mp hu with rfl | hu
      · exact .inl (by simp [recordTree])
      · exact .inr (by simpa [hpending] using hu)

/-! ## Working through the stack -/

/-- One round of work that succeeds, on the tree on top of the stack. -/
def Round (S : Store σ) (c c' : Census σ) : Prop :=
  ∃ id rest, c.pending.ids = id :: rest ∧ c.round S id = (.ok (), c')

/-- The ways that work can end, by its first round. -/
theorem work_cases {rounds : Nat} {answer : Except Fault Unit}
    (h : c.work S rounds = some (answer, c')) :
    (c.pending.ids = [] ∧ answer = .ok () ∧ c' = c) ∨
    (∃ fault id rest, c.pending.ids = id :: rest ∧ answer = .error fault ∧
      c.round S id = (.error fault, c')) ∨
    ∃ c₁ rounds', rounds' < rounds ∧ Round S c c₁ ∧ c₁.work S rounds' = some (answer, c') := by
  unfold work at h
  cases hids : c.pending.ids with
  | nil =>
      simp only [hids, Option.some.injEq, Prod.mk.injEq] at h
      exact .inl ⟨rfl, h.1.symm, h.2.symm⟩
  | cons id rest =>
      cases rounds with
      | zero => simp [hids] at h
      | succ rounds =>
          simp only [hids] at h
          rcases hround : c.round S id with ⟨fault | ⟨⟩, c₁⟩
          · simp only [hround, Option.some.injEq, Prod.mk.injEq] at h
            obtain ⟨rfl, rfl⟩ := h
            exact .inr (.inl ⟨fault, id, rest, rfl, rfl, hround⟩)
          · simp only [hround] at h
            exact .inr (.inr ⟨c₁, rounds, Nat.lt_succ_self _, ⟨id, rest, hids, hround⟩, h⟩)

theorem work_run {rounds : Nat} {answer : Except Fault Unit} (hS : S.Keeps I)
    (hI : I c.store) (h : c.work S rounds = some (answer, c')) :
    Run S I (faultOf answer) c c' := by
  induction rounds using Nat.strong_induction_on generalizing c with
  | _ rounds ih =>
      rcases work_cases h with ⟨-, rfl, rfl⟩ | ⟨fault, id, rest, -, rfl, hround⟩ |
        ⟨c₁, rounds', hlt, ⟨id, rest, -, hround⟩, hwork⟩
      · exact .refl _
      · exact round_run hI hround
      · have hrun := round_run hI hround
        exact hrun.trans (ih rounds' hlt (hrun.keeps hS hI) hwork)

/-- Work that succeeds leaves the stack empty and every tree that stood on it recorded. -/
theorem work_pending {rounds : Nat} (h : c.work S rounds = some (.ok (), c')) :
    c'.pending.ids = [] ∧ ∀ u ∈ c.pending.ids, (c'.trees.find? u).isSome := by
  induction rounds using Nat.strong_induction_on generalizing c with
  | _ rounds ih =>
      rcases work_cases h with ⟨hempty, -, rfl⟩ | ⟨fault, id, rest, -, hanswer, -⟩ |
        ⟨c₁, rounds', hlt, ⟨id, rest, hpending, hround⟩, hwork⟩
      · exact ⟨hempty, by simp [hempty]⟩
      · cases hanswer
      · obtain ⟨hempty, hall⟩ := ih rounds' hlt hwork
        refine ⟨hempty, fun u hu => ?_⟩
        rcases round_pending hpending hround hu with hrecorded | hwaiting
        · have hkept : c₁.KeptIn c' :=
            (work_run (I := fun _ => True) ⟨fun _ _ => trivial, fun _ _ => trivial⟩
              trivial hwork).keptIn
          exact hkept.trees.isSome hrecorded
        · exact hall u hwaiting

/-- The ways that sizing a tree can end. -/
inductive TreeEnd (S : Store σ) (rounds : Nat) (id : ObjectId) (c : Census σ) :
    Except Fault TreeSize × Census σ → Prop
  | recorded {size : TreeSize} (hrecorded : c.trees.find? id = some size) :
      TreeEnd S rounds id c (.ok size, c)
  | failed {fault : Fault} {c₁ : Census σ} (hnew : c.trees.find? id = none)
      (hwork : (c.push id).work S rounds = some (.error fault, c₁)) (notes : List Note) :
      TreeEnd S rounds id c (.error fault, c₁.withStack [] notes)
  | sized {size : TreeSize} {c₁ : Census σ} (hnew : c.trees.find? id = none)
      (hwork : (c.push id).work S rounds = some (.ok (), c₁))
      (hsize : c₁.trees.find? id = some size) : TreeEnd S rounds id c (.ok size, c₁)

theorem treeEnd {rounds : Nat} {result : Except Fault TreeSize × Census σ}
    (h : c.treeSize S rounds id = some result) : TreeEnd S rounds id c result := by
  unfold treeSize at h
  cases hfind : c.trees.find? id with
  | some size =>
      simp only [hfind, Option.some.injEq] at h
      exact h ▸ .recorded hfind
  | none =>
      simp only [hfind] at h
      rcases hwork : (c.push id).work S rounds with _ | ⟨fault | ⟨⟩, c₁⟩
      · simp [hwork] at h
      · simp only [hwork, Option.some.injEq] at h
        exact h ▸ .failed hfind hwork _
      · have hrecorded := (work_pending hwork).2 id (by simp [push, Pending.push])
        obtain ⟨size, hsize⟩ := Option.isSome_iff_exists.mp hrecorded
        simp only [hwork, hsize, Option.some.injEq] at h
        exact h ▸ .sized hfind hwork hsize

theorem treeSize_run {rounds : Nat} {answer : Except Fault TreeSize} (hS : S.Keeps I)
    (hI : I c.store) (h : c.treeSize S rounds id = some (answer, c')) :
    Run S I (faultOf answer) c c' := by
  have hpush : Run S I none c (c.push id) := (Move.stack c (id :: c.pending.ids) c.notes).run
  have hpushed : I (c.push id).store := hI
  have hend := treeEnd h
  cases hend with
  | recorded => exact .refl c
  | failed _ hwork notes => exact (hpush.trans (work_run hS hpushed hwork)).withStack [] notes
  | sized _ hwork _ => exact hpush.trans (work_run hS hpushed hwork)

end Census

end GitCensus
