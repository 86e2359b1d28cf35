import GitCensus.Proofs.Census.Records
/-!
# Reading a tree once

One reading of a tree, described without the work stack: the payload is asked for,
the blobs among its entries are resolved in order, and a malformed payload is
refused.  An attempt of the census is such a survey followed by one of two ends.
Either all subtrees have records and the statistics are folded from records alone,
or the subtrees without a record are put on the stack.
-/

namespace GitCensus.Census

variable {σ : Type} {S : Store σ} {c c' : Census σ}

/-- Resolves the blobs among entries in order, up to the first failure. -/
def resolveBlobs (S : Store σ) : List Entry → Census σ → Except Fault Unit × Census σ
  | [], c => (.ok (), c)
  | e :: rest, c =>
    if e.kind = .blob then
      match c.blobSize S e.id with
      | (.error fault, c) => (.error fault, c)
      | (.ok _, c) => resolveBlobs S rest c
    else resolveBlobs S rest c

/-- Reads a tree once: its entries, with all blobs among them resolved. -/
def survey (S : Store σ) (id : ObjectId) (c : Census σ) :
    Except Fault (List Entry) × Census σ :=
  match c.askTree S id with
  | (.error fault, c) => (.error fault, c)
  | (.ok data, c) =>
    match c.resolveBlobs S (Tree.decode data).entries with
    | (.error fault, c) => (.error fault, c)
    | (.ok (), c) =>
      match (Tree.decode data).fault with
      | some cause => (.error (.malformedTree cause), c)
      | none => (.ok (Tree.decode data).entries, c)

theorem askHeader_eq (id : ObjectId) :
    c.askHeader S id =
      ((S.readHeader id c.store).1, { c with store := (S.readHeader id c.store).2 }) := rfl

theorem askTree_spec {id : ObjectId} {answer : Except Fault Bytes}
    (h : c.askTree S id = (answer, c')) :
    (S.readTree id c.store).1 = answer ∧ c' = { c with store := (S.readTree id c.store).2 } := by
  obtain ⟨rfl, rfl⟩ := Prod.mk.inj h
  exact ⟨rfl, rfl⟩

theorem askTree_withStack (id : ObjectId) (pending : List ObjectId) (notes : List Note) :
    (c.withStack pending notes).askTree S id =
      ((c.askTree S id).1, (c.askTree S id).2.withStack pending notes) := rfl

theorem blobSize_of_recorded {id : ObjectId} {size : BlobSize}
    (h : c.blobs.find? id = some size) : c.blobSize S id = (.ok size, c) := by
  simp only [blobSize, h]

theorem blobSize_of_unrecorded {id : ObjectId} (h : c.blobs.find? id = none) :
    c.blobSize S id =
      match c.askHeader S id with
      | (.error fault, c') => (.error fault, c')
      | (.ok header, c') =>
        if header.kind = .blob then
          (.ok (BlobSize.ofHeader header.size), c'.recordBlob id header.size)
        else (.error (.wrongKind id header.kind.name ObjectKind.blob.name), c') := by
  unfold blobSize
  rcases c.askHeader S id with ⟨fault | header, c'⟩ <;> simp [h]

theorem blobSize_withStack (id : ObjectId) (pending : List ObjectId) (notes : List Note) :
    (c.withStack pending notes).blobSize S id =
      ((c.blobSize S id).1, (c.blobSize S id).2.withStack pending notes) := by
  cases hfind : c.blobs.find? id with
  | some size =>
      have hfind' : (c.withStack pending notes).blobs.find? id = some size := hfind
      rw [blobSize_of_recorded hfind, blobSize_of_recorded hfind']
  | none =>
      rw [blobSize_of_unrecorded hfind, blobSize_of_unrecorded (by simpa using hfind),
        askHeader_eq, askHeader_eq, withStack_store]
      cases (S.readHeader id c.store).1 with
      | error fault => rfl
      | ok header =>
          by_cases hkind : header.kind = .blob
          · simp only [if_pos hkind]
            rfl
          · simp only [if_neg hkind]
            rfl

/-- Looking up a blob changes no tree; a blob that has a size is recorded with it. -/
theorem blobSize_spec {id : ObjectId} {answer : Except Fault BlobSize}
    (h : c.blobSize S id = (answer, c')) :
    c.KeptIn c' ∧ c'.trees = c.trees ∧ c'.pending = c.pending ∧ c'.notes = c.notes ∧
      ∀ size, answer = .ok size → c'.blobs.find? id = some size := by
  cases hfind : c.blobs.find? id with
  | some size =>
      rw [blobSize_of_recorded hfind] at h
      obtain ⟨rfl, rfl⟩ := Prod.mk.inj h
      exact ⟨.refl _, rfl, rfl, rfl, by simp [hfind]⟩
  | none =>
      rw [blobSize_of_unrecorded hfind, askHeader_eq] at h
      cases hanswer : (S.readHeader id c.store).1 with
      | error fault =>
          simp only [hanswer] at h
          obtain ⟨rfl, rfl⟩ := Prod.mk.inj h
          exact ⟨⟨.refl _, .refl _⟩, rfl, rfl, rfl, by simp⟩
      | ok header =>
          simp only [hanswer] at h
          by_cases hkind : header.kind = .blob
          · rw [if_pos hkind] at h
            obtain ⟨rfl, rfl⟩ := Prod.mk.inj h
            refine ⟨⟨Table.keptIn_record hfind, .refl _⟩, rfl, rfl, rfl, ?_⟩
            simp [recordBlob]
          · rw [if_neg hkind] at h
            obtain ⟨rfl, rfl⟩ := Prod.mk.inj h
            exact ⟨⟨.refl _, .refl _⟩, rfl, rfl, rfl, by simp⟩

/-- Resolving blobs changes no tree; if it succeeds, all blobs have records. -/
theorem resolveBlobs_spec {entries : List Entry} {answer : Except Fault Unit}
    (h : c.resolveBlobs S entries = (answer, c')) :
    c.KeptIn c' ∧ c'.trees = c.trees ∧ c'.pending = c.pending ∧ c'.notes = c.notes ∧
      (answer = .ok () → ∀ e ∈ entries, e.kind = .blob → (c'.blobs.find? e.id).isSome) := by
  induction entries generalizing c with
  | nil =>
      obtain ⟨rfl, rfl⟩ := Prod.mk.inj h
      exact ⟨.refl _, rfl, rfl, rfl, by simp⟩
  | cons e rest ih =>
      simp only [resolveBlobs] at h
      by_cases hkind : e.kind = .blob
      · simp only [hkind, if_true] at h
        rcases hblob : c.blobSize S e.id with ⟨fault | size, c₁⟩
        · simp only [hblob, Prod.mk.injEq] at h
          obtain ⟨rfl, rfl⟩ := h
          obtain ⟨hkept, htrees, hpending, hnotes, -⟩ := blobSize_spec hblob
          exact ⟨hkept, htrees, hpending, hnotes, by simp⟩
        · simp only [hblob] at h
          obtain ⟨hkept, htrees, hpending, hnotes, hsize⟩ := blobSize_spec hblob
          obtain ⟨hkept', htrees', hpending', hnotes', hrest⟩ := ih h
          refine ⟨hkept.trans hkept', htrees'.trans htrees, hpending'.trans hpending,
            hnotes'.trans hnotes, fun hok => ?_⟩
          refine List.forall_mem_cons.mpr ⟨fun _ => ?_, hrest hok⟩
          exact hkept'.blobs.isSome (by rw [hsize size rfl]; rfl)
      · simp only [hkind, if_false] at h
        obtain ⟨hkept, htrees, hpending, hnotes, hrest⟩ := ih h
        refine ⟨hkept, htrees, hpending, hnotes, fun hok => ?_⟩
        exact List.forall_mem_cons.mpr ⟨fun hblob => absurd hblob hkind, hrest hok⟩

theorem resolveBlobs_of_recorded {entries : List Entry}
    (h : ∀ e ∈ entries, e.kind = .blob → (c.blobs.find? e.id).isSome) :
    c.resolveBlobs S entries = (.ok (), c) := by
  induction entries with
  | nil => rfl
  | cons e rest ih =>
      have hrest := ih fun e' he' => h e' (by simp [he'])
      simp only [resolveBlobs]
      by_cases hkind : e.kind = .blob
      · obtain ⟨size, hsize⟩ := Option.isSome_iff_exists.mp (h e (by simp) hkind)
        simp only [hkind, if_true, blobSize_of_recorded hsize, hrest]
      · simp only [hkind, if_false, hrest]

/-! ## Attempts as surveys -/

/-- What reading further entries has made of a scan, in a state where all blobs among
them have records. -/
structure Scanned (c : Census σ) (entries : List Entry) (s s' : Scan) : Prop where
  waiting : s'.waiting = (s.waiting || !(c.unrecorded entries).isEmpty)
  gathered : s'.waiting = false → ∃ cs,
    Entry.contributions? c.blobs.find? c.trees.find? entries = some cs ∧
      s'.gathered = cs.foldl TreeSize.add s.gathered

theorem Scanned.nil (s : Scan) : Scanned c [] s s :=
  ⟨by simp [unrecorded, Entry.subtrees], fun _ => ⟨[], rfl, rfl⟩⟩

theorem Scanned.cons_of_waiting {e : Entry} {rest : List Entry} {s s' : Scan}
    (hkind : e.kind = .tree) (hnew : c.trees.find? e.id = none)
    (h : Scanned c rest { s with waiting := true } s') : Scanned c (e :: rest) s s' := by
  refine ⟨?_, fun hwaiting => ?_⟩
  · rw [unrecorded_cons_of_tree hkind hnew, h.waiting]
    simp
  · rw [h.waiting] at hwaiting
    simp at hwaiting

theorem Scanned.cons_of_contribution {e : Entry} {rest : List Entry} {s s' : Scan}
    {contribution : Contribution}
    (hcontribution : e.contribution? c.blobs.find? c.trees.find? = some contribution)
    (h : Scanned c rest (s.add contribution) s') : Scanned c (e :: rest) s s' := by
  have hknown := Entry.contribution?_isSome_iff.mp (by rw [hcontribution]; rfl)
  have hadd : (s.add contribution).waiting = s.waiting := by
    cases hwaiting : s.waiting <;> simp [Scan.add, hwaiting]
  refine ⟨?_, fun hwaiting => ?_⟩
  · rw [unrecorded_cons_of_recorded hknown.1, h.waiting, hadd]
  · obtain ⟨cs, hcs, hgathered⟩ := h.gathered hwaiting
    have hready : s.waiting = false := by
      rw [h.waiting, hadd, Bool.or_eq_false_iff] at hwaiting
      exact hwaiting.1
    refine ⟨contribution :: cs, ?_, ?_⟩
    · exact Entry.contributions?_cons_eq_some_iff.mpr ⟨_, _, hcontribution, hcs, rfl⟩
    · rw [hgathered]
      simp [Scan.add, hready]

theorem scanEntry_of_missing {e : Entry} (hkind : e.kind = .tree)
    (hnew : c.trees.find? e.id = none) (s : Scan) :
    scanEntry S e s c = (.ok { s with waiting := true }, c.push e.id) := by
  simp only [scanEntry, hkind, hnew]

theorem scanEntry_of_contribution {e : Entry} {contribution : Contribution}
    (hkind : e.kind ≠ .blob)
    (h : e.contribution? c.blobs.find? c.trees.find? = some contribution) (s : Scan) :
    scanEntry S e s c = (.ok (s.add contribution), c) := by
  unfold Entry.contribution? at h
  unfold scanEntry
  cases hcase : e.kind with
  | tree =>
      simp only [hcase, Option.map_eq_some_iff] at h ⊢
      obtain ⟨size, hsize, rfl⟩ := h
      rw [hsize]
  | submodule => simp_all
  | link => simp_all
  | blob => exact absurd hcase hkind

theorem entry_cases (c : Census σ) (e : Entry) :
    (e.kind = .tree ∧ c.trees.find? e.id = none) ∨ e.kind = .blob ∨
      (e.kind ≠ .blob ∧ ∃ contribution,
        e.contribution? c.blobs.find? c.trees.find? = some contribution) := by
  by_cases hblob : e.kind = .blob
  · exact .inr (.inl hblob)
  · by_cases hknown : e.kind = .tree → (c.trees.find? e.id).isSome
    · refine .inr (.inr ⟨hblob, Option.isSome_iff_exists.mp ?_⟩)
      exact Entry.contribution?_isSome_iff.mpr ⟨hknown, fun h => absurd h hblob⟩
    · simp only [Classical.not_imp, Bool.not_eq_true, Option.isSome_eq_false_iff,
        Option.isNone_iff_eq_none] at hknown
      exact .inl hknown

theorem scanEntries_error {entries : List Entry} {fault : Fault}
    (h : c.resolveBlobs S entries = (.error fault, c')) (s : Scan)
    (pending : List ObjectId) (notes : List Note) :
    ∃ pending', scanEntries S entries s (c.withStack pending notes) =
      (.error fault, c'.withStack pending' notes) := by
  induction entries generalizing c s pending with
  | nil => simp [resolveBlobs] at h
  | cons e rest ih =>
      simp only [resolveBlobs] at h
      rw [scanEntries]
      rcases entry_cases (c.withStack pending notes) e with
        ⟨hkind, hnew⟩ | hkind | ⟨hkind, contribution, hknown⟩
      · rw [if_neg (by simp [hkind])] at h
        rw [scanEntry_of_missing hkind hnew]
        exact ih h _ _
      · rw [if_pos hkind] at h
        simp only [scanEntry, hkind, blobSize_withStack]
        rcases hblob : c.blobSize S e.id with ⟨fault' | size, c₁⟩
        · simp only [hblob, Prod.mk.injEq, Except.error.injEq] at h
          obtain ⟨rfl, rfl⟩ := h
          exact ⟨pending, rfl⟩
        · simp only [hblob] at h
          exact ih h _ _
      · rw [if_neg hkind] at h
        rw [scanEntry_of_contribution hkind hknown]
        exact ih h _ _

/-- A scan that succeeds puts the subtrees without a record on the stack. -/
theorem scanEntries_ok {entries : List Entry}
    (h : c.resolveBlobs S entries = (.ok (), c')) (s : Scan)
    (pending : List ObjectId) (notes : List Note) :
    ∃ s', scanEntries S entries s (c.withStack pending notes) =
        (.ok s', c'.withStack ((c.unrecorded entries).reverse ++ pending) notes) ∧
      Scanned c' entries s s' := by
  induction entries generalizing c s pending with
  | nil =>
      obtain ⟨-, rfl⟩ := Prod.mk.inj h
      exact ⟨s, rfl, .nil s⟩
  | cons e rest ih =>
      simp only [resolveBlobs] at h
      rw [scanEntries]
      rcases entry_cases (c.withStack pending notes) e with
        ⟨hkind, hnew⟩ | hkind | ⟨hkind, contribution, hknown⟩
      · rw [if_neg (by simp [hkind])] at h
        rw [scanEntry_of_missing hkind hnew]
        rw [withStack_trees] at hnew
        have htrees := (resolveBlobs_spec h).2.1
        obtain ⟨s', hscan, hscanned⟩ := ih h { s with waiting := true } (e.id :: pending)
        refine ⟨s', ?_, .cons_of_waiting hkind (by rw [htrees, hnew]) hscanned⟩
        rw [unrecorded_cons_of_tree hkind hnew]
        simpa using hscan
      · rw [if_pos hkind] at h
        simp only [scanEntry, hkind, blobSize_withStack]
        rcases hblob : c.blobSize S e.id with ⟨fault | size, c₁⟩
        · simp [hblob] at h
        · simp only [hblob] at h
          obtain ⟨-, htrees, -, -, hsize⟩ := blobSize_spec hblob
          have hkept := (resolveBlobs_spec h).1.blobs
          obtain ⟨s', hscan, hscanned⟩ := ih h (s.add (.blob e.name size.size)) pending
          refine ⟨s', ?_, .cons_of_contribution ?_ hscanned⟩
          · rw [unrecorded_cons_of_recorded (by simp [hkind]), ← unrecorded_congr htrees]
            exact hscan
          · simp [Entry.contribution?, hkind, hkept _ _ (hsize size rfl)]
      · rw [if_neg hkind] at h
        have hkept := (resolveBlobs_spec h).1
        obtain ⟨s', hscan, hscanned⟩ := ih h (s.add contribution) pending
        refine ⟨s', ?_, .cons_of_contribution ?_ hscanned⟩
        · have hrecorded := Entry.contribution?_isSome_iff.mp (by rw [hknown]; rfl)
          rw [scanEntry_of_contribution hkind hknown,
            unrecorded_cons_of_recorded (by simpa using hrecorded.1)]
          exact hscan
        · exact Entry.contribution?_mono (fun _ => hkept.blobs _) (fun _ => hkept.trees _) hknown

/-- A survey changes no tree; one that succeeds has read the whole payload, and all
blobs in it have records. -/
theorem survey_spec {id : ObjectId} {answer : Except Fault (List Entry)}
    (h : c.survey S id = (answer, c')) :
    c.KeptIn c' ∧ c'.trees = c.trees ∧ c'.pending = c.pending ∧ c'.notes = c.notes ∧
      ∀ entries, answer = .ok entries →
        (∃ data, (S.readTree id c.store).1 = .ok data ∧ Tree.decode data = ⟨entries, none⟩) ∧
        ∀ e ∈ entries, e.kind = .blob → (c'.blobs.find? e.id).isSome := by
  unfold survey at h
  rcases hask : c.askTree S id with ⟨fault | data, c₁⟩
  · obtain ⟨hread, rfl⟩ := askTree_spec hask
    simp only [hask] at h
    obtain ⟨rfl, rfl⟩ := Prod.mk.inj h
    exact ⟨⟨.refl _, .refl _⟩, rfl, rfl, rfl, by simp⟩
  · obtain ⟨hread, rfl⟩ := askTree_spec hask
    simp only [hask] at h
    rcases hblobs : resolveBlobs S (Tree.decode data).entries
      { c with store := (S.readTree id c.store).2 } with ⟨fault | ⟨⟩, c₁⟩
    · simp only [hblobs] at h
      obtain ⟨rfl, rfl⟩ := Prod.mk.inj h
      obtain ⟨hkept, htrees, hpending, hnotes, -⟩ := resolveBlobs_spec hblobs
      exact ⟨⟨hkept.blobs, hkept.trees⟩, htrees, hpending, hnotes, by simp⟩
    · simp only [hblobs] at h
      obtain ⟨hkept, htrees, hpending, hnotes, hall⟩ := resolveBlobs_spec hblobs
      cases hfault : (Tree.decode data).fault with
      | some cause =>
          simp only [hfault] at h
          obtain ⟨rfl, rfl⟩ := Prod.mk.inj h
          exact ⟨⟨hkept.blobs, hkept.trees⟩, htrees, hpending, hnotes, by simp⟩
      | none =>
          simp only [hfault] at h
          obtain ⟨rfl, rfl⟩ := Prod.mk.inj h
          refine ⟨⟨hkept.blobs, hkept.trees⟩, htrees, hpending, hnotes, ?_⟩
          rintro entries hentries
          obtain rfl := Except.ok.inj hentries
          exact ⟨⟨data, hread, by rw [← hfault]⟩, hall rfl⟩

theorem fold?_isSome_of_survey {id : ObjectId} {entries : List Entry}
    (h : c.survey S id = (.ok entries, c')) (hnone : c'.unrecorded entries = []) :
    (c'.fold? entries).isSome := by
  obtain ⟨-, -, -, -, hall⟩ := survey_spec h
  have hblobs := (hall entries rfl).2
  exact TreeSize.ofEntries?_isSome_iff.mpr fun e he =>
    ⟨unrecorded_eq_nil_iff.mp hnone e he, hblobs e he⟩

theorem attempt_of_survey_error {id : ObjectId} {fault : Fault}
    (h : c.survey S id = (.error fault, c')) (pending : List ObjectId) (notes : List Note) :
    ∃ pending', (c.withStack pending notes).attempt S id =
      (.error fault, c'.withStack pending' notes) := by
  unfold survey at h
  simp only [attempt, askTree_withStack]
  rcases hask : c.askTree S id with ⟨fault' | data, c₁⟩
  · simp only [hask, Prod.mk.injEq, Except.error.injEq] at h
    obtain ⟨rfl, rfl⟩ := h
    exact ⟨pending, rfl⟩
  · simp only [hask] at h
    rcases hblobs : c₁.resolveBlobs S (Tree.decode data).entries with ⟨fault' | ⟨⟩, c₂⟩
    · simp only [hblobs, Prod.mk.injEq, Except.error.injEq] at h
      obtain ⟨rfl, rfl⟩ := h
      obtain ⟨pending', hscan⟩ := scanEntries_error hblobs {} pending notes
      exact ⟨pending', by simp only [hscan]⟩
    · simp only [hblobs] at h
      obtain ⟨s', hscan, -⟩ := scanEntries_ok hblobs {} pending notes
      cases hfault : (Tree.decode data).fault with
      | none => simp [hfault] at h
      | some cause =>
          simp only [hfault, Prod.mk.injEq, Except.error.injEq] at h
          obtain ⟨rfl, rfl⟩ := h
          exact ⟨_, by simp only [hscan, hfault]; rfl⟩

/-- An attempt whose survey succeeds either delivers the fold of the records, or puts
the subtrees without a record on the stack, the last one on top. -/
theorem attempt_of_survey_ok {id : ObjectId} {entries : List Entry}
    (h : c.survey S id = (.ok entries, c')) (pending : List ObjectId) (notes : List Note) :
    (c'.unrecorded entries = [] → (c.withStack pending notes).attempt S id =
      (.ok (c'.fold? entries), c'.withStack pending notes)) ∧
    (c'.unrecorded entries ≠ [] → (c.withStack pending notes).attempt S id =
      (.ok none, c'.withStack ((c'.unrecorded entries).reverse ++ pending)
        (.waits id ((c'.unrecorded entries).reverse ++ pending).length :: notes))) := by
  unfold survey at h
  simp only [attempt, askTree_withStack]
  rcases hask : c.askTree S id with ⟨fault | data, c₁⟩
  · simp [hask] at h
  · simp only [hask] at h
    rcases hblobs : c₁.resolveBlobs S (Tree.decode data).entries with ⟨fault | ⟨⟩, c₂⟩
    · simp [hblobs] at h
    · simp only [hblobs] at h
      obtain ⟨s', hscan, hscanned⟩ := scanEntries_ok hblobs {} pending notes
      cases hfault : (Tree.decode data).fault with
      | some cause => simp [hfault] at h
      | none =>
          simp only [hfault, Prod.mk.injEq, Except.ok.injEq] at h
          obtain ⟨rfl, rfl⟩ := h
          rw [← unrecorded_congr (resolveBlobs_spec hblobs).2.1] at hscan
          simp only [hscan, hfault]
          refine ⟨fun hnone => ?_, fun hmissing => ?_⟩
          · have hready : s'.waiting = false := by simp [hscanned.waiting, hnone]
            obtain ⟨cs, hcs, hgathered⟩ := hscanned.gathered hready
            simp only [hready, Bool.false_eq_true, if_false, hnone, fold?,
              TreeSize.ofEntries?, hcs, hgathered]
            rfl
          · have hwaiting : s'.waiting = true := by simp [hscanned.waiting, hmissing]
            rw [if_pos hwaiting]
            rfl

/-! ## Rounds as surveys -/

section Round

variable {id : ObjectId} {entries : List Entry} (pending : List ObjectId) (notes : List Note)

theorem unrecorded_eq_nil_of_fold? {size : TreeSize} (h : c.fold? entries = some size) :
    c.unrecorded entries = [] :=
  unrecorded_eq_nil_iff.mpr fun e he =>
    (TreeSize.ofEntries?_isSome_iff.mp (by rw [← fold?, h]; rfl) e he).1

theorem round_of_recorded (h : (c.trees.find? id).isSome) :
    (c.withStack (id :: pending) notes).round S id = (.ok (), c.withStack pending notes) := by
  rw [round, withStack_trees, if_pos h, withStack_pop]

theorem round_of_survey_error {fault : Fault} (hnew : c.trees.find? id = none)
    (h : c.survey S id = (.error fault, c')) :
    ∃ pending', (c.withStack pending notes).round S id =
      (.error fault, c'.withStack pending' notes) := by
  obtain ⟨pending', hattempt⟩ := attempt_of_survey_error h pending notes
  refine ⟨pending', ?_⟩
  rw [round, withStack_trees, if_neg (by simp [hnew]), hattempt]

theorem round_of_survey_fold {size : TreeSize} (hnew : c.trees.find? id = none)
    (h : c.survey S id = (.ok entries, c')) (hfold : c'.fold? entries = some size) :
    (c.withStack (id :: pending) notes).round S id =
      (.ok (), (c'.recordTree id size).withStack pending notes) := by
  have hattempt := (attempt_of_survey_ok h (id :: pending) notes).1
    (unrecorded_eq_nil_of_fold? hfold)
  rw [round, withStack_trees, if_neg (by simp [hnew]), hattempt, hfold]
  rfl

theorem round_of_survey_waits (hnew : c.trees.find? id = none)
    (h : c.survey S id = (.ok entries, c')) (hmissing : c'.unrecorded entries ≠ []) :
    ∃ notes', (c.withStack pending notes).round S id =
      (.ok (), c'.withStack ((c'.unrecorded entries).reverse ++ pending) notes') := by
  refine ⟨.waits id ((c'.unrecorded entries).reverse ++ pending).length :: notes, ?_⟩
  rw [round, withStack_trees, if_neg (by simp [hnew]),
    (attempt_of_survey_ok h pending notes).2 hmissing]

end Round

end GitCensus.Census
