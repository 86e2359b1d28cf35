import GitCensus.Proofs.Store.Trees
/-!
# The first fault below a tree

Whether a tree of an object map can be sized, and if not, which fault a depth-first
reading meets first: the tree itself, then its blobs in order, then the end of its
payload, then its subtrees from last to first.  No records are kept, so a subtree is
read once for each entry that names it.
-/

namespace GitCensus.ObjectMap

/-- Resolves the blobs among entries in order, up to the first failure. -/
def resolveBlobs (m : ObjectMap) : List Entry → Except Fault Unit
  | [] => .ok ()
  | e :: rest =>
    if e.kind = .blob then
      match m.blobSize e.id with
      | .error fault => .error fault
      | .ok _ => m.resolveBlobs rest
    else m.resolveBlobs rest

/-- The entries of a tree, or why they cannot be had with all blobs among them. -/
def survey (m : ObjectMap) (id : ObjectId) : Except Fault (List Entry) :=
  match m.readTree id with
  | .error fault => .error fault
  | .ok data =>
    match m.resolveBlobs (Tree.decode data).entries with
    | .error fault => .error fault
    | .ok () =>
      match (Tree.decode data).fault with
      | some cause => .error (.malformedTree cause)
      | none => .ok (Tree.decode data).entries

/-- Probes trees in order, up to the first fault. -/
def probeAll (probe : ObjectId → Option (Except Fault Unit)) :
    List ObjectId → Option (Except Fault Unit)
  | [] => some (.ok ())
  | id :: rest =>
    match probe id with
    | none => none
    | some (.error fault) => some (.error fault)
    | some (.ok ()) => probeAll probe rest

/-- The first fault at or below a tree, if there is one, within a number of levels. -/
def probe (m : ObjectMap) : Nat → ObjectId → Option (Except Fault Unit)
  | 0, _ => none
  | levels + 1, id =>
    match m.survey id with
    | .error fault => some (.error fault)
    | .ok entries => probeAll (m.probe levels) (Entry.subtrees entries).reverse

/-- How sizing a tree of the map ends. -/
def Outcome (m : ObjectMap) (id : ObjectId) : Except Fault TreeSize → Prop
  | .ok size => ∃ levels, m.sizeWithin levels id = some size
  | .error fault => ∃ levels, m.probe levels id = some (.error fault)

variable {m : ObjectMap} {id : ObjectId}

theorem resolveBlobs_isOk {entries : List Entry} :
    m.resolveBlobs entries = .ok () ↔
      ∀ e ∈ entries, e.kind = .blob → (m.blobSize e.id).toOption.isSome := by
  induction entries with
  | nil => simp [resolveBlobs]
  | cons e rest ih =>
      rw [List.forall_mem_cons, ← ih, resolveBlobs]
      by_cases hkind : e.kind = .blob
      · cases m.blobSize e.id <;> simp [hkind, Except.toOption]
      · simp [hkind]

theorem survey_eq_ok_iff {entries : List Entry} :
    m.survey id = .ok entries ↔ m.entries? id = some entries ∧
      ∀ e ∈ entries, e.kind = .blob → (m.blobSize e.id).toOption.isSome := by
  rw [entries?_eq_some_iff, survey]
  cases m.readTree id with
  | error fault => simp
  | ok data =>
      simp only [Except.ok.injEq, exists_eq_left']
      generalize Tree.decode data = listing
      obtain ⟨es, fault⟩ := listing
      simp only [Tree.Listing.mk.injEq]
      cases hresolved : m.resolveBlobs es with
      | error cause =>
          simp only [reduceCtorEq, false_iff, not_and, and_imp]
          rintro rfl -
          rw [← resolveBlobs_isOk, hresolved]
          simp
      | ok _ =>
          have hall := resolveBlobs_isOk.mp hresolved
          cases fault with
          | some cause => simp
          | none =>
              simp only [Except.ok.injEq, and_true]
              constructor
              · rintro rfl
                exact ⟨rfl, hall⟩
              · exact fun h => h.1

theorem probeAll_cons (f : ObjectId → Option (Except Fault Unit)) (id : ObjectId)
    (rest : List ObjectId) :
    probeAll f (id :: rest) =
      match f id with
      | none => none
      | some (.error fault) => some (.error fault)
      | some (.ok ()) => probeAll f rest := rfl

theorem probeAll_eq_ok_iff {f : ObjectId → Option (Except Fault Unit)} {ids : List ObjectId} :
    probeAll f ids = some (.ok ()) ↔ ∀ id ∈ ids, f id = some (.ok ()) := by
  induction ids with
  | nil => simp [probeAll]
  | cons id rest ih =>
      rw [probeAll_cons, List.forall_mem_cons, ← ih]
      rcases f id with _ | ⟨fault | ⟨⟩⟩ <;> simp

theorem probeAll_mono {f g : ObjectId → Option (Except Fault Unit)} {ids : List ObjectId}
    {answer : Except Fault Unit} (hfg : ∀ id answer, f id = some answer → g id = some answer)
    (h : probeAll f ids = some answer) : probeAll g ids = some answer := by
  induction ids with
  | nil => exact h
  | cons id rest ih =>
      rw [probeAll_cons] at h ⊢
      rcases hf : f id with _ | ⟨fault | ⟨⟩⟩
      · simp [hf] at h
      · simpa [hf, hfg id _ hf] using h
      · simp only [hf] at h
        simpa [hfg id _ hf] using ih h

theorem probe_mono {levels levels' : Nat} {answer : Except Fault Unit}
    (hle : levels ≤ levels') (h : m.probe levels id = some answer) :
    m.probe levels' id = some answer := by
  induction levels generalizing levels' id answer with
  | zero => simp [probe] at h
  | succ levels ih =>
      obtain ⟨levels', rfl⟩ : ∃ k, levels' = k + 1 := ⟨levels' - 1, by omega⟩
      rw [probe] at h ⊢
      cases hsurvey : m.survey id with
      | error fault => simpa [hsurvey] using h
      | ok entries =>
          simp only [hsurvey] at h ⊢
          exact probeAll_mono (fun _ _ hprobe => ih (by omega) hprobe) h

theorem probe_unique {levels levels' : Nat} {answer answer' : Except Fault Unit}
    (h : m.probe levels id = some answer) (h' : m.probe levels' id = some answer') :
    answer = answer' := by
  have hmax := probe_mono (Nat.le_max_left levels levels') h
  rw [probe_mono (Nat.le_max_right levels levels') h'] at hmax
  exact (Option.some.inj hmax).symm

/-- A tree has a size exactly if no fault is found below it. -/
theorem probe_eq_ok_iff {levels : Nat} :
    m.probe levels id = some (.ok ()) ↔ ∃ size, m.sizeWithin levels id = some size := by
  induction levels generalizing id with
  | zero => simp [probe, sizeWithin]
  | succ levels ih =>
      simp only [sizeWithin_succ_eq_some_iff]
      rw [probe]
      cases hsurvey : m.survey id with
      | error fault =>
          simp only [Option.some.injEq, reduceCtorEq, false_iff, not_exists, not_and]
          intro size entries hentries hfold
          have hblobs := fun e he => (TreeSize.ofEntries?_isSome_iff.mp
            (Option.isSome_iff_exists.mpr ⟨size, hfold⟩) e he).2
          rw [survey_eq_ok_iff.mpr ⟨hentries, hblobs⟩] at hsurvey
          cases hsurvey
      | ok entries =>
          obtain ⟨hentries, hblobs⟩ := survey_eq_ok_iff.mp hsurvey
          simp only [probeAll_eq_ok_iff, List.mem_reverse, ih, hentries, Option.some.injEq,
            exists_eq_left']
          rw [← Option.isSome_iff_exists, TreeSize.ofEntries?_isSome_iff]
          constructor
          · intro h e he
            refine ⟨fun hkind => ?_, hblobs e he⟩
            exact Option.isSome_iff_exists.mpr (h e.id (Entry.mem_subtrees.mpr ⟨e, he, hkind, rfl⟩))
          · rintro h u hu
            obtain ⟨e, he, hkind, rfl⟩ := Entry.mem_subtrees.mp hu
            exact Option.isSome_iff_exists.mp ((h e he).1 hkind)

theorem Outcome.unique {answer answer' : Except Fault TreeSize} (h : m.Outcome id answer)
    (h' : m.Outcome id answer') : answer = answer' := by
  rcases answer with fault | size <;> rcases answer' with fault' | size' <;>
    obtain ⟨levels, h⟩ := h <;> obtain ⟨levels', h'⟩ := h'
  · have := probe_unique h h'
    rw [Except.error.inj this]
  · cases probe_unique h (probe_eq_ok_iff.mpr ⟨size', h'⟩)
  · cases probe_unique (probe_eq_ok_iff.mpr ⟨size, h⟩) h'
  · rw [sizeWithin_unique h h']

/-- Below an acyclic tree the probe ends. -/
theorem exists_probe_of_acyclicFrom {t : ObjectId} (h : m.AcyclicFrom t) :
    ∃ levels answer, m.probe levels t = some answer := by
  refine h.induction (P := fun u => ∃ levels answer, m.probe levels u = some answer)
    fun u _ ih => ?_
  cases hsurvey : m.survey u with
  | error fault => exact ⟨1, .error fault, by simp [probe, hsurvey]⟩
  | ok entries =>
      have hentries := (survey_eq_ok_iff.mp hsurvey).1
      obtain ⟨levels, hlevels⟩ := exists_levels_forall (Entry.subtrees entries)
        (P := fun k v => ∃ answer, m.probe k v = some answer)
        (fun hle ⟨answer, hanswer⟩ => ⟨answer, probe_mono hle hanswer⟩)
        (fun v hv => ih v ⟨entries, hentries, hv⟩)
      have hall : ∀ ids : List ObjectId, (∀ v ∈ ids, ∃ answer, m.probe levels v = some answer) →
          ∃ answer, probeAll (m.probe levels) ids = some answer := by
        intro ids hids
        induction ids with
        | nil => exact ⟨.ok (), rfl⟩
        | cons v rest ihrest =>
            obtain ⟨fault | ⟨⟩, hanswer⟩ := hids v (by simp)
            · exact ⟨.error fault, by rw [probeAll_cons, hanswer]⟩
            · obtain ⟨answer, hrest⟩ := ihrest fun w hw => hids w (by simp [hw])
              exact ⟨answer, by rw [probeAll_cons, hanswer]; exact hrest⟩
      obtain ⟨answer, hanswer⟩ := hall (Entry.subtrees entries).reverse
        (fun v hv => hlevels v (List.mem_reverse.mp hv))
      exact ⟨levels + 1, answer, by simp [probe, hsurvey, hanswer]⟩

end GitCensus.ObjectMap
