import GitCensus.Proofs.Census.Visit
/-!
# The work stack follows the recursion

Working through the stack does what the recursive visits of its trees do, request by
request and record by record.  The statement is about a tree on top of an arbitrary
rest of the stack: the rounds spent on it end with the rest untouched, or fail as the
visit fails.
-/

namespace GitCensus.Census

variable {σ : Type} {S : Store σ} {m : ObjectMap} {I J : σ → Prop}
variable {c c' c₁ c₂ : Census σ} {id : ObjectId}

theorem work_empty (rounds : Nat) (notes : List Note) :
    (c.withStack [] notes).work S rounds = some (.ok (), c.withStack [] notes) := by
  unfold work
  rfl

theorem work_zero (rest : List ObjectId) (notes : List Note) :
    (c.withStack (id :: rest) notes).work S 0 = none := by
  unfold work
  rfl

theorem work_succ_of_ok {rest : List ObjectId} {notes : List Note}
    (h : (c.withStack (id :: rest) notes).round S id = (.ok (), c')) (rounds : Nat) :
    (c.withStack (id :: rest) notes).work S (rounds + 1) = c'.work S rounds := by
  rw [work]
  simp only [withStack_pending, h]

theorem work_succ_of_error {rest : List ObjectId} {notes : List Note} {fault : Fault}
    (h : (c.withStack (id :: rest) notes).round S id = (.error fault, c')) (rounds : Nat) :
    (c.withStack (id :: rest) notes).work S (rounds + 1) = some (.error fault, c') := by
  rw [work]
  simp only [withStack_pending, h]

theorem work_mono {rounds : Nat} {result : Except Fault Unit × Census σ}
    (h : c.work S rounds = some result) (more : Nat) :
    c.work S (rounds + more) = some result := by
  induction rounds generalizing c with
  | zero =>
      unfold work at h ⊢
      cases hids : c.pending.ids with
      | nil => simpa [hids] using h
      | cons id rest => simp [hids] at h
  | succ rounds ih =>
      rw [Nat.succ_add]
      unfold work at h ⊢
      cases hids : c.pending.ids with
      | nil => simpa [hids] using h
      | cons id rest =>
          simp only [hids] at h ⊢
          rcases hround : c.round S id with ⟨fault | ⟨⟩, c₁⟩
          · simpa only [hround] using h
          · simp only [hround] at h ⊢
            exact ih h

/-- The work from a state is, up to the rest of the stack, what a visit comes to; where
the visit nests too deep, the work takes at least as many rounds. -/
def Follows (S : Store σ) (start : Census σ) (depth : Nat) (rest : List ObjectId) :
    Option (Except Fault Unit × Census σ) → Prop
  | none => ∀ rounds < depth, start.work S rounds = none
  | some (.error fault, c) => ∃ k pending notes, ∀ n,
      start.work S (k + n) = some (.error fault, c.withStack pending notes)
  | some (.ok (), c) => ∃ k notes, ∀ n,
      start.work S (k + n) = (c.withStack rest notes).work S n

section Follows

variable {start next : Census σ} {depth : Nat} {rest : List ObjectId}
variable {result : Option (Except Fault Unit × Census σ)}

theorem Follows.of_rounds {k : Nat} (hwork : ∀ n, start.work S (k + n) = next.work S n)
    (h : Follows S next depth rest result) : Follows S start depth rest result := by
  rcases result with _ | ⟨fault | ⟨⟩, c⟩
  · intro rounds hlt
    by_contra hne
    obtain ⟨ended, hended⟩ := Option.ne_none_iff_exists'.mp hne
    have hmore := work_mono hended k
    rw [Nat.add_comm, hwork, h rounds hlt] at hmore
    cases hmore
  · obtain ⟨k', pending, notes, hk'⟩ := h
    refine ⟨k + k', pending, notes, fun n => ?_⟩
    rw [Nat.add_assoc, hwork, hk']
  · obtain ⟨k', notes, hk'⟩ := h
    refine ⟨k + k', notes, fun n => ?_⟩
    rw [Nat.add_assoc, hwork, hk']

theorem Follows.of_round (hzero : start.work S 0 = none)
    (hwork : ∀ n, start.work S (n + 1) = next.work S n)
    (h : Follows S next depth rest result) : Follows S start (depth + 1) rest result := by
  have hwork' : ∀ n, start.work S (1 + n) = next.work S n := fun n => by
    rw [Nat.add_comm, hwork]
  have hsame := Follows.of_rounds hwork' h
  rcases result with _ | ⟨fault | ⟨⟩, c⟩
  · intro rounds hlt
    cases rounds with
    | zero => exact hzero
    | succ rounds =>
        rw [hwork]
        exact h rounds (by omega)
  · exact hsame
  · exact hsame

end Follows

theorem visitAll_follows (hS : S.Serves m I J) {depth : Nat}
    (hvisit : ∀ {id : ObjectId} {c : Census σ}, Fit m I c → ∀ rest notes,
      Follows S (c.withStack (id :: rest) notes) depth rest (visit S depth id c))
    {ids : List ObjectId} (hfit : Fit m I c) (rest : List ObjectId)
    (notes : List Note) :
    Follows S (c.withStack (ids ++ rest) notes) depth rest
      (visitAll (visit S depth) ids c) := by
  induction ids generalizing c notes with
  | nil => exact ⟨0, notes, fun n => by rw [Nat.zero_add]; rfl⟩
  | cons id ids ih =>
      have hfirst : Follows S (c.withStack (id :: (ids ++ rest)) notes) depth (ids ++ rest)
          (visit S depth id c) := hvisit hfit (ids ++ rest) notes
      rw [visitAll_cons]
      rcases hresult : visit S depth id c with _ | ⟨fault | ⟨⟩, c₁⟩
      · rw [hresult] at hfirst
        exact hfirst
      · rw [hresult] at hfirst
        exact hfirst
      · rw [hresult] at hfirst
        obtain ⟨k, notes', hk⟩ := hfirst
        have hvisited := visit_visited hS hfit hresult
        exact .of_rounds hk (ih (hvisited.run.fit hS hfit) notes')

/-- The rounds spent on the top of the stack follow the visit of that tree. -/
theorem visit_follows (hS : S.Serves m I J) {depth : Nat} (hfit : Fit m I c)
    (rest : List ObjectId) (notes : List Note) :
    Follows S (c.withStack (id :: rest) notes) depth rest (visit S depth id c) := by
  induction depth generalizing id c rest notes with
  | zero => exact fun rounds hlt => absurd hlt (Nat.not_lt_zero rounds)
  | succ depth ih =>
      -- the first round puts the missing subtrees on the stack, and they are followed
      have hbelow {entries : List Entry} {c₁ : Census σ} (hnew : c.trees.find? id = none)
          (hsurvey : c.survey S id = (.ok entries, c₁))
          (hmissing : c₁.unrecorded entries ≠ []) :
          Follows S (c.withStack (id :: rest) notes) (depth + 1) (id :: rest)
            (visitAll (visit S depth) (c₁.unrecorded entries).reverse c₁) := by
        have hrun : Run S I none c c₁ := survey_run hnew hsurvey
        obtain ⟨notes', hround⟩ :=
          round_of_survey_waits (id :: rest) notes hnew hsurvey hmissing
        refine .of_round (work_zero rest notes) (work_succ_of_ok hround) ?_
        exact visitAll_follows hS ih (hrun.fit hS hfit) (id :: rest) notes'
      have hend := visitEnd hS hfit depth id
      generalize visit S (depth + 1) id c = result at hend ⊢
      cases hend with
      | recorded hrecorded =>
          refine ⟨1, notes, fun n => ?_⟩
          rw [Nat.add_comm, work_succ_of_ok (round_of_recorded rest notes hrecorded)]
      | unread hnew hsurvey =>
          obtain ⟨pending', hround⟩ := round_of_survey_error (id :: rest) notes hnew hsurvey
          refine ⟨1, pending', notes, fun n => ?_⟩
          rw [Nat.add_comm, work_succ_of_error hround]
      | leaf hnew hsurvey hfold =>
          refine ⟨1, notes, fun n => ?_⟩
          rw [Nat.add_comm, work_succ_of_ok (round_of_survey_fold rest notes hnew hsurvey hfold)]
      | tooDeep hnew hsurvey hmissing hdeep =>
          have hfollows := hbelow hnew hsurvey hmissing
          rw [hdeep] at hfollows
          exact hfollows
      | failedBelow hnew hsurvey hmissing hfailed =>
          have hfollows := hbelow hnew hsurvey hmissing
          rw [hfailed] at hfollows
          exact hfollows
      | unreadAgain hnew hsurvey hmissing hdone hnew' hsurvey' =>
          have hfollows := hbelow hnew hsurvey hmissing
          rw [hdone] at hfollows
          obtain ⟨k, notes', hk⟩ := hfollows
          obtain ⟨pending', hround⟩ := round_of_survey_error (id :: rest) notes' hnew' hsurvey'
          refine ⟨k + 1, pending', notes', fun n => ?_⟩
          rw [Nat.add_assoc, hk, Nat.add_comm, work_succ_of_error hround]
      | sized hnew hsurvey hmissing hdone hnew' hsurvey' hfold =>
          have hfollows := hbelow hnew hsurvey hmissing
          rw [hdone] at hfollows
          obtain ⟨k, notes', hk⟩ := hfollows
          have hround := round_of_survey_fold rest notes' hnew' hsurvey' hfold
          refine ⟨k + 1, notes', fun n => ?_⟩
          rw [Nat.add_assoc, hk, Nat.add_comm, work_succ_of_ok hround]

/-! ## Tree sizes -/

theorem treeSize_mono {rounds : Nat} {result : Except Fault TreeSize × Census σ}
    (h : c.treeSize S rounds id = some result) (more : Nat) :
    c.treeSize S (rounds + more) id = some result := by
  unfold treeSize at h ⊢
  cases hfind : c.trees.find? id with
  | some size => simpa only [hfind] using h
  | none =>
      simp only [hfind] at h ⊢
      rcases hwork : (c.push id).work S rounds with _ | ended
      · simp [hwork] at h
      · rw [work_mono hwork more]
        rw [hwork] at h
        exact h

/-- Sizing ends in one way, however many rounds it is allowed. -/
theorem treeSize_unique {rounds rounds' : Nat} {result result' : Except Fault TreeSize × Census σ}
    (h : c.treeSize S rounds id = some result) (h' : c.treeSize S rounds' id = some result') :
    result = result' := by
  have hmore := treeSize_mono h rounds'
  rw [Nat.add_comm, treeSize_mono h' rounds] at hmore
  exact (Option.some.inj hmore).symm

theorem withStack_of_pending (hpending : c.pending.ids = []) : c.withStack [] c.notes = c := by
  rw [← hpending, withStack_self]

theorem visit_of_recorded {depth : Nat} {result : Except Fault Unit × Census σ}
    (hrecorded : (c.trees.find? id).isSome) (h : visit S depth id c = some result) :
    result = (.ok (), c) := by
  cases depth with
  | zero => simp [visit] at h
  | succ depth =>
      rw [visit, if_pos hrecorded] at h
      exact (Option.some.inj h).symm

theorem work_of_visit (hS : S.Serves m I J) (hfit : Fit m I c)
    (hpending : c.pending.ids = []) {depth : Nat} {answer : Except Fault Unit}
    (h : visit S depth id c = some (answer, c')) :
    ∃ rounds pending notes, (c.push id).work S rounds =
      some (answer, c'.withStack pending notes) ∧ (answer = .ok () → pending = []) := by
  have hstack : c.push id = c.withStack [id] c.notes := by
    rw [← withStack_push, withStack_of_pending hpending]
  have hfollows : Follows S (c.withStack [id] c.notes) depth [] (visit S depth id c) :=
    visit_follows hS hfit [] c.notes
  rw [h, ← hstack] at hfollows
  rcases answer with fault | ⟨⟩
  · obtain ⟨k, pending, notes, hk⟩ := hfollows
    exact ⟨k, pending, notes, hk 0, by simp⟩
  · obtain ⟨k, notes, hk⟩ := hfollows
    refine ⟨k, [], notes, ?_, fun _ => rfl⟩
    rw [← Nat.add_zero k, hk 0, work_empty]

/-- A visit that ends is matched by sizing with the work stack. -/
theorem treeSize_of_visitSize (hS : S.Serves m I J) (hfit : Fit m I c)
    (hpending : c.pending.ids = []) {depth : Nat} {answer : Except Fault TreeSize}
    (h : c.visitSize S depth id = some (answer, c')) :
    ∃ rounds notes, c.treeSize S rounds id = some (answer, c'.withStack [] notes) := by
  unfold visitSize at h
  rcases hvisit : visit S depth id c with _ | ⟨answer', c₁⟩
  · simp [hvisit] at h
  · cases hfind : c.trees.find? id with
    | some size =>
        obtain ⟨rfl, rfl⟩ := Prod.mk.inj (visit_of_recorded (by rw [hfind]; rfl) hvisit)
        simp only [hvisit, hfind, Option.some.injEq, Prod.mk.injEq] at h
        obtain ⟨rfl, rfl⟩ := h
        refine ⟨0, c₁.notes, ?_⟩
        rw [withStack_of_pending hpending]
        simp only [treeSize, hfind]
    | none =>
        obtain ⟨rounds, pending, notes, hwork, hempty⟩ :=
          work_of_visit hS hfit hpending hvisit
        refine ⟨rounds, ?_⟩
        simp only [treeSize, hfind, hwork]
        rcases answer' with fault | ⟨⟩
        · simp only [hvisit, Option.some.injEq, Prod.mk.injEq] at h
          obtain ⟨rfl, rfl⟩ := h
          exact ⟨.abandoned id ⟨pending⟩ :: notes, rfl⟩
        · obtain rfl := hempty rfl
          have hdone := (visit_visited hS hfit hvisit).done rfl id (by simp)
          obtain ⟨size, hsize⟩ := Option.isSome_iff_exists.mp hdone
          simp only [hvisit, hsize, Option.some.injEq, Prod.mk.injEq] at h
          obtain ⟨rfl, rfl⟩ := h
          exact ⟨notes, by simp only [withStack_trees, hsize]⟩

theorem exists_visitSize_of_visit {depth : Nat} (h : visit S depth id c ≠ none) :
    ∃ answer c', c.visitSize S depth id = some (answer, c') := by
  obtain ⟨⟨fault | ⟨⟩, c₁⟩, hresult⟩ := Option.ne_none_iff_exists'.mp h
  · exact ⟨.error fault, c₁, by simp only [visitSize, hresult]⟩
  · cases hrecord : c₁.trees.find? id with
    | some size => exact ⟨.ok size, c₁, by simp only [visitSize, hresult, hrecord]⟩
    | none => exact ⟨.error (.unrecorded id), c₁, by simp only [visitSize, hresult, hrecord]⟩

theorem visitSize_of_treeSize (hS : S.Serves m I J) (hfit : Fit m I c)
    (hpending : c.pending.ids = []) {rounds : Nat} {result : Except Fault TreeSize × Census σ}
    (h : c.treeSize S rounds id = some result) :
    ∃ depth answer c', c.visitSize S depth id = some (answer, c') := by
  refine ⟨rounds + 1, ?_⟩
  have hvisit : visit S (rounds + 1) id c ≠ none := by
    intro hnone
    have hfollows : Follows S (c.withStack [id] c.notes) (rounds + 1) []
        (visit S (rounds + 1) id c) := visit_follows hS hfit [] c.notes
    rw [hnone, ← withStack_push, withStack_of_pending hpending] at hfollows
    cases hfind : c.trees.find? id with
    | some size => simp [visit, hfind] at hnone
    | none => simp [treeSize, hfind, hfollows rounds (Nat.lt_succ_self rounds)] at h
  exact exists_visitSize_of_visit hvisit

end GitCensus.Census
