import GitCensus.Proofs.Census.Sound
/-!
# Sizing by recursion

The depth-first procedure that the work stack stands in for.  A visit reads the
tree; if subtrees have no record, it visits those from last to first and then reads
the tree a second time.  The procedure has no stack of its own: the depth only
bounds how far calls may nest, and running out of it is no result.
-/

namespace GitCensus.Census

variable {σ : Type}

/-- Records a tree with the fold of the records that its entries call for. -/
def settle (id : ObjectId) (entries : List Entry) (c : Census σ) :
    Except Fault Unit × Census σ :=
  match c.fold? entries with
  | some size => (.ok (), c.recordTree id size)
  | none => (.error (.unrecorded id), c)

/-- Asks for the payload of a tree once more and records the tree. -/
def settleAgain (S : Store σ) (id : ObjectId) (c : Census σ) :
    Except Fault Unit × Census σ :=
  match c.askTree S id with
  | (.error fault, c) => (.error fault, c)
  | (.ok data, c) => c.settle id (Tree.decode data).entries

/-- Visits trees in order, up to the first failure. -/
def visitAll (visit : ObjectId → Census σ → Option (Except Fault Unit × Census σ)) :
    List ObjectId → Census σ → Option (Except Fault Unit × Census σ)
  | [], c => some (.ok (), c)
  | id :: rest, c =>
    match visit id c with
    | none => none
    | some (.error fault, c) => some (.error fault, c)
    | some (.ok (), c) => visitAll visit rest c

/-- Makes the record of a tree and of all trees below it, by recursion.  `none` means
that calls would nest deeper than the given depth. -/
def visit (S : Store σ) : Nat → ObjectId → Census σ → Option (Except Fault Unit × Census σ)
  | 0, _, _ => none
  | depth + 1, id, c =>
    if (c.trees.find? id).isSome then some (.ok (), c)
    else match c.survey S id with
      | (.error fault, c) => some (.error fault, c)
      | (.ok entries, c) =>
        if c.unrecorded entries = [] then some (c.settle id entries)
        else match visitAll (visit S depth) (c.unrecorded entries).reverse c with
          | none => none
          | some (.error fault, c) => some (.error fault, c)
          | some (.ok (), c) => some (c.settleAgain S id)

def visitSize (S : Store σ) (depth : Nat) (id : ObjectId) (c : Census σ) :
    Option (Except Fault TreeSize × Census σ) :=
  match visit S depth id c with
  | none => none
  | some (.error fault, c) => some (.error fault, c)
  | some (.ok (), c) =>
    match c.trees.find? id with
    | some size => some (.ok size, c)
    | none => some (.error (.unrecorded id), c)

variable {S : Store σ} {m : ObjectMap} {I J : σ → Prop}

theorem visitAll_cons (f : ObjectId → Census σ → Option (Except Fault Unit × Census σ))
    (id : ObjectId) (rest : List ObjectId) (c : Census σ) :
    visitAll f (id :: rest) c =
      match f id c with
      | none => none
      | some (.error fault, c) => some (.error fault, c)
      | some (.ok (), c) => visitAll f rest c := rfl

/-- What visiting some trees has done: a run that records nothing but what is at or
below those trees, and all of them if the visits succeed. -/
structure Visited (S : Store σ) (m : ObjectMap) (I : σ → Prop) (ids : List ObjectId)
    (c : Census σ) (answer : Except Fault Unit) (c' : Census σ) : Prop where
  run : Run S I (faultOf answer) c c'
  below : ∀ u, (c'.trees.find? u).isSome →
    (c.trees.find? u).isSome ∨ ∃ id ∈ ids, m.Reaches id u
  done : answer = .ok () → ∀ id ∈ ids, (c'.trees.find? id).isSome

theorem visitAll_visited (hS : S.Serves m I J)
    {f : ObjectId → Census σ → Option (Except Fault Unit × Census σ)}
    (hf : ∀ {id c answer c'}, Fit m I c → f id c = some (answer, c') →
      Visited S m I [id] c answer c')
    {ids : List ObjectId} {c c' : Census σ} {answer : Except Fault Unit}
    (hfit : Fit m I c) (h : visitAll f ids c = some (answer, c')) :
    Visited S m I ids c answer c' := by
  induction ids generalizing c with
  | nil =>
      obtain ⟨rfl, rfl⟩ := Prod.mk.inj (Option.some.inj h)
      exact ⟨.refl _, fun u hu => .inl hu, by simp⟩
  | cons id rest ih =>
      rw [visitAll_cons] at h
      rcases hvisit : f id c with _ | ⟨fault | ⟨⟩, c₁⟩
      · simp [hvisit] at h
      · simp only [hvisit, Option.some.injEq, Prod.mk.injEq] at h
        obtain ⟨rfl, rfl⟩ := h
        have hfirst := hf hfit hvisit
        refine ⟨hfirst.run, fun u hu => ?_, by simp⟩
        rcases hfirst.below u hu with hold | ⟨v, hv, hreach⟩
        · exact .inl hold
        · exact .inr ⟨v, by simp_all, hreach⟩
      · simp only [hvisit] at h
        have hfirst := hf hfit hvisit
        have hrest := ih (hfirst.run.fit hS hfit) h
        refine ⟨hfirst.run.trans hrest.run, fun u hu => ?_, fun hok => ?_⟩
        · rcases hrest.below u hu with hu | ⟨v, hv, hreach⟩
          · rcases hfirst.below u hu with hold | ⟨v, hv, hreach⟩
            · exact .inl hold
            · exact .inr ⟨v, by simp_all, hreach⟩
          · exact .inr ⟨v, by simp [hv], hreach⟩
        · refine List.forall_mem_cons.mpr ⟨?_, hrest.done hok⟩
          exact hrest.run.keptIn.trees.isSome (hfirst.done rfl id (by simp))

/-- How a visit can end, every reading of the tree being a survey. -/
inductive VisitEnd (S : Store σ) (depth : Nat) (id : ObjectId) (c : Census σ) :
    Option (Except Fault Unit × Census σ) → Prop
  | recorded (hrecorded : (c.trees.find? id).isSome) :
      VisitEnd S depth id c (some (.ok (), c))
  | unread {fault : Fault} {c₁ : Census σ} (hnew : c.trees.find? id = none)
      (hsurvey : c.survey S id = (.error fault, c₁)) :
      VisitEnd S depth id c (some (.error fault, c₁))
  | leaf {entries : List Entry} {size : TreeSize} {c₁ : Census σ}
      (hnew : c.trees.find? id = none) (hsurvey : c.survey S id = (.ok entries, c₁))
      (hfold : c₁.fold? entries = some size) :
      VisitEnd S depth id c (some (.ok (), c₁.recordTree id size))
  | tooDeep {entries : List Entry} {c₁ : Census σ} (hnew : c.trees.find? id = none)
      (hsurvey : c.survey S id = (.ok entries, c₁)) (hmissing : c₁.unrecorded entries ≠ [])
      (hbelow : visitAll (visit S depth) (c₁.unrecorded entries).reverse c₁ = none) :
      VisitEnd S depth id c none
  | failedBelow {entries : List Entry} {fault : Fault} {c₁ c₂ : Census σ}
      (hnew : c.trees.find? id = none) (hsurvey : c.survey S id = (.ok entries, c₁))
      (hmissing : c₁.unrecorded entries ≠ [])
      (hbelow : visitAll (visit S depth) (c₁.unrecorded entries).reverse c₁ =
        some (.error fault, c₂)) :
      VisitEnd S depth id c (some (.error fault, c₂))
  | unreadAgain {entries : List Entry} {fault : Fault} {c₁ c₂ c₃ : Census σ}
      (hnew : c.trees.find? id = none) (hsurvey : c.survey S id = (.ok entries, c₁))
      (hmissing : c₁.unrecorded entries ≠ [])
      (hbelow : visitAll (visit S depth) (c₁.unrecorded entries).reverse c₁ =
        some (.ok (), c₂))
      (hnew' : c₂.trees.find? id = none) (hsurvey' : c₂.survey S id = (.error fault, c₃)) :
      VisitEnd S depth id c (some (.error fault, c₃))
  | sized {entries : List Entry} {size : TreeSize} {c₁ c₂ c₃ : Census σ}
      (hnew : c.trees.find? id = none) (hsurvey : c.survey S id = (.ok entries, c₁))
      (hmissing : c₁.unrecorded entries ≠ [])
      (hbelow : visitAll (visit S depth) (c₁.unrecorded entries).reverse c₁ =
        some (.ok (), c₂))
      (hnew' : c₂.trees.find? id = none) (hsurvey' : c₂.survey S id = (.ok entries, c₃))
      (hfold : c₃.fold? entries = some size) :
      VisitEnd S depth id c (some (.ok (), c₃.recordTree id size))

variable {id : ObjectId} {c c' c₁ c₂ : Census σ}

theorem entries?_of_survey (hS : S.Serves m I J) {entries : List Entry} (hfit : Fit m I c)
    (h : c.survey S id = (.ok entries, c')) : m.entries? id = some entries := by
  obtain ⟨-, -, -, -, hall⟩ := survey_spec h
  obtain ⟨⟨data, hread, hdecode⟩, -⟩ := hall entries rfl
  exact ObjectMap.entries?_eq_some_iff.mpr ⟨data, (hS.tree id hfit.store).eq_of_ok hread, hdecode⟩

/-- Once everything below a tree has records, reading it again asks for nothing but its
payload, and settles it unless that request fails. -/
theorem settleAgain_cases (hS : S.Serves m I J) {entries : List Entry} (hfit : Fit m I c)
    (hentries : m.entries? id = some entries) (hfold : (c.fold? entries).isSome) :
    (∃ fault c', c.survey S id = (.error fault, c') ∧
      c.settleAgain S id = (.error fault, c')) ∨
    ∃ size c', c.survey S id = (.ok entries, c') ∧ c'.fold? entries = some size ∧
      c.settleAgain S id = (.ok (), c'.recordTree id size) := by
  rcases hask : c.askTree S id with ⟨fault | data, c₁⟩
  · refine .inl ⟨fault, c₁, ?_, ?_⟩
    · simp only [survey, hask]
    · simp only [settleAgain, hask]
  · obtain ⟨hread, rfl⟩ := askTree_spec hask
    obtain ⟨data', hread', hdecode⟩ := ObjectMap.entries?_eq_some_iff.mp hentries
    obtain rfl : data' = data := by
      have hright := (hS.tree id hfit.store).eq_of_ok hread
      rw [hread'] at hright
      exact Except.ok.inj hright
    obtain ⟨size, hsize⟩ := Option.isSome_iff_exists.mp hfold
    let asked : Census σ := { c with store := (S.readTree id c.store).2 }
    have hblobs : ∀ e ∈ entries, e.kind = .blob → (asked.blobs.find? e.id).isSome :=
      fun e he => (TreeSize.ofEntries?_isSome_iff.mp hfold e he).2
    have hsize' : asked.fold? entries = some size := hsize
    refine .inr ⟨size, asked, ?_, hsize', ?_⟩
    · simp only [survey, hask, hdecode]
      rw [resolveBlobs_of_recorded hblobs]
    · simp only [settleAgain, hask, hdecode, settle]
      rw [hsize']

/-- A tree has no record after visits below it if it had none before them: a tree with
a record does not contain itself. -/
theorem find?_eq_none_of_visited (hS : S.Serves m I J) {entries : List Entry}
    {answer : Except Fault Unit} (hfit : Fit m I c₁)
    (hentries : m.entries? id = some entries) (hnew : c₁.trees.find? id = none)
    (h : Visited S m I (c₁.unrecorded entries).reverse c₁ answer c₂) :
    c₂.trees.find? id = none := by
  by_contra hne
  obtain ⟨size, hsize⟩ := Option.ne_none_iff_exists'.mp hne
  obtain ⟨levels, hlevels⟩ := (h.run.fit hS hfit).sound.trees hsize
  rcases h.below id (by rw [hsize]; rfl) with hold | ⟨u, hu, hreach⟩
  · simp [hnew] at hold
  · have hchild : m.Child id u :=
      ⟨entries, hentries, List.mem_of_mem_filter (List.mem_reverse.mp hu)⟩
    exact ObjectMap.not_transGen_of_sizeWithin hlevels (.head' hchild hreach)

theorem fold?_isSome_of_visited {entries : List Entry}
    (hsurvey : c.survey S id = (.ok entries, c₁))
    (h : Visited S m I (c₁.unrecorded entries).reverse c₁ (.ok ()) c₂) :
    (c₂.fold? entries).isSome := by
  obtain ⟨-, -, -, -, hall⟩ := survey_spec hsurvey
  refine TreeSize.ofEntries?_isSome_iff.mpr fun e he => ⟨fun hkind => ?_, fun hkind => ?_⟩
  · cases hfind : c₁.trees.find? e.id with
    | some size => exact h.run.keptIn.trees.isSome (by rw [hfind]; rfl)
    | none =>
        refine h.done rfl e.id (List.mem_reverse.mpr (List.mem_filter.mpr ⟨?_, by simp [hfind]⟩))
        exact Entry.mem_subtrees.mpr ⟨e, he, hkind, rfl⟩
  · exact h.run.keptIn.blobs.isSome ((hall entries rfl).2 e he hkind)

theorem visitEnd_of_visited (hS : S.Serves m I J) {depth : Nat}
    (hvisit : ∀ {id c answer c'}, Fit m I c →
      visit S depth id c = some (answer, c') → Visited S m I [id] c answer c')
    (hfit : Fit m I c) : VisitEnd S depth id c (visit S (depth + 1) id c) := by
  rw [visit]
  cases hfind : c.trees.find? id with
  | some size =>
      rw [if_pos (by simp)]
      exact .recorded (by simp [hfind])
  | none =>
      rw [if_neg (by simp)]
      rcases hsurvey : c.survey S id with ⟨fault | entries, c₁⟩
      · exact .unread hfind hsurvey
      · have hrun : Run S I none c c₁ := survey_run hfind hsurvey
        have hfit₁ := hrun.fit hS hfit
        by_cases hmissing : c₁.unrecorded entries = []
        · obtain ⟨size, hsize⟩ :=
            Option.isSome_iff_exists.mp (fold?_isSome_of_survey hsurvey hmissing)
          simp only [hmissing, if_true, settle, hsize]
          exact .leaf hfind hsurvey hsize
        · simp only [hmissing, if_false]
          rcases hbelow : visitAll (visit S depth) (c₁.unrecorded entries).reverse c₁ with
            _ | ⟨fault | ⟨⟩, c₂⟩
          · exact .tooDeep hfind hsurvey hmissing hbelow
          · exact .failedBelow hfind hsurvey hmissing hbelow
          · have hvisited := visitAll_visited hS hvisit hfit₁ hbelow
            have hentries := entries?_of_survey hS hfit hsurvey
            have hnew₁ : c₁.trees.find? id = none := by rw [(survey_spec hsurvey).2.1, hfind]
            have hnew₂ := find?_eq_none_of_visited hS hfit₁ hentries hnew₁ hvisited
            have hfold : (c₂.fold? entries).isSome :=
              fold?_isSome_of_visited hsurvey hvisited
            rcases settleAgain_cases hS (hvisited.run.fit hS hfit₁) hentries hfold with
              ⟨fault, c₃, hsurvey', hagain⟩ | ⟨size, c₃, hsurvey', hsize, hagain⟩
            · simp only [hagain]
              exact .unreadAgain hfind hsurvey hmissing hbelow hnew₂ hsurvey'
            · simp only [hagain]
              exact .sized hfind hsurvey hmissing hbelow hnew₂ hsurvey' hsize

private theorem isSome_or_reaches_of_survey {answer : Except Fault (List Entry)} {u : ObjectId}
    (hsurvey : c.survey S id = (answer, c₁)) (hu : (c₁.trees.find? u).isSome) :
    (c.trees.find? u).isSome ∨ ∃ v ∈ [id], m.Reaches v u := by
  rw [(survey_spec hsurvey).2.1] at hu
  exact .inl hu

private theorem isSome_or_reaches_of_visited {entries : List Entry} {answer : Except Fault Unit}
    {u : ObjectId} (hsurvey : c.survey S id = (.ok entries, c₁))
    (hentries : m.entries? id = some entries)
    (h : Visited S m I (c₁.unrecorded entries).reverse c₁ answer c₂)
    (hu : (c₂.trees.find? u).isSome) :
    (c.trees.find? u).isSome ∨ ∃ v ∈ [id], m.Reaches v u := by
  rcases h.below u hu with hu | ⟨v, hv, hreach⟩
  · exact isSome_or_reaches_of_survey hsurvey hu
  · have hchild : m.Child id v :=
      ⟨entries, hentries, List.mem_of_mem_filter (List.mem_reverse.mp hv)⟩
    exact .inr ⟨id, by simp, .head hchild hreach⟩

private theorem isSome_or_reaches_of_recordTree {size : TreeSize} {u : ObjectId}
    (h : (c₁.trees.find? u).isSome →
      (c.trees.find? u).isSome ∨ ∃ v ∈ [id], m.Reaches v u)
    (hu : ((c₁.recordTree id size).trees.find? u).isSome) :
    (c.trees.find? u).isSome ∨ ∃ v ∈ [id], m.Reaches v u := by
  obtain ⟨found, hfound⟩ := Option.isSome_iff_exists.mp hu
  rcases Table.find?_record_eq_some hfound with ⟨rfl, -⟩ | hold
  · exact .inr ⟨u, by simp, .refl⟩
  · exact h (by rw [hold]; rfl)

private theorem isSome_recordTree (c : Census σ) (id : ObjectId) (size : TreeSize) :
    ((c.recordTree id size).trees.find? id).isSome := by
  simp [recordTree]

theorem visit_visited (hS : S.Serves m I J) {depth : Nat} {answer : Except Fault Unit}
    (hfit : Fit m I c) (h : visit S depth id c = some (answer, c')) :
    Visited S m I [id] c answer c' := by
  induction depth generalizing id c answer c' with
  | zero => simp [visit] at h
  | succ depth ih =>
      have hend : VisitEnd S depth id c (visit S (depth + 1) id c) :=
        visitEnd_of_visited hS ih hfit
      rw [h] at hend
      -- the visits below start from the state that the survey leaves
      have hvisited {entries : List Entry} {c₁ c₂ : Census σ} {answer : Except Fault Unit}
          (hnew : c.trees.find? id = none) (hsurvey : c.survey S id = (.ok entries, c₁))
          (hbelow : visitAll (visit S depth) (c₁.unrecorded entries).reverse c₁ =
            some (answer, c₂)) :
          Visited S m I (c₁.unrecorded entries).reverse c₁ answer c₂ ∧
            Run S I (faultOf answer) c c₂ ∧ I c₂.store := by
        have hrun : Run S I none c c₁ := survey_run hnew hsurvey
        have hall := visitAll_visited hS ih (hrun.fit hS hfit) hbelow
        have hrun₂ := hrun.trans hall.run
        exact ⟨hall, hrun₂, (hrun₂.fit hS hfit).store⟩
      cases hend with
      | recorded hrecorded => exact ⟨.refl _, fun u hu => .inl hu, by simpa using hrecorded⟩
      | unread hnew hsurvey =>
          exact ⟨survey_run hnew hsurvey,
            fun u => isSome_or_reaches_of_survey hsurvey, by simp⟩
      | leaf hnew hsurvey hfold =>
          exact ⟨survey_record_run hfit.store hnew hsurvey hfold,
            fun u => isSome_or_reaches_of_recordTree (isSome_or_reaches_of_survey hsurvey),
            by simpa using isSome_recordTree _ id _⟩
      | failedBelow hnew hsurvey hmissing hbelow =>
          obtain ⟨hall, hrun, -⟩ := hvisited hnew hsurvey hbelow
          have hentries := entries?_of_survey hS hfit hsurvey
          exact ⟨hrun, fun u => isSome_or_reaches_of_visited hsurvey hentries hall, by simp⟩
      | unreadAgain hnew hsurvey hmissing hbelow hnew' hsurvey' =>
          obtain ⟨hall, hrun, hI'⟩ := hvisited hnew hsurvey hbelow
          have hentries := entries?_of_survey hS hfit hsurvey
          refine ⟨hrun.trans (survey_run hnew' hsurvey'), fun u hu => ?_, by simp⟩
          rw [(survey_spec hsurvey').2.1] at hu
          exact isSome_or_reaches_of_visited hsurvey hentries hall hu
      | sized hnew hsurvey hmissing hbelow hnew' hsurvey' hfold =>
          obtain ⟨hall, hrun, hI'⟩ := hvisited hnew hsurvey hbelow
          have hentries := entries?_of_survey hS hfit hsurvey
          refine ⟨hrun.trans (survey_record_run hI' hnew' hsurvey' hfold),
            fun u => isSome_or_reaches_of_recordTree fun hu => ?_,
            by simpa using isSome_recordTree _ id _⟩
          rw [(survey_spec hsurvey').2.1] at hu
          exact isSome_or_reaches_of_visited hsurvey hentries hall hu

theorem visitEnd (hS : S.Serves m I J) (hfit : Fit m I c)
    (depth : Nat) (id : ObjectId) : VisitEnd S depth id c (visit S (depth + 1) id c) :=
  visitEnd_of_visited hS (visit_visited hS) hfit

end GitCensus.Census
