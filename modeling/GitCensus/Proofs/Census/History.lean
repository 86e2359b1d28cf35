import GitCensus.Proofs.Census.Clearing
/-!
# History does not matter

Over a store that does not change, what a call answers is laid down by the store alone.
Records save work: parts of the trees are not read again, and blobs are not looked up
again.  The first fault is still the same, since what stands on the stack, in its order,
is what the verdict goes through next.
-/

namespace GitCensus.Census

variable {σ : Type} {S : Store σ} {I : σ → Prop} {s : σ} {c c' c₁ : Census σ}
variable {id t u : ObjectId} {rest : List ObjectId} {rounds : Nat} {fault : Fault}

/-- While a tree is sized, a fault of the tree on top of the stack is a fault of the sized
tree; if the top has a size, the same is true of the stack below it. -/
def Stands (S : Store σ) (s : σ) (t : ObjectId) : List ObjectId → Prop
  | [] => True
  | u :: rest =>
    (∀ fault, Verdict S s u (.error fault) → Verdict S s t (.error fault)) ∧
      ((∃ size, Verdict S s u (.ok size)) → Stands S s t rest)

theorem Stands.single (S : Store σ) (s : σ) (t : ObjectId) : Stands S s t [t] :=
  ⟨fun _ h => h, fun _ => trivial⟩

theorem Verdict.of_split {entries : List Entry} {before after : List ObjectId}
    (h : entriesAt S s id = .ok entries)
    (hsplit : (Entry.subtrees entries).reverse = before ++ u :: after)
    (hbefore : ∀ v ∈ before, ∃ size, Verdict S s v (.ok size))
    (hfault : Verdict S s u (.error fault)) : Verdict S s id (.error fault) := by
  choose! sizes hsizes using hbefore
  exact .failedBelow h hsplit hsizes hfault

/-- The missing subtrees of a tree that waits stand above it. -/
theorem Stands.waits {entries : List Entry} {p : ObjectId → Bool} {before after : List ObjectId}
    (h : Stands S s t (id :: rest)) (hentries : entriesAt S s id = .ok entries)
    (hleft : ∀ v, p v = false → ∃ size, Verdict S s v (.ok size))
    (hsplit : (Entry.subtrees entries).reverse = before ++ after)
    (hbefore : ∀ v ∈ before, ∃ size, Verdict S s v (.ok size)) :
    Stands S s t (after.filter p ++ id :: rest) := by
  induction after generalizing before with
  | nil => exact h
  | cons v after ih =>
      have hnext (hv : ∃ size, Verdict S s v (.ok size)) :
          Stands S s t (after.filter p ++ id :: rest) := by
        have hsplit' : (Entry.subtrees entries).reverse = (before ++ [v]) ++ after := by
          simpa using hsplit
        refine ih hsplit' fun w hw => ?_
        rcases List.mem_append.mp hw with hw | hw
        · exact hbefore w hw
        · rwa [List.mem_singleton.mp hw]
      cases hp : p v with
      | false =>
          rw [List.filter_cons_of_neg (by simp [hp])]
          exact hnext (hleft v hp)
      | true =>
          rw [List.filter_cons_of_pos hp]
          exact ⟨fun fault hfault => h.1 fault (.of_split hentries hsplit hbefore hfault), hnext⟩

section Steady

variable (hS : S.Steady I) (hs : I s)
include hS hs

theorem Stands.of_round (hc : Consistent S s I c) (hpending : c.pending.ids = id :: rest)
    (hstands : Stands S s t c.pending.ids) (h : c.round S id = (.ok (), c')) :
    Stands S s t c'.pending.ids := by
  have hend := roundEnd S id c
  rw [h] at hend
  rw [hpending] at hstands
  cases hend with
  | recorded hrecorded =>
      have hrest := hstands.2 (hc.exists_verdict hrecorded)
      simpa [pop, hpending] using hrest
  | @waits entries c₁ hnew hsurvey hmissing notes =>
      have hentries : entriesAt S s id = .ok entries := by
        rw [← hc.survey_eq hS hs id, hsurvey]
      have htrees := (survey_spec hsurvey).2.1
      rw [withStack_pending, hpending, unrecorded, ← List.filter_reverse]
      refine hstands.waits hentries (fun v hv => ?_) (List.nil_append _).symm (by simp)
      exact hc.exists_verdict (by simpa [htrees] using hv)
  | sized hnew hsurvey hfold =>
      have hrecord := (survey_record_run hc.store hnew hsurvey hfold).consistent hS hs hc
      have hrest := hstands.2 (hrecord.exists_verdict (by simp [recordTree]))
      simpa [hpending] using hrest

theorem Stands.verdict_of_round (hc : Consistent S s I c) (hpending : c.pending.ids = id :: rest)
    (hstands : Stands S s t c.pending.ids) (h : c.round S id = (.error fault, c')) :
    Verdict S s t (.error fault) := by
  have hend := roundEnd S id c
  rw [h] at hend
  rw [hpending] at hstands
  cases hend with
  | unread hnew hsurvey =>
      refine hstands.1 _ (.unread ?_)
      rw [← hc.survey_eq hS hs id, hsurvey]

/-- Work that fails has met the first fault below the tree that it was begun for. -/
theorem Stands.of_work {answer : Except Fault Unit} (hc : Consistent S s I c)
    (hstands : Stands S s t c.pending.ids) (h : c.work S rounds = some (answer, c')) :
    (∀ fault, answer = .error fault → Verdict S s t (.error fault)) ∧
      (answer = .ok () → Consistent S s I c') := by
  induction rounds using Nat.strong_induction_on generalizing c with
  | _ rounds ih =>
      rcases work_cases h with ⟨-, rfl, rfl⟩ | ⟨fault, id, rest, hpending, rfl, hround⟩ |
        ⟨c₁, rounds', hlt, ⟨id, rest, hpending, hround⟩, hwork⟩
      · exact ⟨by simp, fun _ => hc⟩
      · refine ⟨fun fault' hfault => ?_, by simp⟩
        obtain rfl := Except.error.inj hfault
        exact hstands.verdict_of_round hS hs hc hpending hround
      · have hrun := round_run hc.store hround
        exact ih rounds' hlt (hrun.consistent hS hs hc)
          (hstands.of_round hS hs hc hpending hround) hwork

/-! ## Tree sizes -/

/-- Where sizing a tree ends, it ends with the verdict on the tree. -/
theorem verdict_of_treeSize {answer : Except Fault TreeSize} (hc : Consistent S s I c)
    (hpending : c.pending.ids = []) (h : c.treeSize S rounds id = some (answer, c')) :
    Verdict S s id answer ∧ ∀ size, answer = .ok size → Consistent S s I c' := by
  have hpushed : Consistent S s I (c.push id) := hc.of_tables hc.store rfl rfl
  have hstands : Stands S s id (c.push id).pending.ids := by
    rw [push, Pending.push, hpending]
    exact .single S s id
  have hend := treeEnd h
  cases hend with
  | recorded hrecorded => exact ⟨hc.trees hrecorded, fun _ _ => hc⟩
  | failed _ hwork _ => exact ⟨(hstands.of_work hS hs hpushed hwork).1 _ rfl, by simp⟩
  | sized _ hwork hsize =>
      have hc' := (hstands.of_work hS hs hpushed hwork).2 rfl
      exact ⟨hc'.trees hsize, fun _ _ => hc'⟩

/-- Work on a tree below which there is a fault ends with the first one. -/
theorem exists_work_of_fault (h : Verdict S s id (.error fault)) (hc : Consistent S s I c)
    (rest : List ObjectId) (notes : List Note) :
    ∃ n c', (c.withStack (id :: rest) notes).work S n = some (.error fault, c') := by
  have hnew := hc.find?_eq_none h
  generalize hanswer : Except.error fault = answer at h
  induction h generalizing fault c rest notes with
  | sized => cases hanswer
  | @unread id fault' hentries =>
      obtain rfl := Except.error.inj hanswer
      rw [← hc.survey_eq hS hs id] at hentries
      have hsurvey : c.survey S id = (.error fault, (c.survey S id).2) := Prod.ext hentries rfl
      obtain ⟨pending, hround⟩ := round_of_survey_error (id :: rest) notes hnew hsurvey
      exact ⟨1, _, work_succ_of_error hround 0⟩
  | @failedBelow id u entries before after sizes fault' hentries hsplit hbefore hfault _ ih =>
      obtain rfl := Except.error.inj hanswer
      rw [← hc.survey_eq hS hs id] at hentries
      have hsurvey : c.survey S id = (.ok entries, (c.survey S id).2) := Prod.ext hentries rfl
      generalize (c.survey S id).2 = c₁ at hsurvey
      have hfirst : Run S I none c c₁ := survey_run hnew hsurvey
      have hc₁ := hfirst.consistent hS hs hc
      -- those that come before the failing subtree have sizes and are cleared
      let p : ObjectId → Bool := fun v => (c₁.trees.find? v).isNone
      have hmissing : (c₁.unrecorded entries).reverse = before.filter p ++ u :: after.filter p := by
        rw [unrecorded, ← List.filter_reverse, hsplit, List.filter_append,
          List.filter_cons_of_pos (by simp [hc₁.find?_eq_none hfault])]
      obtain ⟨k, c₂, hclears⟩ := Clears.exists_of_forall hS hs
        (fun v (hv : v ∈ before.filter p) _ hc => Clears.exists_of_verdict hS hs
          (hbefore v (List.mem_of_mem_filter hv)) hc) hc₁
      have hc₂ := hclears.consistent hS hs hc₁
      obtain ⟨notes₁, hround⟩ := round_of_survey_waits (id :: rest) notes hnew hsurvey
        (by rw [← List.reverse_ne_nil_iff, hmissing]; simp)
      obtain ⟨notes₂, hrounds⟩ :=
        hclears.roundsIn (u :: (after.filter p ++ id :: rest)) notes₁
      obtain ⟨n, c', hwork⟩ := ih hc₂ (after.filter p ++ id :: rest) notes₂
        (hc₂.find?_eq_none hfault) rfl
      refine ⟨k + n + 1, c', ?_⟩
      rw [work_succ_of_ok hround, hmissing, List.append_assoc, List.cons_append, hrounds.work,
        hwork]

theorem exists_work_of_verdict {answer : Except Fault TreeSize} (h : Verdict S s id answer)
    (hc : Consistent S s I c) (hpending : c.pending.ids = []) :
    ∃ n result, (c.push id).work S n = some result := by
  have hstack : c.push id = c.withStack [id] c.notes := by
    rw [← withStack_push, withStack_of_pending hpending]
  rw [hstack]
  cases answer with
  | error fault =>
      obtain ⟨n, c', hwork⟩ := exists_work_of_fault hS hs h hc [] c.notes
      exact ⟨n, _, hwork⟩
  | ok size =>
      obtain ⟨k, c', hclears⟩ := Clears.exists_of_verdict hS hs h hc
      obtain ⟨notes, hwork⟩ := hclears.work c.notes
      exact ⟨k, _, hwork⟩

/-- Sizing a tree ends if there is a verdict on the tree. -/
theorem exists_treeSize_of_verdict {answer : Except Fault TreeSize} (h : Verdict S s id answer)
    (hc : Consistent S s I c) (hpending : c.pending.ids = []) :
    ∃ rounds c', c.treeSize S rounds id = some (answer, c') := by
  have hends : ∃ rounds, c.treeSize S rounds id ≠ none := by
    cases hfind : c.trees.find? id with
    | some size => exact ⟨0, by simp [treeSize, hfind]⟩
    | none =>
        obtain ⟨n, ⟨fault | ⟨⟩, c₁⟩, hwork⟩ := exists_work_of_verdict hS hs h hc hpending
        · exact ⟨n, by simp [treeSize, hfind, hwork]⟩
        · have hdone := (work_pending hwork).2 id (by simp [push, Pending.push])
          obtain ⟨size, hsize⟩ := Option.isSome_iff_exists.mp hdone
          exact ⟨n, by simp [treeSize, hfind, hwork, hsize]⟩
  obtain ⟨rounds, hends⟩ := hends
  obtain ⟨⟨answer', c'⟩, htree⟩ := Option.ne_none_iff_exists'.mp hends
  obtain rfl := (verdict_of_treeSize hS hs hc hpending htree).1.unique h
  exact ⟨rounds, c', htree⟩

/-! ## Object sizes -/

theorem objectSize_of_blob (hc : Consistent S s I c) {header : Header}
    (hanswer : (S.readHeader id c.store).1 = .ok header) (hkind : header.kind = .blob)
    (rounds : Nat) : ∃ c', c.objectSize S rounds id =
      some (.ok (.blob (BlobSize.ofHeader header.size)), c') ∧ Consistent S s I c' := by
  have hasked : Consistent S s I (c.askHeader S id).2 :=
    hc.of_tables (hS.keepsHeader hc.store hanswer) rfl rfl
  cases hfind : c.blobs.find? id with
  | none =>
      refine ⟨_, ?_, hc.recordBlob hS hs hanswer hkind⟩
      simp only [objectSize, askHeader_eq, hanswer, hkind, hfind]
  | some size =>
      have hsize : blobAt S s id = .ok (BlobSize.ofHeader header.size) :=
        blobAt_of_header hS hs hc.store hanswer hkind
      rw [hc.blobs hfind] at hsize
      refine ⟨_, ?_, hasked⟩
      simp only [objectSize, askHeader_eq, hanswer, hkind, hfind, Except.ok.inj hsize]

/-- Sizing an object that ends in one state ends alike in each other one. -/
theorem objectSize_alike {answer : Except Fault ObjectSize} (hc : Consistent S s I c)
    (hpending : c.pending.ids = []) (hc' : Consistent S s I c') (hpending' : c'.pending.ids = [])
    (h : c.objectSize S rounds id = some (answer, c₁)) :
    ∃ rounds' c₂, c'.objectSize S rounds' id = some (answer, c₂) := by
  have hheader := hS.header id hc.store hc'.store
  have hend := objectEnd h
  cases hend with
  | failed hanswer =>
      refine ⟨0, (c'.askHeader S id).2, ?_⟩
      simp only [objectSize, askHeader_eq, hheader, hanswer]
  | recordedBlob hanswer hkind hrecorded =>
      obtain ⟨c₂, h₂, -⟩ := objectSize_of_blob hS hs hc' (hheader.trans hanswer) hkind 0
      have hsize := blobAt_of_header hS hs hc.store hanswer hkind
      rw [hc.blobs hrecorded] at hsize
      exact ⟨0, c₂, by rw [h₂, Except.ok.inj hsize]⟩
  | blob hanswer hkind =>
      obtain ⟨c₂, h₂, -⟩ := objectSize_of_blob hS hs hc' (hheader.trans hanswer) hkind 0
      exact ⟨0, c₂, h₂⟩
  | tree hanswer hkind htree =>
      have hasked : Consistent S s I (c.askHeader S id).2 :=
        hc.of_tables (hS.keepsHeader hc.store hanswer) rfl rfl
      have hasked' : Consistent S s I (c'.askHeader S id).2 :=
        hc'.of_tables (hS.keepsHeader hc'.store (hheader.trans hanswer)) rfl rfl
      have hverdict := (verdict_of_treeSize hS hs hasked hpending htree).1
      obtain ⟨rounds', c₂, htree'⟩ := exists_treeSize_of_verdict hS hs hverdict hasked' hpending'
      rw [askHeader_eq] at htree'
      refine ⟨rounds', c₂, ?_⟩
      simp only [objectSize, askHeader_eq, hheader, hanswer, hkind, htree']
      rfl
  | unsized hanswer hkind =>
      refine ⟨0, (c'.askHeader S id).2, ?_⟩
      simp only [objectSize, askHeader_eq, hheader, hanswer]
      rcases hkind with hkind | hkind <;> simp only [hkind]
  | unknown hanswer hkind =>
      refine ⟨0, (c'.askHeader S id).2, ?_⟩
      simp only [objectSize, askHeader_eq, hheader, hanswer, hkind]

theorem Consistent.of_objectSize {size : ObjectSize} (hc : Consistent S s I c)
    (hpending : c.pending.ids = []) (h : c.objectSize S rounds id = some (.ok size, c')) :
    Consistent S s I c' := by
  have hend := objectEnd h
  generalize hresult : (Except.ok size, c') = result at hend
  cases hend with
  | failed => cases hresult
  | recordedBlob hanswer _ _ =>
      obtain ⟨-, rfl⟩ := Prod.mk.inj hresult
      exact hc.of_tables (hS.keepsHeader hc.store hanswer) rfl rfl
  | blob hanswer hkind _ =>
      obtain ⟨-, rfl⟩ := Prod.mk.inj hresult
      exact hc.recordBlob hS hs hanswer hkind
  | @tree _ answer _ hanswer _ htree =>
      obtain ⟨hanswer', rfl⟩ := Prod.mk.inj hresult
      have hasked : Consistent S s I (c.askHeader S id).2 :=
        hc.of_tables (hS.keepsHeader hc.store hanswer) rfl rfl
      cases answer with
      | error fault => cases hanswer'
      | ok size => exact (verdict_of_treeSize hS hs hasked hpending htree).2 size rfl
  | unsized => cases hresult
  | unknown => cases hresult

end Steady

/-! ## Calls -/

theorem objectSize_mono {result : Except Fault ObjectSize × Census σ}
    (h : c.objectSize S rounds id = some result) (more : Nat) :
    c.objectSize S (rounds + more) id = some result := by
  unfold objectSize at h ⊢
  rw [askHeader_eq] at h ⊢
  cases hanswer : (S.readHeader id c.store).1 with
  | error fault => simpa only [hanswer] using h
  | ok header =>
      simp only [hanswer] at h ⊢
      cases hkind : header.kind with
      | tree =>
          simp only [hkind] at h ⊢
          obtain ⟨result', htree, rfl⟩ := Option.map_eq_some_iff.mp h
          rw [treeSize_mono htree more]
          rfl
      | blob => simpa only [hkind] using h
      | commit => simpa only [hkind] using h
      | tag => simpa only [hkind] using h
      | other kind => simpa only [hkind] using h

theorem perform_mono {call : Call} {result : Except Fault ObjectSize × Census σ}
    (h : c.perform S rounds call = some result) (more : Nat) :
    c.perform S (rounds + more) call = some result := by
  cases call with
  | blob id => exact h
  | tree id =>
      obtain ⟨result', htree, rfl⟩ := Option.map_eq_some_iff.mp h
      rw [perform, treeSize_mono htree more]
      rfl
  | object id => exact objectSize_mono h more

/-- A call ends in one way, however many rounds it is allowed. -/
theorem perform_unique {call : Call} {rounds' : Nat}
    {result result' : Except Fault ObjectSize × Census σ}
    (h : c.perform S rounds call = some result) (h' : c.perform S rounds' call = some result') :
    result = result' := by
  have hmore := perform_mono h rounds'
  rw [Nat.add_comm, perform_mono h' rounds] at hmore
  exact (Option.some.inj hmore).symm

theorem perform_alike (hS : S.Steady I) (hs : I s) {call : Call}
    {answer : Except Fault ObjectSize} (hc : Consistent S s I c) (hpending : c.pending.ids = [])
    (hc' : Consistent S s I c') (hpending' : c'.pending.ids = [])
    (h : c.perform S rounds call = some (answer, c₁)) :
    ∃ rounds' c₂, c'.perform S rounds' call = some (answer, c₂) := by
  cases call with
  | blob id =>
      have hanswer : (c.blobSize S id).1.map ObjectSize.blob = answer :=
        (Prod.mk.inj (Option.some.inj h)).1
      refine ⟨0, (c'.blobSize S id).2, ?_⟩
      rw [hc.blobSize_eq hS hs, ← hc'.blobSize_eq hS hs] at hanswer
      rw [← hanswer]
      rfl
  | tree id =>
      obtain ⟨⟨answer', c₂⟩, htree, heq⟩ := Option.map_eq_some_iff.mp h
      obtain ⟨rfl, -⟩ := Prod.mk.inj heq
      have hverdict := (verdict_of_treeSize hS hs hc hpending htree).1
      obtain ⟨rounds', c₃, htree'⟩ := exists_treeSize_of_verdict hS hs hverdict hc' hpending'
      refine ⟨rounds', c₃, ?_⟩
      rw [perform, htree']
      rfl
  | object id => exact objectSize_alike hS hs hc hpending hc' hpending' h

theorem Reachable.consistent (hS : S.Fixed I) (hs : I s) (h : Reachable S s c) :
    Consistent S s I c := by
  induction h with
  | start => exact .fresh hs
  | call _ hcall ih =>
      obtain ⟨_, hrun | ⟨id, hrun⟩⟩ := perform_run hS.keeps ih.store hcall
      · exact hrun.consistent_of_fixed hS hs ih
      · have hasked : Consistent S s I (Census.askHeader S id _).2 :=
          ih.of_tables (hS.keeps.header id ih.store) rfl rfl
        exact hrun.consistent_of_fixed hS hs hasked

/-- Over a fixed store, a call that ends after some earlier calls, whether these answered
or failed, ends with the same answer after any other ones and on a census without records,
and with no other. -/
theorem perform_answers_alike (hS : S.Fixed I) (hs : I s) (hc : Reachable S s c)
    (hc' : Reachable S s c') {call : Call} {answer : Except Fault ObjectSize}
    (h : c.perform S rounds call = some (answer, c₁)) :
    (∃ rounds' c₂, perform S rounds' call { store := s } = some (answer, c₂)) ∧
    (∃ rounds' c₂, c'.perform S rounds' call = some (answer, c₂)) ∧
    ∀ rounds' answer' c₂, c'.perform S rounds' call = some (answer', c₂) → answer' = answer := by
  have hconsistent := hc.consistent hS hs
  have hother := perform_alike hS.steady hs hconsistent hc.pending (hc'.consistent hS hs)
    hc'.pending h
  refine ⟨?_, hother, fun rounds' answer' c₂ h₂ => ?_⟩
  · exact perform_alike hS.steady hs hconsistent hc.pending (.fresh hs) rfl h
  · obtain ⟨rounds'', c₃, h₃⟩ := hother
    exact congrArg Prod.fst (perform_unique h₂ h₃)

/-- The empty tree, once with a record of it and once after a lookup that failed. -/
theorem perform_answers_alike_recorded :
    ∃ c c' : Census ObjectMap, (c.trees.find? .zero).isSome ∧ c'.trees.find? .zero = none ∧
      Reachable ObjectMap.store [(.zero, .ofContent .tree [])] c ∧
      Reachable ObjectMap.store [(.zero, .ofContent .tree [])] c' ∧
      ∃ rounds c₁, c'.perform ObjectMap.store rounds (.tree .zero) =
        some (.ok (.tree { maxDepth := 1 }), c₁) := by
  let m : ObjectMap := [(.zero, .ofContent .tree [])]
  let c : Census ObjectMap := { store := m, trees := ⟨[(.zero, { maxDepth := 1 })]⟩ }
  have hread : ObjectMap.store.readTree .zero m = (.ok [], m) := rfl
  have hround : round ObjectMap.store .zero { store := m, pending := ⟨[.zero]⟩ } = (.ok (), c) := by
    simp only [round, attempt, askTree, hread, Tree.decode_nil, scanEntries]
    rfl
  have hwork : work ObjectMap.store 1 { store := m, pending := ⟨[.zero]⟩ } = some (.ok (), c) := by
    simp only [work, hround]
    rfl
  have hsized : perform ObjectMap.store 1 (.tree .zero) { store := m } =
      some (.ok (.tree { maxDepth := 1 }), c) := by
    simp only [perform, treeSize, push, Pending.push, hwork]
    rfl
  have hfailed : perform ObjectMap.store 0 (.blob .zero) { store := m } =
      some (.error (.wrongKind .zero "tree" "blob"), { store := m }) := rfl
  have hc : Reachable ObjectMap.store m c := .call .start hsized
  have hc' : Reachable ObjectMap.store m { store := m } := .call .start hfailed
  have hrecorded : c.perform ObjectMap.store 0 (.tree .zero) =
      some (.ok (.tree { maxDepth := 1 }), c) := rfl
  refine ⟨c, _, rfl, rfl, hc, hc', ?_⟩
  exact (perform_answers_alike m.store_fixed rfl hc hc' hrecorded).2.1

end GitCensus.Census
