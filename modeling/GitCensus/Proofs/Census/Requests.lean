import GitCensus.Proofs.Census.Call
/-!
# What a census asks for

A meter keeps the list of the requests that a run of a census makes.  None of them is
about something that had a record when the run began, and no header is asked for
twice.  This holds for every store, however it answers.
-/

namespace GitCensus

namespace Metered

variable {σ α : Type} {request : Request} {ask : σ → Except Fault α × σ} {s : Metered σ}

theorem requests_of_pass_ok {value : α} (h : (pass request ask s).1 = .ok value) :
    (pass request ask s).2.requests = request :: s.requests := by
  by_cases hzero : s.remaining = some 0
  · rw [pass_refused hzero] at h
    cases h
  · rw [pass_passed hzero]

theorem requests_of_pass (request : Request) (ask : σ → Except Fault α × σ) (s : Metered σ) :
    (pass request ask s).2.requests = s.requests ∨
      (pass request ask s).2.requests = request :: s.requests := by
  by_cases hzero : s.remaining = some 0
  · rw [pass_refused hzero]
    exact .inl rfl
  · rw [pass_passed hzero]
    exact .inr rfl

end Metered

namespace Census

variable {σ : Type} {S : Store σ} {I : Metered σ → Prop} {c c' c'' : Census (Metered σ)}
variable {made : List Request} {id : ObjectId} {end' : Option Fault}

/-- What was asked for between two states. -/
structure Asked (c c' : Census (Metered σ)) (made : List Request) : Prop where
  requests : c'.store.requests = made ++ c.store.requests
  /-- No header of a blob that had a record. -/
  headers : ∀ id, .header id ∈ made → c.blobs.find? id = none
  /-- No payload of a tree that had a record. -/
  trees : ∀ id, .tree id ∈ made → c.trees.find? id = none
  once : ∀ id, made.count (.header id) ≤ 1

/-- The blobs whose headers were asked for have records. -/
def Resolved (c : Census (Metered σ)) (made : List Request) : Prop :=
  ∀ id, .header id ∈ made → (c.blobs.find? id).isSome

theorem Asked.nil (h : c'.store.requests = c.store.requests) : Asked c c' [] :=
  ⟨h, by simp, by simp, by simp⟩

theorem Asked.of_requests (h : Asked c c' made)
    (hrequests : c''.store.requests = c'.store.requests) : Asked c c'' made :=
  ⟨hrequests.trans h.requests, h.headers, h.trees, h.once⟩

theorem Asked.header (h : Asked c c' made) (hresolved : Resolved c' made)
    (hkept : c.KeptIn c') (hnew : c'.blobs.find? id = none)
    (hrequests : c''.store.requests = .header id :: c'.store.requests) :
    Asked c c'' (.header id :: made) := by
  have hnot : .header id ∉ made := by
    intro hmem
    have hsome := hresolved id hmem
    simp [hnew] at hsome
  refine ⟨by rw [hrequests, h.requests]; rfl, fun u hu => ?_, fun u hu => ?_, fun u => ?_⟩
  · rcases List.mem_cons.mp hu with heq | hu
    · obtain rfl := Request.header.inj heq
      cases hfind : c.blobs.find? u with
      | none => rfl
      | some size => simp [hkept.blobs u size hfind] at hnew
    · exact h.headers u hu
  · exact h.trees u (by simpa using hu)
  · by_cases heq : u = id
    · subst heq
      rw [List.count_cons_self, List.count_eq_zero_of_not_mem hnot]
    · have hne : ¬ Request.header id = .header u := fun h => heq (Request.header.inj h).symm
      rw [List.count_cons_of_ne hne]
      exact h.once u

theorem Asked.tree (h : Asked c c' made) (hkept : c.KeptIn c')
    (hnew : c'.trees.find? id = none)
    (hrequests : c''.store.requests = .tree id :: c'.store.requests) :
    Asked c c'' (.tree id :: made) := by
  refine ⟨by rw [hrequests, h.requests]; rfl, fun u hu => ?_, fun u hu => ?_, fun u => ?_⟩
  · exact h.headers u (by simpa using hu)
  · rcases List.mem_cons.mp hu with heq | hu
    · obtain rfl := Request.tree.inj heq
      cases hfind : c.trees.find? u with
      | none => rfl
      | some size => simp [hkept.trees u size hfind] at hnew
    · exact h.trees u hu
  · rw [List.count_cons_of_ne (by simp)]
    exact h.once u

theorem Move.asked (h : Move (Metered.store S) I c' c'') (hkept : c.KeptIn c')
    (hasked : Asked c c' made) (hresolved : Resolved c' made) :
    ∃ made', Asked c c'' made' ∧ Resolved c'' made' := by
  cases h with
  | stack => exact ⟨made, hasked.of_requests rfl, hresolved⟩
  | @blob id header hnew hanswer _ =>
      have hrequests := Metered.requests_of_pass_ok hanswer
      refine ⟨.header id :: made, hasked.header hresolved hkept hnew hrequests, fun u hu => ?_⟩
      rcases List.mem_cons.mp hu with heq | hu
      · obtain rfl := Request.header.inj heq
        simp [recordBlob]
      · exact (Table.keptIn_record hnew).isSome (hresolved u hu)
  | @tree id _ hnew hanswer =>
      have hrequests := Metered.requests_of_pass_ok hanswer
      refine ⟨.tree id :: made, hasked.tree hkept hnew hrequests, fun u hu => ?_⟩
      exact hresolved u (by simpa using hu)
  | record => exact ⟨made, hasked.of_requests rfl, hresolved⟩

theorem Stop.asked {fault : Fault} (h : Stop (Metered.store S) fault c' c'')
    (hkept : c.KeptIn c') (hasked : Asked c c' made) (hresolved : Resolved c' made) :
    ∃ made', Asked c c'' made' := by
  have hheader {id : ObjectId} (hnew : c'.blobs.find? id = none) :
      ∃ made', Asked c (c'.askHeader (Metered.store S) id).2 made' := by
    rcases Metered.requests_of_pass (.header id) (S.readHeader id) c'.store with hlog | hlog
    · exact ⟨made, hasked.of_requests hlog⟩
    · exact ⟨_, hasked.header hresolved hkept hnew hlog⟩
  have htree {id : ObjectId} (hnew : c'.trees.find? id = none) :
      ∃ made', Asked c (c'.askTree (Metered.store S) id).2 made' := by
    rcases Metered.requests_of_pass (.tree id) (S.readTree id) c'.store with hlog | hlog
    · exact ⟨made, hasked.of_requests hlog⟩
    · exact ⟨_, hasked.tree hkept hnew hlog⟩
  cases h with
  | header hnew => exact hheader hnew
  | wrongKind hnew => exact hheader hnew
  | tree hnew => exact htree hnew
  | malformed => exact ⟨made, hasked.of_requests rfl⟩

private theorem Run.asked_of_none (h : Run (Metered.store S) I none c c') :
    ∃ made, Asked c c' made ∧ Resolved c' made := by
  generalize hend : (none : Option Fault) = e at h
  induction h with
  | refl => exact ⟨[], .nil rfl, by simp [Resolved]⟩
  | move hrun hmove ih =>
      obtain ⟨made, hasked, hresolved⟩ := ih rfl
      exact hmove.asked hrun.keptIn hasked hresolved
  | stop => cases hend

/-- A run asks for no header twice and for nothing that had a record before it. -/
theorem Run.asked (h : Run (Metered.store S) I end' c c') : ∃ made, Asked c c' made := by
  cases h with
  | refl => exact ⟨[], .nil rfl⟩
  | move hrun hmove =>
      obtain ⟨made, hasked, -⟩ := (hrun.move hmove).asked_of_none
      exact ⟨made, hasked⟩
  | stop hrun hstop _ _ =>
      obtain ⟨made, hasked, hresolved⟩ := hrun.asked_of_none
      obtain ⟨made', hasked'⟩ := hstop.asked hrun.keptIn hasked hresolved
      exact ⟨made', hasked'.of_requests rfl⟩

/-! ## Rounds and requests -/

/-- Some rounds of work that succeed. -/
abbrev Rounds {τ : Type} (S : Store τ) : Census τ → Census τ → Prop :=
  Relation.ReflTransGen (Round S)

theorem work_of_rounds {τ : Type} {S : Store τ} {c c₁ : Census τ} {rounds : Nat}
    {result : Except Fault Unit × Census τ} (h : Rounds S c c₁)
    (hwork : c.work S rounds = some result) : ∃ rounds', c₁.work S rounds' = some result := by
  induction h with
  | refl => exact ⟨rounds, hwork⟩
  | tail _ hround ih =>
      obtain ⟨rounds', hwork'⟩ := ih
      obtain ⟨id, rest, hpending, hround⟩ := hround
      rcases work_cases hwork' with ⟨hempty, -⟩ | ⟨fault, id', rest', hpending', -, hfailed⟩ |
        ⟨c₂, rounds'', -, ⟨id', rest', hpending', hround'⟩, hwork''⟩
      · simp [hpending] at hempty
      · obtain ⟨rfl, -⟩ := List.cons.inj (hpending.symm.trans hpending')
        simp [hround] at hfailed
      · obtain ⟨rfl, -⟩ := List.cons.inj (hpending.symm.trans hpending')
        obtain ⟨-, rfl⟩ := Prod.mk.inj (hround.symm.trans hround')
        exact ⟨rounds'', hwork''⟩

theorem work_asked {rounds : Nat} {answer : Except Fault Unit}
    (h : c.work (Metered.store S) rounds = some (answer, c')) : ∃ made, Asked c c' made := by
  have hrun : Run (Metered.store S) (fun _ => True) (faultOf answer) c c' :=
    work_run ⟨fun _ _ => trivial, fun _ _ => trivial⟩ trivial h
  exact hrun.asked

/-- From the call on, and from each state between two rounds of the work, sizing a tree
asks for no header twice and for nothing that has a record by then. -/
theorem treeSize_asked {rounds : Nat} {answer : Except Fault TreeSize}
    (h : c.treeSize (Metered.store S) rounds id = some (answer, c')) :
    (∃ made, Asked c c' made) ∧
    (c.trees.find? id = none → ∀ c₁, Rounds (Metered.store S) (c.push id) c₁ →
      ∃ made, Asked c₁ c' made) := by
  have hrun : Run (Metered.store S) (fun _ => True) (faultOf answer) c c' :=
    treeSize_run ⟨fun _ _ => trivial, fun _ _ => trivial⟩ trivial h
  refine ⟨hrun.asked, fun hnew c₁ hrounds => ?_⟩
  have hend := treeEnd h
  cases hend with
  | recorded hrecorded => simp [hnew] at hrecorded
  | failed _ hwork notes =>
      obtain ⟨rounds', hwork'⟩ := work_of_rounds hrounds hwork
      obtain ⟨made, hmade⟩ := work_asked hwork'
      exact ⟨made, hmade.of_requests rfl⟩
  | sized _ hwork _ =>
      obtain ⟨rounds', hwork'⟩ := work_of_rounds hrounds hwork
      exact work_asked hwork'

end Census

end GitCensus
