import GitCensus.Proofs.Census.Call
/-!
# Where records come from

Nothing is assumed of the store here: it may answer the same request differently each
time.  Still no record is ever lost or changed, work that ends has a record for every
tree that stood on the stack, and each record of a tree was made in one round of work,
from one reading of the tree and from records that stood in the tables by then.
-/

namespace GitCensus

variable {σ : Type}

/-- The store itself can fail with a fault. -/
def Store.CanFail (S : Store σ) (fault : Fault) : Prop :=
  ∃ s id, (S.readHeader id s).1 = .error fault ∨ (S.readTree id s).1 = .error fault

namespace Census

variable {S : Store σ} {s : σ} {c c' : Census σ} {id : ObjectId} {size : TreeSize}

/-- The states that a census passes: those between calls, and in a call those before and
after each round of its work. -/
inductive Passes (S : Store σ) (s : σ) : Census σ → Prop
  | idle {c : Census σ} (hc : Reachable S s c) : Passes S s c
  | begun {c : Census σ} {id : ObjectId} (hc : Reachable S s c)
      (hnew : c.trees.find? id = none) : Passes S s (c.push id)
  /-- The tree is sized as an object, so its header was asked for. -/
  | begunAsked {c : Census σ} {id : ObjectId} {header : Header} (hc : Reachable S s c)
      (hanswer : (S.readHeader id c.store).1 = .ok header) (hkind : header.kind = .tree)
      (hnew : c.trees.find? id = none) : Passes S s ((c.askHeader S id).2.push id)
  | round {c c' : Census σ} (hc : Passes S s c) (hround : Round S c c') : Passes S s c'

/-- A round that makes the record of a tree: one reading of its payload decodes completely,
all its subtrees and blobs have records, and the new record is the fold of these. -/
structure Records (S : Store σ) (id : ObjectId) (size : TreeSize) (c c' : Census σ) : Prop where
  round : c.round S id = (.ok (), c')
  unrecorded : c.trees.find? id = none
  recorded : c'.trees = c.trees.record id size
  reading : ∃ data entries, (S.readTree id c.store).1 = .ok data ∧
    Tree.decode data = ⟨entries, none⟩ ∧
    (∀ e ∈ entries, e.kind = .tree → (c.trees.find? e.id).isSome) ∧
    (∀ e ∈ entries, e.kind = .blob → (c'.blobs.find? e.id).isSome) ∧
    TreeSize.ofEntries? c'.blobs.find? c.trees.find? entries = some size

/-- Every record of a tree was made in a round that the census passed, and is unchanged. -/
def Founded (S : Store σ) (s : σ) (c : Census σ) : Prop :=
  ∀ id size, c.trees.find? id = some size →
    ∃ c₁ c₂, Passes S s c₁ ∧ Records S id size c₁ c₂ ∧ c₂.KeptIn c

/-! ## One round -/

theorem keptIn_of_round {answer : Except Fault Unit} (h : c.round S id = (answer, c')) :
    c.KeptIn c' := by
  have hrun : Run S (fun _ => True) (faultOf answer) c c' := round_run trivial h
  exact hrun.keptIn

/-- A round leaves the records of trees alone or makes the one of the tree on top. -/
theorem trees_eq_or_records {answer : Except Fault Unit} (h : c.round S id = (answer, c')) :
    c'.trees = c.trees ∨ answer = .ok () ∧ ∃ size, Records S id size c c' := by
  have hend := roundEnd S id c
  rw [h] at hend
  cases hend with
  | recorded => exact .inl rfl
  | unread _ hsurvey =>
      have htrees := (survey_spec hsurvey).2.1
      exact .inl htrees
  | waits _ hsurvey =>
      have htrees := (survey_spec hsurvey).2.1
      exact .inl htrees
  | @sized entries size c₁ hnew hsurvey hfold =>
      obtain ⟨-, htrees, -, -, hall⟩ := survey_spec hsurvey
      obtain ⟨⟨data, hread, hdecode⟩, -⟩ := hall entries rfl
      rw [fold?, htrees] at hfold
      have hknown := TreeSize.ofEntries?_isSome_iff.mp (by rw [hfold]; rfl)
      refine .inr ⟨rfl, size, h, hnew, ?_, data, entries, hread, hdecode, ?_, ?_, hfold⟩
      · rw [← htrees]
        rfl
      · intro e he
        exact (hknown e he).1
      · intro e he
        exact (hknown e he).2

theorem Founded.of_trees (h : Founded S s c) (hkept : c.KeptIn c') (htrees : c'.trees = c.trees) :
    Founded S s c' := by
  intro id size hfind
  rw [htrees] at hfind
  obtain ⟨c₁, c₂, hpasses, hrecords, hkept'⟩ := h id size hfind
  exact ⟨c₁, c₂, hpasses, hrecords, hkept'.trans hkept⟩

theorem Founded.round {answer : Except Fault Unit} (hc : Passes S s c) (hfounded : Founded S s c)
    (h : c.round S id = (answer, c')) : Founded S s c' := by
  have hkept := keptIn_of_round h
  rcases trees_eq_or_records h with htrees | ⟨-, size, hrecords⟩
  · exact hfounded.of_trees hkept htrees
  · intro other found hfind
    rw [hrecords.recorded] at hfind
    rcases Table.find?_record_eq_some hfind with ⟨rfl, rfl⟩ | hold
    · exact ⟨c, c', hc, hrecords, .refl c'⟩
    · obtain ⟨c₁, c₂, hpasses, hrecords', hkept'⟩ := hfounded other found hold
      exact ⟨c₁, c₂, hpasses, hrecords', hkept'.trans hkept⟩

/-! ## Work and calls -/

theorem Founded.work {rounds : Nat} {answer : Except Fault Unit} (hc : Passes S s c)
    (hfounded : Founded S s c) (h : c.work S rounds = some (answer, c')) : Founded S s c' := by
  induction rounds using Nat.strong_induction_on generalizing c with
  | _ rounds ih =>
      rcases work_cases h with ⟨-, -, rfl⟩ | ⟨fault, id, rest, -, -, hround⟩ |
        ⟨c₁, rounds', hlt, hround, hwork⟩
      · exact hfounded
      · exact hfounded.round hc hround
      · have ⟨id, rest, _, hround'⟩ := hround
        exact ih rounds' hlt (hc.round hround) (hfounded.round hc hround') hwork

theorem Founded.treeSize {rounds : Nat} {answer : Except Fault TreeSize}
    (hfounded : Founded S s c) (hbegun : c.trees.find? id = none → Passes S s (c.push id))
    (h : c.treeSize S rounds id = some (answer, c')) : Founded S s c' := by
  have hpushed : Founded S s (c.push id) := hfounded.of_trees ⟨.refl _, .refl _⟩ rfl
  have hend := treeEnd h
  cases hend with
  | recorded => exact hfounded
  | failed hnew hwork notes =>
      have hworked := hpushed.work (hbegun hnew) hwork
      exact hworked.of_trees ⟨.refl _, .refl _⟩ rfl
  | sized hnew hwork _ => exact hpushed.work (hbegun hnew) hwork

theorem Founded.perform {rounds : Nat} {call : Call} {answer : Except Fault ObjectSize}
    (hc : Reachable S s c) (hfounded : Founded S s c)
    (h : c.perform S rounds call = some (answer, c')) : Founded S s c' := by
  have hkept := perform_keptIn h
  cases call with
  | blob id =>
      obtain ⟨-, rfl⟩ := Prod.mk.inj (Option.some.inj h)
      have htrees := (blobSize_spec (rfl : c.blobSize S id = _)).2.1
      exact hfounded.of_trees hkept htrees
  | tree id =>
      obtain ⟨⟨answer', c₁⟩, htree, heq⟩ := Option.map_eq_some_iff.mp h
      obtain ⟨-, rfl⟩ := Prod.mk.inj heq
      exact hfounded.treeSize (.begun hc) htree
  | object id =>
      have hend := objectEnd h
      cases hend with
      | failed => exact hfounded.of_trees hkept rfl
      | recordedBlob => exact hfounded.of_trees hkept rfl
      | blob => exact hfounded.of_trees hkept rfl
      | tree hanswer hkind htree =>
          have hasked : Founded S s (c.askHeader S id).2 :=
            hfounded.of_trees ⟨.refl _, .refl _⟩ rfl
          exact hasked.treeSize (.begunAsked hc hanswer hkind) htree
      | unsized => exact hfounded.of_trees hkept rfl
      | unknown => exact hfounded.of_trees hkept rfl

theorem Reachable.founded (hc : Reachable S s c) : Founded S s c := by
  induction hc with
  | start =>
      intro id size hfind
      simp [Table.find?] at hfind
  | call hc hcall ih => exact ih.perform hc hcall

theorem Passes.founded (hc : Passes S s c) : Founded S s c := by
  induction hc with
  | idle hc => exact hc.founded
  | begun hc _ => exact hc.founded.of_trees ⟨.refl _, .refl _⟩ rfl
  | begunAsked hc _ _ _ => exact hc.founded.of_trees ⟨.refl _, .refl _⟩ rfl
  | round hc hround ih =>
      obtain ⟨id, rest, -, hround⟩ := hround
      exact ih.round hc hround

/-! ## The fault of a missing record -/

theorem Stop.canFail {u : ObjectId} (h : Stop S (.unrecorded u) c c') :
    S.CanFail (.unrecorded u) := by
  generalize hfault : Fault.unrecorded u = fault at h
  cases h with
  | header _ hanswer => exact ⟨c.store, _, .inl hanswer⟩
  | wrongKind => cases hfault
  | tree _ hanswer => exact ⟨c.store, _, .inr hanswer⟩
  | malformed => cases hfault

theorem Run.canFail {I : σ → Prop} {end' : Option Fault} {u : ObjectId}
    (h : Run S I end' c c') (hend : end' = some (.unrecorded u)) : S.CanFail (.unrecorded u) := by
  cases h with
  | refl => cases hend
  | move => cases hend
  | stop _ hstop =>
      obtain rfl := Option.some.inj hend
      exact hstop.canFail

theorem canFail_of_treeSize {rounds : Nat} {u : ObjectId}
    (h : c.treeSize S rounds id = some (.error (.unrecorded u), c')) :
    S.CanFail (.unrecorded u) := by
  have hkeeps : S.Keeps fun _ => True := ⟨fun _ _ => trivial, fun _ _ => trivial⟩
  have hrun := treeSize_run hkeeps trivial h
  exact hrun.canFail rfl

private theorem eq_error_of_map_eq_error {α β : Type} {f : α → β} {answer : Except Fault α}
    {fault : Fault} (h : answer.map f = .error fault) : answer = .error fault := by
  cases answer with
  | error fault' => exact congrArg Except.error (Except.error.inj h)
  | ok value => cases h

/-- No call ends with a tree unrecorded, unless the store itself fails so. -/
theorem canFail_of_perform {rounds : Nat} {call : Call} {u : ObjectId}
    (h : c.perform S rounds call = some (.error (.unrecorded u), c')) :
    S.CanFail (.unrecorded u) := by
  cases call with
  | blob id =>
      have hmap : (c.blobSize S id).1.map ObjectSize.blob = .error (.unrecorded u) :=
        (Prod.mk.inj (Option.some.inj h)).1
      have hanswer := eq_error_of_map_eq_error hmap
      have hrun : Run S (fun _ => True) (faultOf (c.blobSize S id).1) c (c.blobSize S id).2 :=
        blobSize_run rfl
      exact hrun.canFail (by rw [hanswer, faultOf])
  | tree id =>
      obtain ⟨⟨answer, c₁⟩, htree, heq⟩ := Option.map_eq_some_iff.mp h
      obtain ⟨hmap, rfl⟩ := Prod.mk.inj heq
      rw [eq_error_of_map_eq_error hmap] at htree
      exact canFail_of_treeSize htree
  | object id =>
      have hend := objectEnd h
      generalize hresult : (Except.error (Fault.unrecorded u), c') = result at hend
      cases hend with
      | failed hanswer =>
          obtain ⟨hfault, -⟩ := Prod.mk.inj hresult
          obtain rfl := Except.error.inj hfault
          exact ⟨c.store, id, .inl hanswer⟩
      | recordedBlob => cases hresult
      | blob => cases hresult
      | tree _ _ htree =>
          obtain ⟨hmap, -⟩ := Prod.mk.inj hresult
          rw [eq_error_of_map_eq_error hmap.symm] at htree
          exact canFail_of_treeSize htree
      | unsized => cases hresult
      | unknown => cases hresult

/-! ## Any store -/

/-- Over any store, calls keep all records and leave the stack empty, and the records of
trees are made in rounds that read a tree once and fold records made before.  Work that
ends without a fault leaves no tree unrecorded, so no call ends with that fault. -/
theorem records_founded_over_any_store (S : Store σ) (s : σ) :
    (∀ c, Reachable S s c → ∀ rounds call answer c',
      c.perform S rounds call = some (answer, c') →
        c.KeptIn c' ∧ c'.pending.ids = [] ∧
          ∀ u, answer = .error (.unrecorded u) → S.CanFail (.unrecorded u)) ∧
    ∀ c, Passes S s c →
      (∀ id rest answer c', c.pending.ids = id :: rest → c.round S id = (answer, c') →
        c.KeptIn c') ∧
      (∀ rounds c', c.work S rounds = some (.ok (), c') →
        ∀ t ∈ c.pending.ids, (c'.trees.find? t).isSome) ∧
      ∀ id size, c.trees.find? id = some size →
        ∃ c₁ c₂, Passes S s c₁ ∧ Records S id size c₁ c₂ ∧ c₂.KeptIn c := by
  refine ⟨fun c hc rounds call answer c' hcall => ⟨?_, ?_, ?_⟩, fun c hc => ⟨?_, ?_, ?_⟩⟩
  · exact perform_keptIn hcall
  · exact perform_pending hc.pending hcall
  · rintro u rfl
    exact canFail_of_perform hcall
  · intro id rest answer c' _ hround
    exact keptIn_of_round hround
  · intro rounds c' hwork
    exact (work_pending hwork).2
  · exact hc.founded

/-- A tree that lists a subtree when it is read first and is empty when it is read again. -/
theorem records_founded_over_changing_store :
    ∃ (S : Store (List Bytes)) (payloads : List Bytes) (c : Census (List Bytes)),
      (Tree.decode (payloads.headD [])).entries.length = 1 ∧ Reachable S payloads c ∧
      c.trees.find? .zero = some { maxDepth := 1 } ∧
      ∃ c₁ c₂, Passes S payloads c₁ ∧ Records S .zero { maxDepth := 1 } c₁ c₂ ∧ c₂.KeptIn c := by
  let below : ObjectId := ⟨List.replicate 20 1, rfl⟩
  let data : Bytes := [0x34, 0x30, 0x30, 0x30, 0x30, 0x20, 0x64, 0x00] ++ below.bytes
  let S : Store (List Bytes) := {
    readHeader := fun id payloads => (.error (.missing id), payloads)
    readTree := fun id payloads =>
      ((payloads.head?.map .ok).getD (.error (.missing id)), payloads.tail) }
  have hread : Tree.readEntry data = .ok (⟨0o40000, [0x64], below⟩, []) := rfl
  have hdecode : Tree.decode data = ⟨[⟨0o40000, [0x64], below⟩], none⟩ := by
    rw [Tree.decode_of_ok hread, Tree.decode_nil]
  have hkind : Entry.kind ⟨0o40000, [0x64], below⟩ = .tree := by
    unfold Entry.kind
    decide
  have hfirst : round S .zero { store := [data, [], []], pending := ⟨[.zero]⟩ } =
      (.ok (), { store := [[], []], pending := ⟨[below, .zero]⟩, notes := [.waits .zero 2] }) := by
    simp only [round, attempt, askTree, S, List.head?_cons, Option.map_some, Option.getD_some,
      List.tail_cons, hdecode, scanEntries, scanEntry, hkind]
    rfl
  have hbelow : round S below
      { store := [[], []], pending := ⟨[below, .zero]⟩, notes := [.waits .zero 2] } =
      (.ok (), { store := [[]], trees := ⟨[(below, { maxDepth := 1 })]⟩, pending := ⟨[.zero]⟩,
                 notes := [.waits .zero 2] }) := by
    simp only [round, attempt, askTree, S, List.head?_cons, Option.map_some, Option.getD_some,
      List.tail_cons, Tree.decode_nil, scanEntries]
    rfl
  have hagain : round S .zero
      { store := [[]], trees := ⟨[(below, { maxDepth := 1 })]⟩, pending := ⟨[.zero]⟩,
        notes := [.waits .zero 2] } =
      (.ok (), { store := [], trees := ⟨[(.zero, { maxDepth := 1 }), (below, { maxDepth := 1 })]⟩,
                 notes := [.waits .zero 2] }) := by
    simp only [round, attempt, askTree, S, List.head?_cons, Option.map_some, Option.getD_some,
      List.tail_cons, Tree.decode_nil, scanEntries]
    rfl
  have hwork : work S 3 { store := [data, [], []], pending := ⟨[.zero]⟩ } = some (.ok (),
      { store := [], trees := ⟨[(.zero, { maxDepth := 1 }), (below, { maxDepth := 1 })]⟩,
        notes := [.waits .zero 2] }) := by
    simp only [work, hfirst, hbelow, hagain]
  have hcall : perform S 3 (.tree .zero) { store := [data, [], []] } =
      some (.ok (.tree { maxDepth := 1 }),
      { store := [], trees := ⟨[(.zero, { maxDepth := 1 }), (below, { maxDepth := 1 })]⟩,
        notes := [.waits .zero 2] }) := by
    simp only [perform, treeSize, push, Pending.push, hwork]
    rfl
  have hc := Reachable.call .start hcall
  refine ⟨S, [data, [], []], _, ?_, hc, rfl, ?_⟩
  · rw [List.headD_cons, hdecode]
    rfl
  · exact ((records_founded_over_any_store S _).2 _ (.idle hc)).2.2 .zero _ rfl

end Census

end GitCensus
