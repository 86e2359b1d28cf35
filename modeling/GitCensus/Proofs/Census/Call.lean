import GitCensus.Proofs.Census.Sound
/-!
# Calls and reachable states

A census is used through three calls.  A state is reachable if some row of calls
leads to it from a census without records, whether these calls answered or failed.
-/

namespace GitCensus

inductive Call where
  | blob (id : ObjectId)
  | tree (id : ObjectId)
  | object (id : ObjectId)
deriving DecidableEq

namespace Census

variable {σ : Type}

/-- Makes a call, with a limit on the rounds of work. -/
def perform (S : Store σ) (rounds : Nat) :
    Call → Census σ → Option (Except Fault ObjectSize × Census σ)
  | .blob id, c =>
    let (answer, c) := c.blobSize S id
    some (answer.map .blob, c)
  | .tree id, c => (c.treeSize S rounds id).map fun (answer, c) => (answer.map .tree, c)
  | .object id, c => c.objectSize S rounds id

/-- The states that calls can lead to, from a store in state `s`. -/
inductive Reachable (S : Store σ) (s : σ) : Census σ → Prop
  | start : Reachable S s { store := s }
  | call {c c' : Census σ} {rounds : Nat} {call : Call} {answer : Except Fault ObjectSize}
      (hc : Reachable S s c) (h : c.perform S rounds call = some (answer, c')) :
      Reachable S s c'

variable {S : Store σ} {m : ObjectMap} {I J : σ → Prop} {c c' : Census σ} {id : ObjectId}

/-- The ways that sizing an object can end, by the header that the store answers with. -/
inductive ObjectEnd (S : Store σ) (rounds : Nat) (id : ObjectId) (c : Census σ) :
    Except Fault ObjectSize × Census σ → Prop
  | failed {fault : Fault} (hanswer : (S.readHeader id c.store).1 = .error fault) :
      ObjectEnd S rounds id c (.error fault, (c.askHeader S id).2)
  | recordedBlob {header : Header} {size : BlobSize}
      (hanswer : (S.readHeader id c.store).1 = .ok header) (hkind : header.kind = .blob)
      (hrecorded : c.blobs.find? id = some size) :
      ObjectEnd S rounds id c (.ok (.blob size), (c.askHeader S id).2)
  | blob {header : Header} (hanswer : (S.readHeader id c.store).1 = .ok header)
      (hkind : header.kind = .blob) (hnew : c.blobs.find? id = none) :
      ObjectEnd S rounds id c (.ok (.blob (BlobSize.ofHeader header.size)),
        (c.askHeader S id).2.recordBlob id header.size)
  | tree {header : Header} {answer : Except Fault TreeSize} {c' : Census σ}
      (hanswer : (S.readHeader id c.store).1 = .ok header) (hkind : header.kind = .tree)
      (h : (c.askHeader S id).2.treeSize S rounds id = some (answer, c')) :
      ObjectEnd S rounds id c (answer.map .tree, c')
  | unsized {header : Header} (hanswer : (S.readHeader id c.store).1 = .ok header)
      (hkind : header.kind = .commit ∨ header.kind = .tag) :
      ObjectEnd S rounds id c
        (.error (.unsizedKind id header.kind.name), (c.askHeader S id).2)
  | unknown {header : Header} {kind : String}
      (hanswer : (S.readHeader id c.store).1 = .ok header) (hkind : header.kind = .other kind) :
      ObjectEnd S rounds id c
        (.error (.protocol (.unknownKind id kind)), (c.askHeader S id).2)

theorem objectEnd {rounds : Nat} {result : Except Fault ObjectSize × Census σ}
    (h : c.objectSize S rounds id = some result) : ObjectEnd S rounds id c result := by
  unfold objectSize at h
  rw [askHeader_eq] at h
  cases hanswer : (S.readHeader id c.store).1 with
  | error fault =>
      simp only [hanswer, Option.some.injEq] at h
      exact h ▸ .failed hanswer
  | ok header =>
      simp only [hanswer] at h
      cases hkind : header.kind with
      | blob =>
          cases hfind : c.blobs.find? id with
          | some size =>
              simp only [hkind, hfind, Option.some.injEq] at h
              exact h ▸ .recordedBlob hanswer hkind hfind
          | none =>
              simp only [hkind, hfind, Option.some.injEq] at h
              exact h ▸ .blob hanswer hkind hfind
      | tree =>
          simp only [hkind] at h
          obtain ⟨⟨answer, c'⟩, htree, rfl⟩ := Option.map_eq_some_iff.mp h
          exact .tree hanswer hkind htree
      | commit =>
          simp only [hkind, Option.some.injEq] at h
          rw [← h, ← hkind]
          exact .unsized hanswer (.inl hkind)
      | tag =>
          simp only [hkind, Option.some.injEq] at h
          rw [← h, ← hkind]
          exact .unsized hanswer (.inr hkind)
      | other kind =>
          simp only [hkind, Option.some.injEq] at h
          exact h ▸ .unknown hanswer hkind

/-- The ways that a call can end: as a lookup of a blob or a tree, or, where an object is
sized, by its header and then what its kind calls for. -/
inductive CallEnd (S : Store σ) (rounds : Nat) (c : Census σ) : Census σ → Prop
  | blob {id : ObjectId} {answer : Except Fault BlobSize} {c' : Census σ}
      (h : c.blobSize S id = (answer, c')) : CallEnd S rounds c c'
  | tree {id : ObjectId} {answer : Except Fault TreeSize} {c' : Census σ}
      (h : c.treeSize S rounds id = some (answer, c')) : CallEnd S rounds c c'
  | asked (id : ObjectId) : CallEnd S rounds c (c.askHeader S id).2
  | askedBlob {id : ObjectId} {header : Header} (hnew : c.blobs.find? id = none)
      (hanswer : (S.readHeader id c.store).1 = .ok header) (hkind : header.kind = .blob) :
      CallEnd S rounds c ((c.askHeader S id).2.recordBlob id header.size)
  | askedTree {id : ObjectId} {answer : Except Fault TreeSize} {c' : Census σ}
      (h : (c.askHeader S id).2.treeSize S rounds id = some (answer, c')) :
      CallEnd S rounds c c'

theorem callEnd_of_objectSize {rounds : Nat} {answer : Except Fault ObjectSize}
    (h : c.objectSize S rounds id = some (answer, c')) : CallEnd S rounds c c' := by
  have hend := objectEnd h
  cases hend with
  | failed => exact .asked id
  | recordedBlob => exact .asked id
  | blob hanswer hkind hnew => exact .askedBlob hnew hanswer hkind
  | tree _ _ h => exact .askedTree h
  | unsized => exact .asked id
  | unknown => exact .asked id

theorem callEnd {rounds : Nat} {call : Call} {answer : Except Fault ObjectSize}
    (h : c.perform S rounds call = some (answer, c')) : CallEnd S rounds c c' := by
  cases call with
  | blob id =>
      obtain ⟨-, rfl⟩ := Prod.mk.inj (Option.some.inj h)
      exact .blob rfl
  | tree id =>
      obtain ⟨⟨answer', c₁⟩, htree, heq⟩ := Option.map_eq_some_iff.mp h
      obtain ⟨-, rfl⟩ := Prod.mk.inj heq
      exact .tree htree
  | object id => exact callEnd_of_objectSize h

theorem perform_run {rounds : Nat} {call : Call} {answer : Except Fault ObjectSize}
    (hS : S.Keeps I) (hI : I c.store) (h : c.perform S rounds call = some (answer, c')) :
    ∃ end', Run S I end' c c' ∨ ∃ id, Run S I end' (c.askHeader S id).2 c' := by
  have hend := callEnd h
  cases hend with
  | blob h => exact ⟨_, .inl (blobSize_run h)⟩
  | tree h => exact ⟨_, .inl (treeSize_run hS hI h)⟩
  | asked id => exact ⟨none, .inr ⟨id, .refl _⟩⟩
  | askedBlob hnew hanswer hkind => exact ⟨none, .inl (Move.blob hnew hanswer hkind).run⟩
  | @askedTree id _ _ h => exact ⟨_, .inr ⟨id, treeSize_run hS (hS.header id hI) h⟩⟩

/-- Sizing a tree leaves the stack empty, whether it succeeds or fails. -/
theorem treeSize_pending {rounds : Nat} {answer : Except Fault TreeSize}
    (hpending : c.pending.ids = []) (h : c.treeSize S rounds id = some (answer, c')) :
    c'.pending.ids = [] := by
  have hend := treeEnd h
  cases hend with
  | recorded => exact hpending
  | failed => rfl
  | sized _ hwork _ => exact (work_pending hwork).1

theorem perform_pending {rounds : Nat} {call : Call} {answer : Except Fault ObjectSize}
    (hpending : c.pending.ids = []) (h : c.perform S rounds call = some (answer, c')) :
    c'.pending.ids = [] := by
  have hend := callEnd h
  cases hend with
  | blob h => rw [(blobSize_spec h).2.2.1, hpending]
  | tree h => exact treeSize_pending hpending h
  | asked id => exact hpending
  | askedBlob => exact hpending
  | @askedTree id _ _ h =>
      have hasked : (c.askHeader S id).2.pending.ids = [] := hpending
      exact treeSize_pending hasked h

theorem perform_keptIn {rounds : Nat} {call : Call} {answer : Except Fault ObjectSize}
    (h : c.perform S rounds call = some (answer, c')) : c.KeptIn c' := by
  have hkeeps : S.Keeps fun _ => True := ⟨fun _ _ => trivial, fun _ _ => trivial⟩
  obtain ⟨_, hrun | ⟨id, hrun⟩⟩ := perform_run hkeeps trivial h
  · exact hrun.keptIn
  · exact ⟨hrun.keptIn.blobs, hrun.keptIn.trees⟩

theorem Reachable.pending {s : σ} (h : Reachable S s c) : c.pending.ids = [] := by
  induction h with
  | start => rfl
  | call _ hcall ih => exact perform_pending ih hcall

theorem Reachable.keeps {s : σ} (hS : S.Keeps I) (hs : I s) (h : Reachable S s c) :
    I c.store := by
  induction h with
  | start => exact hs
  | call _ hcall ih =>
      obtain ⟨_, hrun | ⟨id, hrun⟩⟩ := perform_run hS ih hcall
      · exact hrun.keeps hS ih
      · exact hrun.keeps hS (hS.header id ih)

/-- In every reachable state the records are sound. -/
theorem Reachable.fit {s : σ} (hS : S.Serves m I J) (hs : I s) (h : Reachable S s c) :
    Fit m I c := by
  induction h with
  | start => exact ⟨hs, .empty s⟩
  | @call c _ _ _ _ _ hcall ih =>
      obtain ⟨_, hrun | ⟨id, hrun⟩⟩ := perform_run hS.keeps ih.store hcall
      · exact hrun.fit hS ih
      · have hasked : Fit m I (c.askHeader S id).2 :=
          ⟨hS.keeps.header id ih.store, ih.sound.of_tables rfl rfl⟩
        exact hrun.fit hS hasked

end Census

end GitCensus
