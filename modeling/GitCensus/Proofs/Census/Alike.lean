import Mathlib.Data.Option.Basic
import GitCensus.Proofs.Census.Call
import GitCensus.Proofs.Store.Alike
/-!
# A census over stores that answer alike

Nothing in a census depends on its store but the answers it gets.  Over stores that
answer alike, calls give the same answers and leave the same tables.
-/

namespace GitCensus.Census

variable {σ τ α : Type}

def withStore (c : Census σ) (t : τ) : Census τ := { c with store := t }

/-- The same result, with a census over a corresponding store. -/
def Same (R : σ → τ → Prop) (r : α × Census σ) (r' : α × Census τ) : Prop :=
  ∃ t, r' = (r.1, r.2.withStore t) ∧ R r.2.store t

variable {S : Store σ} {T : Store τ} {R : σ → τ → Prop} {c : Census σ} {t : τ}

theorem Same.refl {value : α} (h : R c.store t) : Same R (value, c) (value, c.withStore t) :=
  ⟨t, rfl, h⟩

theorem Same.map {β : Type} {o : Option (α × Census σ)} {o' : Option (α × Census τ)} (f : α → β)
    (h : Option.Rel (Same R) o o') :
    Option.Rel (Same R) (o.map fun (answer, c) => (f answer, c))
      (o'.map fun (answer, c) => (f answer, c)) := by
  cases h with
  | none => exact .none
  | @some r r' hsame =>
      obtain ⟨t, rfl, hstate⟩ := hsame
      exact .some ⟨t, rfl, hstate⟩

theorem askHeader_same (hR : S.Alike T R) (h : R c.store t) (id : ObjectId) :
    Same R (c.askHeader S id) ((c.withStore t).askHeader T id) := by
  obtain ⟨hanswer, hstate⟩ := hR.header id h
  exact ⟨_, Prod.ext hanswer rfl, hstate⟩

theorem askTree_same (hR : S.Alike T R) (h : R c.store t) (id : ObjectId) :
    Same R (c.askTree S id) ((c.withStore t).askTree T id) := by
  obtain ⟨hanswer, hstate⟩ := hR.tree id h
  exact ⟨_, Prod.ext hanswer rfl, hstate⟩

theorem blobSize_same (hR : S.Alike T R) (h : R c.store t) (id : ObjectId) :
    Same R (c.blobSize S id) ((c.withStore t).blobSize T id) := by
  have htable : (c.withStore t).blobs = c.blobs := rfl
  unfold blobSize
  rw [htable]
  cases c.blobs.find? id with
  | some size => exact .refl h
  | none =>
      obtain ⟨t₁, heq, h₁⟩ := askHeader_same hR h id
      dsimp only
      rw [heq]
      generalize c.askHeader S id = result at h₁
      obtain ⟨fault | header, c₁⟩ := result
      · exact .refl h₁
      · dsimp only
        split
        · exact ⟨t₁, rfl, h₁⟩
        · exact .refl h₁

theorem scanEntry_same (hR : S.Alike T R) (h : R c.store t) (e : Entry) (s : Scan) :
    Same R (scanEntry S e s c) (scanEntry T e s (c.withStore t)) := by
  have htable : (c.withStore t).trees = c.trees := rfl
  unfold scanEntry
  rw [htable]
  cases e.kind with
  | tree =>
      cases c.trees.find? e.id with
      | none => exact ⟨t, rfl, h⟩
      | some size => exact .refl h
  | submodule => exact .refl h
  | link => exact .refl h
  | blob =>
      obtain ⟨t₁, heq, h₁⟩ := blobSize_same hR h e.id
      dsimp only
      rw [heq]
      generalize c.blobSize S e.id = result at h₁
      obtain ⟨fault | blob, c₁⟩ := result
      · exact .refl h₁
      · exact .refl h₁

theorem scanEntries_same (hR : S.Alike T R) (entries : List Entry) (s : Scan) (h : R c.store t) :
    Same R (scanEntries S entries s c) (scanEntries T entries s (c.withStore t)) := by
  induction entries generalizing s c t with
  | nil => exact .refl h
  | cons e rest ih =>
      obtain ⟨t₁, heq, h₁⟩ := scanEntry_same hR h e s
      unfold scanEntries
      rw [heq]
      generalize scanEntry S e s c = result at h₁
      obtain ⟨fault | s₁, c₁⟩ := result
      · exact .refl h₁
      · exact ih s₁ h₁

theorem attempt_same (hR : S.Alike T R) (h : R c.store t) (id : ObjectId) :
    Same R (c.attempt S id) ((c.withStore t).attempt T id) := by
  obtain ⟨t₁, heq, h₁⟩ := askTree_same hR h id
  unfold attempt
  rw [heq]
  generalize c.askTree S id = result at h₁
  obtain ⟨fault | data, c₁⟩ := result
  · exact .refl h₁
  obtain ⟨t₂, heq₂, h₂⟩ := scanEntries_same hR (Tree.decode data).entries {} h₁
  dsimp only
  rw [heq₂]
  generalize scanEntries S (Tree.decode data).entries {} c₁ = result at h₂
  obtain ⟨fault | s, c₂⟩ := result
  · exact .refl h₂
  dsimp only
  cases (Tree.decode data).fault with
  | some cause => exact .refl h₂
  | none =>
      dsimp only
      split
      · exact ⟨t₂, rfl, h₂⟩
      · exact .refl h₂

theorem round_same (hR : S.Alike T R) (h : R c.store t) (id : ObjectId) :
    Same R (c.round S id) ((c.withStore t).round T id) := by
  have htable : (c.withStore t).trees = c.trees := rfl
  unfold round
  rw [htable]
  split
  · exact ⟨t, rfl, h⟩
  obtain ⟨t₁, heq, h₁⟩ := attempt_same hR h id
  rw [heq]
  generalize c.attempt S id = result at h₁
  obtain ⟨fault | _ | size, c₁⟩ := result
  · exact .refl h₁
  · exact .refl h₁
  · exact ⟨t₁, rfl, h₁⟩

theorem work_same (hR : S.Alike T R) (rounds : Nat) (h : R c.store t) :
    Option.Rel (Same R) (work S rounds c) (work T rounds (c.withStore t)) := by
  induction rounds generalizing c t with
  | zero =>
      have hstack : (c.withStore t).pending.ids = c.pending.ids := rfl
      unfold work
      rw [hstack]
      cases c.pending.ids with
      | nil => exact .some (.refl h)
      | cons id rest => exact .none
  | succ rounds ih =>
      have hstack : (c.withStore t).pending.ids = c.pending.ids := rfl
      unfold work
      rw [hstack]
      cases c.pending.ids with
      | nil => exact .some (.refl h)
      | cons id rest =>
          obtain ⟨t₁, heq, h₁⟩ := round_same hR h id
          dsimp only
          rw [heq]
          generalize c.round S id = result at h₁
          obtain ⟨fault | ⟨⟩, c₁⟩ := result
          · exact .some (.refl h₁)
          · exact ih h₁

theorem treeSize_same (hR : S.Alike T R) (rounds : Nat) (h : R c.store t) (id : ObjectId) :
    Option.Rel (Same R) (c.treeSize S rounds id) ((c.withStore t).treeSize T rounds id) := by
  have htable : (c.withStore t).trees = c.trees := rfl
  unfold treeSize
  rw [htable]
  cases c.trees.find? id with
  | some size => exact .some (.refl h)
  | none =>
      have hwork := work_same (c := c.push id) hR rounds h
      have hpush : (c.withStore t).push id = (c.push id).withStore t := rfl
      dsimp only
      rw [hpush]
      generalize work S rounds (c.push id) = result at hwork
      generalize work T rounds ((c.push id).withStore t) = result' at hwork
      cases hwork with
      | none => exact .none
      | @some r r' hsame =>
          obtain ⟨t₁, rfl, h₁⟩ := hsame
          obtain ⟨fault | ⟨⟩, c₁⟩ := r
          · exact .some ⟨t₁, rfl, h₁⟩
          · have htable₁ : (c₁.withStore t₁).trees = c₁.trees := rfl
            dsimp only
            rw [htable₁]
            cases c₁.trees.find? id with
            | some size => exact .some (.refl h₁)
            | none => exact .some (.refl h₁)

theorem objectSize_same (hR : S.Alike T R) (rounds : Nat) (h : R c.store t) (id : ObjectId) :
    Option.Rel (Same R) (c.objectSize S rounds id) ((c.withStore t).objectSize T rounds id) := by
  obtain ⟨t₁, heq, h₁⟩ := askHeader_same hR h id
  unfold objectSize
  rw [heq]
  generalize c.askHeader S id = result at h₁
  obtain ⟨fault | header, c₁⟩ := result
  · exact .some (.refl h₁)
  dsimp only
  cases header.kind with
  | blob =>
      have htable : (c₁.withStore t₁).blobs = c₁.blobs := rfl
      dsimp only
      rw [htable]
      cases c₁.blobs.find? id with
      | some size => exact .some (.refl h₁)
      | none => exact .some ⟨t₁, rfl, h₁⟩
  | tree => exact Same.map _ (treeSize_same hR rounds h₁ id)
  | commit => exact .some (.refl h₁)
  | tag => exact .some (.refl h₁)
  | other kind => exact .some (.refl h₁)

theorem perform_same (hR : S.Alike T R) (rounds : Nat) (call : Call) (h : R c.store t) :
    Option.Rel (Same R) (c.perform S rounds call) ((c.withStore t).perform T rounds call) := by
  cases call with
  | blob id =>
      have hblob : Option.Rel (Same R) (some (c.blobSize S id)) (some ((c.withStore t).blobSize T id)) :=
        .some (blobSize_same hR h id)
      exact Same.map _ hblob
  | tree id => exact Same.map _ (treeSize_same hR rounds h id)
  | object id => exact objectSize_same hR rounds h id

/-- Makes calls in order, each with a limit on its rounds of work: all their answers. -/
def performAll (S : Store σ) :
    List (Nat × Call) → Census σ → Option (List (Except Fault ObjectSize) × Census σ)
  | [], c => some ([], c)
  | (rounds, call) :: rest, c =>
    match c.perform S rounds call with
    | none => none
    | some (answer, c) => (performAll S rest c).map fun (answers, c) => (answer :: answers, c)

theorem performAll_same (hR : S.Alike T R) (calls : List (Nat × Call)) (h : R c.store t) :
    Option.Rel (Same R) (c.performAll S calls) ((c.withStore t).performAll T calls) := by
  induction calls generalizing c t with
  | nil => exact .some (.refl h)
  | cons first rest ih =>
      obtain ⟨rounds, call⟩ := first
      have hcall := perform_same hR rounds call h
      unfold performAll
      generalize c.perform S rounds call = result at hcall
      generalize (c.withStore t).perform T rounds call = result' at hcall
      cases hcall with
      | none => exact .none
      | @some r r' hsame =>
          obtain ⟨t₁, rfl, h₁⟩ := hsame
          exact Same.map _ (ih h₁)

end GitCensus.Census
