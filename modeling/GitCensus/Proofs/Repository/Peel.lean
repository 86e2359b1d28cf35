import GitCensus.Repository.Basic
/-!
# Chains of commits and tags

A tag leads to its target and a commit to its tree.  Such a chain is followed to its end, if
that is not further away than the limit, and to the limit otherwise.
-/

namespace GitCensus.Repository

variable {r : Repository} {id id' : ObjectId} {n limit : Nat}

/-- A commit or tag leads from one id to another in a number of steps. -/
inductive Leads (r : Repository) : Nat → ObjectId → ObjectId → Prop
  | here (id : ObjectId) : Leads r 0 id id
  | tag {t : Tag} {id id' : ObjectId} {n : Nat} (htag : r.object? id = some (.tag t))
      (hrest : Leads r n t.target id') : Leads r (n + 1) id id'
  | commit {c : Commit} {id id' : ObjectId} {n : Nat} (hcommit : r.object? id = some (.commit c))
      (hrest : Leads r n c.root id') : Leads r (n + 1) id id'

/-- A chain ends at a tree, at a blob, and at an id of no object. -/
def EndsAt (r : Repository) (id : ObjectId) : Prop :=
  r.object? id = none ∨ (∃ listing, r.object? id = some (.tree listing)) ∨
    ∃ content, r.object? id = some (.blob content)

/-- A chain ends at an id or goes on from there, and then there is a commit or a tag. -/
theorem endsAt_or_object (r : Repository) (id : ObjectId) :
    r.EndsAt id ∨ ∃ o, r.object? id = some o ∧ (o.kind = .commit ∨ o.kind = .tag) := by
  cases hobject : r.object? id with
  | none => exact .inl (.inl hobject)
  | some o =>
      cases o with
      | blob content => exact .inl (.inr (.inr ⟨content, hobject⟩))
      | tree listing => exact .inl (.inr (.inl ⟨listing, hobject⟩))
      | commit c => exact .inr ⟨.commit c, rfl, .inl rfl⟩
      | tag t => exact .inr ⟨.tag t, rfl, .inr rfl⟩

theorem peelWithin_of_endsAt (h : r.EndsAt id) (limit : Nat) : r.peelWithin limit id = id := by
  have hnext : (r.object? id).bind Object.next? = none := by
    obtain hnone | ⟨listing, htree⟩ | ⟨content, hblob⟩ := h
    · rw [hnone]
      rfl
    · rw [htree]
      rfl
    · rw [hblob]
      rfl
  cases limit with
  | zero => rfl
  | succ limit => rw [peelWithin, hnext]

/-- An end within the limit is where the chain is followed to. -/
theorem peelWithin_of_leads (h : r.Leads n id id') (hend : r.EndsAt id') (hle : n ≤ limit) :
    r.peelWithin limit id = id' := by
  induction h generalizing limit with
  | here id => exact peelWithin_of_endsAt hend limit
  | tag htag _ ih =>
      obtain ⟨limit, rfl⟩ := Nat.exists_eq_add_of_le' (Nat.le_of_add_left_le hle)
      rw [peelWithin, htag]
      exact ih hend (by omega)
  | commit hcommit _ ih =>
      obtain ⟨limit, rfl⟩ := Nat.exists_eq_add_of_le' (Nat.le_of_add_left_le hle)
      rw [peelWithin, hcommit]
      exact ih hend (by omega)

/-- Without an end within the limit, the chain is followed for as many steps as the limit. -/
theorem leads_peelWithin (h : ∀ n id', n ≤ limit → r.Leads n id id' → ¬ r.EndsAt id') :
    r.Leads limit id (r.peelWithin limit id) := by
  induction limit generalizing id with
  | zero => exact .here id
  | succ limit ih =>
      have hhere := h 0 id (Nat.zero_le _) (.here id)
      obtain ⟨o, hobject, hkind⟩ := (r.endsAt_or_object id).resolve_left hhere
      cases o with
      | blob content => simp [Object.kind] at hkind
      | tree listing => simp [Object.kind] at hkind
      | tag t =>
          have hrest := ih fun n id' hle hleads => h (n + 1) id' (by omega) (.tag hobject hleads)
          rw [peelWithin, hobject]
          exact .tag hobject hrest
      | commit c =>
          have hrest := ih fun n id' hle hleads => h (n + 1) id' (by omega) (.commit hobject hleads)
          rw [peelWithin, hobject]
          exact .commit hobject hrest

/-- A chain that goes on beyond the limit. -/
def GoesBeyond (r : Repository) (id : ObjectId) : Prop :=
  ∀ n id', n ≤ peelLimit → r.Leads n id id' → ¬ r.EndsAt id'

theorem GoesBeyond.leads (h : r.GoesBeyond id) : r.Leads peelLimit id (r.peel id) :=
  leads_peelWithin h

/-- Where a chain is left that goes on, there is a commit or a tag. -/
theorem GoesBeyond.exists_object (h : r.GoesBeyond id) :
    ∃ o, r.object? (r.peel id) = some o ∧ (o.kind = .commit ∨ o.kind = .tag) :=
  (r.endsAt_or_object _).resolve_left (h _ _ (Nat.le_refl _) h.leads)

theorem peel_of_leads (h : r.Leads n id id') (hend : r.EndsAt id') (hle : n ≤ peelLimit) :
    r.peel id = id' ∧ r.peel id' = id' :=
  ⟨peelWithin_of_leads h hend hle, peelWithin_of_endsAt hend peelLimit⟩

end GitCensus.Repository
