import GitCensus.Census.Sizing
import GitCensus.Proofs.Store.Trees
/-!
# Records and the stack

What the records of a census say about a list of entries: the statistics that follow
from them, and the subtrees that are still without one.  The stack and the notes say
nothing about either.
-/

namespace GitCensus

namespace Table

variable {β : Type} {t t' t'' : Table β} {id : ObjectId} {value : β}

/-- Every record of the first table stands unchanged in the second. -/
def KeptIn (t t' : Table β) : Prop :=
  ∀ id value, t.find? id = some value → t'.find? id = some value

theorem KeptIn.refl (t : Table β) : t.KeptIn t := fun _ _ h => h

theorem KeptIn.trans (h : t.KeptIn t') (h' : t'.KeptIn t'') : t.KeptIn t'' :=
  fun id value hfind => h' id value (h id value hfind)

theorem KeptIn.isSome (h : t.KeptIn t') (hsome : (t.find? id).isSome) :
    (t'.find? id).isSome := by
  obtain ⟨value, hvalue⟩ := Option.isSome_iff_exists.mp hsome
  rw [h id value hvalue]
  rfl

theorem keptIn_record (hnew : t.find? id = none) : t.KeptIn (t.record id value) := by
  intro other old hold
  rw [find?_record_of_ne _ _ (by rintro rfl; simp [hnew] at hold)]
  exact hold

theorem find?_record_eq_some {other : ObjectId} {found : β}
    (h : (t.record id value).find? other = some found) :
    (other = id ∧ found = value) ∨ t.find? other = some found := by
  by_cases heq : other = id
  · subst heq
    rw [find?_record_self] at h
    exact .inl ⟨rfl, (Option.some.inj h).symm⟩
  · rw [find?_record_of_ne _ _ heq] at h
    exact .inr h

end Table

namespace Census

variable {σ : Type} {S : Store σ} {c c' c'' : Census σ}

/-- All records of the first state stand unchanged in the second. -/
structure KeptIn (c c' : Census σ) : Prop where
  blobs : c.blobs.KeptIn c'.blobs
  trees : c.trees.KeptIn c'.trees

theorem KeptIn.refl (c : Census σ) : c.KeptIn c := ⟨.refl _, .refl _⟩

theorem KeptIn.trans (h : c.KeptIn c') (h' : c'.KeptIn c'') : c.KeptIn c'' :=
  ⟨h.blobs.trans h'.blobs, h.trees.trans h'.trees⟩

/-- The statistics of a tree with the given entries, from records alone. -/
def fold? (c : Census σ) (entries : List Entry) : Option TreeSize :=
  TreeSize.ofEntries? c.blobs.find? c.trees.find? entries

theorem fold?_mono (h : c.KeptIn c') {entries : List Entry} {size : TreeSize}
    (hsize : c.fold? entries = some size) : c'.fold? entries = some size :=
  TreeSize.ofEntries?_mono (fun _ _ _ => h.blobs _) (fun _ _ _ => h.trees _) hsize

/-- The subtrees among some entries that have no record, in order. -/
def unrecorded (c : Census σ) (entries : List Entry) : List ObjectId :=
  (Entry.subtrees entries).filter fun id => (c.trees.find? id).isNone

theorem unrecorded_eq_nil_iff {entries : List Entry} :
    c.unrecorded entries = [] ↔
      ∀ e ∈ entries, e.kind = .tree → (c.trees.find? e.id).isSome := by
  simp only [unrecorded, List.filter_eq_nil_iff, Entry.mem_subtrees]
  constructor
  · intro h e he hkind
    simpa [Option.isSome_iff_ne_none] using h e.id ⟨e, he, hkind, rfl⟩
  · rintro h _ ⟨e, he, hkind, rfl⟩
    simpa [Option.isSome_iff_ne_none] using h e he hkind

theorem unrecorded_congr (h : c'.trees = c.trees) (entries : List Entry) :
    c'.unrecorded entries = c.unrecorded entries := by
  rw [unrecorded, unrecorded, h]

theorem unrecorded_cons_of_tree {e : Entry} {rest : List Entry} (hkind : e.kind = .tree)
    (hnew : c.trees.find? e.id = none) :
    c.unrecorded (e :: rest) = e.id :: c.unrecorded rest := by
  simp [unrecorded, Entry.subtrees, hkind, hnew]

theorem unrecorded_cons_of_recorded {e : Entry} {rest : List Entry}
    (h : e.kind = .tree → (c.trees.find? e.id).isSome) :
    c.unrecorded (e :: rest) = c.unrecorded rest := by
  by_cases hkind : e.kind = .tree
  · obtain ⟨size, hsize⟩ := Option.isSome_iff_exists.mp (h hkind)
    simp [unrecorded, Entry.subtrees, hkind, hsize]
  · simp [unrecorded, Entry.subtrees, hkind]

/-- The same records with another stack and other notes. -/
def withStack (c : Census σ) (pending : List ObjectId) (notes : List Note) : Census σ :=
  { c with pending := ⟨pending⟩, notes }

section WithStack

variable (c) (pending : List ObjectId) (notes : List Note)

@[simp] theorem withStack_self : c.withStack c.pending.ids c.notes = c := rfl

@[simp] theorem withStack_store : (c.withStack pending notes).store = c.store := rfl

@[simp] theorem withStack_blobs : (c.withStack pending notes).blobs = c.blobs := rfl

@[simp] theorem withStack_trees : (c.withStack pending notes).trees = c.trees := rfl

@[simp] theorem withStack_pending : (c.withStack pending notes).pending = ⟨pending⟩ := rfl

@[simp] theorem withStack_push (id : ObjectId) :
    (c.withStack pending notes).push id = c.withStack (id :: pending) notes := rfl

theorem withStack_pop (id : ObjectId) :
    (c.withStack (id :: pending) notes).pop = c.withStack pending notes := rfl

end WithStack

end Census

end GitCensus
