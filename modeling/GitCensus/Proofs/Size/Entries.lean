import GitCensus.Size.Tally
import GitCensus.Tree.Entry
/-!
# The statistics of a list of entries

What the entries of one tree contribute, given the sizes of the blobs and trees
they name.  The sizes come as two partial functions, so that the same fold serves
the tables of a census and the recursion over the objects of a store.
-/

namespace GitCensus

variable {blob blob' : ObjectId → Option BlobSize} {tree tree' : ObjectId → Option TreeSize}

/-- What an entry contributes, if the size of what it names is known. -/
def Entry.contribution? (blob : ObjectId → Option BlobSize)
    (tree : ObjectId → Option TreeSize) (e : Entry) : Option Contribution :=
  match e.kind with
  | .tree => (tree e.id).map (.subtree e.name)
  | .submodule => some (.submodule e.name)
  | .link => some (.link e.name)
  | .blob => (blob e.id).map fun b => .blob e.name b.size

/-- What the entries contribute in order, if all sizes are known. -/
def Entry.contributions? (blob : ObjectId → Option BlobSize)
    (tree : ObjectId → Option TreeSize) : List Entry → Option (List Contribution)
  | [] => some []
  | e :: rest =>
    match e.contribution? blob tree, contributions? blob tree rest with
    | some c, some cs => some (c :: cs)
    | _, _ => none

/-- The statistics of the tree with the given entries, if the sizes of all subtrees
and blobs among them are known. -/
def TreeSize.ofEntries? (blob : ObjectId → Option BlobSize)
    (tree : ObjectId → Option TreeSize) (entries : List Entry) : Option TreeSize :=
  (Entry.contributions? blob tree entries).map fun cs =>
    (TreeSize.gather cs).close entries.length

namespace Entry

theorem contributions?_cons_eq_some_iff {e : Entry} {rest : List Entry}
    {cs : List Contribution} :
    contributions? blob tree (e :: rest) = some cs ↔
      ∃ c cs', e.contribution? blob tree = some c ∧
        contributions? blob tree rest = some cs' ∧ cs = c :: cs' := by
  simp only [contributions?]
  cases e.contribution? blob tree <;> cases contributions? blob tree rest <;>
    simp [eq_comm]

theorem contribution?_isSome_iff {e : Entry} :
    (e.contribution? blob tree).isSome ↔
      (e.kind = .tree → (tree e.id).isSome) ∧ (e.kind = .blob → (blob e.id).isSome) := by
  unfold contribution?
  cases h : e.kind <;> simp

theorem contribution?_mono {e : Entry} {c : Contribution}
    (hblob : e.kind = .blob → ∀ b, blob e.id = some b → blob' e.id = some b)
    (htree : e.kind = .tree → ∀ t, tree e.id = some t → tree' e.id = some t)
    (hc : e.contribution? blob tree = some c) :
    e.contribution? blob' tree' = some c := by
  unfold contribution? at hc ⊢
  cases hkind : e.kind with
  | tree =>
      simp only [hkind, Option.map_eq_some_iff] at hc ⊢
      obtain ⟨t, ht, rfl⟩ := hc
      exact ⟨t, htree hkind t ht, rfl⟩
  | blob =>
      simp only [hkind, Option.map_eq_some_iff] at hc ⊢
      obtain ⟨b, hb, rfl⟩ := hc
      exact ⟨b, hblob hkind b hb, rfl⟩
  | link => simpa [hkind] using hc
  | submodule => simpa [hkind] using hc

theorem mem_contributions? {entries : List Entry} {cs : List Contribution}
    (hcs : contributions? blob tree entries = some cs) {c : Contribution} :
    c ∈ cs ↔ ∃ e ∈ entries, e.contribution? blob tree = some c := by
  induction entries generalizing cs with
  | nil =>
      obtain rfl : [] = cs := Option.some.inj hcs
      simp
  | cons e rest ih =>
      obtain ⟨c', cs', hc', hcs', rfl⟩ := contributions?_cons_eq_some_iff.mp hcs
      simp [ih hcs', hc', eq_comm]

theorem contributions?_mono {entries : List Entry} {cs : List Contribution}
    (hblob : ∀ e ∈ entries, e.kind = .blob → ∀ b, blob e.id = some b → blob' e.id = some b)
    (htree : ∀ e ∈ entries, e.kind = .tree → ∀ t, tree e.id = some t → tree' e.id = some t)
    (hcs : contributions? blob tree entries = some cs) :
    contributions? blob' tree' entries = some cs := by
  induction entries generalizing cs with
  | nil => exact hcs
  | cons e rest ih =>
      obtain ⟨c, cs', hc, hcs', rfl⟩ := contributions?_cons_eq_some_iff.mp hcs
      have hhead := contribution?_mono (hblob e (by simp)) (htree e (by simp)) hc
      have htail := ih (fun e' he' => hblob e' (by simp [he']))
        (fun e' he' => htree e' (by simp [he'])) hcs'
      exact contributions?_cons_eq_some_iff.mpr ⟨c, cs', hhead, htail, rfl⟩

theorem contributions?_isSome_iff {entries : List Entry} :
    (contributions? blob tree entries).isSome ↔
      ∀ e ∈ entries, (e.kind = .tree → (tree e.id).isSome) ∧
        (e.kind = .blob → (blob e.id).isSome) := by
  induction entries with
  | nil => simp [contributions?]
  | cons e rest ih =>
      rw [List.forall_mem_cons, ← contribution?_isSome_iff, ← ih]
      simp only [contributions?]
      cases e.contribution? blob tree <;> cases contributions? blob tree rest <;> simp

end Entry

namespace TreeSize

theorem ofEntries?_mono {entries : List Entry} {size : TreeSize}
    (hblob : ∀ e ∈ entries, e.kind = .blob → ∀ b, blob e.id = some b → blob' e.id = some b)
    (htree : ∀ e ∈ entries, e.kind = .tree → ∀ t, tree e.id = some t → tree' e.id = some t)
    (hsize : ofEntries? blob tree entries = some size) :
    ofEntries? blob' tree' entries = some size := by
  obtain ⟨cs, hcs, rfl⟩ := Option.map_eq_some_iff.mp hsize
  rw [ofEntries?, Entry.contributions?_mono hblob htree hcs]
  rfl

theorem ofEntries?_isSome_iff {entries : List Entry} :
    (ofEntries? blob tree entries).isSome ↔
      ∀ e ∈ entries, (e.kind = .tree → (tree e.id).isSome) ∧
        (e.kind = .blob → (blob e.id).isSome) := by
  rw [ofEntries?, Option.isSome_map, Entry.contributions?_isSome_iff]

end TreeSize

end GitCensus
