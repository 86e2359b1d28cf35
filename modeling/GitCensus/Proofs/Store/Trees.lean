import Mathlib.Data.Fintype.Card
import Mathlib.Data.Fintype.Vector
import Mathlib.Logic.Relation
import GitCensus.Proofs.Size.Entries
import GitCensus.Proofs.Tree.Decode
import GitCensus.Store.ObjectMap
/-!
# Trees in an object map

The objects of a map form a graph: a tree points to the trees that its entries
name.  This module states when the part below a tree can be measured, and measures
it by the plain recursion along that graph, without tables or a work stack.
-/

namespace GitCensus

instance finite_uInt8 : Finite UInt8 :=
  Finite.of_injective UInt8.toFin fun _ _ h => UInt8.toFin_inj.mp h

instance finite_objectId : Finite ObjectId :=
  let bytes (id : ObjectId) : List.Vector UInt8 20 := ⟨id.bytes, id.length_eq⟩
  Finite.of_injective bytes fun _ _ h => ObjectId.eq_iff.mp (congrArg Subtype.val h)

def ObjectId.repeating (b : UInt8) : ObjectId := ⟨List.replicate 20 b, List.length_replicate⟩

/-- The ids of the subtrees among some entries, repeats included. -/
def Entry.subtrees (entries : List Entry) : List ObjectId :=
  (entries.filter fun e => e.kind = .tree).map Entry.id

theorem Entry.mem_subtrees {entries : List Entry} {id : ObjectId} :
    id ∈ subtrees entries ↔ ∃ e ∈ entries, e.kind = .tree ∧ e.id = id := by
  simp [subtrees, and_assoc]

namespace ObjectMap

variable {m : ObjectMap} {t u v : ObjectId}

/-- The entries of a tree that is there and decodes completely. -/
def entries? (m : ObjectMap) (id : ObjectId) : Option (List Entry) :=
  match m.readTree id with
  | .error _ => none
  | .ok data =>
    match (Tree.decode data).fault with
    | some _ => none
    | none => some (Tree.decode data).entries

/-- The size of a blob, which is what its header states but at most `2 ^ 64 - 1`, or why it
has none. -/
def blobSize (m : ObjectMap) (id : ObjectId) : Except Fault BlobSize :=
  match m.readHeader id with
  | .error fault => .error fault
  | .ok header =>
    if header.kind = .blob then .ok ⟨min header.size 0xffffffffffffffff⟩
    else .error (.wrongKind id header.kind.name ObjectKind.blob.name)

/-- The statistics of a tree by recursion over its entries, within a number of levels. -/
def sizeWithin (m : ObjectMap) : Nat → ObjectId → Option TreeSize
  | 0, _ => none
  | levels + 1, id =>
    match m.entries? id with
    | none => none
    | some entries =>
      TreeSize.ofEntries? (fun b => (m.blobSize b).toOption) (m.sizeWithin levels) entries

/-- The second tree is named by an entry of the first. -/
def Child (m : ObjectMap) (t u : ObjectId) : Prop :=
  ∃ entries, m.entries? t = some entries ∧ u ∈ Entry.subtrees entries

/-- The second tree is named by entries of entries of the first, or is the first. -/
abbrev Reaches (m : ObjectMap) : ObjectId → ObjectId → Prop := Relation.ReflTransGen m.Child

/-- No tree at or below the given one contains itself. -/
def AcyclicFrom (m : ObjectMap) (t : ObjectId) : Prop :=
  ∀ u, m.Reaches t u → ¬ Relation.TransGen m.Child u u

/-- All that is needed below a tree is there and finite. -/
structure Measurable (m : ObjectMap) (t : ObjectId) : Prop where
  /-- Every tree at or below it is a tree and decodes completely. -/
  complete : ∀ u, m.Reaches t u → ∃ o, m.find? u = some o ∧ o.kind = .tree ∧
    (Tree.decode o.content).fault = none
  acyclic : m.AcyclicFrom t
  /-- Every entry of these trees that counts as a blob names a blob. -/
  blobs : ∀ u o, m.Reaches t u → m.find? u = some o →
    ∀ e ∈ (Tree.decode o.content).entries, e.kind = .blob →
      ∃ b, m.find? e.id = some b ∧ b.kind = .blob

theorem readTree_eq_ok_iff {id : ObjectId} {data : Bytes} :
    m.readTree id = .ok data ↔
      ∃ o, m.find? id = some o ∧ o.kind = .tree ∧ o.content = data := by
  unfold readTree
  cases m.find? id with
  | none => simp
  | some o =>
      by_cases hkind : o.kind = .tree <;> simp [hkind]

theorem entries?_eq_some_iff {id : ObjectId} {entries : List Entry} :
    m.entries? id = some entries ↔
      ∃ data, m.readTree id = .ok data ∧ Tree.decode data = ⟨entries, none⟩ := by
  unfold entries?
  cases m.readTree id with
  | error fault => simp
  | ok data =>
      cases hdecode : Tree.decode data with
      | mk es fault => cases fault <;> simp [hdecode, eq_comm]

theorem blobSize_isOk_iff {id : ObjectId} :
    (m.blobSize id).toOption.isSome ↔ ∃ b, m.find? id = some b ∧ b.kind = .blob := by
  unfold blobSize readHeader
  cases m.find? id with
  | none => simp [Except.toOption]
  | some o =>
      by_cases hkind : o.kind = .blob <;> simp [StoredObject.header, hkind, Except.toOption]

/-- The record that a census makes of a header is the size that the header gives a blob. -/
theorem blobSize_of_header {id : ObjectId} {header : Header} (h : m.readHeader id = .ok header)
    (hkind : header.kind = .blob) : m.blobSize id = .ok (BlobSize.ofHeader header.size) := by
  rw [blobSize, h]
  simp only [hkind, if_true]
  rfl

theorem sizeWithin_succ_eq_some_iff {levels : Nat} {id : ObjectId} {size : TreeSize} :
    m.sizeWithin (levels + 1) id = some size ↔
      ∃ entries, m.entries? id = some entries ∧
        TreeSize.ofEntries? (fun b => (m.blobSize b).toOption) (m.sizeWithin levels) entries =
          some size := by
  rw [sizeWithin]
  cases m.entries? id <;> simp

theorem sizeWithin_mono {levels levels' : Nat} {id : ObjectId} {size : TreeSize}
    (hle : levels ≤ levels') (hsize : m.sizeWithin levels id = some size) :
    m.sizeWithin levels' id = some size := by
  induction levels generalizing levels' id size with
  | zero => simp [sizeWithin] at hsize
  | succ levels ih =>
      obtain ⟨levels', rfl⟩ : ∃ k, levels' = k + 1 := ⟨levels' - 1, by omega⟩
      obtain ⟨entries, hentries, hfold⟩ := sizeWithin_succ_eq_some_iff.mp hsize
      refine sizeWithin_succ_eq_some_iff.mpr ⟨entries, hentries, ?_⟩
      exact TreeSize.ofEntries?_mono (fun _ _ _ _ hb => hb)
        (fun _ _ _ _ ht => ih (by omega) ht) hfold

/-- The recursion has one result, however many levels it is allowed. -/
theorem sizeWithin_unique {levels levels' : Nat} {id : ObjectId} {size size' : TreeSize}
    (hsize : m.sizeWithin levels id = some size)
    (hsize' : m.sizeWithin levels' id = some size') : size = size' := by
  have h := sizeWithin_mono (Nat.le_max_left levels levels') hsize
  rw [sizeWithin_mono (Nat.le_max_right levels levels') hsize'] at h
  exact (Option.some.inj h).symm

theorem Child.exists_sizeWithin {levels : Nat} {size : TreeSize} (hchild : m.Child t u)
    (hsize : m.sizeWithin (levels + 1) t = some size) :
    ∃ size', m.sizeWithin levels u = some size' := by
  obtain ⟨entries, hentries, hfold⟩ := sizeWithin_succ_eq_some_iff.mp hsize
  obtain ⟨entries', hentries', hmem⟩ := hchild
  obtain rfl : entries = entries' := by simpa [hentries] using hentries'
  obtain ⟨e, he, hkind, rfl⟩ := Entry.mem_subtrees.mp hmem
  have hknown := (TreeSize.ofEntries?_isSome_iff.mp (by rw [hfold]; rfl) e he).1 hkind
  exact Option.isSome_iff_exists.mp hknown

theorem Child.sizeWithin_lt {levels : Nat} {size : TreeSize} (hchild : m.Child t u)
    (hsize : m.sizeWithin levels t = some size) :
    ∃ levels' < levels, ∃ size', m.sizeWithin levels' u = some size' := by
  cases levels with
  | zero => simp [sizeWithin] at hsize
  | succ levels => exact ⟨levels, Nat.lt_succ_self _, hchild.exists_sizeWithin hsize⟩

theorem sizeWithin_lt_of_transGen {levels : Nat} {size : TreeSize}
    (hbelow : Relation.TransGen m.Child t u) (hsize : m.sizeWithin levels t = some size) :
    ∃ levels' < levels, ∃ size', m.sizeWithin levels' u = some size' := by
  induction hbelow with
  | single hchild => exact hchild.sizeWithin_lt hsize
  | tail _ hchild ih =>
      obtain ⟨k, hk, size', hsize'⟩ := ih
      obtain ⟨k', hk', hsize''⟩ := hchild.sizeWithin_lt hsize'
      exact ⟨k', by omega, hsize''⟩

theorem sizeWithin_of_reaches {levels : Nat} {size : TreeSize} (hreach : m.Reaches t u)
    (hsize : m.sizeWithin levels t = some size) :
    ∃ levels' size', m.sizeWithin levels' u = some size' := by
  rcases Relation.reflTransGen_iff_eq_or_transGen.mp hreach with rfl | hbelow
  · exact ⟨levels, size, hsize⟩
  · obtain ⟨k, -, hk⟩ := sizeWithin_lt_of_transGen hbelow hsize
    exact ⟨k, hk⟩

/-- A measured tree does not contain itself. -/
theorem not_transGen_of_sizeWithin {levels : Nat} {size : TreeSize}
    (hsize : m.sizeWithin levels t = some size) : ¬ Relation.TransGen m.Child t t := by
  intro hcycle
  induction levels using Nat.strong_induction_on generalizing size with
  | _ levels ih =>
      obtain ⟨k, hk, size', hsize'⟩ := sizeWithin_lt_of_transGen hcycle hsize
      exact ih k hk hsize'

/-- Where levels suffice for each of some ids, some number of levels suffices for all. -/
theorem exists_levels_forall {P : Nat → ObjectId → Prop} (ids : List ObjectId)
    (hmono : ∀ {k k' id}, k ≤ k' → P k id → P k' id)
    (h : ∀ id ∈ ids, ∃ k, P k id) : ∃ k, ∀ id ∈ ids, P k id := by
  induction ids with
  | nil => exact ⟨0, by simp⟩
  | cons id rest ih =>
      obtain ⟨k, hk⟩ := h id (by simp)
      obtain ⟨k', hk'⟩ := ih fun id' hid' => h id' (by simp [hid'])
      refine ⟨max k k', List.forall_mem_cons.mpr ⟨hmono (Nat.le_max_left k k') hk, ?_⟩⟩
      exact fun id' hid' => hmono (Nat.le_max_right k k') (hk' id' hid')

/-- Where nothing contains itself, what the children hand up holds from the leaves on. -/
theorem AcyclicFrom.induction {P : ObjectId → Prop} (hacyclic : m.AcyclicFrom t)
    (step : ∀ u, m.Reaches t u → (∀ v, m.Child u v → P v) → P u) : P t := by
  let below (v u : ObjectId) : Prop := m.Reaches t u ∧ Relation.TransGen m.Child u v
  have : IsTrans ObjectId below :=
    ⟨fun _ _ _ hab hbc => ⟨hbc.1, hbc.2.trans hab.2⟩⟩
  have : Std.Irrefl below := ⟨fun u hu => hacyclic u hu.1 hu.2⟩
  have hall : ∀ u, m.Reaches t u → P u := by
    intro u
    induction u using (Finite.wellFounded_of_trans_of_irrefl below).induction with
    | _ u ih =>
        intro hreach
        refine step u hreach fun v hchild => ?_
        exact ih v ⟨hreach, .single hchild⟩ (hreach.tail hchild)
  exact hall t .refl

theorem Measurable.exists_entries (hm : m.Measurable t) (hreach : m.Reaches t u) :
    ∃ entries, m.entries? u = some entries ∧
      ∀ e ∈ entries, e.kind = .blob → (m.blobSize e.id).toOption.isSome := by
  obtain ⟨o, hfind, hkind, hfault⟩ := hm.complete u hreach
  refine ⟨(Tree.decode o.content).entries, ?_, ?_⟩
  · rw [entries?_eq_some_iff]
    exact ⟨o.content, readTree_eq_ok_iff.mpr ⟨o, hfind, hkind, rfl⟩, by rw [← hfault]⟩
  · intro e he hblob
    exact blobSize_isOk_iff.mpr (hm.blobs u o hreach hfind e he hblob)

theorem Measurable.exists_sizeWithin (hm : m.Measurable t) :
    ∃ levels size, m.sizeWithin levels t = some size := by
  refine hm.acyclic.induction (P := fun u => ∃ levels size, m.sizeWithin levels u = some size)
    fun u hreach ih => ?_
  obtain ⟨entries, hentries, hblobs⟩ := hm.exists_entries hreach
  obtain ⟨levels, hlevels⟩ := exists_levels_forall (Entry.subtrees entries)
    (P := fun k id => (m.sizeWithin k id).isSome)
    (fun hle hsome => by
      obtain ⟨size, hsize⟩ := Option.isSome_iff_exists.mp hsome
      rw [sizeWithin_mono hle hsize]
      rfl)
    (fun id hid => by
      obtain ⟨k, size, hsize⟩ := ih id ⟨entries, hentries, hid⟩
      exact ⟨k, by rw [hsize]; rfl⟩)
  have hfold : (TreeSize.ofEntries? (fun b => (m.blobSize b).toOption)
      (m.sizeWithin levels) entries).isSome :=
    TreeSize.ofEntries?_isSome_iff.mpr fun e he =>
      ⟨fun hkind => hlevels e.id (Entry.mem_subtrees.mpr ⟨e, he, hkind, rfl⟩), hblobs e he⟩
  obtain ⟨size, hsize⟩ := Option.isSome_iff_exists.mp hfold
  exact ⟨levels + 1, size, sizeWithin_succ_eq_some_iff.mpr ⟨entries, hentries, hsize⟩⟩

theorem exists_entries_of_sizeWithin {levels : Nat} {size : TreeSize}
    (hsize : m.sizeWithin levels t = some size) :
    ∃ entries, m.entries? t = some entries ∧
      ∀ e ∈ entries, e.kind = .blob → (m.blobSize e.id).toOption.isSome := by
  cases levels with
  | zero => simp [sizeWithin] at hsize
  | succ levels =>
      obtain ⟨entries, hentries, hfold⟩ := sizeWithin_succ_eq_some_iff.mp hsize
      have hknown := TreeSize.ofEntries?_isSome_iff.mp (by rw [hfold]; rfl)
      exact ⟨entries, hentries, fun e he => (hknown e he).2⟩

/-- The recursion finds the size of a tree exactly if the tree can be measured. -/
theorem measurable_iff_sizeWithin :
    m.Measurable t ↔ ∃ levels size, m.sizeWithin levels t = some size := by
  refine ⟨Measurable.exists_sizeWithin, ?_⟩
  rintro ⟨levels, size, hsize⟩
  refine ⟨fun u hreach => ?_, fun u hreach => ?_, fun u o hreach hfind e he hkind => ?_⟩
  · obtain ⟨k, size', hsize'⟩ := sizeWithin_of_reaches hreach hsize
    obtain ⟨entries, hu, -⟩ := exists_entries_of_sizeWithin hsize'
    obtain ⟨data, hdata, hdecode⟩ := entries?_eq_some_iff.mp hu
    obtain ⟨o, hfind, hkind, rfl⟩ := readTree_eq_ok_iff.mp hdata
    exact ⟨o, hfind, hkind, by rw [hdecode]⟩
  · obtain ⟨k, size', hsize'⟩ := sizeWithin_of_reaches hreach hsize
    exact not_transGen_of_sizeWithin hsize'
  · obtain ⟨k, size', hsize'⟩ := sizeWithin_of_reaches hreach hsize
    obtain ⟨entries, hu, hblobs⟩ := exists_entries_of_sizeWithin hsize'
    obtain ⟨data, hdata, hdecode⟩ := entries?_eq_some_iff.mp hu
    obtain ⟨o', hfind', -, rfl⟩ := readTree_eq_ok_iff.mp hdata
    obtain rfl : o = o' := by simpa [hfind] using hfind'
    rw [hdecode] at he
    exact blobSize_isOk_iff.mp (hblobs e he hkind)

/-! ## A map with shared trees -/

open ObjectId (repeating)

/-- The first tree names a blob, the second tree twice, the third tree and a link; the third
tree names the second one and a blob whose header states more than `2 ^ 64` bytes; the fourth
tree names itself. -/
def shared : ObjectMap := [
  (repeating 1, .ofContent .tree (Tree.encode [⟨0o100644, [0x61], repeating 9⟩,
    ⟨0o40000, [0x62], repeating 2⟩, ⟨0o40000, [0x63], repeating 2⟩,
    ⟨0o40000, [0x64], repeating 3⟩, ⟨0o120000, [0x65], .zero⟩])),
  (repeating 2, .ofContent .tree (Tree.encode [⟨0o100644, [0x66], repeating 9⟩])),
  (repeating 3, .ofContent .tree (Tree.encode [⟨0o40000, [0x67], repeating 2⟩,
    ⟨0o100644, [0x68], repeating 8⟩])),
  (repeating 4, .ofContent .tree (Tree.encode [⟨0o40000, [0x69], repeating 4⟩])),
  (repeating 8, ⟨.blob, 0x1ffffffffffffffff, []⟩),
  (repeating 9, .ofContent .blob [0x6a])]

def sharedSize : TreeSize where
  maxDepth := 4
  maxPathLength := 5
  treeCount := 5
  maxTreeEntries := 5
  blobCount := 5
  blobSize := 0xffffffffffffffff
  linkCount := 1

theorem measurable_shared : shared.Measurable (repeating 1) :=
  measurable_iff_sizeWithin.mpr ⟨4, sharedSize, by decide +kernel⟩

theorem not_acyclicFrom_shared : ¬ shared.AcyclicFrom (repeating 4) := by
  intro hacyclic
  have hchild : shared.Child (repeating 4) (repeating 4) :=
    ⟨[⟨0o40000, [0x69], repeating 4⟩], by decide +kernel, by decide +kernel⟩
  exact hacyclic (repeating 4) .refl (.single hchild)

end ObjectMap

end GitCensus
