import Mathlib.Order.Bounds.Basic
import GitCensus.Proofs.Census.Measured
import GitCensus.Proofs.Size.Tallied
/-!
# Statistics as counts of paths

The statistics of a tree are the clamped counts over the paths below it, although
each subtree is sized only once and every sum is capped on the way.
-/

namespace GitCensus

namespace ObjectMap

variable {m : ObjectMap}

/-- Contents are shorter than `2 ^ 64` bytes and header sizes are natural numbers. -/
def Sized (m : ObjectMap) : Prop :=
  ∀ id o, m.find? id = some o → o.content.length < 2 ^ 64 ∧ 0 ≤ o.size

theorem Sized.blobSize_eq (h : m.Sized) {id : ObjectId} {b : BlobSize}
    (hb : m.blobSize id = .ok b) : b.size = clamp (m.statedSize id) := by
  unfold blobSize readHeader at hb
  unfold statedSize
  cases hfind : m.find? id with
  | none => simp [hfind] at hb
  | some o =>
      simp only [hfind] at hb ⊢
      split at hb
      · obtain rfl := Except.ok.inj hb
        have hnonneg := (h id o hfind).2
        show min o.size maxCount = min (o.size.toNat : Int) maxCount
        rw [Int.toNat_of_nonneg hnonneg]
      · cases hb

theorem Sized.name_length_le (h : m.Sized) {id : ObjectId} {entries : List Entry}
    (hentries : m.entries? id = some entries) {e : Entry} (he : e ∈ entries) :
    (e.name.length : Int) ≤ maxCount := by
  obtain ⟨data, hread, hdecode⟩ := entries?_eq_some_iff.mp hentries
  obtain ⟨o, hfind, -, rfl⟩ := readTree_eq_ok_iff.mp hread
  have hname := Tree.name_length_lt_of_mem_decode (e := e) (by rw [hdecode]; exact he)
  have hlength := (h id o hfind).1
  unfold maxCount
  omega

/-- The size of a tree counts the paths below it. -/
theorem Sized.tallied (h : m.Sized) {levels : Nat} {id : ObjectId} {t : TreeSize}
    (hsize : m.sizeWithin levels id = some t) :
    Tallied m.statedSize 1 (m.pathsWithin levels id) t := by
  induction levels generalizing id t with
  | zero => simp [sizeWithin] at hsize
  | succ levels ih =>
      obtain ⟨entries, hentries, hfold⟩ := sizeWithin_succ_eq_some_iff.mp hsize
      obtain ⟨cs, hcs, rfl⟩ := Option.map_eq_some_iff.mp hfold
      have hall : ∀ e ∈ entries, Tallied.Described m.statedSize (m.pathsWithin levels)
          (fun b => (m.blobSize b).toOption) (m.sizeWithin levels) e := by
        intro e he
        refine ⟨h.name_length_le hentries he, fun b _ hb => ?_, fun child _ hchild => ih hchild,
          fun q hq => ne_nil_of_mem_pathsWithin hq⟩
        cases hblob : m.blobSize e.id with
        | error fault => simp [hblob, Except.toOption] at hb
        | ok b' =>
            obtain rfl : b' = b := by simpa [hblob, Except.toOption] using hb
            exact h.blobSize_eq hblob
      have hgathered := Tallied.empty.gather (k := 0) hall hcs
      simp only [pathsWithin, hentries]
      exact hgathered.close entries.length

end ObjectMap

/-! ## The greatest number of entries -/

namespace TreeSize

theorem maxTreeEntries_le_add (t : TreeSize) (c : Contribution) :
    t.maxTreeEntries ≤ (t.add c).maxTreeEntries := by
  cases c with
  | subtree name child => exact le_max_left _ _
  | blob => exact le_refl _
  | link => exact le_refl _
  | submodule => exact le_refl _

theorem maxTreeEntries_add (t : TreeSize) (c : Contribution) :
    (t.add c).maxTreeEntries = t.maxTreeEntries ∨
      ∃ name child, c = .subtree name child ∧
        (t.add c).maxTreeEntries = child.maxTreeEntries := by
  cases c with
  | subtree name child =>
      rcases max_choice t.maxTreeEntries child.maxTreeEntries with hmax | hmax
      · exact .inl hmax
      · exact .inr ⟨name, child, rfl, hmax⟩
  | blob => exact .inl rfl
  | link => exact .inl rfl
  | submodule => exact .inl rfl

theorem isGreatest_maxTreeEntries_foldl (cs : List Contribution) (t : TreeSize) :
    IsGreatest {n | n = t.maxTreeEntries ∨ ∃ child,
      (∃ name, .subtree name child ∈ cs) ∧ n = child.maxTreeEntries}
      (cs.foldl add t).maxTreeEntries := by
  induction cs generalizing t with
  | nil => exact ⟨.inl rfl, by simp [upperBounds]⟩
  | cons c rest ih =>
      obtain ⟨hmem, hbound⟩ := ih (t.add c)
      have hfirst : (t.add c).maxTreeEntries ≤ (rest.foldl add (t.add c)).maxTreeEntries :=
        hbound (.inl rfl)
      rw [List.foldl_cons]
      constructor
      · rcases hmem with heq | ⟨child, ⟨name, hchild⟩, heq⟩
        · rw [heq]
          rcases maxTreeEntries_add t c with hadd | ⟨name, child, rfl, hadd⟩
          · exact .inl hadd
          · exact .inr ⟨child, ⟨name, by simp⟩, hadd⟩
        · exact .inr ⟨child, ⟨name, by simp [hchild]⟩, heq⟩
      · rintro n (rfl | ⟨child, ⟨name, hchild⟩, rfl⟩)
        · exact le_trans (maxTreeEntries_le_add t c) hfirst
        · rcases List.mem_cons.mp hchild with rfl | hchild
          · exact le_trans (le_max_right _ _) hfirst
          · exact hbound (.inr ⟨child, ⟨name, hchild⟩, rfl⟩)

end TreeSize

namespace ObjectMap

variable {m : ObjectMap}

theorem exists_subtree_mem_iff {levels : Nat} {id : ObjectId} {entries : List Entry}
    {cs : List Contribution} {child : TreeSize} (hentries : m.entries? id = some entries)
    (hcs : Entry.contributions? (fun b => (m.blobSize b).toOption) (m.sizeWithin levels)
      entries = some cs) :
    (∃ name, .subtree name child ∈ cs) ↔
      ∃ u, m.Child id u ∧ m.sizeWithin levels u = some child := by
  constructor
  · rintro ⟨name, hchild⟩
    obtain ⟨e, he, hc⟩ := (Entry.mem_contributions? hcs).mp hchild
    unfold Entry.contribution? at hc
    cases hkind : e.kind with
    | tree =>
        simp only [hkind, Option.map_eq_some_iff, Contribution.subtree.injEq] at hc
        obtain ⟨child', hsize, -, rfl⟩ := hc
        exact ⟨e.id, ⟨entries, hentries, Entry.mem_subtrees.mpr ⟨e, he, hkind, rfl⟩⟩, hsize⟩
    | blob => simp [hkind] at hc
    | link => simp [hkind] at hc
    | submodule => simp [hkind] at hc
  · rintro ⟨u, ⟨entries', hentries', hmem⟩, hsize⟩
    obtain rfl : entries = entries' := by simpa [hentries] using hentries'
    obtain ⟨e, he, hkind, rfl⟩ := Entry.mem_subtrees.mp hmem
    refine ⟨e.name, (Entry.mem_contributions? hcs).mpr ⟨e, he, ?_⟩⟩
    simp [Entry.contribution?, hkind, hsize]

/-- The largest number of entries that a tree at or below the sized one has. -/
theorem isGreatest_maxTreeEntries {levels : Nat} {id : ObjectId} {t : TreeSize}
    (hsize : m.sizeWithin levels id = some t) :
    IsGreatest {n : Int | ∃ u entries, m.Reaches id u ∧ m.entries? u = some entries ∧
      n = entries.length} t.maxTreeEntries := by
  induction levels generalizing id t with
  | zero => simp [sizeWithin] at hsize
  | succ levels ih =>
      obtain ⟨entries, hentries, hfold⟩ := sizeWithin_succ_eq_some_iff.mp hsize
      obtain ⟨cs, hcs, rfl⟩ := Option.map_eq_some_iff.mp hfold
      obtain ⟨hmem, hbound⟩ := TreeSize.isGreatest_maxTreeEntries_foldl cs {}
      show IsGreatest _ (max (cs.foldl TreeSize.add {}).maxTreeEntries (entries.length : Int))
      constructor
      · rcases max_choice (cs.foldl TreeSize.add {}).maxTreeEntries (entries.length : Int) with
          hmax | hmax
        · rw [hmax]
          rcases hmem with hzero | ⟨child, hchild, heq⟩
          · -- nothing is gathered from below, so the tree has no entries either
            have hle := le_of_max_le_right (le_of_eq hmax)
            rw [hzero] at hle ⊢
            have hempty : (entries.length : Int) ≤ 0 := hle
            refine ⟨id, entries, .refl, hentries, ?_⟩
            show (0 : Int) = entries.length
            omega
          · obtain ⟨u, hchild, hsize'⟩ := (exists_subtree_mem_iff hentries hcs).mp hchild
            obtain ⟨v, entries', hreach, hentries', hlength⟩ := (ih hsize').1
            exact ⟨v, entries', .head hchild hreach, hentries', heq.trans hlength⟩
        · exact ⟨id, entries, .refl, hentries, hmax⟩
      · rintro n ⟨u, entries', hreach, hentries', rfl⟩
        rcases Relation.ReflTransGen.cases_head hreach with rfl | ⟨v, hchild, hreach⟩
        · obtain rfl : entries = entries' := by simpa [hentries] using hentries'
          exact le_max_right _ _
        · obtain ⟨child, hsize'⟩ := hchild.exists_sizeWithin hsize
          have hbelow := (ih hsize').2 ⟨u, entries', hreach, hentries', rfl⟩
          have hgathered := hbound (.inr ⟨child,
            (exists_subtree_mem_iff hentries hcs).mpr ⟨v, hchild, hsize'⟩, rfl⟩)
          exact le_trans (le_trans hbelow hgathered) (le_max_left _ _)

end ObjectMap

namespace Census

variable {m : ObjectMap} {c c' : Census ObjectMap} {t : ObjectId} {rounds : Nat}
variable {size : TreeSize}

/-- The statistics of a tree are counts over the paths below it, each stopping at the
largest count. -/
theorem treeSize_counts_paths (hm : m.Sized) (hc : Reachable ObjectMap.store m c)
    (h : c.treeSize ObjectMap.store rounds t = some (.ok size, c')) :
    ∃ paths : List Path, paths.Nodup ∧ (∀ p, p ∈ paths ↔ m.IsPath t p) ∧
      size.treeCount = min ↑(1 + paths.countP (Path.endsIn .tree)) maxCount ∧
      size.blobCount = min ↑(paths.countP (Path.endsIn .blob)) maxCount ∧
      size.linkCount = min ↑(paths.countP (Path.endsIn .link)) maxCount ∧
      size.submoduleCount = min ↑(paths.countP (Path.endsIn .submodule)) maxCount ∧
      size.blobSize = min ↑(paths.map (Path.blobBytes m.statedSize)).sum maxCount ∧
      size.maxDepth = min ↑(1 + Path.largest List.length paths) maxCount ∧
      size.maxPathLength = min ↑(Path.largest Path.joinedLength paths) maxCount ∧
      IsGreatest {n : Int | ∃ u entries, m.Reaches t u ∧ m.entries? u = some entries ∧
        n = entries.length} size.maxTreeEntries := by
  have houtcome : m.Outcome t (.ok size) :=
    (outcome_of_treeSize m.store_serves (hc.fit m.store_serves rfl) hc.pending h).resolve_left id
  obtain ⟨levels, hlevels⟩ := houtcome
  have htallied := hm.tallied hlevels
  exact ⟨m.pathsWithin levels t, ObjectMap.nodup_pathsWithin levels t,
    fun p => ObjectMap.mem_pathsWithin_iff hlevels, htallied.trees, htallied.blobs,
    htallied.links, htallied.submodules, htallied.bytes, htallied.depth, htallied.pathLength,
    ObjectMap.isGreatest_maxTreeEntries hlevels⟩

/-- A tree whose only entry is an empty tree. -/
theorem treeSize_counts_paths_nested :
    ∃ (m : ObjectMap) (rounds : Nat) (c' : Census ObjectMap) (paths : List Path),
      treeSize ObjectMap.store rounds .zero { store := m } =
        some (.ok { maxDepth := 2, maxPathLength := 1, treeCount := 2, maxTreeEntries := 1 },
          c') ∧
      (∀ p, p ∈ paths ↔ m.IsPath .zero p) ∧ paths.countP (Path.endsIn .tree) = 1 := by
  let below : ObjectId := ⟨List.replicate 20 1, rfl⟩
  let data : Bytes := [0x34, 0x30, 0x30, 0x30, 0x30, 0x20, 0x64, 0x00] ++ below.bytes
  let m : ObjectMap := [(.zero, .ofContent .tree data), (below, .ofContent .tree [])]
  have hsized : m.Sized := by
    intro id o hfind
    obtain ⟨before, after, hsplit, -⟩ := List.lookup_eq_some_iff.mp hfind
    have hmem : (id, o) ∈ m := by
      rw [hsplit]
      simp
    rcases List.mem_cons.mp hmem with heq | hmem
    · obtain ⟨-, rfl⟩ := Prod.mk.inj heq
      decide
    · obtain ⟨-, rfl⟩ := Prod.mk.inj (List.mem_singleton.mp hmem)
      decide
  have hread : Tree.readEntry data = .ok (⟨0o40000, [0x64], below⟩, []) := rfl
  have hentries : m.entries? .zero = some [⟨0o40000, [0x64], below⟩] :=
    ObjectMap.entries?_eq_some_iff.mpr
      ⟨data, rfl, by rw [Tree.decode_of_ok hread, Tree.decode_nil]⟩
  have hempty : m.entries? below = some [] :=
    ObjectMap.entries?_eq_some_iff.mpr ⟨[], rfl, Tree.decode_nil⟩
  have hbelow : m.sizeWithin 1 below = some (TreeSize.close {} 0) :=
    ObjectMap.sizeWithin_succ_eq_some_iff.mpr ⟨[], hempty, rfl⟩
  have hsize : m.sizeWithin 2 .zero = some
      { maxDepth := 2, maxPathLength := 1, treeCount := 2, maxTreeEntries := 1 } := by
    refine ObjectMap.sizeWithin_succ_eq_some_iff.mpr ⟨_, hentries, ?_⟩
    have hkind : Entry.kind ⟨0o40000, [0x64], below⟩ = .tree := by
      unfold Entry.kind
      decide
    simp only [TreeSize.ofEntries?, Entry.contributions?, Entry.contribution?, hkind, hbelow]
    rfl
  have houtcome : m.Outcome .zero (.ok
      { maxDepth := 2, maxPathLength := 1, treeCount := 2, maxTreeEntries := 1 }) := ⟨2, hsize⟩
  obtain ⟨rounds, c', htree⟩ := exists_treeSize_fresh houtcome
  obtain ⟨paths, -, hpaths, htrees, -⟩ := treeSize_counts_paths hsized .start htree
  refine ⟨m, rounds, c', paths, htree, hpaths, ?_⟩
  have hcount : (2 : Int) = min ↑(1 + paths.countP (Path.endsIn .tree)) maxCount := htrees
  unfold maxCount at hcount
  omega

end Census

end GitCensus
