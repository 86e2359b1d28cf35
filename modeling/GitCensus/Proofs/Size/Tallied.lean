import GitCensus.Proofs.Size.Clamp
import GitCensus.Proofs.Store.PathCounts
/-!
# Tallies of paths

While the entries of a tree are read, the statistics gathered so far are the clamped
counts over the paths that begin with one of these entries.  A subtree enters with
its finished statistics, which count the paths below it, each longer by one entry.
-/

namespace GitCensus

/-- What statistics say about some paths; `own` is the tree's own level, once counted. -/
structure Tallied (size : ObjectId → Nat) (own : Nat) (paths : List Path) (t : TreeSize) :
    Prop where
  depth : t.maxDepth = clamp (own + Path.largest List.length paths)
  pathLength : t.maxPathLength = clamp (Path.largest Path.joinedLength paths)
  trees : t.treeCount = clamp (1 + paths.countP (Path.endsIn .tree))
  blobs : t.blobCount = clamp (paths.countP (Path.endsIn .blob))
  bytes : t.blobSize = clamp (paths.map (Path.blobBytes size)).sum
  links : t.linkCount = clamp (paths.countP (Path.endsIn .link))
  submodules : t.submoduleCount = clamp (paths.countP (Path.endsIn .submodule))

variable {size : ObjectId → Nat} {paths : List Path} {t : TreeSize}

theorem pathLengthThrough_clamp {name : Bytes} (hname : (name.length : Int) ≤ maxCount)
    (n : Nat) :
    pathLengthThrough name (clamp n) = clamp (Path.lengthThrough name.length n) := by
  unfold pathLengthThrough Path.lengthThrough
  by_cases hn : 0 < n
  · rw [if_pos (clamp_pos_iff.mpr hn), if_pos hn, ← addCapped_clamp_right]
    rfl
  · rw [if_neg (mt clamp_pos_iff.mp hn), if_neg hn, clamp_eq_self hname]

namespace Path

variable {kind : EntryKind} {step : Nat × Entry}

theorem endsIn_singleton : endsIn kind [step] = decide (step.2.kind = kind) := rfl

theorem blobBytes_singleton :
    blobBytes size [step] = if step.2.kind = .blob then size step.2.id else 0 := rfl

theorem countP_append_cons (below : List Path) :
    (paths ++ [step] :: below).countP (endsIn kind) =
      paths.countP (endsIn kind) +
        ((if step.2.kind = kind then 1 else 0) + below.countP (endsIn kind)) := by
  rw [List.countP_append, List.countP_cons, endsIn_singleton]
  by_cases hkind : step.2.kind = kind <;> simp [hkind, Nat.add_comm]

theorem sum_blobBytes_append_cons (below : List Path) :
    ((paths ++ [step] :: below).map (blobBytes size)).sum =
      (paths.map (blobBytes size)).sum +
        ((if step.2.kind = .blob then size step.2.id else 0) +
          (below.map (blobBytes size)).sum) := by
  rw [List.map_append, List.sum_append, List.map_cons, List.sum_cons, blobBytes_singleton]

end Path

namespace Tallied

theorem empty : Tallied size 0 [] {} := by
  constructor <;> rfl

theorem close (h : Tallied size 0 paths t) (entries : Int) :
    Tallied size 1 paths (t.close entries) := by
  refine ⟨?_, h.pathLength, h.trees, h.blobs, h.bytes, h.links, h.submodules⟩
  show addCapped t.maxDepth 1 = _
  rw [h.depth, ← clamp_one, addCapped_clamp]
  congr 1
  omega

/-- Each path through a subtree is the entry itself or goes on below it. -/
theorem add_subtree (h : Tallied size 0 paths t) (step : Nat × Entry) {below : List Path}
    {child : TreeSize} (hchild : Tallied size 1 below child) (hkind : step.2.kind = .tree)
    (hne : ∀ q ∈ below, q ≠ []) (hname : (step.2.name.length : Int) ≤ maxCount) :
    Tallied size 0 (paths ++ [step] :: below.map (step :: ·))
      (t.add (.subtree step.2.name child)) := by
  constructor
  · show max t.maxDepth child.maxDepth = _
    rw [h.depth, hchild.depth, max_clamp, Path.largest_append, Path.largest_length_map_cons]
    congr 1
    omega
  · show max t.maxPathLength (pathLengthThrough step.2.name child.maxPathLength) = _
    rw [h.pathLength, hchild.pathLength, pathLengthThrough_clamp hname, max_clamp,
      Path.largest_append, Path.largest_joinedLength_map_cons]
  · show addCapped t.treeCount child.treeCount = _
    rw [h.trees, hchild.trees, addCapped_clamp, Path.countP_append_cons,
      Path.countP_map_cons _ hne, if_pos hkind, Nat.add_assoc]
  · show addCapped t.blobCount child.blobCount = _
    rw [h.blobs, hchild.blobs, addCapped_clamp, Path.countP_append_cons,
      Path.countP_map_cons _ hne, if_neg (by simp [hkind]), Nat.zero_add]
  · show addCapped t.blobSize child.blobSize = _
    rw [h.bytes, hchild.bytes, addCapped_clamp, Path.sum_blobBytes_append_cons,
      Path.sum_blobBytes_map_cons _ hne, if_neg (by simp [hkind]), Nat.zero_add]
  · show addCapped t.linkCount child.linkCount = _
    rw [h.links, hchild.links, addCapped_clamp, Path.countP_append_cons,
      Path.countP_map_cons _ hne, if_neg (by simp [hkind]), Nat.zero_add]
  · show addCapped t.submoduleCount child.submoduleCount = _
    rw [h.submodules, hchild.submodules, addCapped_clamp, Path.countP_append_cons,
      Path.countP_map_cons _ hne, if_neg (by simp [hkind]), Nat.zero_add]

section Leaf

variable {step : Nat × Entry} {kind : EntryKind}

private theorem countP_leaf (hkind : step.2.kind = kind) :
    (paths ++ [[step]]).countP (Path.endsIn kind) = paths.countP (Path.endsIn kind) + 1 := by
  rw [Path.countP_append_cons, if_pos hkind, List.countP_nil]

private theorem countP_leaf_of_ne (hkind : step.2.kind ≠ kind) :
    (paths ++ [[step]]).countP (Path.endsIn kind) = paths.countP (Path.endsIn kind) := by
  rw [Path.countP_append_cons, if_neg hkind, List.countP_nil, Nat.add_zero]

private theorem bytes_leaf_of_ne (hkind : step.2.kind ≠ .blob) :
    ((paths ++ [[step]]).map (Path.blobBytes size)).sum =
      (paths.map (Path.blobBytes size)).sum := by
  rw [Path.sum_blobBytes_append_cons, if_neg hkind]
  rfl

private theorem depth_leaf (h : Tallied size 0 paths t) :
    max t.maxDepth 1 = clamp (0 + Path.largest List.length (paths ++ [[step]])) := by
  rw [h.depth, ← clamp_one, max_clamp, Path.largest_append, Nat.zero_add, Nat.zero_add]
  rfl

private theorem pathLength_leaf (h : Tallied size 0 paths t)
    (hname : (step.2.name.length : Int) ≤ maxCount) :
    max t.maxPathLength step.2.name.length =
      clamp (Path.largest Path.joinedLength (paths ++ [[step]])) := by
  have hjoined : Path.joinedLength [step] = step.2.name.length := Path.joinedLength_cons step []
  rw [h.pathLength, ← clamp_eq_self hname, max_clamp, Path.largest_append,
    Path.largest_cons, hjoined]
  congr 1
  simp [Path.largest]

theorem add_blob (h : Tallied size 0 paths t) (step : Nat × Entry) (hkind : step.2.kind = .blob)
    (hname : (step.2.name.length : Int) ≤ maxCount) :
    Tallied size 0 (paths ++ [[step]])
      (t.add (.blob step.2.name (clamp (size step.2.id)))) := by
  refine ⟨h.depth_leaf, h.pathLength_leaf hname, ?_, ?_, ?_, ?_, ?_⟩
  · rw [countP_leaf_of_ne (by simp [hkind])]
    exact h.trees
  · show addCapped t.blobCount 1 = _
    rw [countP_leaf hkind, h.blobs, ← clamp_one, addCapped_clamp]
  · show addCapped t.blobSize (clamp (size step.2.id)) = _
    rw [Path.sum_blobBytes_append_cons, if_pos hkind, h.bytes, addCapped_clamp]
    rfl
  · rw [countP_leaf_of_ne (by simp [hkind])]
    exact h.links
  · rw [countP_leaf_of_ne (by simp [hkind])]
    exact h.submodules

theorem add_link (h : Tallied size 0 paths t) (step : Nat × Entry) (hkind : step.2.kind = .link)
    (hname : (step.2.name.length : Int) ≤ maxCount) :
    Tallied size 0 (paths ++ [[step]]) (t.add (.link step.2.name)) := by
  refine ⟨h.depth_leaf, h.pathLength_leaf hname, ?_, ?_, ?_, ?_, ?_⟩
  · rw [countP_leaf_of_ne (by simp [hkind])]
    exact h.trees
  · rw [countP_leaf_of_ne (by simp [hkind])]
    exact h.blobs
  · rw [bytes_leaf_of_ne (by simp [hkind])]
    exact h.bytes
  · show addCapped t.linkCount 1 = _
    rw [countP_leaf hkind, h.links, ← clamp_one, addCapped_clamp]
  · rw [countP_leaf_of_ne (by simp [hkind])]
    exact h.submodules

theorem add_submodule (h : Tallied size 0 paths t) (step : Nat × Entry)
    (hkind : step.2.kind = .submodule)
    (hname : (step.2.name.length : Int) ≤ maxCount) :
    Tallied size 0 (paths ++ [[step]]) (t.add (.submodule step.2.name)) := by
  refine ⟨h.depth_leaf, h.pathLength_leaf hname, ?_, ?_, ?_, ?_, ?_⟩
  · rw [countP_leaf_of_ne (by simp [hkind])]
    exact h.trees
  · rw [countP_leaf_of_ne (by simp [hkind])]
    exact h.blobs
  · rw [bytes_leaf_of_ne (by simp [hkind])]
    exact h.bytes
  · rw [countP_leaf_of_ne (by simp [hkind])]
    exact h.links
  · show addCapped t.submoduleCount 1 = _
    rw [countP_leaf hkind, h.submodules, ← clamp_one, addCapped_clamp]

end Leaf

/-- What a source of sizes says about an entry is right. -/
structure Described (size : ObjectId → Nat) (below : ObjectId → List Path)
    (blob : ObjectId → Option BlobSize) (tree : ObjectId → Option TreeSize) (e : Entry) :
    Prop where
  name : (e.name.length : Int) ≤ maxCount
  blobs : ∀ b, e.kind = .blob → blob e.id = some b → b.size = clamp (size e.id)
  trees : ∀ child, e.kind = .tree → tree e.id = some child →
    Tallied size 1 (below e.id) child
  nonempty : ∀ q ∈ below e.id, q ≠ []

section Gather

variable {below : ObjectId → List Path} {blob : ObjectId → Option BlobSize}
variable {tree : ObjectId → Option TreeSize}

theorem add_contribution (h : Tallied size 0 paths t) {e : Entry} {i : Nat} {c : Contribution}
    (he : Described size below blob tree e) (hc : e.contribution? blob tree = some c) :
    Tallied size 0 (paths ++ ObjectMap.pathsThrough below i e) (t.add c) := by
  unfold Entry.contribution? at hc
  unfold ObjectMap.pathsThrough
  cases hkind : e.kind with
  | tree =>
      simp only [hkind, Option.map_eq_some_iff] at hc
      obtain ⟨child, hchild, rfl⟩ := hc
      exact h.add_subtree (i, e) (he.trees child hkind hchild) hkind he.nonempty he.name
  | blob =>
      simp only [hkind, Option.map_eq_some_iff] at hc
      obtain ⟨b, hb, rfl⟩ := hc
      rw [he.blobs b hkind hb]
      exact h.add_blob (i, e) hkind he.name
  | link =>
      simp only [hkind, Option.some.injEq] at hc
      subst hc
      exact h.add_link (i, e) hkind he.name
  | submodule =>
      simp only [hkind, Option.some.injEq] at hc
      subst hc
      exact h.add_submodule (i, e) hkind he.name

theorem gather (h : Tallied size 0 paths t) {entries : List Entry} {k : Nat}
    {cs : List Contribution} (hall : ∀ e ∈ entries, Described size below blob tree e)
    (hcs : Entry.contributions? blob tree entries = some cs) :
    Tallied size 0 (paths ++ ObjectMap.pathsOver below k entries) (cs.foldl TreeSize.add t) := by
  induction entries generalizing paths t k cs with
  | nil =>
      obtain rfl : [] = cs := Option.some.inj hcs
      rw [ObjectMap.pathsOver, List.append_nil]
      exact h
  | cons e rest ih =>
      obtain ⟨c, cs', hc, hcs', rfl⟩ := Entry.contributions?_cons_eq_some_iff.mp hcs
      have hfirst := h.add_contribution (i := k) (hall e (by simp)) hc
      rw [ObjectMap.pathsOver, ← List.append_assoc, List.foldl_cons]
      exact ih hfirst (fun e' he' => hall e' (by simp [he'])) hcs'

end Gather

end Tallied

end GitCensus
