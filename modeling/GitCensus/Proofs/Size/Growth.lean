import GitCensus.Proofs.Size.Entries
import GitCensus.Proofs.Size.Tallied
/-!
# Statistics that do not shrink

More entries, larger blobs and larger subtrees never make a statistic of a tree smaller.
Capped sums, maxima and the length of a path through a subtree are each monotone, the last
one although a subtree without paths counts without a separator.
-/

namespace GitCensus

variable {a b c d : Int}

theorem addCapped_mono (hab : a ≤ b) (hcd : c ≤ d) : addCapped a c ≤ addCapped b d := by
  unfold addCapped
  omega

theorem le_addCapped (ha : a ≤ maxCount) (hc : 0 ≤ c) : a ≤ addCapped a c := by
  unfold addCapped
  omega

theorem addCapped_bounds (ha : 0 ≤ a) (hc : 0 ≤ c) :
    0 ≤ addCapped a c ∧ addCapped a c ≤ maxCount := by
  unfold addCapped maxCount
  omega

theorem clamp_bounds (n : Nat) : 0 ≤ clamp n ∧ clamp n ≤ maxCount := by
  unfold clamp maxCount
  omega

/-- Names are short enough for the path through a subtree to be no shorter than its name. -/
theorem pathLengthThrough_mono {name : Bytes} (hname : (name.length : Int) ≤ maxCount)
    (hab : a ≤ b) : pathLengthThrough name a ≤ pathLengthThrough name b := by
  unfold pathLengthThrough addCapped
  split <;> split <;> omega

namespace TreeSize

/-- Each statistic of the first tree is at most that of the second. -/
structure AtMost (s t : TreeSize) : Prop where
  maxDepth : s.maxDepth ≤ t.maxDepth
  maxPathLength : s.maxPathLength ≤ t.maxPathLength
  treeCount : s.treeCount ≤ t.treeCount
  maxTreeEntries : s.maxTreeEntries ≤ t.maxTreeEntries
  blobCount : s.blobCount ≤ t.blobCount
  blobSize : s.blobSize ≤ t.blobSize
  linkCount : s.linkCount ≤ t.linkCount
  submoduleCount : s.submoduleCount ≤ t.submoduleCount

/-- Each sum among the statistics is a natural number up to the largest count. -/
structure Counted (t : TreeSize) : Prop where
  trees : 0 ≤ t.treeCount ∧ t.treeCount ≤ maxCount
  blobs : 0 ≤ t.blobCount ∧ t.blobCount ≤ maxCount
  bytes : 0 ≤ t.blobSize ∧ t.blobSize ≤ maxCount
  links : 0 ≤ t.linkCount ∧ t.linkCount ≤ maxCount
  submodules : 0 ≤ t.submoduleCount ∧ t.submoduleCount ≤ maxCount

theorem AtMost.refl (t : TreeSize) : t.AtMost t := by
  constructor <;> exact le_refl _

theorem counted_empty : Counted {} := by
  constructor <;> decide

end TreeSize

theorem Tallied.counted {size : ObjectId → Nat} {own : Nat} {paths : List Path} {t : TreeSize}
    (h : Tallied size own paths t) : t.Counted := by
  constructor
  · rw [h.trees]
    exact clamp_bounds _
  · rw [h.blobs]
    exact clamp_bounds _
  · rw [h.bytes]
    exact clamp_bounds _
  · rw [h.links]
    exact clamp_bounds _
  · rw [h.submodules]
    exact clamp_bounds _

namespace Contribution

/-- What a contribution adds to the sums is not negative. -/
def Counted : Contribution → Prop
  | blob _ size => 0 ≤ size
  | link _ => True
  | submodule _ => True
  | subtree _ size => size.Counted

/-- Contributions of one entry, before and after what it names has grown. -/
inductive AtMost : Contribution → Contribution → Prop
  | blob {size size' : Int} (name : Bytes) (hsize : size ≤ size') :
      AtMost (blob name size) (blob name size')
  | link (name : Bytes) : AtMost (link name) (link name)
  | submodule (name : Bytes) : AtMost (submodule name) (submodule name)
  | subtree {name : Bytes} {size size' : TreeSize} (hname : (name.length : Int) ≤ maxCount)
      (hsize : size.AtMost size') : AtMost (subtree name size) (subtree name size')

end Contribution

section Entry

variable {blob blob' : ObjectId → Option BlobSize} {tree tree' : ObjectId → Option TreeSize}
variable {e : Entry} {contribution contribution' : Contribution}

theorem Entry.contribution?_counted
    (hblob : e.kind = .blob → ∀ b, blob e.id = some b → 0 ≤ b.size)
    (htree : e.kind = .tree → ∀ t, tree e.id = some t → t.Counted)
    (h : e.contribution? blob tree = some contribution) : contribution.Counted := by
  unfold contribution? at h
  cases hkind : e.kind with
  | tree =>
      simp only [hkind, Option.map_eq_some_iff] at h
      obtain ⟨t, ht, rfl⟩ := h
      exact htree hkind t ht
  | blob =>
      simp only [hkind, Option.map_eq_some_iff] at h
      obtain ⟨b, hb, rfl⟩ := h
      exact hblob hkind b hb
  | link =>
      simp only [hkind, Option.some.injEq] at h
      subst h
      trivial
  | submodule =>
      simp only [hkind, Option.some.injEq] at h
      subst h
      trivial

/-- An entry contributes more where what it names has grown. -/
theorem Entry.contribution?_atMost (hname : (e.name.length : Int) ≤ maxCount)
    (hblob : e.kind = .blob → ∀ b b', blob e.id = some b → blob' e.id = some b' → b.size ≤ b'.size)
    (htree : e.kind = .tree → ∀ t t', tree e.id = some t → tree' e.id = some t' → t.AtMost t')
    (h : e.contribution? blob tree = some contribution)
    (h' : e.contribution? blob' tree' = some contribution') :
    contribution.AtMost contribution' := by
  unfold contribution? at h h'
  cases hkind : e.kind with
  | tree =>
      simp only [hkind, Option.map_eq_some_iff] at h h'
      obtain ⟨t, ht, rfl⟩ := h
      obtain ⟨t', ht', rfl⟩ := h'
      exact .subtree hname (htree hkind t t' ht ht')
  | blob =>
      simp only [hkind, Option.map_eq_some_iff] at h h'
      obtain ⟨b, hb, rfl⟩ := h
      obtain ⟨b', hb', rfl⟩ := h'
      exact .blob e.name (hblob hkind b b' hb hb')
  | link =>
      simp only [hkind, Option.some.injEq] at h h'
      subst h h'
      exact .link e.name
  | submodule =>
      simp only [hkind, Option.some.injEq] at h h'
      subst h h'
      exact .submodule e.name

end Entry

namespace TreeSize

variable {s t : TreeSize} {contribution contribution' : Contribution}

theorem AtMost.addLeaf (h : s.AtMost t) (name : Bytes) :
    (s.addLeaf name).AtMost (t.addLeaf name) where
  maxDepth := max_le_max h.maxDepth (le_refl _)
  maxPathLength := max_le_max h.maxPathLength (le_refl _)
  treeCount := h.treeCount
  maxTreeEntries := h.maxTreeEntries
  blobCount := h.blobCount
  blobSize := h.blobSize
  linkCount := h.linkCount
  submoduleCount := h.submoduleCount

theorem atMost_addLeaf (t : TreeSize) (name : Bytes) : t.AtMost (t.addLeaf name) :=
  { AtMost.refl t with
    maxDepth := le_max_left _ _
    maxPathLength := le_max_left _ _ }

/-- Adding what has grown to what has grown gives what has grown. -/
theorem AtMost.add (h : s.AtMost t) (hadd : contribution.AtMost contribution') :
    (s.add contribution).AtMost (t.add contribution') := by
  cases hadd with
  | blob name hsize =>
      exact { h.addLeaf name with
        blobCount := addCapped_mono h.blobCount (le_refl 1)
        blobSize := addCapped_mono h.blobSize hsize }
  | link name =>
      exact { h.addLeaf name with linkCount := addCapped_mono h.linkCount (le_refl 1) }
  | submodule name =>
      exact { h.addLeaf name with
        submoduleCount := addCapped_mono h.submoduleCount (le_refl 1) }
  | subtree hname hsize =>
      constructor
      · exact max_le_max h.maxDepth hsize.maxDepth
      · exact max_le_max h.maxPathLength (pathLengthThrough_mono hname hsize.maxPathLength)
      · exact addCapped_mono h.treeCount hsize.treeCount
      · exact max_le_max h.maxTreeEntries hsize.maxTreeEntries
      · exact addCapped_mono h.blobCount hsize.blobCount
      · exact addCapped_mono h.blobSize hsize.blobSize
      · exact addCapped_mono h.linkCount hsize.linkCount
      · exact addCapped_mono h.submoduleCount hsize.submoduleCount

/-- A further entry makes no statistic smaller. -/
theorem Counted.atMost_add (h : t.Counted) (hadd : contribution.Counted) :
    t.AtMost (t.add contribution) := by
  cases contribution with
  | blob name size =>
      exact { t.atMost_addLeaf name with
        blobCount := le_addCapped h.blobs.2 (by decide)
        blobSize := le_addCapped h.bytes.2 hadd }
  | link name =>
      exact { t.atMost_addLeaf name with linkCount := le_addCapped h.links.2 (by decide) }
  | submodule name =>
      exact { t.atMost_addLeaf name with
        submoduleCount := le_addCapped h.submodules.2 (by decide) }
  | subtree name size =>
      constructor
      · exact le_max_left _ _
      · exact le_max_left _ _
      · exact le_addCapped h.trees.2 hadd.trees.1
      · exact le_max_left _ _
      · exact le_addCapped h.blobs.2 hadd.blobs.1
      · exact le_addCapped h.bytes.2 hadd.bytes.1
      · exact le_addCapped h.links.2 hadd.links.1
      · exact le_addCapped h.submodules.2 hadd.submodules.1

theorem Counted.add (h : t.Counted) (hadd : contribution.Counted) :
    (t.add contribution).Counted := by
  cases contribution with
  | blob name size =>
      exact ⟨h.trees, addCapped_bounds h.blobs.1 (by decide), addCapped_bounds h.bytes.1 hadd,
        h.links, h.submodules⟩
  | link name =>
      exact ⟨h.trees, h.blobs, h.bytes, addCapped_bounds h.links.1 (by decide), h.submodules⟩
  | submodule name =>
      exact ⟨h.trees, h.blobs, h.bytes, h.links, addCapped_bounds h.submodules.1 (by decide)⟩
  | subtree name size =>
      exact ⟨addCapped_bounds h.trees.1 hadd.trees.1, addCapped_bounds h.blobs.1 hadd.blobs.1,
        addCapped_bounds h.bytes.1 hadd.bytes.1, addCapped_bounds h.links.1 hadd.links.1,
        addCapped_bounds h.submodules.1 hadd.submodules.1⟩

theorem AtMost.trans {r : TreeSize} (h : r.AtMost s) (h' : s.AtMost t) : r.AtMost t := by
  constructor
  · exact le_trans h.maxDepth h'.maxDepth
  · exact le_trans h.maxPathLength h'.maxPathLength
  · exact le_trans h.treeCount h'.treeCount
  · exact le_trans h.maxTreeEntries h'.maxTreeEntries
  · exact le_trans h.blobCount h'.blobCount
  · exact le_trans h.blobSize h'.blobSize
  · exact le_trans h.linkCount h'.linkCount
  · exact le_trans h.submoduleCount h'.submoduleCount

theorem AtMost.close (h : s.AtMost t) {entries entries' : Int} (hentries : entries ≤ entries') :
    (s.close entries).AtMost (t.close entries') :=
  { h with
    maxDepth := addCapped_mono h.maxDepth (le_refl 1)
    maxTreeEntries := max_le_max h.maxTreeEntries hentries }

section Gather

variable {blob blob' : ObjectId → Option BlobSize} {tree tree' : ObjectId → Option TreeSize}
variable {entries entries' : List Entry} {cs cs' : List Contribution}

/-- Entries among which those of another list stand, in order, gather no less. -/
theorem AtMost.gather (hsub : entries.Sublist entries')
    (hcs : Entry.contributions? blob tree entries = some cs)
    (hcs' : Entry.contributions? blob' tree' entries' = some cs')
    (hgrown : ∀ e ∈ entries, ∀ c c', e.contribution? blob tree = some c →
      e.contribution? blob' tree' = some c' → c.AtMost c')
    (hcounted : ∀ e ∈ entries', ∀ c, e.contribution? blob' tree' = some c → c.Counted)
    (h : s.AtMost t) (ht : t.Counted) :
    (cs.foldl TreeSize.add s).AtMost (cs'.foldl TreeSize.add t) := by
  induction hsub generalizing cs cs' s t with
  | slnil =>
      obtain rfl : [] = cs := Option.some.inj hcs
      obtain rfl : [] = cs' := Option.some.inj hcs'
      exact h
  | cons e hsub ih =>
      -- the further entry adds to the second tree alone
      obtain ⟨c, rest, hc, hrest, rfl⟩ := Entry.contributions?_cons_eq_some_iff.mp hcs'
      obtain ⟨hcounted_c, hcounted⟩ := List.forall_mem_cons.mp hcounted
      have hadd := hcounted_c c hc
      rw [List.foldl_cons]
      exact ih hcs hrest hgrown hcounted (h.trans (ht.atMost_add hadd)) (ht.add hadd)
  | cons_cons e hsub ih =>
      obtain ⟨c, rest, hc, hrest, rfl⟩ := Entry.contributions?_cons_eq_some_iff.mp hcs
      obtain ⟨c', rest', hc', hrest', rfl⟩ := Entry.contributions?_cons_eq_some_iff.mp hcs'
      obtain ⟨hgrown_c, hgrown⟩ := List.forall_mem_cons.mp hgrown
      obtain ⟨hcounted_c, hcounted⟩ := List.forall_mem_cons.mp hcounted
      rw [List.foldl_cons, List.foldl_cons]
      exact ih hrest hrest' hgrown hcounted (h.add (hgrown_c c c' hc hc'))
        (ht.add (hcounted_c c' hc'))

end Gather

end TreeSize

end GitCensus
