import GitCensus.Proofs.Census.Statistics
import GitCensus.Proofs.Size.Growth
/-!
# A larger repository does not look smaller

Where the trees of one map have their entries among those of another map, and its blobs are
no larger, each statistic of a tree in the first map is at most the same statistic in the
second.
-/

namespace GitCensus

namespace ObjectMap

variable {m m' : ObjectMap} {t u : ObjectId}

/-- In the second map, each tree at or below the given one has at least the entries it has
in the first, in the same order, and the blobs that it names are at least as large. -/
structure GrowsInto (m m' : ObjectMap) (t : ObjectId) : Prop where
  entries : ∀ u es es', m.Reaches t u → m.entries? u = some es → m'.entries? u = some es' →
    es.Sublist es'
  blobs : ∀ u es, m.Reaches t u → m.entries? u = some es → ∀ e ∈ es, e.kind = .blob →
    ∀ o o', m.find? e.id = some o → m'.find? e.id = some o' → o.kind = .blob →
      o'.kind = .blob → o.size ≤ o'.size

theorem GrowsInto.child (h : m.GrowsInto m' t) (hchild : m.Child t u) : m.GrowsInto m' u where
  entries v es es' hreach := h.entries v es es' (.head hchild hreach)
  blobs v es hreach := h.blobs v es (.head hchild hreach)

theorem blobSize_eq_ok_iff {id : ObjectId} {b : BlobSize} :
    m.blobSize id = .ok b ↔
      ∃ o, m.find? id = some o ∧ o.kind = .blob ∧ b = ⟨min o.size maxCount⟩ := by
  unfold blobSize readHeader
  cases m.find? id with
  | none => simp
  | some o =>
      by_cases hkind : o.kind = .blob <;>
        simp [StoredObject.header, hkind, maxCount, @eq_comm _ b]

theorem GrowsInto.blobSize_le (h : m.GrowsInto m' t) {es : List Entry} {e : Entry}
    {b b' : BlobSize} (hes : m.entries? t = some es) (he : e ∈ es) (hblob : e.kind = .blob)
    (hb : m.blobSize e.id = .ok b) (hb' : m'.blobSize e.id = .ok b') : b.size ≤ b'.size := by
  obtain ⟨o, hfind, hkind, rfl⟩ := blobSize_eq_ok_iff.mp hb
  obtain ⟨o', hfind', hkind', rfl⟩ := blobSize_eq_ok_iff.mp hb'
  apply min_le_min_right maxCount
  exact h.blobs t es .refl hes e he hblob o o' hfind hfind' hkind hkind'

theorem toOption_eq_some {α : Type} {answer : Except Fault α} {a : α}
    (h : answer.toOption = some a) : answer = .ok a := by
  cases answer with
  | error fault => cases h
  | ok a' => exact congrArg Except.ok (Option.some.inj h)

/-- What an entry contributes is never negative. -/
theorem Sized.contribution_counted (hm : m.Sized) {levels : Nat} {e : Entry} {c : Contribution}
    (hc : e.contribution? (fun b => (m.blobSize b).toOption) (m.sizeWithin levels) = some c) :
    c.Counted := by
  refine Entry.contribution?_counted (fun _ b hb => ?_) (fun _ t ht => ?_) hc
  · rw [hm.blobSize_eq (toOption_eq_some hb)]
    exact (clamp_bounds _).1
  · exact (hm.tallied ht).counted

/-- By recursion, the statistics of a tree in the map that has grown are no smaller. -/
theorem GrowsInto.sizeWithin_atMost (hm' : m'.Sized) (h : m.GrowsInto m' t) {levels levels' : Nat}
    {size size' : TreeSize} (hsize : m.sizeWithin levels t = some size)
    (hsize' : m'.sizeWithin levels' t = some size') : size.AtMost size' := by
  induction levels generalizing t levels' size size' with
  | zero => simp [sizeWithin] at hsize
  | succ levels ih =>
      obtain ⟨levels', rfl⟩ : ∃ k, levels' = k + 1 := by
        cases levels' with
        | zero => simp [sizeWithin] at hsize'
        | succ k => exact ⟨k, rfl⟩
      obtain ⟨es, hes, hfold⟩ := sizeWithin_succ_eq_some_iff.mp hsize
      obtain ⟨es', hes', hfold'⟩ := sizeWithin_succ_eq_some_iff.mp hsize'
      obtain ⟨cs, hcs, rfl⟩ := Option.map_eq_some_iff.mp hfold
      obtain ⟨cs', hcs', rfl⟩ := Option.map_eq_some_iff.mp hfold'
      have hsub := h.entries t es es' .refl hes hes'
      have hgrown : ∀ e ∈ es, ∀ c c',
          e.contribution? (fun b => (m.blobSize b).toOption) (m.sizeWithin levels) = some c →
          e.contribution? (fun b => (m'.blobSize b).toOption) (m'.sizeWithin levels') = some c' →
          c.AtMost c' := by
        intro e he c c' hc hc'
        have hname := hm'.name_length_le hes' (hsub.subset he)
        refine Entry.contribution?_atMost hname (fun hkind b b' hb hb' => ?_)
          (fun hkind child child' hchild hchild' => ?_) hc hc'
        · exact h.blobSize_le hes he hkind (toOption_eq_some hb) (toOption_eq_some hb')
        · have hbelow : m.Child t e.id := ⟨es, hes, Entry.mem_subtrees.mpr ⟨e, he, hkind, rfl⟩⟩
          exact ih (h.child hbelow) hchild hchild'
      have hgathered := TreeSize.AtMost.gather hsub hcs hcs' hgrown
        (fun e _ c hc => hm'.contribution_counted hc) (TreeSize.AtMost.refl {})
        TreeSize.counted_empty
      exact hgathered.close (Int.ofNat_le.mpr hsub.length_le)

end ObjectMap

namespace Census

variable {m m' : ObjectMap} {c c' d d' : Census ObjectMap} {t : ObjectId} {rounds rounds' : Nat}
variable {size size' : TreeSize}

/-- Whatever was sized before, a tree of a map that grows into another one has no larger
statistics than the same tree there. -/
theorem treeSize_atMost_of_growth (hm' : m'.Sized) (hgrows : m.GrowsInto m' t)
    (hc : Reachable ObjectMap.store m c) (hc' : Reachable ObjectMap.store m' c')
    (h : c.treeSize ObjectMap.store rounds t = some (.ok size, d))
    (h' : c'.treeSize ObjectMap.store rounds' t = some (.ok size', d')) :
    size.maxDepth ≤ size'.maxDepth ∧ size.maxPathLength ≤ size'.maxPathLength ∧
      size.treeCount ≤ size'.treeCount ∧ size.maxTreeEntries ≤ size'.maxTreeEntries ∧
      size.blobCount ≤ size'.blobCount ∧ size.blobSize ≤ size'.blobSize ∧
      size.linkCount ≤ size'.linkCount ∧ size.submoduleCount ≤ size'.submoduleCount := by
  have houtcome : m.Outcome t (.ok size) :=
    (outcome_of_treeSize m.store_serves (hc.fit m.store_serves rfl) hc.pending h).resolve_left id
  have houtcome' : m'.Outcome t (.ok size') :=
    (outcome_of_treeSize m'.store_serves (hc'.fit m'.store_serves rfl) hc'.pending
      h').resolve_left id
  obtain ⟨levels, hlevels⟩ := houtcome
  obtain ⟨levels', hlevels'⟩ := houtcome'
  have hle := hgrows.sizeWithin_atMost hm' hlevels hlevels'
  exact ⟨hle.maxDepth, hle.maxPathLength, hle.treeCount, hle.maxTreeEntries, hle.blobCount,
    hle.blobSize, hle.linkCount, hle.submoduleCount⟩

/-- A tree with an empty tree in it, where the inner one gets a link: the path through it
gets a separator. -/
theorem treeSize_atMost_of_growth_linked :
    ∃ (m m' : ObjectMap) (size size' : TreeSize) (rounds rounds' : Nat)
      (d d' : Census ObjectMap), m.GrowsInto m' .zero ∧ m'.Sized ∧
      treeSize ObjectMap.store rounds .zero { store := m } = some (.ok size, d) ∧
      treeSize ObjectMap.store rounds' .zero { store := m' } = some (.ok size', d') ∧
      size.maxPathLength = 1 ∧ size'.maxPathLength = 3 ∧ size.linkCount ≤ size'.linkCount := by
  let below : ObjectId := ⟨List.replicate 20 1, rfl⟩
  let data : Bytes := [0x34, 0x30, 0x30, 0x30, 0x30, 0x20, 0x64, 0x00] ++ below.bytes
  let linkData : Bytes :=
    [0x31, 0x32, 0x30, 0x30, 0x30, 0x30, 0x20, 0x6c, 0x00] ++ ObjectId.zero.bytes
  let m : ObjectMap := [(.zero, .ofContent .tree data), (below, .ofContent .tree [])]
  let m' : ObjectMap := [(.zero, .ofContent .tree data), (below, .ofContent .tree linkData)]
  have hread : Tree.readEntry data = .ok (⟨0o40000, [0x64], below⟩, []) := rfl
  have hreadLink : Tree.readEntry linkData = .ok (⟨0o120000, [0x6c], .zero⟩, []) := rfl
  have hentries : m.entries? .zero = some [⟨0o40000, [0x64], below⟩] :=
    ObjectMap.entries?_eq_some_iff.mpr
      ⟨data, rfl, by rw [Tree.decode_of_ok hread, Tree.decode_nil]⟩
  have hentries' : m'.entries? .zero = some [⟨0o40000, [0x64], below⟩] :=
    ObjectMap.entries?_eq_some_iff.mpr
      ⟨data, rfl, by rw [Tree.decode_of_ok hread, Tree.decode_nil]⟩
  have hempty : m.entries? below = some [] :=
    ObjectMap.entries?_eq_some_iff.mpr ⟨[], rfl, Tree.decode_nil⟩
  have hlinked : m'.entries? below = some [⟨0o120000, [0x6c], .zero⟩] :=
    ObjectMap.entries?_eq_some_iff.mpr
      ⟨linkData, rfl, by rw [Tree.decode_of_ok hreadLink, Tree.decode_nil]⟩
  have htreeKind : Entry.kind ⟨0o40000, [0x64], below⟩ = .tree := by
    unfold Entry.kind
    decide
  have hlinkKind : Entry.kind ⟨0o120000, [0x6c], .zero⟩ = .link := by
    unfold Entry.kind
    decide
  have htrees : ∀ id o, m.find? id = some o → (id = .zero ∨ id = below) ∧ o.kind = .tree := by
    intro id o hfind
    rcases List.mem_cons.mp (ObjectMap.mem_of_find? hfind) with heq | hmem
    · obtain ⟨rfl, rfl⟩ := Prod.mk.inj heq
      exact ⟨.inl rfl, rfl⟩
    · obtain ⟨rfl, rfl⟩ := Prod.mk.inj (List.mem_singleton.mp hmem)
      exact ⟨.inr rfl, rfl⟩
  have hsized : m'.Sized := by
    intro id o hfind
    rcases List.mem_cons.mp (ObjectMap.mem_of_find? hfind) with heq | hmem
    · obtain ⟨-, rfl⟩ := Prod.mk.inj heq
      decide
    · obtain ⟨-, rfl⟩ := Prod.mk.inj (List.mem_singleton.mp hmem)
      decide
  have hgrows : m.GrowsInto m' .zero := by
    refine ⟨fun u es es' _ hes hes' => ?_, fun u es _ _ e _ _ o o' hfind _ hkind _ => ?_⟩
    · obtain ⟨data', hdata', -⟩ := ObjectMap.entries?_eq_some_iff.mp hes
      obtain ⟨o, hfind, -⟩ := ObjectMap.readTree_eq_ok_iff.mp hdata'
      rcases (htrees u o hfind).1 with rfl | rfl
      · obtain rfl : _ = es := Option.some.inj (hentries.symm.trans hes)
        obtain rfl : _ = es' := Option.some.inj (hentries'.symm.trans hes')
        exact List.Sublist.refl _
      · obtain rfl : [] = es := Option.some.inj (hempty.symm.trans hes)
        exact List.nil_sublist es'
    · rw [(htrees e.id o hfind).2] at hkind
      cases hkind
  have hbelow : m.sizeWithin 1 below = some (TreeSize.close {} 0) :=
    ObjectMap.sizeWithin_succ_eq_some_iff.mpr ⟨[], hempty, rfl⟩
  have hbelow' : m'.sizeWithin 1 below = some
      { maxDepth := 1 + 1, maxPathLength := 1, maxTreeEntries := 1, linkCount := 1 } := by
    refine ObjectMap.sizeWithin_succ_eq_some_iff.mpr ⟨_, hlinked, ?_⟩
    simp only [TreeSize.ofEntries?, Entry.contributions?, Entry.contribution?, hlinkKind]
    rfl
  have hsize : m.Outcome .zero (.ok
      { maxDepth := 2, maxPathLength := 1, treeCount := 2, maxTreeEntries := 1 }) := by
    refine ⟨2, ObjectMap.sizeWithin_succ_eq_some_iff.mpr ⟨_, hentries, ?_⟩⟩
    simp only [TreeSize.ofEntries?, Entry.contributions?, Entry.contribution?, htreeKind, hbelow]
    rfl
  have hsize' : m'.Outcome .zero (.ok
      { maxDepth := 3, maxPathLength := 3, treeCount := 2, maxTreeEntries := 1,
        linkCount := 1 }) := by
    refine ⟨2, ObjectMap.sizeWithin_succ_eq_some_iff.mpr ⟨_, hentries', ?_⟩⟩
    simp only [TreeSize.ofEntries?, Entry.contributions?, Entry.contribution?, htreeKind, hbelow']
    rfl
  obtain ⟨rounds, d, htree⟩ := exists_treeSize_fresh hsize
  obtain ⟨rounds', d', htree'⟩ := exists_treeSize_fresh hsize'
  have hle := treeSize_atMost_of_growth hsized hgrows .start .start htree htree'
  obtain ⟨-, -, -, -, -, -, hlinks, -⟩ := hle
  exact ⟨m, m', _, _, rounds, rounds', d, d', hgrows, hsized, htree, htree', rfl, rfl, hlinks⟩

end Census

end GitCensus
