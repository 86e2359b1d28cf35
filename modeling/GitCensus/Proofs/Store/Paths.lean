import Mathlib.Algebra.GroupWithZero.Nat
import Mathlib.Data.List.DropRight
import GitCensus.Proofs.Store.Trees
/-!
# Paths below a tree

A path goes from entry to entry, each in the tree that the one before names.  The
entries come with their places, so that two entries that look alike are two paths.
Below a tree that can be sized there are finitely many.
-/

namespace GitCensus

/-- The entries that a path passes, each with its place in its tree. -/
abbrev Path := List (Nat × Entry)

namespace Path

/-- Whether the last entry of a path is of a kind. -/
def endsIn (kind : EntryKind) (p : Path) : Bool :=
  p.getLast?.any fun step => step.2.kind = kind

/-- The size of the blob that a path ends in; no bytes if it ends in something else. -/
def blobBytes (size : ObjectId → Nat) (p : Path) : Nat :=
  match p.getLast? with
  | some (_, e) => if e.kind = .blob then size e.id else 0
  | none => 0

def separator : UInt8 := 0x2f

/-- The names on a path, without empty ones at its end. -/
def names (p : Path) : List Bytes := (p.map fun step => step.2.name).rdropWhile List.isEmpty

/-- The length in bytes of the names on a path when they are joined. -/
def joinedLength (p : Path) : Nat := ([separator].intercalate p.names).length

/-- The largest value of a measure among some paths; zero if there are none. -/
def largest (f : Path → Nat) (paths : List Path) : Nat := (paths.map f).foldr max 0

end Path

namespace ObjectMap

variable {m : ObjectMap} {t : ObjectId} {p : Path}

/-- The size that the header of an object states. -/
def statedSize (m : ObjectMap) (id : ObjectId) : Nat :=
  match m.find? id with
  | none => 0
  | some o => o.size.toNat

/-- Paths from an entry of the tree through entries of the subtrees that are passed. -/
inductive IsPath (m : ObjectMap) : ObjectId → Path → Prop
  | last {t : ObjectId} {entries : List Entry} {i : Nat} {e : Entry}
      (hentries : m.entries? t = some entries) (hentry : entries[i]? = some e) :
      IsPath m t [(i, e)]
  | through {t : ObjectId} {entries : List Entry} {i : Nat} {e : Entry} {p : Path}
      (hentries : m.entries? t = some entries) (hentry : entries[i]? = some e)
      (hkind : e.kind = .tree) (hbelow : IsPath m e.id p) : IsPath m t ((i, e) :: p)

/-! ## Listing the paths -/

section Listing

variable {below : ObjectId → List Path} {i k : Nat} {e : Entry} {entries : List Entry}

/-- The paths that begin with an entry, given those below each subtree. -/
def pathsThrough (below : ObjectId → List Path) (i : Nat) (e : Entry) : List Path :=
  [(i, e)] :: if e.kind = .tree then (below e.id).map ((i, e) :: ·) else []

/-- The paths that begin with one of some entries, whose places are counted from `k`. -/
def pathsOver (below : ObjectId → List Path) : Nat → List Entry → List Path
  | _, [] => []
  | k, e :: rest => pathsThrough below k e ++ pathsOver below (k + 1) rest

/-- The paths below a tree, within a number of levels. -/
def pathsWithin (m : ObjectMap) : Nat → ObjectId → List Path
  | 0, _ => []
  | levels + 1, t =>
    match m.entries? t with
    | none => []
    | some entries => pathsOver (m.pathsWithin levels) 0 entries

theorem mem_pathsThrough :
    p ∈ pathsThrough below i e ↔
      p = [(i, e)] ∨ e.kind = .tree ∧ ∃ q ∈ below e.id, p = (i, e) :: q := by
  by_cases hkind : e.kind = .tree
  · simp [pathsThrough, hkind, eq_comm]
  · simp [pathsThrough, hkind]

theorem mem_pathsOver :
    p ∈ pathsOver below k entries ↔
      ∃ i e, entries[i]? = some e ∧ p ∈ pathsThrough below (k + i) e := by
  induction entries generalizing k with
  | nil => simp [pathsOver]
  | cons e rest ih =>
      rw [pathsOver, List.mem_append, ih]
      constructor
      · rintro (hp | ⟨i, e', he', hp⟩)
        · exact ⟨0, e, rfl, hp⟩
        · refine ⟨i + 1, e', he', ?_⟩
          rwa [Nat.add_comm i 1, ← Nat.add_assoc]
      · rintro ⟨i, e', he', hp⟩
        cases i with
        | zero =>
            obtain rfl : e = e' := by simpa using he'
            exact .inl hp
        | succ i =>
            refine .inr ⟨i, e', by simpa using he', ?_⟩
            rwa [Nat.add_assoc, Nat.add_comm 1 i]

theorem ne_nil_of_mem_pathsOver (hp : p ∈ pathsOver below k entries) : p ≠ [] := by
  obtain ⟨i, e, -, hp⟩ := mem_pathsOver.mp hp
  rcases mem_pathsThrough.mp hp with rfl | ⟨-, q, -, rfl⟩ <;> simp

theorem ne_nil_of_mem_pathsWithin {levels : Nat} (hp : p ∈ m.pathsWithin levels t) :
    p ≠ [] := by
  cases levels with
  | zero => simp [pathsWithin] at hp
  | succ levels =>
      rw [pathsWithin] at hp
      cases hentries : m.entries? t with
      | none => simp [hentries] at hp
      | some entries =>
          simp only [hentries] at hp
          exact ne_nil_of_mem_pathsOver hp

theorem nodup_pathsThrough (hbelow : (below e.id).Nodup) (hne : ∀ q ∈ below e.id, q ≠ []) :
    (pathsThrough below i e).Nodup := by
  rw [pathsThrough, List.nodup_cons]
  by_cases hkind : e.kind = .tree
  · simp only [if_pos hkind]
    refine ⟨?_, hbelow.map fun q q' heq => (List.cons.inj heq).2⟩
    intro hmem
    obtain ⟨q, hq, heq⟩ := List.mem_map.mp hmem
    exact hne q hq (List.cons.inj heq).2
  · simp [hkind]

theorem nodup_pathsOver (hbelow : ∀ id, (below id).Nodup)
    (hne : ∀ id, ∀ q ∈ below id, q ≠ []) : (pathsOver below k entries).Nodup := by
  induction entries generalizing k with
  | nil => simp [pathsOver]
  | cons e rest ih =>
      rw [pathsOver, List.nodup_append]
      refine ⟨nodup_pathsThrough (hbelow e.id) (hne e.id), ih, ?_⟩
      -- paths through different entries begin at different places
      rintro p hp q hq rfl
      obtain ⟨i, e', -, hq⟩ := mem_pathsOver.mp hq
      have hfirst : ∀ {j e''}, p ∈ pathsThrough below j e'' → (p.head?.map Prod.fst) = some j := by
        intro j e'' hmem
        rcases mem_pathsThrough.mp hmem with rfl | ⟨-, q, -, rfl⟩ <;> rfl
      have hplace := Option.some.inj ((hfirst hp).symm.trans (hfirst hq))
      omega

theorem nodup_pathsWithin (levels : Nat) (t : ObjectId) : (m.pathsWithin levels t).Nodup := by
  induction levels generalizing t with
  | zero => simp [pathsWithin]
  | succ levels ih =>
      rw [pathsWithin]
      cases m.entries? t with
      | none => simp
      | some entries => exact nodup_pathsOver ih fun _ _ => ne_nil_of_mem_pathsWithin

theorem isPath_of_mem_pathsWithin {levels : Nat} (hp : p ∈ m.pathsWithin levels t) :
    m.IsPath t p := by
  induction levels generalizing t p with
  | zero => simp [pathsWithin] at hp
  | succ levels ih =>
      rw [pathsWithin] at hp
      cases hentries : m.entries? t with
      | none => simp [hentries] at hp
      | some entries =>
          simp only [hentries] at hp
          obtain ⟨i, e, hentry, hp⟩ := mem_pathsOver.mp hp
          rw [Nat.zero_add] at hp
          rcases mem_pathsThrough.mp hp with rfl | ⟨hkind, q, hq, rfl⟩
          · exact .last hentries hentry
          · exact .through hentries hentry hkind (ih hq)

/-- The levels that suffice for the size of a tree suffice for its paths. -/
theorem mem_pathsWithin_iff {levels : Nat} {size : TreeSize}
    (hsize : m.sizeWithin levels t = some size) :
    p ∈ m.pathsWithin levels t ↔ m.IsPath t p := by
  refine ⟨isPath_of_mem_pathsWithin, fun hpath => ?_⟩
  induction hpath generalizing levels size with
  | @last t entries i e hentries hentry =>
      cases levels with
      | zero => simp [sizeWithin] at hsize
      | succ levels =>
          simp only [pathsWithin, hentries]
          refine mem_pathsOver.mpr ⟨i, e, hentry, mem_pathsThrough.mpr (.inl ?_)⟩
          rw [Nat.zero_add]
  | @through t entries i e q hentries hentry hkind hbelow ih =>
      cases levels with
      | zero => simp [sizeWithin] at hsize
      | succ levels =>
          have hchild : m.Child t e.id := ⟨entries, hentries, Entry.mem_subtrees.mpr
            ⟨e, List.mem_of_getElem? hentry, hkind, rfl⟩⟩
          obtain ⟨size', hsize'⟩ := hchild.exists_sizeWithin hsize
          simp only [pathsWithin, hentries]
          refine mem_pathsOver.mpr ⟨i, e, hentry, mem_pathsThrough.mpr (.inr ?_)⟩
          exact ⟨hkind, q, ih hsize', by rw [Nat.zero_add]⟩

end Listing

end ObjectMap

end GitCensus
