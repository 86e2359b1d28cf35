import Mathlib.Data.List.Induction
import Mathlib.Data.List.Perm.Basic
import GitCensus.Size.Tally
/-!
# Exact totals

The statistics gathered from contributions are exact sums, each brought down to the largest
count once, and exact maxima.  Capping after every contribution comes to the same, wherever
the largest count is first reached, so the order of the contributions does not matter.
-/

namespace GitCensus

namespace TreeSize

/-- Every statistic is a natural number, of any size. -/
def Natural (t : TreeSize) : Prop := ∀ field ∈ t.statistics, 0 ≤ field.2

instance (t : TreeSize) : Decidable t.Natural :=
  inferInstanceAs (Decidable (∀ field ∈ t.statistics, 0 ≤ field.2))

end TreeSize

namespace Contribution

/-- Every number of a contribution is a natural number, of any size. -/
def Natural : Contribution → Prop
  | blob _ size => 0 ≤ size
  | link _ => True
  | submodule _ => True
  | subtree _ size => size.Natural

instance : (c : Contribution) → Decidable c.Natural
  | blob _ size => inferInstanceAs (Decidable (0 ≤ size))
  | link _ => .isTrue trivial
  | submodule _ => .isTrue trivial
  | subtree _ size => inferInstanceAs (Decidable size.Natural)

/-! ## The part of a contribution in each statistic -/

def depth : Contribution → Int
  | subtree _ size => size.maxDepth
  | _ => 1

/-- The length of the name, or the capped length of name, separator and the longest path of a
subtree that has one. -/
def pathLength : Contribution → Int
  | blob name _ => name.length
  | link name => name.length
  | submodule name => name.length
  | subtree name size =>
    if size.maxPathLength = 0 then name.length
    else min (name.length + 1 + size.maxPathLength) maxCount

def trees : Contribution → Int
  | subtree _ size => size.treeCount
  | _ => 0

def entries : Contribution → Int
  | subtree _ size => size.maxTreeEntries
  | _ => 0

def blobs : Contribution → Int
  | blob _ _ => 1
  | subtree _ size => size.blobCount
  | _ => 0

def bytes : Contribution → Int
  | blob _ size => size
  | subtree _ size => size.blobSize
  | _ => 0

def links : Contribution → Int
  | link _ => 1
  | subtree _ size => size.linkCount
  | _ => 0

def submodules : Contribution → Int
  | submodule _ => 1
  | subtree _ size => size.submoduleCount
  | _ => 0

/-! ## Totals -/

def sumOf (f : Contribution → Int) (cs : List Contribution) : Int := (cs.map f).foldr (· + ·) 0

/-- The largest value of a measure among contributions; zero if there are none. -/
def largestOf (f : Contribution → Int) (cs : List Contribution) : Int := (cs.map f).foldr max 0

/-- The statistics of contributions by exact arithmetic: sums that are capped once, with the
tree itself among the trees, and maxima. -/
def total (cs : List Contribution) : TreeSize where
  maxDepth := largestOf depth cs
  maxPathLength := largestOf pathLength cs
  treeCount := min (1 + sumOf trees cs) maxCount
  maxTreeEntries := largestOf entries cs
  blobCount := min (sumOf blobs cs) maxCount
  blobSize := min (sumOf bytes cs) maxCount
  linkCount := min (sumOf links cs) maxCount
  submoduleCount := min (sumOf submodules cs) maxCount

end Contribution

variable {f : Contribution → Int} {t : TreeSize} {c : Contribution} {cs cs' : List Contribution}

namespace Contribution

theorem sumOf_perm (h : cs.Perm cs') : sumOf f cs = sumOf f cs' := (h.map f).foldr_op_eq

theorem sumOf_concat (f : Contribution → Int) (cs : List Contribution) (c : Contribution) :
    sumOf f (cs ++ [c]) = sumOf f cs + f c := by
  rw [sumOf_perm (List.perm_append_singleton c cs), Int.add_comm]
  rfl

theorem largestOf_perm (h : cs.Perm cs') : largestOf f cs = largestOf f cs' :=
  (h.map f).foldr_op_eq

theorem largestOf_concat (f : Contribution → Int) (cs : List Contribution) (c : Contribution) :
    largestOf f (cs ++ [c]) = max (largestOf f cs) (f c) := by
  rw [largestOf_perm (List.perm_append_singleton c cs), Int.max_comm]
  rfl

theorem largestOf_nonneg (f : Contribution → Int) (cs : List Contribution) :
    0 ≤ largestOf f cs := by
  induction cs with
  | nil => exact Int.le_refl 0
  | cons c cs ih => exact Int.le_trans ih (Int.le_max_right _ _)

theorem total_perm (h : cs.Perm cs') : total cs = total cs' := by
  simp only [total, sumOf_perm h, largestOf_perm h]

end Contribution

/-! ## One contribution -/

theorem addCapped_zero {a : Int} (ha : a ≤ maxCount) : addCapped a 0 = a := by
  unfold addCapped
  omega

theorem addCapped_min {b : Int} (hb : 0 ≤ b) (a : Int) :
    addCapped (min a maxCount) b = min (a + b) maxCount := by
  unfold addCapped
  omega

theorem pathLengthThrough_of_natural {name : Bytes} {below : Int} (h : 0 ≤ below) :
    pathLengthThrough name below =
      if below = 0 then (name.length : Int) else min (name.length + 1 + below) maxCount := by
  unfold pathLengthThrough addCapped
  split <;> split <;> omega

namespace TreeSize

/-- No sum is above the largest count, and the most entries of a tree are not negative. -/
structure Capped (t : TreeSize) : Prop where
  trees : t.treeCount ≤ maxCount
  entries : 0 ≤ t.maxTreeEntries
  blobs : t.blobCount ≤ maxCount
  bytes : t.blobSize ≤ maxCount
  links : t.linkCount ≤ maxCount
  submodules : t.submoduleCount ≤ maxCount

/-- Every kind of contribution adds its part to each sum and to each maximum. -/
theorem add_eq (ht : t.Capped) (hc : c.Natural) : t.add c =
    { maxDepth := max t.maxDepth c.depth
      maxPathLength := max t.maxPathLength c.pathLength
      treeCount := addCapped t.treeCount c.trees
      maxTreeEntries := max t.maxTreeEntries c.entries
      blobCount := addCapped t.blobCount c.blobs
      blobSize := addCapped t.blobSize c.bytes
      linkCount := addCapped t.linkCount c.links
      submoduleCount := addCapped t.submoduleCount c.submodules } := by
  -- a leaf leaves the sums of the other kinds as they are, which adding zero does below the cap
  cases c with
  | blob name size =>
      simp only [Contribution.trees, Contribution.entries, Contribution.links,
        Contribution.submodules, addCapped_zero ht.trees, addCapped_zero ht.links,
        addCapped_zero ht.submodules, Int.max_eq_left ht.entries]
      rfl
  | link name =>
      simp only [Contribution.trees, Contribution.entries, Contribution.blobs,
        Contribution.bytes, Contribution.submodules, addCapped_zero ht.trees,
        addCapped_zero ht.blobs, addCapped_zero ht.bytes, addCapped_zero ht.submodules,
        Int.max_eq_left ht.entries]
      rfl
  | submodule name =>
      simp only [Contribution.trees, Contribution.entries, Contribution.blobs,
        Contribution.bytes, Contribution.links, addCapped_zero ht.trees,
        addCapped_zero ht.blobs, addCapped_zero ht.bytes, addCapped_zero ht.links,
        Int.max_eq_left ht.entries]
      rfl
  | subtree name child =>
      have hbelow : 0 ≤ child.maxPathLength :=
        hc ("max_path_length", child.maxPathLength) (by simp [statistics])
      have hlength : (Contribution.subtree name child).pathLength =
          pathLengthThrough name child.maxPathLength :=
        (pathLengthThrough_of_natural hbelow).symm
      rw [hlength]
      rfl

end TreeSize

/-! ## All contributions -/

namespace Contribution

theorem capped_total (cs : List Contribution) : (total cs).Capped where
  trees := Int.min_le_right _ _
  entries := largestOf_nonneg _ _
  blobs := Int.min_le_right _ _
  bytes := Int.min_le_right _ _
  links := Int.min_le_right _ _
  submodules := Int.min_le_right _ _

theorem nonneg_of_natural (hc : c.Natural) :
    0 ≤ c.trees ∧ 0 ≤ c.blobs ∧ 0 ≤ c.bytes ∧ 0 ≤ c.links ∧ 0 ≤ c.submodules := by
  cases c with
  | blob name size => exact ⟨Int.le_refl 0, Int.one_nonneg, hc, Int.le_refl 0, Int.le_refl 0⟩
  | link name => exact ⟨Int.le_refl 0, Int.le_refl 0, Int.le_refl 0, Int.one_nonneg, Int.le_refl 0⟩
  | submodule name => exact ⟨Int.le_refl 0, Int.le_refl 0, Int.le_refl 0, Int.le_refl 0, Int.one_nonneg⟩
  | subtree name child =>
      have hfields : child.Natural := hc
      simp only [TreeSize.Natural, TreeSize.statistics, List.forall_mem_cons] at hfields
      obtain ⟨-, -, htrees, -, hblobs, hbytes, hlinks, hsubmodules, -⟩ := hfields
      exact ⟨htrees, hblobs, hbytes, hlinks, hsubmodules⟩

theorem total_concat (hc : c.Natural) (cs : List Contribution) :
    total (cs ++ [c]) = (total cs).add c := by
  obtain ⟨htrees, hblobs, hbytes, hlinks, hsubmodules⟩ := nonneg_of_natural hc
  rw [TreeSize.add_eq (capped_total cs) hc]
  simp only [total, largestOf_concat, sumOf_concat, addCapped_min htrees, addCapped_min hblobs,
    addCapped_min hbytes, addCapped_min hlinks, addCapped_min hsubmodules, Int.add_assoc]

theorem gather_eq_total (h : ∀ c ∈ cs, c.Natural) : TreeSize.gather cs = total cs := by
  -- the last contribution meets totals that are capped already
  induction cs using List.reverseRecOn with
  | nil => rfl
  | append_singleton cs c ih =>
      have hinit : ∀ c ∈ cs, c.Natural := fun c hc => h c (List.mem_append_left _ hc)
      have hlast : c.Natural := h c (by simp)
      rw [total_concat hlast, ← ih hinit, TreeSize.gather, List.foldl_append]
      rfl

end Contribution

namespace Tally

open Contribution (total)

theorem foldl_add (cs : List Contribution) (t : Tally) :
    cs.foldl Tally.add t = { t with record := cs.foldl TreeSize.add t.record } := by
  induction cs generalizing t with
  | nil => rfl
  | cons c cs ih => exact ih (t.add c)

/-- Whatever is added to a fresh tally, in whatever order, it holds the exact totals, capped
once, and closes with them. -/
theorem foldl_add_eq_total (cs : List Contribution) (hnatural : ∀ c ∈ cs, c.Natural) :
    cs.foldl Tally.add {} = { record := total cs } ∧
    ∀ cs' : List Contribution, cs'.Perm cs →
      cs'.foldl Tally.add {} = cs.foldl Tally.add {} ∧
      ∀ entries, (cs'.foldl Tally.add {}).close? entries =
        some ((total cs).close entries, { record := total cs, closed := true }) := by
  have hstate : ∀ cs' : List Contribution, cs'.Perm cs →
      cs'.foldl Tally.add {} = { record := total cs } := by
    intro cs' hperm
    have hnatural' : ∀ c ∈ cs', c.Natural := fun c hc => hnatural c (hperm.mem_iff.mp hc)
    have hgather := Contribution.gather_eq_total hnatural'
    rw [foldl_add, ← Contribution.total_perm hperm, ← hgather]
    rfl
  refine ⟨hstate cs (.refl cs), fun cs' hperm => ⟨?_, fun entries => ?_⟩⟩
  · rw [hstate cs' hperm, hstate cs (.refl cs)]
  · rw [hstate cs' hperm]
    rfl

/-- A tree with very many trees and entries and no path, a blob, and a tree with a very long
path and very large blobs. -/
def enormous : List Contribution := [
  .subtree [0x77, 0x77]
    { maxDepth := maxCount + 2, maxTreeEntries := maxCount + 3, treeCount := maxCount + 1 },
  .blob [0x61] 1,
  .subtree [0x64]
    { maxPathLength := maxCount - 1, blobCount := maxCount, blobSize := maxCount + 5 }]

/-- From the last to the first: sums, levels and paths stop at the largest count, the most
entries do not. -/
theorem foldl_add_eq_total_enormous :
    (∀ c ∈ enormous, c.Natural) ∧ enormous.reverse.Perm enormous ∧
    (enormous.reverse.foldl Tally.add {}).close? 3 = some
      ({ maxDepth := maxCount, maxPathLength := maxCount, treeCount := maxCount,
         maxTreeEntries := maxCount + 3, blobCount := maxCount, blobSize := maxCount },
       { record := total enormous, closed := true }) := by
  have hnatural : ∀ c ∈ enormous, c.Natural := by decide
  have hperm := enormous.reverse_perm
  exact ⟨hnatural, hperm, ((foldl_add_eq_total enormous hnatural).2 _ hperm).2 3⟩

/-- With sizes below zero the order would matter. -/
example : [.blob [] maxCount, .blob [] 1, .blob [] (-1)].foldl Tally.add {} ≠
    [.blob [] maxCount, .blob [] (-1), .blob [] 1].foldl Tally.add {} := by decide

end Tally

end GitCensus
