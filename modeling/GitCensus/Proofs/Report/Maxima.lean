import Mathlib.Data.List.Forall2
import Mathlib.Data.String.Basic
import GitCensus.Report.Maxima
/-!
# Largest values and who holds them first

Trees that come with ascending names leave, for each statistic, the largest value among
them and the least name that it was found under.
-/

namespace GitCensus

/-- The eight statistics of trees with their names, in the order of reports. -/
def TreeSize.fields : List (String × (TreeSize → Int)) := [
  ("max_depth", maxDepth),
  ("max_path_length", maxPathLength),
  ("tree_count", treeCount),
  ("max_tree_entries", maxTreeEntries),
  ("blob_count", blobCount),
  ("blob_size", blobSize),
  ("link_count", linkCount),
  ("submodule_count", submoduleCount)]

theorem TreeSize.statistics_eq (size : TreeSize) :
    size.statistics = fields.map fun field => (field.1, field.2 size) := rfl

namespace Report

variable {held held' : String → TreeSize → Prop} {field : String × (TreeSize → Int)} {m : Maximum}
  {ms : Maxima} {name : String} {size : TreeSize}

/-- One more tree under a name. -/
def With (held : String → TreeSize → Prop) (name : String) (size : TreeSize) :
    String → TreeSize → Prop :=
  fun name' size' => held name' size' ∨ name' = name ∧ size' = size

/-- The largest value of a statistic among trees held under names, and the least name it is
found under. -/
structure Maximum.Of (held : String → TreeSize → Prop) (field : String × (TreeSize → Int))
    (m : Maximum) : Prop where
  statistic : m.statistic = field.1
  attained : ∃ size, held m.holder size ∧ field.2 size = m.value
  largest : ∀ name size, held name size → field.2 size ≤ m.value
  first : ∀ name size, held name size → field.2 size = m.value → m.holder ≤ name

namespace Maximum.Of

theorem single (field : String × (TreeSize → Int)) (name : String) (size : TreeSize) :
    Of (fun name' size' => name' = name ∧ size' = size) field ⟨field.1, field.2 size, name⟩ where
  statistic := rfl
  attained := ⟨size, ⟨rfl, rfl⟩, rfl⟩
  largest := by
    rintro _ _ ⟨rfl, rfl⟩
    exact le_refl _
  first := by
    rintro _ _ ⟨rfl, rfl⟩ -
    exact le_refl _

/-- A tree under a later name takes a maximum over only if it has more. -/
theorem raised (h : m.Of held field) (hlater : ∀ name' size', held name' size' → name' ≤ name) :
    (m.raised (field.2 size) name).Of (With held name size) field := by
  unfold Maximum.raised
  split
  · next hmore =>
      refine ⟨h.statistic, ⟨size, .inr ⟨rfl, rfl⟩, rfl⟩, ?_, ?_⟩
      · rintro name' size' (hheld | ⟨rfl, rfl⟩)
        · have hle := h.largest name' size' hheld
          dsimp only
          omega
        · exact le_refl _
      · rintro name' size' (hheld | ⟨rfl, rfl⟩) hvalue
        · have hle := h.largest name' size' hheld
          dsimp only at hvalue
          omega
        · exact le_refl _
  · next hless =>
      -- an equal value keeps its holder, whose name is no later than the new one
      obtain ⟨size₀, hheld₀, hvalue₀⟩ := h.attained
      refine ⟨h.statistic, ⟨size₀, .inl hheld₀, hvalue₀⟩, ?_, ?_⟩
      · rintro name' size' (hheld | ⟨rfl, rfl⟩)
        · exact h.largest name' size' hheld
        · omega
      · rintro name' size' (hheld | ⟨rfl, rfl⟩) hvalue
        · exact h.first name' size' hheld hvalue
        · exact hlater m.holder size₀ hheld₀

theorem unique {m' : Maximum} (h : m.Of held field) (h' : m'.Of held field) : m = m' := by
  obtain ⟨size, hheld, hvalue⟩ := h.attained
  obtain ⟨size', hheld', hvalue'⟩ := h'.attained
  have hle := h'.largest _ _ hheld
  have hge := h.largest _ _ hheld'
  have hsame : m.value = m'.value := by omega
  have hholder : m.holder = m'.holder :=
    le_antisymm (h.first _ _ hheld' (by omega)) (h'.first _ _ hheld (by omega))
  calc m = ⟨m.statistic, m.value, m.holder⟩ := rfl
    _ = ⟨m'.statistic, m'.value, m'.holder⟩ := by
      rw [h.statistic, h'.statistic, hsame, hholder]
    _ = m' := rfl

end Maximum.Of

/-- The largest values among trees held under names: none if there are no trees, and else
one for each statistic. -/
structure Maxima.Of (held : String → TreeSize → Prop) (ms : Maxima) : Prop where
  empty_iff : ms = [] ↔ ∀ name size, ¬ held name size
  maxima : ms ≠ [] → List.Forall₂ (Maximum.Of held) TreeSize.fields ms

namespace Maxima.Of

theorem none : Of (fun _ _ => False) [] := ⟨by simp, fun hne => absurd rfl hne⟩

theorem congr (h : ms.Of held) (hsame : ∀ name size, held name size ↔ held' name size) :
    ms.Of held' := by
  obtain rfl : held = held' := by
    funext name size
    exact propext (hsame name size)
  exact h

theorem forall₂_raised {fields : List (String × (TreeSize → Int))}
    (h : List.Forall₂ (Maximum.Of held) fields ms)
    (hlater : ∀ name' size', held name' size' → name' ≤ name) :
    List.Forall₂ (Maximum.Of (With held name size)) fields
      (ms.zipWith (fun m (_, value) => m.raised value name)
        (fields.map fun field => (field.1, field.2 size))) := by
  induction h with
  | nil => exact .nil
  | cons hm _ ih => exact .cons (hm.raised hlater) ih

/-- One more tree, under a name that no earlier one exceeds. -/
theorem add (h : ms.Of held) (hlater : ∀ name' size', held name' size' → name' ≤ name) :
    (ms.add name size).Of (With held name size) := by
  have hall : List.Forall₂ (Maximum.Of (With held name size)) TreeSize.fields
      (ms.add name size) := by
    cases ms with
    | nil =>
        have hnone := h.empty_iff.mp rfl
        have hwith : With held name size = fun name' size' => name' = name ∧ size' = size := by
          funext name' size'
          simp [With, hnone]
        rw [hwith, Maxima.add, TreeSize.statistics_eq, List.map_map]
        exact List.forall₂_map_right_iff.mpr
          (List.forall₂_same.mpr fun field _ => .single field name size)
    | cons m ms =>
        rw [Maxima.add, TreeSize.statistics_eq]
        · exact forall₂_raised (h.maxima (List.cons_ne_nil m ms)) hlater
        · exact List.cons_ne_nil m ms
  refine ⟨⟨fun hempty => ?_, fun hnone => ?_⟩, fun _ => hall⟩
  · rw [hempty] at hall
    cases hall
  · exact absurd (.inr ⟨rfl, rfl⟩) (hnone name size)

theorem unique {ms' : Maxima} (h : ms.Of held) (h' : ms'.Of held) : ms = ms' := by
  by_cases hempty : ms = []
  · rw [hempty, h'.empty_iff.mpr (h.empty_iff.mp hempty)]
  · have hempty' : ms' ≠ [] := fun hnil => hempty (h.empty_iff.mpr (h'.empty_iff.mp hnil))
    have hone : Relator.RightUnique (Maximum.Of held) := fun _ _ _ hm hm' => hm.unique hm'
    exact List.right_unique_forall₂' hone (h.maxima hempty) (h'.maxima hempty')

end Maxima.Of

end Report

end GitCensus
