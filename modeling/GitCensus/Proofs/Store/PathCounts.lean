import GitCensus.Proofs.Store.Paths
/-!
# Counting paths

How the counts over the paths below a tree follow from those below its subtrees: one
path through an entry ends there, and the others go on below.
-/

namespace GitCensus

namespace Path

variable {f : Path → Nat} {step : Nat × Entry} {p : Path} {paths paths' : List Path}

theorem largest_cons : largest f (p :: paths) = max (f p) (largest f paths) := rfl

theorem largest_append :
    largest f (paths ++ paths') = max (largest f paths) (largest f paths') := by
  induction paths with
  | nil => simp [largest]
  | cons p rest ih =>
      rw [List.cons_append, largest_cons, largest_cons, ih]
      omega

/-- A measure that grows with that of the rest of a path is largest where that is. -/
theorem largest_map_cons {g : Nat → Nat} (hg : Monotone g) (hzero : f [] = 0)
    (hstep : ∀ q, f (step :: q) = g (f q)) :
    largest f ([step] :: paths.map (step :: ·)) = g (largest f paths) := by
  induction paths with
  | nil =>
      rw [List.map_nil, largest_cons, hstep, hzero]
      simp [largest]
  | cons q rest ih =>
      rw [largest_cons] at ih
      rw [List.map_cons, largest_cons, largest_cons, largest_cons, hg.map_max, hstep q, ← ih]
      omega

theorem largest_length_map_cons :
    largest List.length ([step] :: paths.map (step :: ·)) = 1 + largest List.length paths := by
  refine largest_map_cons (f := List.length) (g := fun n => 1 + n) ?_ rfl fun q => ?_
  · intro a b hab
    exact Nat.add_le_add_left hab 1
  · rw [List.length_cons, Nat.add_comm]

/-! ## Joined names -/

theorem names_cons (step : Nat × Entry) (p : Path) :
    names (step :: p) =
      if names p = [] then if step.2.name = [] then [] else [step.2.name]
      else step.2.name :: names p := by
  unfold names List.rdropWhile
  rw [List.map_cons, List.reverse_cons, List.dropWhile_append]
  by_cases hempty : (p.map fun step => step.2.name).reverse.dropWhile List.isEmpty = []
  · by_cases hname : step.2.name = [] <;> simp [hempty, hname]
  · simp [hempty]

theorem joinedLength_pos (h : names p ≠ []) : 0 < joinedLength p := by
  unfold joinedLength
  have hlast : ¬ ((names p).getLast h).isEmpty := List.rdropWhile_last_not _ _ h
  rcases hnames : names p with _ | ⟨name, rest⟩
  · exact absurd hnames h
  · by_cases hrest : rest = []
    · subst hrest
      simp only [hnames, List.getLast_singleton] at hlast
      rw [List.intercalate_singleton]
      exact List.length_pos_iff.mpr (by simpa using hlast)
    · rw [List.intercalate_cons_of_ne_nil hrest]
      simp only [List.length_append, List.length_singleton]
      omega

/-- The length that a name adds to a longest path below it. -/
def lengthThrough (length below : Nat) : Nat :=
  if 0 < below then length + 1 + below else length

theorem lengthThrough_mono (length : Nat) : Monotone (lengthThrough length) := by
  intro a b hab
  unfold lengthThrough
  split <;> split <;> omega

theorem joinedLength_cons (step : Nat × Entry) (p : Path) :
    joinedLength (step :: p) = lengthThrough step.2.name.length (joinedLength p) := by
  unfold lengthThrough
  by_cases hnames : names p = []
  · have hzero : joinedLength p = 0 := by
      rw [joinedLength, hnames]
      rfl
    rw [hzero, if_neg (Nat.lt_irrefl 0), joinedLength, names_cons, if_pos hnames]
    by_cases hname : step.2.name = []
    · simp [hname]
    · simp [hname]
  · rw [if_pos (joinedLength_pos hnames), joinedLength, names_cons, if_neg hnames,
      List.intercalate_cons_of_ne_nil hnames, joinedLength]
    simp only [List.length_append, List.length_singleton]

theorem largest_joinedLength_map_cons :
    largest joinedLength ([step] :: paths.map (step :: ·)) =
      lengthThrough step.2.name.length (largest joinedLength paths) :=
  largest_map_cons (lengthThrough_mono _) rfl (joinedLength_cons step)

/-! ## Ends of paths -/

theorem getLast?_cons (step : Nat × Entry) (hne : p ≠ []) :
    (step :: p).getLast? = p.getLast? := by
  cases p with
  | nil => exact absurd rfl hne
  | cons step' rest => simp

theorem countP_map_cons (kind : EntryKind) (hne : ∀ q ∈ paths, q ≠ []) :
    (paths.map (step :: ·)).countP (endsIn kind) = paths.countP (endsIn kind) := by
  rw [List.countP_map]
  refine List.countP_congr fun q hq => ?_
  simp only [Function.comp, endsIn, getLast?_cons step (hne q hq)]

theorem sum_blobBytes_map_cons (size : ObjectId → Nat) (hne : ∀ q ∈ paths, q ≠ []) :
    ((paths.map (step :: ·)).map (blobBytes size)).sum = (paths.map (blobBytes size)).sum := by
  rw [List.map_map]
  congr 1
  refine List.map_congr_left fun q hq => ?_
  simp only [Function.comp, blobBytes, getLast?_cons step (hne q hq)]

end Path

end GitCensus
