import GitCensus.Bytes
/-!
# Separators in byte strings

What a search for a separator finds, and into which pieces a separator parts a byte
string.  A piece that does not hold the separator is found again as it was.
-/

namespace GitCensus.Bytes

variable {mark : UInt8} {bs before after piece rest : Bytes}

theorem append_of_cut (h : cut mark bs = some (before, after)) : bs = before ++ mark :: after := by
  unfold cut at h
  have hsplit : bs.takeWhile (· ≠ mark) ++ bs.dropWhile (· ≠ mark) = bs :=
    List.takeWhile_append_dropWhile
  cases hdrop : bs.dropWhile (· ≠ mark) with
  | nil =>
      rw [hdrop] at h
      cases h
  | cons x rest =>
      have hx : x = mark := by
        have hhead := List.head?_dropWhile_not (· ≠ mark) bs
        rw [hdrop] at hhead
        simpa using hhead
      rw [hdrop] at h hsplit
      obtain ⟨rfl, rfl⟩ := Prod.mk.inj (Option.some.inj h)
      rw [hx] at hsplit
      exact hsplit.symm

theorem notMem_of_cut (h : cut mark bs = some (before, after)) : mark ∉ before := by
  unfold cut at h
  split at h
  · cases h
  · next x rest hdrop =>
      obtain ⟨rfl, -⟩ := Prod.mk.inj (Option.some.inj h)
      intro hmem
      have hne := List.all_takeWhile (p := (· ≠ mark)) (l := bs)
      rw [List.all_eq_true] at hne
      simpa using hne mark hmem

theorem cut_append (h : mark ∉ before) : cut mark (before ++ mark :: after) = some (before, after) := by
  have hne : ∀ b ∈ before, decide (b ≠ mark) = true := by
    intro b hb
    exact decide_eq_true fun heq => h (heq ▸ hb)
  have hdrop : (before ++ mark :: after).dropWhile (· ≠ mark) = mark :: after := by
    rw [List.dropWhile_append_of_pos hne]
    simp
  have htake : (before ++ mark :: after).takeWhile (· ≠ mark) = before := by
    rw [List.takeWhile_append_of_pos hne]
    simp
  unfold cut
  rw [hdrop, htake]

/-- A search finds the separator after the longest beginning without it. -/
theorem cut_eq_some_iff :
    cut mark bs = some (before, after) ↔ bs = before ++ mark :: after ∧ mark ∉ before := by
  constructor
  · intro h
    exact ⟨append_of_cut h, notMem_of_cut h⟩
  · rintro ⟨rfl, h⟩
    exact cut_append h

/-- The first of two byte strings ends at the same separator if neither holds it. -/
theorem append_inj_of_notMem {before' after' : Bytes} (h : mark ∉ before) (h' : mark ∉ before')
    (heq : before ++ mark :: after = before' ++ mark :: after') :
    before = before' ∧ after = after' := by
  have hcut : cut mark (before ++ mark :: after) = some (before, after) := cut_append h
  rw [heq, cut_append h'] at hcut
  obtain ⟨rfl, rfl⟩ := Prod.mk.inj (Option.some.inj hcut)
  exact ⟨rfl, rfl⟩

theorem cut_eq_none_iff : cut mark bs = none ↔ mark ∉ bs := by
  constructor
  · intro hcut hmem
    obtain ⟨before, after, rfl, hbefore⟩ := List.eq_append_cons_of_mem hmem
    rw [cut_append hbefore] at hcut
    cases hcut
  · intro hmem
    cases hcut : cut mark bs with
    | none => rfl
    | some found =>
        rw [append_of_cut hcut] at hmem
        simp at hmem

theorem splitOn_cons_self : splitOn mark (mark :: rest) = [] :: splitOn mark rest := by
  simp [splitOn]

theorem splitOn_append (h : mark ∉ piece) :
    splitOn mark (piece ++ mark :: rest) = piece :: splitOn mark rest := by
  induction piece with
  | nil => exact splitOn_cons_self
  | cons b piece ih =>
      have hb : b ≠ mark := fun heq => h (by simp [heq])
      have hpiece : mark ∉ piece := fun hmem => h (by simp [hmem])
      have hsplit := ih hpiece
      unfold splitOn at hsplit ⊢
      rw [List.cons_append, List.foldr_cons, hsplit, if_neg hb]

theorem splitOn_of_notMem (h : mark ∉ piece) : splitOn mark piece = [piece] := by
  induction piece with
  | nil => rfl
  | cons b piece ih =>
      have hb : b ≠ mark := fun heq => h (by simp [heq])
      have hpiece : mark ∉ piece := fun hmem => h (by simp [hmem])
      have hsplit := ih hpiece
      unfold splitOn at hsplit ⊢
      rw [List.foldr_cons, hsplit, if_neg hb]

theorem splitOn_ne_nil : splitOn mark bs ≠ [] := by
  intro hsplit
  cases hcut : cut mark bs with
  | none =>
      rw [splitOn_of_notMem (cut_eq_none_iff.mp hcut)] at hsplit
      cases hsplit
  | some found =>
      obtain ⟨rfl, hmem⟩ := cut_eq_some_iff.mp hcut
      rw [splitOn_append hmem] at hsplit
      cases hsplit

/-- The first piece ends at the first separator, and the other pieces lie behind it. -/
theorem splitOn_eq_cons_iff {pieces : List Bytes} :
    splitOn mark bs = piece :: pieces ↔ mark ∉ piece ∧
      (bs = piece ∧ pieces = [] ∨ ∃ rest, bs = piece ++ mark :: rest ∧ splitOn mark rest = pieces) := by
  constructor
  · intro hsplit
    cases hcut : cut mark bs with
    | none =>
        have hmem := cut_eq_none_iff.mp hcut
        rw [splitOn_of_notMem hmem] at hsplit
        obtain ⟨rfl, rfl⟩ := List.cons.inj hsplit
        exact ⟨hmem, .inl ⟨rfl, rfl⟩⟩
    | some found =>
        obtain ⟨hbs, hmem⟩ := cut_eq_some_iff.mp hcut
        rw [hbs, splitOn_append hmem] at hsplit
        obtain ⟨rfl, rfl⟩ := List.cons.inj hsplit
        exact ⟨hmem, .inr ⟨found.2, hbs, rfl⟩⟩
  · rintro ⟨hmem, ⟨rfl, rfl⟩ | ⟨rest, rfl, rfl⟩⟩
    · exact splitOn_of_notMem hmem
    · exact splitOn_append hmem

theorem splitOn_eq_singleton_iff : splitOn mark bs = [piece] ↔ mark ∉ piece ∧ bs = piece := by
  rw [splitOn_eq_cons_iff]
  constructor
  · rintro ⟨hmem, ⟨rfl, -⟩ | ⟨rest, -, hnil⟩⟩
    · exact ⟨hmem, rfl⟩
    · exact absurd hnil splitOn_ne_nil
  · rintro ⟨hmem, rfl⟩
    exact ⟨hmem, .inl ⟨rfl, rfl⟩⟩

theorem splitOn_eq_cons_cons_iff {next : Bytes} {pieces : List Bytes} :
    splitOn mark bs = piece :: next :: pieces ↔
      mark ∉ piece ∧ ∃ rest, bs = piece ++ mark :: rest ∧ splitOn mark rest = next :: pieces := by
  rw [splitOn_eq_cons_iff]
  simp

end GitCensus.Bytes
