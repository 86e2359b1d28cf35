import GitCensus.Proofs.Text.Separators
import GitCensus.Tree.Listing
/-!
# Decoding one record at a time

The equations of decoding: what the first record of a payload takes from it, and how
the entries of a payload follow from those of the rest.
-/

namespace GitCensus

namespace Tree

theorem decode_nil : decode [] = ⟨[], none⟩ := by
  rw [decode]
  rfl

theorem decode_of_error {data : Bytes} {fault : Fault} (hne : data ≠ [])
    (h : readEntry data = .error fault) : decode data = ⟨[], some fault⟩ := by
  rw [decode, if_neg (by simpa using hne)]
  split
  · next fault' h' =>
      rw [h] at h'
      rw [Except.error.inj h']
  · next e rest h' =>
      rw [h] at h'
      cases h'

theorem decode_of_ok {data rest : Bytes} {e : Entry} (h : readEntry data = .ok (e, rest)) :
    decode data = ⟨e :: (decode rest).entries, (decode rest).fault⟩ := by
  have hne : data ≠ [] := by
    rintro rfl
    exact absurd (readEntry_length h) (Nat.not_lt_zero _)
  rw [decode, if_neg (by simpa using hne)]
  split
  · next fault h' =>
      rw [h] at h'
      cases h'
  · next e' rest' h' =>
      rw [h] at h'
      obtain ⟨rfl, rfl⟩ := Prod.mk.inj (Except.ok.inj h')
      rfl

theorem name_length_lt_of_readEntry {data rest : Bytes} {e : Entry}
    (h : readEntry data = .ok (e, rest)) : e.name.length < data.length := by
  unfold readEntry at h
  split at h
  · cases h
  · next digits afterMode hmode =>
      have hlt := Bytes.cut_length hmode
      split at h
      · cases h
      · split at h
        · cases h
        · next name afterName hname =>
            have happend := congrArg List.length (Bytes.append_of_cut hname)
            rw [List.length_append] at happend
            split at h
            · cases h
            · obtain ⟨rfl, -⟩ := Prod.mk.inj (Except.ok.inj h)
              show name.length < data.length
              omega

/-- A name is shorter than the payload that it stands in. -/
theorem name_length_lt_of_mem_decode {data : Bytes} {e : Entry}
    (he : e ∈ (decode data).entries) : e.name.length < data.length := by
  induction hlength : data.length using Nat.strongRecOn generalizing data with
  | ind n ih =>
      by_cases hempty : data = []
      · rw [hempty, decode_nil] at he
        simp at he
      · cases hread : readEntry data with
        | error fault =>
            rw [decode_of_error hempty hread] at he
            simp at he
        | ok result =>
            obtain ⟨first, rest⟩ := result
            rw [decode_of_ok hread] at he
            have hrest := readEntry_length hread
            rcases List.mem_cons.mp he with rfl | he
            · have hname := name_length_lt_of_readEntry hread
              omega
            · have hname := ih rest.length (by omega) he rfl
              omega

end Tree

end GitCensus
