import Mathlib.Data.List.Induction
import GitCensus.Tree.Octal
/-!
# Modes in octal digits

A number that is written in octal digits reads back from them.  Digits that are read and
written again come out without their leading zeros, so two rows of digits denote the same
number if and only if they differ in leading zeros.
-/

namespace GitCensus.Octal

variable {n : Nat} {digits digits' : Bytes} {d : UInt8}

/-- The digits without leading zeros; of zeros alone the last one stays. -/
def trim : Bytes → Bytes
  | [] => []
  | [d] => [d]
  | d :: e :: rest => if d = 0x30 then trim (e :: rest) else d :: e :: rest

/-! ## Writing -/

theorem writeOnto_eq (n : Nat) (rest : Bytes) : writeOnto n rest = write n ++ rest := by
  induction n using Nat.strongRecOn generalizing rest with
  | ind n ih =>
      by_cases h : n < 8
      · rw [writeOnto, dif_pos h, write, writeOnto, dif_pos h, List.singleton_append]
      · have hstep (rest : Bytes) :
            writeOnto n rest = writeOnto (n / 8) (UInt8.ofNat (0x30 + n % 8) :: rest) := by
          rw [writeOnto, dif_neg h]
        have hquotient : n / 8 < n := by omega
        have hwrite : write n = write (n / 8) ++ [UInt8.ofNat (0x30 + n % 8)] :=
          (hstep []).trans (ih _ hquotient _)
        rw [hstep, ih _ hquotient, hwrite, List.append_assoc, List.singleton_append]

theorem write_of_lt (h : n < 8) : write n = [UInt8.ofNat (0x30 + n)] := by
  rw [write, writeOnto, dif_pos h]

theorem write_of_le (h : 8 ≤ n) : write n = write (n / 8) ++ [UInt8.ofNat (0x30 + n % 8)] := by
  rw [write, writeOnto, dif_neg (by omega), writeOnto_eq]

theorem toNat_digit (h : n < 8) : (UInt8.ofNat (0x30 + n)).toNat = 0x30 + n := by
  rw [UInt8.toNat_ofNat']
  omega

theorem octal_digit (h : n < 8) :
    0x30 ≤ UInt8.ofNat (0x30 + n) ∧ UInt8.ofNat (0x30 + n) ≤ 0x37 := by
  have hlow : (0x30 : UInt8).toNat = 0x30 := rfl
  have hhigh : (0x37 : UInt8).toNat = 0x37 := rfl
  rw [UInt8.le_iff_toNat_le, UInt8.le_iff_toNat_le, toNat_digit h]
  omega

theorem write_ne_nil (n : Nat) : write n ≠ [] := by
  rcases Nat.lt_or_ge n 8 with h | h
  · rw [write_of_lt h]
    simp
  · rw [write_of_le h]
    simp

theorem octal_write (n : Nat) : ∀ d ∈ write n, 0x30 ≤ d ∧ d ≤ 0x37 := by
  induction n using Nat.strongRecOn with
  | ind n ih =>
      intro d hd
      rcases Nat.lt_or_ge n 8 with h | h
      · rw [write_of_lt h, List.mem_singleton] at hd
        subst hd
        exact octal_digit h
      · rw [write_of_le h, List.mem_append, List.mem_singleton] at hd
        rcases hd with hd | rfl
        · exact ih (n / 8) (by omega) d hd
        · apply octal_digit
          omega

/-! ## Reading -/

theorem value_concat (digits : Bytes) (d : UInt8) :
    Bytes.value 8 (digits ++ [d]) = Bytes.value 8 digits * 8 + (d.toNat - 0x30) := by
  simp [Bytes.value]

theorem value_write (n : Nat) : Bytes.value 8 (write n) = n := by
  induction n using Nat.strongRecOn with
  | ind n ih =>
      rcases Nat.lt_or_ge n 8 with h | h
      · have hdigit := value_concat [] (UInt8.ofNat (0x30 + n))
        rw [toNat_digit h] at hdigit
        rw [write_of_lt h]
        simpa [Bytes.value] using hdigit
      · have hlast : n % 8 < 8 := by omega
        rw [write_of_le h, value_concat, ih (n / 8) (by omega), toNat_digit hlast]
        omega

theorem value_zero_cons (digits : Bytes) : Bytes.value 8 (0x30 :: digits) = Bytes.value 8 digits := rfl

theorem value_replicate_append (k : Nat) (digits : Bytes) :
    Bytes.value 8 (List.replicate k 0x30 ++ digits) = Bytes.value 8 digits := by
  induction k with
  | zero => rfl
  | succ k ih => rw [List.replicate_succ, List.cons_append, value_zero_cons, ih]

/-! ## Writing what was read -/

theorem digit_of_octal (h : 0x30 ≤ d ∧ d ≤ 0x37) :
    d.toNat - 0x30 < 8 ∧ UInt8.ofNat (0x30 + (d.toNat - 0x30)) = d := by
  have hlow : 0x30 ≤ d.toNat := UInt8.le_iff_toNat_le.mp h.1
  have hhigh : d.toNat ≤ 0x37 := UInt8.le_iff_toNat_le.mp h.2
  constructor
  · omega
  · rw [Nat.add_sub_cancel' hlow, UInt8.ofNat_toNat]

theorem write_value_singleton (h : 0x30 ≤ d ∧ d ≤ 0x37) : write (Bytes.value 8 [d]) = [d] := by
  obtain ⟨hlt, hdigit⟩ := digit_of_octal h
  have hvalue : Bytes.value 8 [d] = d.toNat - 0x30 := by simp [Bytes.value]
  rw [hvalue, write_of_lt hlt, hdigit]

/-- Digits behind one that is no zero are all written again. -/
theorem write_value_cons (hd : d ≠ 0x30) (hoctal : ∀ e ∈ d :: digits, 0x30 ≤ e ∧ e ≤ 0x37) :
    write (Bytes.value 8 (d :: digits)) = d :: digits ∧ 0 < Bytes.value 8 (d :: digits) := by
  induction digits using List.reverseRecOn with
  | nil =>
      have hfirst := hoctal d (by simp)
      refine ⟨write_value_singleton hfirst, ?_⟩
      have hlow : 0x30 ≤ d.toNat := UInt8.le_iff_toNat_le.mp hfirst.1
      have hne : d.toNat ≠ 0x30 := fun h => hd (UInt8.toNat_inj.mp h)
      have hvalue : Bytes.value 8 [d] = d.toNat - 0x30 := by simp [Bytes.value]
      omega
  | append_singleton digits e ih =>
      have hbefore : ∀ e ∈ d :: digits, 0x30 ≤ e ∧ e ≤ 0x37 := by
        intro e' he'
        apply hoctal
        rw [← List.cons_append]
        exact List.mem_append_left _ he'
      obtain ⟨hwrite, hpos⟩ := ih hbefore
      obtain ⟨hlt, hdigit⟩ := digit_of_octal (hoctal e (by simp))
      rw [← List.cons_append, value_concat]
      refine ⟨?_, by omega⟩
      rw [write_of_le (by omega)]
      have hdiv : (Bytes.value 8 (d :: digits) * 8 + (e.toNat - 0x30)) / 8 =
          Bytes.value 8 (d :: digits) := by omega
      have hmod : (Bytes.value 8 (d :: digits) * 8 + (e.toNat - 0x30)) % 8 = e.toNat - 0x30 := by
        omega
      rw [hdiv, hmod, hwrite, hdigit]

theorem write_value (hne : digits ≠ []) (hoctal : ∀ d ∈ digits, 0x30 ≤ d ∧ d ≤ 0x37) :
    write (Bytes.value 8 digits) = trim digits := by
  fun_induction trim digits with
  | case1 => exact absurd rfl hne
  | case2 d => exact write_value_singleton (hoctal d (by simp))
  | case3 e rest ih =>
      rw [value_zero_cons]
      apply ih (by simp)
      intro d hd
      exact hoctal d (List.mem_cons_of_mem _ hd)
  | case4 d e rest hd => exact (write_value_cons hd hoctal).1

/-! ## Leading zeros -/

theorem eq_replicate_append_trim (digits : Bytes) :
    ∃ k, digits = List.replicate k 0x30 ++ trim digits := by
  fun_induction trim digits with
  | case1 => exact ⟨0, rfl⟩
  | case2 d => exact ⟨0, rfl⟩
  | case3 e rest ih =>
      obtain ⟨k, hk⟩ := ih
      exact ⟨k + 1, by rw [List.replicate_succ, List.cons_append, ← hk]⟩
  | case4 d e rest hd => exact ⟨0, rfl⟩

theorem trim_ne_nil (hne : digits ≠ []) : trim digits ≠ [] := by
  fun_induction trim digits with
  | case1 => exact hne
  | case2 d => simp
  | case3 e rest ih => exact ih (by simp)
  | case4 d e rest hd => simp

theorem mem_of_mem_trim (h : d ∈ trim digits) : d ∈ digits := by
  obtain ⟨k, hk⟩ := eq_replicate_append_trim digits
  rw [hk]
  exact List.mem_append_right _ h

/-- Rows of digits for one number differ in leading zeros only. -/
theorem value_eq_iff (hne : digits ≠ []) (hne' : digits' ≠ [])
    (hoctal : ∀ d ∈ digits, 0x30 ≤ d ∧ d ≤ 0x37) (hoctal' : ∀ d ∈ digits', 0x30 ≤ d ∧ d ≤ 0x37) :
    Bytes.value 8 digits = Bytes.value 8 digits' ↔ ∃ k k' rest,
      digits = List.replicate k 0x30 ++ rest ∧ digits' = List.replicate k' 0x30 ++ rest := by
  constructor
  · intro hvalue
    have htrim : trim digits = trim digits' := by
      rw [← write_value hne hoctal, hvalue, write_value hne' hoctal']
    obtain ⟨k, hk⟩ := eq_replicate_append_trim digits
    obtain ⟨k', hk'⟩ := eq_replicate_append_trim digits'
    exact ⟨k, k', trim digits, hk, by rw [htrim, ← hk']⟩
  · rintro ⟨k, k', rest, rfl, rfl⟩
    rw [value_replicate_append, value_replicate_append]

end GitCensus.Octal
