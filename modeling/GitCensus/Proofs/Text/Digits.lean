import Mathlib.Algebra.Group.Nat.Defs
import Mathlib.Data.List.Basic
import GitCensus.ObjectId
import GitCensus.Proofs.Text.Hexadecimal
import GitCensus.Text.Decimal
/-!
# Digits read back

What is written in decimal digits reads back as what it was, and so do the digits of an
id.  Digits are ASCII characters, so they pass through bytes unchanged and are no separators.
-/

namespace GitCensus

namespace Text

/-! ## ASCII -/

theorem toNat_byte_of_lt {c : Char} (h : c.toNat < 0x80) :
    (UInt8.ofNat c.toNat).toNat = c.toNat := by
  rw [UInt8.toNat_ofNat']
  omega

theorem ascii_ofAscii {s : String} (h : ∀ c ∈ s.toList, c.toNat < 0x80) :
    ascii (Bytes.ofAscii s) = s := by
  have hmap : (Bytes.ofAscii s).map
      (fun b => if b < 0x80 then Char.ofNat b.toNat else replacement) = s.toList.map id := by
    rw [Bytes.ofAscii, List.map_map]
    apply List.map_congr_left
    intro c hc
    have hbyte := toNat_byte_of_lt (h c hc)
    have hlt : UInt8.ofNat c.toNat < 0x80 := by
      rw [UInt8.lt_iff_toNat_lt, hbyte]
      exact h c hc
    rw [Function.comp_apply, if_pos hlt, hbyte, Char.ofNat_toNat, id]
  rw [ascii, hmap, List.map_id, String.ofList_toList]

/-- Bytes that read as an ASCII text are those of the text. -/
theorem ofAscii_ascii {bs : Bytes} (h : ∀ c ∈ (ascii bs).toList, c.toNat < 0x80) :
    Bytes.ofAscii (ascii bs) = bs := by
  rw [ascii, String.toList_ofList] at h
  have hmap : (bs.map fun b => if b < 0x80 then Char.ofNat b.toNat else replacement).map
      (fun c => UInt8.ofNat c.toNat) = bs.map id := by
    rw [List.map_map]
    apply List.map_congr_left
    intro b hb
    have hc := h _ (List.mem_map_of_mem hb)
    by_cases hlt : b < 0x80
    · have hchar : ∀ n : Fin 0x80, (Char.ofNat n).toNat = n.val := by decide
      have hback := hchar ⟨b.toNat, UInt8.lt_iff_toNat_lt.mp hlt⟩
      rw [Function.comp_apply, if_pos hlt, hback, UInt8.ofNat_toNat, id]
    · rw [if_neg hlt] at hc
      exact absurd hc (by decide)
  rw [Bytes.ofAscii, ascii, String.toList_ofList, hmap, List.map_id]

/-! ## Decimal -/

namespace Decimal

theorem digits_eq (n : Nat) : digits n = (Nat.toDigits 10 n).map fun c => UInt8.ofNat c.toNat := by
  rw [digits, Bytes.ofAscii, Nat.toString_eq_ofList_toDigits, String.toList_ofList]

private theorem digit_bounds {c : Char} {n : Nat} (hc : c ∈ Nat.toDigits 10 n) :
    0x30 ≤ c.toNat ∧ c.toNat ≤ 0x39 :=
  Char.isDigit_iff_toNat.mp (Nat.isDigit_of_mem_toDigits (by decide) (by decide) hc)

theorem isDigit_of_mem_digits {n : Nat} {b : UInt8} (hb : b ∈ digits n) :
    Bytes.isDigit b = true := by
  rw [digits_eq] at hb
  obtain ⟨c, hc, rfl⟩ := List.mem_map.mp hb
  have hbounds := digit_bounds hc
  have hbyte : (UInt8.ofNat c.toNat).toNat = c.toNat := toNat_byte_of_lt (by omega)
  simp only [Bytes.isDigit, Bool.and_eq_true, decide_eq_true_eq, UInt8.le_iff_toNat_le, hbyte]
  exact hbounds

theorem isDigits_digits (n : Nat) : Bytes.isDigits (digits n) = true := by
  have hne : digits n ≠ [] := by
    rw [digits_eq]
    simp [Nat.toDigits_ne_nil]
  rw [Bytes.isDigits, Bool.and_eq_true, List.all_eq_true]
  exact ⟨by simpa using hne, fun b hb => isDigit_of_mem_digits hb⟩

theorem value_digits (n : Nat) : Bytes.value 10 (digits n) = n := by
  have hfold (cs : List Char) (hcs : ∀ c ∈ cs, 0x30 ≤ c.toNat ∧ c.toNat ≤ 0x39) (start : Nat) :
      (cs.map fun c => UInt8.ofNat c.toNat).foldl (fun k d => k * 10 + (d.toNat - 0x30)) start =
        cs.foldl (fun k c => 10 * k + (c.toNat - '0'.toNat)) start := by
    induction cs generalizing start with
    | nil => rfl
    | cons c cs ih =>
        have hbyte : (UInt8.ofNat c.toNat).toNat = c.toNat := by
          have hbounds := hcs c (by simp)
          exact toNat_byte_of_lt (by omega)
        have hrest : ∀ c' ∈ cs, 0x30 ≤ c'.toNat ∧ c'.toNat ≤ 0x39 :=
          fun c' hc' => hcs c' (by simp [hc'])
        rw [List.map_cons, List.foldl_cons, List.foldl_cons, hbyte, Nat.mul_comm start]
        exact ih hrest _
  calc Bytes.value 10 (digits n)
      = (Nat.toDigits 10 n).foldl (fun k c => 10 * k + (c.toNat - '0'.toNat)) 0 := by
        rw [digits_eq]
        exact hfold _ (fun c hc => digit_bounds hc) 0
    _ = Nat.ofDigitChars 10 (Nat.toDigits 10 n) 0 := Nat.ofDigitChars_eq_foldl.symm
    _ = n := Nat.ofDigitChars_ten_toDigits

theorem length_digits_le {n k : Nat} (hk : 0 < k) (h : n < 10 ^ k) : (digits n).length ≤ k := by
  rw [digits_eq, List.length_map]
  exact (Nat.length_toDigits_le_iff (by decide) hk).mpr h

end Decimal

end Text

namespace ObjectId

variable (id : ObjectId)

theorem hexBytes_eq : id.hexBytes = Bytes.ofAscii id.hex := by
  rw [hexBytes, Bytes.ofAscii, hex, Text.Hex.text, String.toList_ofList]

theorem length_hexBytes : id.hexBytes.length = 40 := by
  rw [hexBytes, List.length_map, Text.Hex.length_encode, id.length_eq]

theorem mem_hexBytes {b : UInt8} (hb : b ∈ id.hexBytes) : 0x30 ≤ b.toNat ∧ b.toNat < 0x80 := by
  rw [hexBytes] at hb
  obtain ⟨c, hc, rfl⟩ := List.mem_map.mp hb
  obtain ⟨n, hn, rfl⟩ := Text.Hex.mem_encode hc
  obtain ⟨hlow, hhigh, -⟩ := Text.Hex.digit_spec hn
  rw [Text.toNat_byte_of_lt hhigh]
  exact ⟨hlow, hhigh⟩

theorem space_notMem_hexBytes : Bytes.space ∉ id.hexBytes := by
  intro hmem
  exact absurd (id.mem_hexBytes hmem).1 (by decide)

theorem lineFeed_notMem_hexBytes : Bytes.lineFeed ∉ id.hexBytes := by
  intro hmem
  exact absurd (id.mem_hexBytes hmem).1 (by decide)

theorem ofHex_hex : ofHex id.hex = .ok id := by
  have hlength : id.hex.length = 40 := by
    rw [hex, Text.Hex.text, String.length_ofList, Text.Hex.length_encode, id.length_eq]
  rw [ofHex, if_neg (by simp [hlength]), hex, Text.Hex.text, String.toList_ofList,
    Text.Hex.decode_encode]
  simp [ofBytes]

/-- An id reads back from its digits, as text or as bytes. -/
theorem ofHexBytes_hexBytes : ofHexBytes id.hexBytes = .ok id := by
  have hascii : ∀ c ∈ id.hex.toList, c.toNat < 0x80 := by
    intro c hc
    rw [hex, Text.Hex.text, String.toList_ofList] at hc
    obtain ⟨n, hn, rfl⟩ := Text.Hex.mem_encode hc
    exact (Text.Hex.digit_spec hn).2.1
  rw [ofHexBytes, hexBytes_eq, Text.ascii_ofAscii hascii, ofHex_hex]

end ObjectId

end GitCensus
