import GitCensus.Text.Lossy
/-!
# Texts survive decoding

The UTF-8 bytes of a text are decoded as that text; nothing in them is replaced.
-/

namespace GitCensus

namespace Bytes

theorem toList_loop_eq (bytes : ByteArray) (i : Nat) (collected : List UInt8) :
    ByteArray.toList.loop bytes i collected = collected.reverse ++ bytes.data.toList.drop i := by
  fun_induction ByteArray.toList.loop bytes i collected with
  | case1 i collected hi ih =>
      have hi' : i < bytes.data.toList.length := by simpa using hi
      have hget : bytes.get! i = bytes.data.toList[i] := getElem!_pos bytes.data i hi
      rw [ih, List.drop_eq_getElem_cons hi', List.reverse_cons, List.append_assoc, hget]
      rfl
  | case2 i collected hi =>
      rw [List.drop_eq_nil_of_le (by simpa using hi), List.append_nil]

/-- The UTF-8 bytes of a text are those of its characters. -/
theorem ofText_eq (s : String) : ofText s = s.toList.flatMap String.utf8EncodeChar := by
  have hchars : s.toUTF8 = (s.toList.flatMap String.utf8EncodeChar).toByteArray := by
    have hlist := String.toByteArray_ofList (l := s.toList)
    rw [String.ofList_toList] at hlist
    exact hlist
  rw [ofText, hchars, ByteArray.toList, toList_loop_eq, List.toList_data_toByteArray]
  rfl

end Bytes

namespace Text

namespace Utf8

/-! ## Sequences -/

section Sequences

variable {lead : Lead} {b : UInt8} {rest : Bytes}

theorem toNat_ofNat {n : Nat} (h : n < 0x100) : (UInt8.ofNat n).toNat = n :=
  UInt8.toNat_ofNat_of_lt' h

theorem decodeWith_lead (hlead : Lead.of? b = some lead) (hmore : lead.following ≠ 0) :
    decodeWith none (b :: rest) = decodeWith (some lead) rest := by
  simp [decodeWith, hlead, hmore]

/-- A byte that may follow adds its six bits. -/
theorem decodeWith_more {bits following n : Nat} {low high : UInt8} (hn : n < 64)
    (hlow : low.toNat ≤ n + 128) (hhigh : n + 128 ≤ high.toNat) :
    decodeWith (some ⟨bits, following + 2, low, high⟩) (UInt8.ofNat (n + 128) :: rest) =
      decodeWith (some ⟨bits * 64 + n, following + 1, 0x80, 0xbf⟩) rest := by
  have hvalue := toNat_ofNat (by omega : n + 128 < 0x100)
  generalize UInt8.ofNat (n + 128) = b at hvalue ⊢
  simp [decodeWith, UInt8.le_iff_toNat_le, hvalue, hlow, hhigh]

theorem low_le (n : Nat) : (0x80 : UInt8).toNat ≤ n + 128 := Nat.le_add_left 128 n

theorem le_high {n : Nat} (hn : n < 64) : n + 128 ≤ (0xbf : UInt8).toNat := by
  change n + 128 ≤ 0xbf
  omega

/-- The last byte of a sequence completes its character. -/
theorem decodeWith_last {bits n : Nat} (hn : n < 64) :
    decodeWith (some ⟨bits, 1, 0x80, 0xbf⟩) (UInt8.ofNat (n + 128) :: rest) =
      Char.ofNat (bits * 64 + n) :: decodeWith none rest := by
  have hvalue := toNat_ofNat (by omega : n + 128 < 0x100)
  have hhigh : n ≤ 63 := by omega
  generalize UInt8.ofNat (n + 128) = b at hvalue ⊢
  simp [decodeWith, UInt8.le_iff_toNat_le, hvalue, hhigh]

/-- A lead byte announces what its value as a number tells. -/
theorem Lead.of?_eq (b : UInt8) : Lead.of? b =
    if b.toNat < 0x80 then some ⟨b.toNat, 0, 0x80, 0xbf⟩
    else if b.toNat < 0xc2 then none
    else if b.toNat < 0xe0 then some ⟨b.toNat - 0xc0, 1, 0x80, 0xbf⟩
    else if b.toNat < 0xf0 then
      some ⟨b.toNat - 0xe0, 2, if b.toNat = 0xe0 then 0xa0 else 0x80,
        if b.toNat = 0xed then 0x9f else 0xbf⟩
    else if b.toNat < 0xf5 then
      some ⟨b.toNat - 0xf0, 3, if b.toNat = 0xf0 then 0x90 else 0x80,
        if b.toNat = 0xf4 then 0x8f else 0xbf⟩
    else none := by
  simp only [Lead.of?, UInt8.lt_iff_toNat_lt, ← UInt8.toNat_inj]
  rfl

end Sequences

/-! ## Characters -/

section Encoded

variable {v : Nat} (rest : Bytes)

theorem decodeWith_one (hhigh : v ≤ 0x7f) :
    decodeWith none (UInt8.ofNat v :: rest) = Char.ofNat v :: decodeWith none rest := by
  have hlead : Lead.of? (UInt8.ofNat v) = some ⟨v, 0, 0x80, 0xbf⟩ := by
    rw [Lead.of?_eq, toNat_ofNat (by omega), if_pos (by omega)]
  simp [decodeWith, hlead]

theorem decodeWith_two (hlow : 0x7f < v) (hhigh : v ≤ 0x7ff) :
    decodeWith none (UInt8.ofNat (v / 64 % 32 + 192) :: UInt8.ofNat (v % 64 + 128) :: rest) =
      Char.ofNat v :: decodeWith none rest := by
  have hlead : Lead.of? (UInt8.ofNat (v / 64 % 32 + 192)) = some ⟨v / 64, 1, 0x80, 0xbf⟩ := by
    rw [Lead.of?_eq, toNat_ofNat (by omega), if_neg (by omega), if_neg (by omega),
      if_pos (by omega), show v / 64 % 32 + 192 - 0xc0 = v / 64 by omega]
  have hsum : v / 64 * 64 + v % 64 = v := by omega
  rw [decodeWith_lead hlead (by simp), decodeWith_last (by omega), hsum]

theorem decodeWith_three (hlow : 0x7ff < v) (hhigh : v ≤ 0xffff)
    (hvalid : v < 0xd800 ∨ 0xdfff < v) :
    decodeWith none (UInt8.ofNat (v / 4096 % 16 + 224) :: UInt8.ofNat (v / 64 % 64 + 128) ::
      UInt8.ofNat (v % 64 + 128) :: rest) = Char.ofNat v :: decodeWith none rest := by
  have hlead : Lead.of? (UInt8.ofNat (v / 4096 % 16 + 224)) =
      some ⟨v / 4096, 2, if v / 4096 = 0 then 0xa0 else 0x80,
        if v / 4096 = 13 then 0x9f else 0xbf⟩ := by
    have hfirst : v / 4096 % 16 + 224 = v / 4096 + 224 := by omega
    rw [hfirst, Lead.of?_eq, toNat_ofNat (by omega), if_neg (by omega), if_neg (by omega),
      if_neg (by omega), if_pos (by omega), Nat.add_sub_cancel]
    simp
  -- the bounds on the second byte leave out what two bytes can hold, and the surrogates
  have hsecond : (if v / 4096 = 0 then 0xa0 else 0x80 : UInt8).toNat ≤ v / 64 % 64 + 128 := by
    split
    · change 0xa0 ≤ _
      omega
    · exact low_le _
  have hsecond' : v / 64 % 64 + 128 ≤ (if v / 4096 = 13 then 0x9f else 0xbf : UInt8).toNat := by
    split
    · change _ ≤ 0x9f
      omega
    · exact le_high (by omega)
  have hsum : (v / 4096 * 64 + v / 64 % 64) * 64 + v % 64 = v := by omega
  rw [decodeWith_lead hlead (by simp), decodeWith_more (by omega) hsecond hsecond',
    decodeWith_last (by omega), hsum]

theorem decodeWith_four (hlow : 0xffff < v) (hhigh : v < 0x110000) :
    decodeWith none (UInt8.ofNat (v / 262144 % 8 + 240) :: UInt8.ofNat (v / 4096 % 64 + 128) ::
      UInt8.ofNat (v / 64 % 64 + 128) :: UInt8.ofNat (v % 64 + 128) :: rest) =
      Char.ofNat v :: decodeWith none rest := by
  have hlead : Lead.of? (UInt8.ofNat (v / 262144 % 8 + 240)) =
      some ⟨v / 262144, 3, if v / 262144 = 0 then 0x90 else 0x80,
        if v / 262144 = 4 then 0x8f else 0xbf⟩ := by
    have hfirst : v / 262144 % 8 + 240 = v / 262144 + 240 := by omega
    rw [hfirst, Lead.of?_eq, toNat_ofNat (by omega), if_neg (by omega), if_neg (by omega),
      if_neg (by omega), if_neg (by omega), if_pos (by omega), Nat.add_sub_cancel]
    simp
  -- the bounds on the second byte leave out what three bytes can hold, and what is no character
  have hsecond : (if v / 262144 = 0 then 0x90 else 0x80 : UInt8).toNat ≤ v / 4096 % 64 + 128 := by
    split
    · change 0x90 ≤ _
      omega
    · exact low_le _
  have hsecond' : v / 4096 % 64 + 128 ≤ (if v / 262144 = 4 then 0x8f else 0xbf : UInt8).toNat := by
    split
    · change _ ≤ 0x8f
      omega
    · exact le_high (by omega)
  have hsum : ((v / 262144 * 64 + v / 4096 % 64) * 64 + v / 64 % 64) * 64 + v % 64 = v := by omega
  rw [decodeWith_lead hlead (by simp), decodeWith_more (by omega) hsecond hsecond',
    decodeWith_more (by omega) (low_le _) (le_high (by omega)), decodeWith_last (by omega), hsum]

end Encoded

/-- The bytes of a character are decoded as that character. -/
theorem decodeWith_char (c : Char) (rest : Bytes) :
    decodeWith none (String.utf8EncodeChar c ++ rest) = c :: decodeWith none rest := by
  have hvalid : c.val.toNat < 0xd800 ∨ 0xdfff < c.val.toNat ∧ c.val.toNat < 0x110000 := c.valid
  have hchar : Char.ofNat c.val.toNat = c := Char.ofNat_toNat c
  rw [String.utf8EncodeChar]
  generalize c.val.toNat = v at hvalid hchar ⊢
  rw [← hchar]
  by_cases hone : v ≤ 0x7f
  · rw [if_pos hone]
    exact decodeWith_one rest hone
  rw [if_neg hone]
  by_cases htwo : v ≤ 0x7ff
  · rw [if_pos htwo]
    exact decodeWith_two rest (by omega) htwo
  rw [if_neg htwo]
  by_cases hthree : v ≤ 0xffff
  · rw [if_pos hthree]
    exact decodeWith_three rest (by omega) hthree (by omega)
  rw [if_neg hthree]
  exact decodeWith_four rest (by omega) (by omega)

end Utf8

/-- The bytes of a text are decoded as that text. -/
theorem utf8_ofText (s : String) : utf8 (Bytes.ofText s) = s := by
  have hchars (cs : List Char) :
      Utf8.decodeWith none (cs.flatMap String.utf8EncodeChar) = cs := by
    induction cs with
    | nil => rfl
    | cons c cs ih => rw [List.flatMap_cons, Utf8.decodeWith_char, ih]
  rw [utf8, Bytes.ofText_eq, hchars, String.ofList_toList]

end Text

end GitCensus
