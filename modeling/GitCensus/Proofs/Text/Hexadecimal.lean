import GitCensus.Text.Hex
/-!
# Hexadecimal texts

What is read are the texts in which pairs of digits stand with blanks between and around
them.  The bytes read are those whose own digits are the digits of the text in lower case,
so what is written in hexadecimal reads back.
-/

namespace GitCensus.Text.Hex

/-- The digits that are read, the letters in either case. -/
def digits : List Char := "0123456789abcdefABCDEF".toList

/-- The characters that may stand between and around pairs of digits. -/
def blanks : List Char := [' ', '\t', '\n', '\x0b', '\x0c', '\r']

/-- Pairs of digits with blanks between and around them, and the bytes that have the same
digits in lower case. -/
inductive Spaced : List Char → Bytes → Prop
  | nil : Spaced [] []
  | blank {c : Char} {cs : List Char} {bs : Bytes} (hc : c ∈ blanks) (hrest : Spaced cs bs) :
      Spaced (c :: cs) bs
  | byte {c d : Char} {b : UInt8} {cs : List Char} {bs : Bytes} (hc : c ∈ digits)
      (hd : d ∈ digits) (hb : pair b = [c.toLower, d.toLower]) (hrest : Spaced cs bs) :
      Spaced (c :: d :: cs) (b :: bs)

variable {c : Char} {cs : List Char} {bs : Bytes} {n : Nat}

/-! ## Characters -/

/-- A property of all ASCII characters, checked number by number. -/
theorem forall_ascii {p : Char → Prop} (h : ∀ n : Fin 0x80, p (Char.ofNat n))
    (hc : c.toNat < 0x80) : p c := by
  have hchar := h ⟨c.toNat, hc⟩
  rwa [Char.ofNat_toNat] at hchar

/-- A property of all digits, checked one by one along the list. -/
theorem forall_digits {p : Char → Prop} [DecidablePred p] (h : digits.all fun c => p c)
    (hc : c ∈ digits) : p c :=
  of_decide_eq_true (List.all_eq_true.mp h c hc)

/-- The digits are ten figures and six letters, none of them a blank. -/
theorem digit_spec (h : n < 16) :
    0x30 ≤ (digit n).toNat ∧ (digit n).toNat < 0x80 ∧ isBlank (digit n) = false ∧
      digitValue? (digit n) = some n := by
  have hall : ∀ k : Fin 16, 0x30 ≤ (digit k).toNat ∧ (digit k).toNat < 0x80 ∧
      isBlank (digit k) = false ∧ digitValue? (digit k) = some k.val := by decide
  exact hall ⟨n, h⟩

theorem digit_mem_digits (h : n < 16) : digit n ∈ digits ∧ (digit n).toLower = digit n := by
  have hall : ∀ k : Fin 16, digit k ∈ digits ∧ (digit k).toLower = digit k := by decide
  exact hall ⟨n, h⟩

theorem ascii_of_mem_digits (h : c ∈ digits) : c.toNat < 0x80 :=
  forall_digits (p := fun c => c.toNat < 0x80) (by decide) h

theorem ascii_of_mem_blanks (h : c ∈ blanks) : c.toNat < 0x80 := by
  have hall : blanks.all fun c => c.toNat < 0x80 := by decide
  simpa using List.all_eq_true.mp hall c h

theorem notMem_blanks_of_mem_digits (h : c ∈ digits) : c ∉ blanks :=
  forall_digits (p := fun c => c ∉ blanks) (by decide) h

theorem exists_digit_of_mem_digits (h : c ∈ digits) : ∃ n < 16, digit n = c.toLower := by
  obtain ⟨n, hn⟩ :=
    forall_digits (p := fun c => ∃ n : Fin 16, digit n = c.toLower) (by decide) h
  exact ⟨n, n.isLt, hn⟩

theorem isBlank_iff : isBlank c ↔ c ∈ blanks := by
  by_cases hascii : c.toNat < 0x80
  · exact forall_ascii (p := fun c => isBlank c ↔ c ∈ blanks) (by decide) hascii
  · constructor
    · intro hblank
      simp only [isBlank, Bool.or_eq_true, Bool.and_eq_true, decide_eq_true_eq] at hblank
      omega
    · intro hmem
      exact absurd (ascii_of_mem_blanks hmem) hascii

theorem digitValue?_eq_some_iff :
    digitValue? c = some n ↔ c ∈ digits ∧ n < 16 ∧ digit n = c.toLower := by
  constructor
  · intro hvalue
    by_cases hascii : c.toNat < 0x80
    · have hall : ∀ k : Fin 0x80, ∀ n ∈ digitValue? (Char.ofNat k),
          Char.ofNat k ∈ digits ∧ n < 16 ∧ digit n = (Char.ofNat k).toLower := by decide
      exact forall_ascii (p := fun c => ∀ n ∈ digitValue? c,
        c ∈ digits ∧ n < 16 ∧ digit n = c.toLower) hall hascii n hvalue
    · have hnone : digitValue? c = none := by
        unfold digitValue?
        rw [if_neg (by omega), if_neg (by omega), if_neg (by omega)]
      rw [hnone] at hvalue
      cases hvalue
  · rintro ⟨hdigit, hn, hlower⟩
    have hall := forall_digits (p := fun c => ∀ k : Fin 16, digit k = c.toLower →
      digitValue? c = some k.val) (by decide) hdigit
    exact hall ⟨n, hn⟩ hlower

/-! ## Bytes -/

theorem pair_ofNat {high low : Nat} (hhigh : high < 16) (hlow : low < 16) :
    pair (UInt8.ofNat (16 * high + low)) = [digit high, digit low] := by
  have hbyte : (UInt8.ofNat (16 * high + low)).toNat = 16 * high + low := by
    rw [UInt8.toNat_ofNat']
    omega
  have hdiv : (16 * high + low) / 16 = high := by omega
  have hmod : (16 * high + low) % 16 = low := by omega
  rw [pair, hbyte, hdiv, hmod]

theorem encode_cons (b : UInt8) (bs : Bytes) : encode (b :: bs) = pair b ++ encode bs := rfl

theorem exists_pair (hc : c ∈ digits) {d : Char} (hd : d ∈ digits) :
    ∃ b, pair b = [c.toLower, d.toLower] := by
  obtain ⟨high, hhighlt, hhigh⟩ := exists_digit_of_mem_digits hc
  obtain ⟨low, hlowlt, hlow⟩ := exists_digit_of_mem_digits hd
  exact ⟨_, by rw [pair_ofNat hhighlt hlowlt, hhigh, hlow]⟩

theorem mem_encode (hc : c ∈ encode bs) : ∃ n < 16, c = digit n := by
  obtain ⟨b, -, hc⟩ := List.mem_flatMap.mp hc
  have hb := b.toNat_lt
  rcases List.mem_cons.mp hc with rfl | hc
  · exact ⟨b.toNat / 16, by omega, rfl⟩
  · obtain rfl := List.mem_singleton.mp hc
    exact ⟨b.toNat % 16, by omega, rfl⟩

theorem length_encode (bs : Bytes) : (encode bs).length = 2 * bs.length := by
  induction bs with
  | nil => rfl
  | cons b bs ih =>
      have hpair : (pair b).length = 2 := rfl
      rw [encode_cons, List.length_append, ih, List.length_cons]
      omega

/-! ## What is read -/

namespace Spaced

theorem mem_cases (h : Spaced cs bs) : ∀ c ∈ cs, c ∈ blanks ∨ c ∈ digits := by
  induction h with
  | nil => simp
  | blank hc _ ih => exact List.forall_mem_cons.mpr ⟨.inl hc, ih⟩
  | byte hc hd _ _ ih =>
      exact List.forall_mem_cons.mpr ⟨.inr hc, List.forall_mem_cons.mpr ⟨.inr hd, ih⟩⟩

theorem ascii (h : Spaced cs bs) : ∀ c ∈ cs, c.toNat < 0x80 := by
  intro c hc
  rcases h.mem_cases c hc with hblank | hdigit
  · exact ascii_of_mem_blanks hblank
  · exact ascii_of_mem_digits hdigit

/-- Without the blanks and in lower case, the text is what is written for the bytes. -/
theorem encode_eq (h : Spaced cs bs) :
    encode bs = (cs.filter fun c => c ∉ blanks).map Char.toLower := by
  induction h with
  | nil => rfl
  | blank hc _ ih =>
      rw [List.filter_cons_of_neg (by simpa using hc)]
      exact ih
  | byte hc hd hb _ ih =>
      have hfirst := notMem_blanks_of_mem_digits hc
      have hsecond := notMem_blanks_of_mem_digits hd
      rw [List.filter_cons_of_pos (by simpa using hfirst),
        List.filter_cons_of_pos (by simpa using hsecond), encode_cons, hb, ih]
      rfl

theorem encode_eq_of_forall (h : Spaced cs bs) (hblank : ∀ c ∈ cs, c ∉ blanks) :
    encode bs = cs.map Char.toLower := by
  rw [h.encode_eq, List.filter_eq_self.mpr (by simpa using hblank)]

theorem length_eq (h : Spaced cs bs) :
    cs.length = 2 * bs.length + cs.countP fun c => c ∈ blanks := by
  have hdigits := congrArg List.length h.encode_eq
  rw [length_encode, List.length_map, ← List.countP_eq_length_filter] at hdigits
  rw [hdigits, List.length_eq_countP_add_countP (fun c => c ∈ blanks) (l := cs), Nat.add_comm]
  simp

theorem length_eq_iff (h : Spaced cs bs) :
    cs.length = 2 * bs.length ↔ ∀ c ∈ cs, c ∉ blanks := by
  rw [h.length_eq, Nat.add_eq_left, List.countP_eq_zero]
  simp

theorem length_lt (h : Spaced cs bs) (hblank : ∃ c ∈ cs, c ∈ blanks) :
    2 * bs.length < cs.length := by
  rw [h.length_eq]
  have hpos : 0 < cs.countP fun c => c ∈ blanks := List.countP_pos_iff.mpr (by simpa using hblank)
  omega

theorem decodeFrom_eq (h : Spaced cs bs) (index : Nat) : decodeFrom index cs = .ok bs := by
  induction h generalizing index with
  | nil => rfl
  | blank hc _ ih =>
      unfold decodeFrom
      rw [if_pos (isBlank_iff.mpr hc), ih]
  | @byte c d b cs bs hc hd hb _ ih =>
      have hblank : ¬ isBlank c := mt isBlank_iff.mp (notMem_blanks_of_mem_digits hc)
      obtain ⟨hhigh, hrest⟩ := List.cons.inj hb
      obtain ⟨hlow, -⟩ := List.cons.inj hrest
      have hb := b.toNat_lt
      have hfirst : digitValue? c = some (b.toNat / 16) :=
        digitValue?_eq_some_iff.mpr ⟨hc, by omega, hhigh⟩
      have hsecond : digitValue? d = some (b.toNat % 16) :=
        digitValue?_eq_some_iff.mpr ⟨hd, by omega, hlow⟩
      have hbyte : UInt8.ofNat (16 * (b.toNat / 16) + b.toNat % 16) = b := by
        rw [Nat.div_add_mod, UInt8.ofNat_toNat]
      unfold decodeFrom
      rw [if_neg hblank]
      simp only [hfirst, hsecond, ih, Except.map, hbyte]

theorem of_decodeFrom {index : Nat} (h : decodeFrom index cs = .ok bs) : Spaced cs bs := by
  -- the cases are those of the reader: the end, a blank, three faults and a pair of digits
  fun_induction decodeFrom index cs generalizing bs with
  | case1 =>
      obtain rfl : [] = bs := Except.ok.inj h
      exact .nil
  | case2 index c rest hblank ih => exact .blank (isBlank_iff.mp hblank) (ih h)
  | case3 => cases h
  | case4 => cases h
  | case5 => cases h
  | case6 index c hblank high d rest hhigh low hlow ih =>
      obtain ⟨hc, hhighlt, hhighdigit⟩ := digitValue?_eq_some_iff.mp hhigh
      obtain ⟨hd, hlowlt, hlowdigit⟩ := digitValue?_eq_some_iff.mp hlow
      cases hrest : decodeFrom (index + 2) rest with
      | error fault =>
          rw [hrest] at h
          cases h
      | ok read =>
          rw [hrest] at h
          obtain rfl := Except.ok.inj h
          refine .byte hc hd ?_ (ih hrest)
          rw [pair_ofNat hhighlt hlowlt, hhighdigit, hlowdigit]

/-- Every even number of digits is the text of bytes. -/
theorem exists_of_digits (hdigits : ∀ c ∈ cs, c ∈ digits) (hlength : cs.length = 2 * n) :
    ∃ bs, Spaced cs bs := by
  induction n generalizing cs with
  | zero =>
      obtain rfl := List.eq_nil_of_length_eq_zero hlength
      exact ⟨[], .nil⟩
  | succ n ih =>
      match cs with
      | [] | [_] =>
          simp only [List.length_nil, List.length_cons] at hlength
          omega
      | c :: d :: rest =>
          simp only [List.forall_mem_cons] at hdigits
          obtain ⟨hc, hd, hrest⟩ := hdigits
          obtain ⟨b, hb⟩ := exists_pair hc hd
          obtain ⟨bs, hbs⟩ := ih hrest (by simp only [List.length_cons] at hlength; omega)
          exact ⟨b :: bs, .byte hc hd hb hbs⟩

end Spaced

/-- Reading takes pairs of digits with blanks between and around them, and nothing else. -/
theorem decode_eq_ok_iff : decode cs = .ok bs ↔ Spaced cs bs := by
  constructor
  · intro h
    unfold decode at h
    split at h
    · cases h
    · exact .of_decodeFrom h
  · intro h
    have hascii : cs.findIdx? (fun c => 0x80 ≤ c.toNat) = none := by
      rw [List.findIdx?_eq_none_iff]
      intro c hc
      simpa using h.ascii c hc
    rw [decode, hascii]
    exact h.decodeFrom_eq 0

theorem spaced_encode (bs : Bytes) : Spaced (encode bs) bs := by
  induction bs with
  | nil => exact .nil
  | cons b bs ih =>
      have hb := b.toNat_lt
      obtain ⟨hhigh, hhighlower⟩ := digit_mem_digits (n := b.toNat / 16) (by omega)
      obtain ⟨hlow, hlowlower⟩ := digit_mem_digits (n := b.toNat % 16) (by omega)
      refine .byte hhigh hlow ?_ ih
      rw [hhighlower, hlowlower]
      rfl

/-- What is written in hexadecimal reads back. -/
theorem decode_encode (bs : Bytes) : decode (encode bs) = .ok bs :=
  decode_eq_ok_iff.mpr (spaced_encode bs)

end GitCensus.Text.Hex
