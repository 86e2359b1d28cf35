import GitCensus.Proofs.Text.Digits
/-!
# Ids as they are written

An id is read from exactly forty digits of either case.  Forty characters that are pairs of
digits with blanks between or around them hold fewer than twenty pairs, so the number of
bytes gives them away although every pair is read.  The digits of the id read are those of
the text in lower case, so two texts name the same id if they differ in case alone.
-/

namespace GitCensus.ObjectId

open Text.Hex (digits blanks Spaced)

/-- What an id is read from: a text, or a byte string in its place. -/
inductive Writing where
  | text (s : String)
  | bytes (bs : Bytes)

namespace Writing

def read : Writing → Except Fault ObjectId
  | text s => ofHex s
  | bytes bs => ofHexBytes bs

/-- The text that is read; of bytes, with a replacement for each that is not ASCII. -/
def decoded : Writing → String
  | text s => s
  | bytes bs => Text.ascii bs

/-- Forty digits of either case, as characters or as bytes. -/
def FortyDigits : Writing → Prop
  | text s => s.length = 40 ∧ ∀ c ∈ s.toList, c ∈ digits
  | bytes bs => bs.length = 40 ∧ ∀ b ∈ bs, b ∈ digits.map fun c => UInt8.ofNat c.toNat

instance : (w : Writing) → Decidable w.FortyDigits
  | text s => decidable_of_iff (s.length = 40 ∧ s.toList.all fun c => c ∈ digits) (by
      simp [FortyDigits])
  | bytes bs => decidable_of_iff (bs.length = 40 ∧
      bs.all fun b => b ∈ digits.map fun c => UInt8.ofNat c.toNat) (by simp [FortyDigits])

/-- What a text that names no id is refused for. -/
inductive Refused (w : Writing) : Fault → Prop
  | length (hlength : w.decoded.length ≠ 40) : Refused w (.textLength w.decoded)
  | blanks {bs : Bytes} (hlength : w.decoded.length = 40) (hspaced : Spaced w.decoded.toList bs)
      (hcount : bs.length < 20) : Refused w (.byteCount bs.length)
  | digit {index : Nat} (hlength : w.decoded.length = 40)
      (hspaced : ∀ bs, ¬ Spaced w.decoded.toList bs) : Refused w (.notHex index)

end Writing

variable {s : String} {bs : Bytes} {id : ObjectId} {w : Writing}

theorem toList_hex (id : ObjectId) : id.hex.toList = Text.Hex.encode id.bytes := by
  rw [hex, Text.Hex.text, String.toList_ofList]

theorem hex_injective {id' : ObjectId} (h : id.hex = id'.hex) : id = id' := by
  have hread := id.ofHex_hex
  rw [h, ofHex_hex] at hread
  exact (Except.ok.inj hread).symm

theorem ofBytes_of_length (hlength : bs.length = 20) : ofBytes bs = .ok ⟨bs, hlength⟩ := by
  rw [ofBytes, ofBytes?, dif_pos hlength]

theorem ofBytes_of_length_ne (hlength : bs.length ≠ 20) :
    ofBytes bs = .error (.byteCount bs.length) := by
  rw [ofBytes, ofBytes?, dif_neg hlength]

theorem toList_toLower (s : String) : s.toLower.toList = s.toList.map Char.toLower :=
  String.toList_map

/-! ## Texts -/

theorem ofHex_of_spaced (hlength : s.length = 40) (h : Spaced s.toList bs) :
    ofHex s = ofBytes bs := by
  rw [ofHex, if_neg (by simp [hlength]), Text.Hex.decode_eq_ok_iff.mpr h]

theorem spaced_of_ofHex (h : ofHex s = .ok id) : s.length = 40 ∧ Spaced s.toList id.bytes := by
  unfold ofHex at h
  split at h
  · cases h
  · next hlength =>
    split at h
    · cases h
    · next bs hdecode =>
      have hspaced := Text.Hex.decode_eq_ok_iff.mp hdecode
      by_cases hcount : bs.length = 20
      · rw [ofBytes_of_length hcount] at h
        obtain rfl := Except.ok.inj h
        exact ⟨not_not.mp hlength, hspaced⟩
      · rw [ofBytes_of_length_ne hcount] at h
        cases h

/-- Twenty bytes take up all forty characters, which leaves no room for a blank. -/
theorem digits_of_ofHex (h : ofHex s = .ok id) :
    (s.length = 40 ∧ ∀ c ∈ s.toList, c ∈ digits) ∧ id.hex = s.toLower := by
  obtain ⟨hlength, hspaced⟩ := spaced_of_ofHex h
  have hblank : ∀ c ∈ s.toList, c ∉ blanks := by
    apply hspaced.length_eq_iff.mp
    rw [String.length_toList, hlength, id.length_eq]
  refine ⟨⟨hlength, fun c hc => ?_⟩, ?_⟩
  · exact (hspaced.mem_cases c hc).resolve_left (hblank c hc)
  · rw [← String.toList_inj, toList_hex, hspaced.encode_eq_of_forall hblank, toList_toLower]

theorem exists_ofHex (hlength : s.length = 40) (hdigits : ∀ c ∈ s.toList, c ∈ digits) :
    ∃ id, ofHex s = .ok id := by
  have hlist : s.toList.length = 2 * 20 := by rw [String.length_toList, hlength]
  obtain ⟨bs, hspaced⟩ := Spaced.exists_of_digits hdigits hlist
  have hcount : bs.length = 20 := by
    have hall := hspaced.length_eq_iff.mpr fun c hc =>
      Text.Hex.notMem_blanks_of_mem_digits (hdigits c hc)
    omega
  exact ⟨⟨bs, hcount⟩, by rw [ofHex_of_spaced hlength hspaced, ofBytes_of_length hcount]⟩

/-- Blanks take the room of bytes. -/
theorem ofHex_of_blank (hlength : s.length = 40) (hspaced : Spaced s.toList bs)
    (hblank : ∃ c ∈ s.toList, c ∈ blanks) :
    bs.length < 20 ∧ ofHex s = .error (.byteCount bs.length) := by
  have hcount : bs.length < 20 := by
    have hlt := hspaced.length_lt hblank
    rw [String.length_toList, hlength] at hlt
    omega
  exact ⟨hcount, by rw [ofHex_of_spaced hlength hspaced, ofBytes_of_length_ne (by omega)]⟩

theorem ofHex_of_not_spaced (hlength : s.length = 40) (hspaced : ∀ bs, ¬ Spaced s.toList bs) :
    ∃ index, ofHex s = .error (.notHex index) := by
  cases hdecode : Text.Hex.decode s.toList with
  | ok bs => exact absurd (Text.Hex.decode_eq_ok_iff.mp hdecode) (hspaced bs)
  | error index => exact ⟨index, by rw [ofHex, if_neg (by simp [hlength]), hdecode]⟩

/-! ## Texts and bytes -/

namespace Writing

theorem read_eq (w : Writing) : w.read = ofHex w.decoded := by
  cases w <;> rfl

/-- A byte that is replaced is no digit. -/
theorem fortyDigits_iff :
    w.FortyDigits ↔ w.decoded.length = 40 ∧ ∀ c ∈ w.decoded.toList, c ∈ digits := by
  cases w with
  | text s => rfl
  | bytes bs =>
      have hlength : (Text.ascii bs).length = bs.length := by
        rw [Text.ascii, String.length_ofList, List.length_map]
      show (bs.length = 40 ∧ _) ↔ (Text.ascii bs).length = 40 ∧ _
      rw [hlength]
      refine and_congr_right fun _ => ⟨fun hdigits c hc => ?_, fun hdigits b hb => ?_⟩
      · rw [decoded, Text.ascii, String.toList_ofList] at hc
        obtain ⟨b, hb, rfl⟩ := List.mem_map.mp hc
        obtain ⟨c, hdigit, rfl⟩ := List.mem_map.mp (hdigits b hb)
        exact Text.Hex.forall_digits (p := fun c =>
          (if UInt8.ofNat c.toNat < 0x80 then Char.ofNat (UInt8.ofNat c.toNat).toNat
            else Text.replacement) ∈ digits) (by decide) hdigit
      · have hascii := Text.ofAscii_ascii fun c hc => Text.Hex.ascii_of_mem_digits (hdigits c hc)
        rw [← hascii, Bytes.ofAscii] at hb
        obtain ⟨c, hc, rfl⟩ := List.mem_map.mp hb
        exact List.mem_map_of_mem (hdigits c hc)

/-- The length is looked at first, then the digits, then the number of bytes. -/
theorem exists_refused (h : ¬ w.FortyDigits) : ∃ fault, w.read = .error fault ∧ w.Refused fault := by
  rw [fortyDigits_iff] at h
  rw [w.read_eq]
  by_cases hlength : w.decoded.length = 40
  · by_cases hspaced : ∃ bs, Spaced w.decoded.toList bs
    · obtain ⟨bs, hspaced⟩ := hspaced
      have hblank : ∃ c ∈ w.decoded.toList, c ∈ blanks := by
        by_contra hnone
        push Not at hnone
        exact h ⟨hlength, fun c hc => (hspaced.mem_cases c hc).resolve_left (hnone c hc)⟩
      obtain ⟨hcount, hread⟩ := ofHex_of_blank hlength hspaced hblank
      exact ⟨_, hread, .blanks hlength hspaced hcount⟩
    · rw [not_exists] at hspaced
      obtain ⟨index, hread⟩ := ofHex_of_not_spaced hlength hspaced
      exact ⟨_, hread, .digit hlength hspaced⟩
  · exact ⟨_, by rw [ofHex, if_pos hlength], .length hlength⟩

end Writing

/-- An id is read from forty digits of either case and from nothing else; pairs of digits
that fill up forty characters with blanks are too few bytes.  The digits of what is read are
those of the text in lower case, and every id is read from its own digits. -/
theorem read_accepts_forty_digits (w : Writing) :
    ((∃ id, w.read = .ok id) ↔ w.FortyDigits) ∧
    (¬ w.FortyDigits → ∃ fault, w.read = .error fault ∧ w.Refused fault) ∧
    (∀ bs, w.decoded.length = 40 → Spaced w.decoded.toList bs →
      (∃ c ∈ w.decoded.toList, c ∈ blanks) →
      bs.length < 20 ∧ w.read = .error (.byteCount bs.length)) ∧
    (∀ id, w.read = .ok id → id.hex = w.decoded.toLower) ∧
    (∀ id : ObjectId, ofHex id.hex = .ok id ∧ ofHexBytes id.hexBytes = .ok id) ∧
    (∀ w' id id', w.read = .ok id → Writing.read w' = .ok id' →
      (id = id' ↔ w.decoded.toLower = w'.decoded.toLower)) := by
  have hlower : ∀ w id, Writing.read w = .ok id → id.hex = w.decoded.toLower := by
    intro w id h
    rw [w.read_eq] at h
    exact (digits_of_ofHex h).2
  have haccepts : (∃ id, w.read = .ok id) ↔ w.FortyDigits := by
    rw [w.read_eq, Writing.fortyDigits_iff]
    constructor
    · rintro ⟨id, h⟩
      exact (digits_of_ofHex h).1
    · rintro ⟨hlength, hdigits⟩
      exact exists_ofHex hlength hdigits
  refine ⟨haccepts, Writing.exists_refused, fun bs hlength hspaced hblank => ?_, hlower w,
    fun id => ⟨id.ofHex_hex, id.ofHexBytes_hexBytes⟩, fun w' id id' h h' => ?_⟩
  · rw [w.read_eq]
    exact ofHex_of_blank hlength hspaced hblank
  · rw [← hlower w id h, ← hlower w' id' h']
    exact ⟨congrArg hex, hex_injective⟩

/-- Bytes in both cases name the same id as a text in lower case; thirteen pairs with blanks
between and behind them name none. -/
theorem read_accepts_forty_digits_mixed :
    (∃ id, (Writing.bytes (Bytes.ofAscii "0123456789ABCDEF0123456789abcdef01234567")).read = .ok id ∧
      (Writing.text "0123456789abcdef0123456789abcdef01234567").read = .ok id) ∧
    (Writing.text "00 11 22 33 44\t55 66 77 88 99 AA BB cc  ").read = .error (.byteCount 13) := by
  constructor
  · have hbytes := read_accepts_forty_digits
      (.bytes (Bytes.ofAscii "0123456789ABCDEF0123456789abcdef01234567"))
    have htext := read_accepts_forty_digits (.text "0123456789abcdef0123456789abcdef01234567")
    obtain ⟨id, hid⟩ := hbytes.1.mpr (by decide)
    obtain ⟨id', hid'⟩ := htext.1.mpr (by decide)
    have hsame : id = id' := by
      apply (hbytes.2.2.2.2.2 _ id id' hid hid').mpr
      rw [← String.toList_inj, toList_toLower, toList_toLower]
      decide
    exact ⟨id, hid, hsame ▸ hid'⟩
  · have hpairs : Text.Hex.decode "00 11 22 33 44\t55 66 77 88 99 AA BB cc  ".toList =
        .ok [0x00, 0x11, 0x22, 0x33, 0x44, 0x55, 0x66, 0x77, 0x88, 0x99, 0xaa, 0xbb, 0xcc] := by cbv
    exact ((read_accepts_forty_digits (.text "00 11 22 33 44\t55 66 77 88 99 AA BB cc  ")).2.2.1 _
      (by decide) (Text.Hex.decode_eq_ok_iff.mp hpairs) ⟨' ', by decide, by decide⟩).2

end GitCensus.ObjectId
