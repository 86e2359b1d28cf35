import Mathlib.Data.List.Forall2
import GitCensus.Proofs.Tree.Grammar
import GitCensus.Proofs.Tree.Octal
/-!
# Payloads written and read

Entries that are written as a payload are decoded from it again.  A payload that is decoded
and written again loses the leading zeros of its modes and nothing else.
-/

namespace GitCensus.Tree

variable {e : Entry} {r r' : Record} {rs rs' : List Record} {data data' : Bytes}

namespace Record

/-- The record that an entry is written as. -/
def ofEntry (e : Entry) (hname : Bytes.nul ∉ e.name) : Record where
  digits := Octal.write e.mode
  name := e.name
  id := e.id
  digits_ne_nil := Octal.write_ne_nil e.mode
  octal := Octal.octal_write e.mode
  nul_notMem_name := hname

/-- The record without the leading zeros of its mode. -/
def trimmed (r : Record) : Record where
  digits := Octal.trim r.digits
  name := r.name
  id := r.id
  digits_ne_nil := Octal.trim_ne_nil r.digits_ne_nil
  octal d hd := r.octal d (Octal.mem_of_mem_trim hd)
  nul_notMem_name := r.nul_notMem_name

/-- Two records that differ in nothing but leading zeros of their modes. -/
structure SameButZeros (r r' : Record) : Prop where
  digits : ∃ k k' rest,
    r.digits = List.replicate k 0x30 ++ rest ∧ r'.digits = List.replicate k' 0x30 ++ rest
  name : r.name = r'.name
  id : r.id = r'.id

theorem mode_eq_value (r : Record) : r.mode = Bytes.value 8 r.digits :=
  (value_eq_ofDigits r.digits).symm

theorem entry_ofEntry (hname : Bytes.nul ∉ e.name) : (ofEntry e hname).entry = e := by
  have hmode : (ofEntry e hname).mode = e.mode := by
    rw [mode_eq_value]
    exact Octal.value_write e.mode
  rw [entry, hmode]
  rfl

theorem bytes_ofEntry (hname : Bytes.nul ∉ e.name) : (ofEntry e hname).bytes = encodeEntry e := rfl

theorem encodeEntry_entry (r : Record) : encodeEntry r.entry = r.trimmed.bytes := by
  have hwrite : Octal.write r.mode = Octal.trim r.digits := by
    rw [mode_eq_value, Octal.write_value r.digits_ne_nil r.octal]
  rw [encodeEntry, entry, hwrite]
  rfl

theorem encode_map_entry (rs : List Record) :
    encode (rs.map entry) = concat (rs.map trimmed) := by
  rw [encode, concat, List.flatMap_map, List.flatMap_map]
  congr 1
  funext r
  exact encodeEntry_entry r

theorem entry_eq_iff : r.entry = r'.entry ↔ r.SameButZeros r' := by
  have hmode : r.mode = r'.mode ↔ ∃ k k' rest,
      r.digits = List.replicate k 0x30 ++ rest ∧ r'.digits = List.replicate k' 0x30 ++ rest := by
    rw [mode_eq_value, mode_eq_value]
    exact Octal.value_eq_iff r.digits_ne_nil r'.digits_ne_nil r.octal r'.octal
  rw [entry, entry, Entry.mk.injEq, hmode]
  constructor
  · rintro ⟨hdigits, hname, hid⟩
    exact ⟨hdigits, hname, hid⟩
  · rintro ⟨hdigits, hname, hid⟩
    exact ⟨hdigits, hname, hid⟩

theorem map_entry_eq_iff : rs.map entry = rs'.map entry ↔ List.Forall₂ SameButZeros rs rs' := by
  rw [← List.forall₂_eq_eq_eq, List.forall₂_map_left_iff, List.forall₂_map_right_iff]
  simp only [entry_eq_iff]

end Record

theorem decode_concat (rs : List Record) : decode (Record.concat rs) = ⟨rs.map Record.entry, none⟩ := by
  have hdecode := decode_concat_append rs []
  rw [decode_nil, List.append_nil, List.append_nil] at hdecode
  exact hdecode

theorem exists_concat (h : (decode data).fault = none) : ∃ rs, data = Record.concat rs := by
  obtain ⟨rs, rest, hdata, -, hfault, -⟩ := exists_decode data
  rw [hfault.mp h, List.append_nil] at hdata
  exact ⟨rs, hdata⟩

/-- Entries whose names can be written are those of the records that they are written as. -/
theorem exists_records {entries : List Entry} (h : ∀ e ∈ entries, Bytes.nul ∉ e.name) :
    ∃ rs, encode entries = Record.concat rs ∧ rs.map Record.entry = entries := by
  induction entries with
  | nil => exact ⟨[], rfl, rfl⟩
  | cons e entries ih =>
      have hname := h e (by simp)
      obtain ⟨rs, hencode, hentries⟩ := ih fun e he => h e (List.mem_cons_of_mem _ he)
      refine ⟨.ofEntry e hname :: rs, ?_, ?_⟩
      · rw [Record.concat_cons, Record.bytes_ofEntry, ← hencode]
        rfl
      · rw [List.map_cons, Record.entry_ofEntry, hentries]

/-- Decoding undoes writing, and writing undoes decoding up to leading zeros of modes: what
is written of a decoded payload is the payload with these removed, and payloads with the
same entries differ in nothing else. -/
theorem decode_undoes_encode :
    (∀ entries : List Entry, (∀ e ∈ entries, Bytes.nul ∉ e.name) →
      decode (encode entries) = ⟨entries, none⟩) ∧
    (∀ data, (decode data).fault = none → ∃ rs, data = Record.concat rs ∧
      encode (decode data).entries = Record.concat (rs.map Record.trimmed)) ∧
    ∀ data data', (decode data).fault = none → (decode data').fault = none →
      ((decode data).entries = (decode data').entries ↔
        ∃ rs rs', data = Record.concat rs ∧ data' = Record.concat rs' ∧
          List.Forall₂ Record.SameButZeros rs rs') := by
  refine ⟨fun entries hnames => ?_, fun data hdata => ?_, fun data data' hdata hdata' => ?_⟩
  · obtain ⟨rs, hencode, hentries⟩ := exists_records hnames
    rw [hencode, decode_concat, hentries]
  · obtain ⟨rs, rfl⟩ := exists_concat hdata
    refine ⟨rs, rfl, ?_⟩
    rw [decode_concat, Record.encode_map_entry]
  · obtain ⟨rs, rfl⟩ := exists_concat hdata
    obtain ⟨rs', rfl⟩ := exists_concat hdata'
    rw [decode_concat, decode_concat, Record.map_entry_eq_iff]
    constructor
    · intro hsame
      exact ⟨rs, rs', rfl, rfl, hsame⟩
    · rintro ⟨ss, ss', hss, hss', hsame⟩
      rw [Record.concat_injective hss, Record.concat_injective hss']
      exact hsame

/-- A subtree whose mode is written with six digits or with five, and whose name holds a
space. -/
theorem decode_undoes_encode_padded :
    (∃ padded plain : Record, padded.digits = [0x30, 0x34, 0x30, 0x30, 0x30, 0x30] ∧
      plain.digits = [0x34, 0x30, 0x30, 0x30, 0x30] ∧ padded.name = [0x61, 0x20, 0x62] ∧
      (decode padded.bytes).entries = (decode plain.bytes).entries ∧
      encode (decode padded.bytes).entries = plain.bytes) ∧
    decode (encode [⟨0, [], .zero⟩, ⟨0o160000, [0x20], .zero⟩]) =
      ⟨[⟨0, [], .zero⟩, ⟨0o160000, [0x20], .zero⟩], none⟩ := by
  let padded : Record := ⟨[0x30, 0x34, 0x30, 0x30, 0x30, 0x30], [0x61, 0x20, 0x62], .zero,
    by decide, by simp, by decide⟩
  let plain : Record := ⟨[0x34, 0x30, 0x30, 0x30, 0x30], [0x61, 0x20, 0x62], .zero,
    by decide, by simp, by decide⟩
  have hconcat (r : Record) : r.bytes = Record.concat [r] := by simp
  have hdecodes (r : Record) : (decode r.bytes).fault = none := by rw [hconcat, decode_concat]
  obtain ⟨hread, hwritten, hsame⟩ := decode_undoes_encode
  refine ⟨⟨padded, plain, rfl, rfl, rfl, ?_, ?_⟩, hread _ (by decide)⟩
  · rw [hsame _ _ (hdecodes padded) (hdecodes plain)]
    refine ⟨[padded], [plain], hconcat padded, hconcat plain, .cons ⟨?_, rfl, rfl⟩ .nil⟩
    exact ⟨1, 0, [0x34, 0x30, 0x30, 0x30, 0x30], rfl, rfl⟩
  · obtain ⟨rs, hrs, hencode⟩ := hwritten padded.bytes (hdecodes padded)
    obtain rfl := Record.concat_injective ((hconcat padded).symm.trans hrs)
    rw [hencode]
    simp [Record.trimmed, Octal.trim, padded, plain, Record.bytes]

end GitCensus.Tree
