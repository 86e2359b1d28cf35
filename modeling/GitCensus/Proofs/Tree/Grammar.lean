import Mathlib.Data.Nat.Digits.Defs
import GitCensus.Proofs.Tree.Decode
/-!
# The grammar of tree payloads

A payload is a concatenation of records.  Decoding accepts exactly these, there is only
one way to take a payload apart into records, and where a payload is none, decoding
stops after the longest beginning that is.
-/

namespace GitCensus.Tree

/-- One record of a payload as it is written; the mode may have leading zeros. -/
structure Record where
  digits : Bytes
  name : Bytes
  id : ObjectId
  digits_ne_nil : digits ≠ []
  octal : ∀ d ∈ digits, 0x30 ≤ d ∧ d ≤ 0x37
  nul_notMem_name : Bytes.nul ∉ name

namespace Record

variable {r r' : Record} {rs rs' : List Record} {data rest rest' : Bytes}

def bytes (r : Record) : Bytes :=
  r.digits ++ Bytes.space :: r.name ++ Bytes.nul :: r.id.bytes

/-- The number that the digits of the mode denote in base eight. -/
def mode (r : Record) : Nat := Nat.ofDigits 8 (r.digits.reverse.map fun d => d.toNat - 0x30)

def entry (r : Record) : Entry := ⟨r.mode, r.name, r.id⟩

def concat (rs : List Record) : Bytes := rs.flatMap bytes

theorem bytes_append (r : Record) (rest : Bytes) :
    r.bytes ++ rest =
      r.digits ++ Bytes.space :: (r.name ++ Bytes.nul :: (r.id.bytes ++ rest)) := by
  simp [bytes]

theorem bytes_ne_nil (r : Record) : r.bytes ≠ [] := by simp [bytes]

theorem space_notMem_digits (r : Record) : Bytes.space ∉ r.digits := by
  intro hmem
  exact absurd (r.octal _ hmem).1 (by decide)

@[simp] theorem concat_nil : concat [] = [] := rfl

@[simp] theorem concat_cons (r : Record) (rs : List Record) :
    concat (r :: rs) = r.bytes ++ concat rs := rfl

theorem concat_append (rs rs' : List Record) : concat (rs ++ rs') = concat rs ++ concat rs' := by
  simp [concat]

/-- A record at the beginning of a payload can be read in one way only. -/
theorem bytes_append_inj (h : r.bytes ++ rest = r'.bytes ++ rest') : r = r' ∧ rest = rest' := by
  rw [bytes_append, bytes_append] at h
  obtain ⟨hdigits, hname⟩ :=
    Bytes.append_inj_of_notMem r.space_notMem_digits r'.space_notMem_digits h
  obtain ⟨hname, hid⟩ := Bytes.append_inj_of_notMem r.nul_notMem_name r'.nul_notMem_name hname
  have hlength : r.id.bytes.length = r'.id.bytes.length := by
    rw [r.id.length_eq, r'.id.length_eq]
  obtain ⟨hid, hrest⟩ := List.append_inj hid hlength
  have hid : r.id = r'.id := ObjectId.eq_iff.mp hid
  cases r
  cases r'
  simp_all

/-- Records whose bytes begin a payload are the first of those it consists of, as far as
these go. -/
theorem isPrefix_of_concat_isPrefix (h : concat rs' <+: concat rs ++ rest)
    (hrest : ∀ r : Record, ¬ r.bytes <+: rest) : rs' <+: rs := by
  induction rs' generalizing rs with
  | nil => exact List.nil_prefix
  | cons r' rs' ih =>
      obtain ⟨after, hafter⟩ := h
      rw [concat_cons, List.append_assoc] at hafter
      cases rs with
      | nil => exact absurd ⟨_, hafter⟩ (hrest r')
      | cons r rs =>
          rw [concat_cons, List.append_assoc] at hafter
          obtain ⟨rfl, hbelow⟩ := bytes_append_inj hafter
          exact List.cons_prefix_cons.mpr ⟨rfl, ih ⟨after, hbelow⟩⟩

/-- There is one way only to take a payload apart into records. -/
theorem concat_injective : Function.Injective concat := by
  intro rs rs' h
  have hnone (r : Record) : ¬ r.bytes <+: [] := fun hr => r.bytes_ne_nil (List.prefix_nil.mp hr)
  have hbegins {rs rs' : List Record} (h : concat rs = concat rs') : rs <+: rs' := by
    have hconcat : concat rs <+: concat rs' ++ [] := by simp [h]
    exact isPrefix_of_concat_isPrefix hconcat hnone
  have hle := (hbegins h).length_le
  have hge := (hbegins h.symm).length_le
  exact (hbegins h).eq_of_length (by omega)

end Record

/-! ## Reading records -/

section Reading

variable {data rest : Bytes} {e : Entry} {digits : Bytes} {mode : Nat}

theorem value_eq_ofDigits (digits : Bytes) :
    Bytes.value 8 digits = Nat.ofDigits 8 (digits.reverse.map fun d => d.toNat - 0x30) := by
  rw [Bytes.value, Nat.ofDigits_eq_foldr, List.foldr_map, ← List.foldl_reverse, List.reverse_reverse]
  congr 1
  funext n d
  simp only [Nat.cast_id]
  omega

theorem read?_eq_some_iff :
    Octal.read? digits = some mode ↔
      digits ≠ [] ∧ (∀ d ∈ digits, 0x30 ≤ d ∧ d ≤ 0x37) ∧
        mode = Nat.ofDigits 8 (digits.reverse.map fun d => d.toNat - 0x30) := by
  rw [← value_eq_ofDigits]
  unfold Octal.read?
  have hdigits : (!digits.isEmpty && digits.all Octal.isDigit) = true ↔
      digits ≠ [] ∧ ∀ d ∈ digits, 0x30 ≤ d ∧ d ≤ 0x37 := by
    simp [Octal.isDigit]
  split
  · next h =>
      obtain ⟨hne, hoctal⟩ := hdigits.mp h
      constructor
      · intro hmode
        exact ⟨hne, hoctal, (Option.some.inj hmode).symm⟩
      · rintro ⟨-, -, rfl⟩
        rfl
  · next h =>
      constructor
      · intro hmode
        cases hmode
      · rintro ⟨hne, hoctal, -⟩
        exact absurd (hdigits.mpr ⟨hne, hoctal⟩) h

theorem ofBytes?_eq_some_iff {bs : Bytes} {id : ObjectId} :
    ObjectId.ofBytes? bs = some id ↔ bs = id.bytes := by
  constructor
  · intro h
    unfold ObjectId.ofBytes? at h
    split at h
    · obtain rfl := Option.some.inj h
      rfl
    · cases h
  · rintro rfl
    exact ObjectId.ofBytes?_bytes id

theorem readEntry_bytes_append (r : Record) (rest : Bytes) :
    readEntry (r.bytes ++ rest) = .ok (r.entry, rest) := by
  have hmode : Octal.read? r.digits = some r.mode :=
    read?_eq_some_iff.mpr ⟨r.digits_ne_nil, r.octal, rfl⟩
  have htake : (r.id.bytes ++ rest).take 20 = r.id.bytes := by
    rw [← r.id.length_eq, List.take_left]
  have hdrop : (r.id.bytes ++ rest).drop 20 = rest := by
    rw [← r.id.length_eq, List.drop_left]
  unfold readEntry
  simp only [Record.bytes_append, Bytes.cut_append r.space_notMem_digits, hmode,
    Bytes.cut_append r.nul_notMem_name, htake, hdrop, ObjectId.ofBytes?_bytes]
  rfl

/-- An entry is read exactly where a record for it begins the payload. -/
theorem readEntry_eq_ok_iff :
    readEntry data = .ok (e, rest) ↔ ∃ r : Record, data = r.bytes ++ rest ∧ e = r.entry := by
  constructor
  · intro h
    unfold readEntry at h
    split at h
    · cases h
    · next digits afterMode hspace =>
        split at h
        · cases h
        · next mode hmode =>
            split at h
            · cases h
            · next name afterName hnul =>
                split at h
                · cases h
                · next id hid =>
                    obtain ⟨rfl, rfl⟩ := Prod.mk.inj (Except.ok.inj h)
                    obtain ⟨rfl, -⟩ := Bytes.cut_eq_some_iff.mp hspace
                    obtain ⟨rfl, hname⟩ := Bytes.cut_eq_some_iff.mp hnul
                    obtain ⟨hne, hoctal, rfl⟩ := read?_eq_some_iff.mp hmode
                    have hbytes := ofBytes?_eq_some_iff.mp hid
                    refine ⟨⟨digits, name, id, hne, hoctal, hname⟩, ?_, rfl⟩
                    rw [Record.bytes_append, ← hbytes, List.take_append_drop]
  · rintro ⟨r, rfl, rfl⟩
    exact readEntry_bytes_append r rest

theorem decode_concat_append (rs : List Record) (rest : Bytes) :
    decode (Record.concat rs ++ rest) =
      ⟨rs.map Record.entry ++ (decode rest).entries, (decode rest).fault⟩ := by
  induction rs with
  | nil => rfl
  | cons r rs ih =>
      have hread := readEntry_bytes_append r (Record.concat rs ++ rest)
      rw [Record.concat_cons, List.append_assoc, decode_of_ok hread, ih]
      rfl

/-- Decoding stops at the end of the payload or where no record begins. -/
theorem exists_decode (data : Bytes) :
    ∃ rs rest, data = Record.concat rs ++ rest ∧
      (decode data).entries = rs.map Record.entry ∧
      ((decode data).fault = none ↔ rest = []) ∧ ∀ r : Record, ¬ r.bytes <+: rest := by
  induction hlength : data.length using Nat.strongRecOn generalizing data with
  | ind n ih =>
      by_cases hempty : data = []
      · refine ⟨[], [], by simpa using hempty, ?_, ?_, fun r hr => ?_⟩
        · rw [hempty, decode_nil]
          rfl
        · rw [hempty, decode_nil]
          simp
        · exact r.bytes_ne_nil (List.prefix_nil.mp hr)
      · cases hread : readEntry data with
        | error fault =>
            refine ⟨[], data, rfl, ?_, ?_, fun r hr => ?_⟩
            · rw [decode_of_error hempty hread]
              rfl
            · rw [decode_of_error hempty hread]
              simpa using hempty
            · obtain ⟨after, rfl⟩ := hr
              rw [readEntry_bytes_append] at hread
              cases hread
        | ok result =>
            obtain ⟨e, following⟩ := result
            have hshorter := readEntry_length hread
            obtain ⟨rs, rest, hdata, hentries, hfault, hend⟩ :=
              ih following.length (by omega) following rfl
            obtain ⟨r, hr, rfl⟩ := readEntry_eq_ok_iff.mp hread
            refine ⟨r :: rs, rest, ?_, ?_, ?_, hend⟩
            · rw [hr, hdata, Record.concat_cons, List.append_assoc]
            · rw [decode_of_ok hread, hentries]
              rfl
            · rw [decode_of_ok hread]
              exact hfault

end Reading

/-- Decoding ends without a fault exactly on the concatenations of records, which can be
taken apart in one way only and whose entries it delivers in order.  On any payload it
delivers the entries of the longest beginning that is such a concatenation. -/
theorem decode_accepts_records (data : Bytes) :
    ((decode data).fault = none ↔ ∃ rs, data = Record.concat rs) ∧
    (∀ rs, data = Record.concat rs →
      (decode data).entries = rs.map Record.entry ∧
        ∀ rs', data = Record.concat rs' → rs' = rs) ∧
    ∃ rs, Record.concat rs <+: data ∧ (decode data).entries = rs.map Record.entry ∧
      ∀ rs', Record.concat rs' <+: data →
        (Record.concat rs').length ≤ (Record.concat rs).length := by
  obtain ⟨rs, rest, hdata, hentries, hfault, hend⟩ := exists_decode data
  have hlongest : ∀ rs', Record.concat rs' <+: data →
      (Record.concat rs').length ≤ (Record.concat rs).length := by
    intro rs' hrs'
    rw [hdata] at hrs'
    obtain ⟨more, rfl⟩ := Record.isPrefix_of_concat_isPrefix hrs' hend
    rw [Record.concat_append, List.length_append]
    omega
  refine ⟨?_, fun rs hrs => ⟨?_, fun rs' hrs' => ?_⟩, rs, ⟨rest, hdata.symm⟩, hentries, hlongest⟩
  · rw [hfault]
    constructor
    · rintro rfl
      exact ⟨rs, by rw [hdata, List.append_nil]⟩
    · rintro ⟨rs', hrs'⟩
      have hle := hlongest rs' (hrs' ▸ List.prefix_refl data)
      have hsum := congrArg List.length hdata
      rw [← hrs', hdata, List.length_append] at hle
      exact List.length_eq_zero_iff.mp (by omega)
  · have hdecode := decode_concat_append rs []
    rw [List.append_nil, ← hrs, decode_nil] at hdecode
    rw [hdecode]
    simp
  · exact Record.concat_injective (hrs'.symm.trans hrs)

end GitCensus.Tree
