import GitCensus.Proofs.Channel.Reply
import GitCensus.Proofs.Database.Packed
import GitCensus.Proofs.Inflate.Yield
/-!
# Loose objects

The beginning of a loose file gives the header of the object only as far as it inflates.
Where that takes in the whole header, kind and size are those of the object; else a file
that is whole and right is called corrupt.  Which of the two it is depends on how the file
was compressed: a first block without codes of its own shows the header, but codes or empty
blocks may take up all that is read before any text comes.
-/

namespace GitCensus.Database

variable {d : Database} {id : ObjectId} {kind : ObjectKind} {digits payload shown file : Bytes}

namespace Loose

/-- The header of a loose object whose size is written with the given digits. -/
def heading (kind : ObjectKind) (digits : Bytes) : Bytes :=
  Bytes.ofAscii kind.name ++ Bytes.space :: digits

def text (kind : ObjectKind) (digits payload : Bytes) : Bytes :=
  heading kind digits ++ Bytes.nul :: payload

theorem nul_notMem_heading (hkind : kind ∈ ObjectKind.proper)
    (hdigits : Bytes.isDigits digits = true) : Bytes.nul ∉ heading kind digits := by
  have hname : ∀ kind ∈ ObjectKind.proper, Bytes.nul ∉ Bytes.ofAscii kind.name := by decide
  have hsize : Bytes.nul ∉ digits := Channel.Reply.notMem_of_isDigits hdigits rfl
  have hspace : Bytes.nul ≠ Bytes.space := by decide
  simp [heading, hname kind hkind, hsize, hspace]

/-- A beginning of a text that goes beyond its header holds the header and its end. -/
theorem exists_eq_heading_append (hshown : shown <+: text kind digits payload)
    (hlength : (heading kind digits).length < shown.length) :
    ∃ rest, shown = heading kind digits ++ Bytes.nul :: rest := by
  have hheading : heading kind digits ++ [Bytes.nul] <+: text kind digits payload :=
    ⟨payload, by simp [text]⟩
  have hend : (heading kind digits ++ [Bytes.nul]).length ≤ shown.length := by
    rw [List.length_append]
    exact hlength
  obtain ⟨rest, hrest⟩ := List.prefix_of_prefix_length_le hheading hshown hend
  exact ⟨rest, by simpa using hrest.symm⟩

theorem parseHeader_of_lt (hkind : kind ∈ ObjectKind.proper)
    (hdigits : Bytes.isDigits digits = true)
    (hlimit : digits.length ≤ Text.Decimal.digitLimit)
    (hshown : shown <+: text kind digits payload)
    (hlength : (heading kind digits).length < shown.length) :
    parseHeader id shown = .ok ⟨kind, Bytes.value 10 digits⟩ := by
  obtain ⟨rest, rfl⟩ := exists_eq_heading_append hshown hlength
  have hname : ObjectKind.ofName (Text.ascii (Bytes.ofAscii kind.name)) = kind := by
    rw [ObjectKind.ofName,
      ObjectKind.ofName?_eq_some_iff.mpr ⟨hkind, (ObjectKind.ascii_ofAscii_name hkind).symm⟩]
    rfl
  have hcut : Bytes.cut Bytes.space (heading kind digits) =
      some (Bytes.ofAscii kind.name, digits) :=
    Bytes.cut_append (ObjectKind.space_notMem_name hkind)
  unfold parseHeader
  rw [Bytes.cut_append (nul_notMem_heading hkind hdigits)]
  simp [hcut, hdigits, Text.Decimal.read?, hlimit, hname]

theorem parseHeader_of_le (hkind : kind ∈ ObjectKind.proper)
    (hdigits : Bytes.isDigits digits = true) (hshown : shown <+: text kind digits payload)
    (hlength : shown.length ≤ (heading kind digits).length) :
    parseHeader id shown = .error (.protocol (.corruptLooseHeader id)) := by
  have hheading : heading kind digits <+: text kind digits payload := List.prefix_append _ _
  have hpart : shown <+: heading kind digits :=
    List.prefix_of_prefix_length_le hshown hheading hlength
  have hcut : Bytes.cut Bytes.nul shown = none :=
    Bytes.cut_eq_none_iff.mpr fun hmem => nul_notMem_heading hkind hdigits (hpart.subset hmem)
  unfold parseHeader
  rw [hcut]

/-- A beginning of a text is read as its header exactly if it goes beyond it. -/
theorem parseHeader_of_part (hkind : kind ∈ ObjectKind.proper)
    (hdigits : Bytes.isDigits digits = true) (hshown : shown <+: text kind digits payload)
    (hspace : shown.length ≤ outputPortion) :
    parseHeader id shown =
      if (heading kind digits).length < shown.length then .ok ⟨kind, Bytes.value 10 digits⟩
      else .error (.protocol (.corruptLooseHeader id)) := by
  split
  · have hlimit : digits.length ≤ Text.Decimal.digitLimit := by
      have hpart : digits.length ≤ (heading kind digits).length := by
        simp [heading]
        omega
      have hportion : outputPortion ≤ Text.Decimal.digitLimit := by decide
      omega
    exact parseHeader_of_lt hkind hdigits hlimit hshown ‹_›
  · exact parseHeader_of_le hkind hdigits hshown (Nat.le_of_not_lt ‹_›)

theorem heading_lt_of_opensPlain
    (hinflate : Inflate.inflate outputPortion (file.take inputPortion) = .ok shown)
    (hwhole : file.length ≤ inputPortion → shown = (text kind digits payload).take outputPortion)
    (hplain : Inflate.OpensPlain ((heading kind digits).length + 1) file)
    (hshort : (heading kind digits).length < 39) :
    (heading kind digits).length < shown.length := by
  unfold outputPortion inputPortion at *
  rcases Nat.le_total file.length 64 with hfile | hfile
  · rw [hwhole hfile, List.length_take, text, List.length_append, List.length_cons]
    omega
  · exact hplain.le_shown hfile (by omega) (by omega) hinflate

/-- The header of a whole file is read if the beginning of the file inflates to more than the
header, and else the file is called corrupt. -/
theorem readHeader_of_inflates (hkind : kind ∈ ObjectKind.proper)
    (hdigits : Bytes.isDigits digits = true) (hvalue : Bytes.value 10 digits = payload.length)
    (hfile : Inflate.Inflates file (text kind digits payload))
    (hinflate : Inflate.inflate outputPortion (file.take inputPortion) = .ok shown) :
    readHeader id file =
      if (heading kind digits).length < shown.length then .ok ⟨kind, payload.length⟩
      else .error (.protocol (.corruptLooseHeader id)) := by
  obtain ⟨shown', hinflate', hprefix, hspace, -⟩ :=
    Inflate.inflate_take hfile outputPortion inputPortion
  obtain rfl := Except.ok.inj (hinflate.symm.trans hinflate')
  rw [readHeader, hinflate]
  dsimp only
  rw [parseHeader_of_part hkind hdigits hprefix hspace, hvalue]

/-- A file that stores a text as it is, behind some empty blocks. -/
def storedFile (emptyBlocks : Nat) (text : Bytes) : Bytes :=
  let length : List Nat := [text.length % 0x100, text.length / 0x100]
  let checksum := Inflate.Output.checksum ⟨text.reverse, 0⟩
  [0x78, 0x01] ++ (List.replicate emptyBlocks [0x00, 0x00, 0x00, 0xff, 0xff]).flatten ++
    0x01 :: (length ++ length.map (0xff - ·)).map UInt8.ofNat ++ text ++
    [checksum / 0x1000000, checksum / 0x10000 % 0x100, checksum / 0x100 % 0x100,
      checksum % 0x100].map UInt8.ofNat

end Loose

theorem headerOf_unlisted
    (hpacks : ∀ pack ∈ d.packs, pack.hasFile → ∀ offset, (id, offset) ∉ pack.offsets) :
    d.headerOf id = (d.looseHeader? id).getD (d.full.readHeader id) := by
  have hnone : (entriesOf d.packs).lookup id = none := by
    cases hlookup : (entriesOf d.packs).lookup id with
    | none => rfl
    | some l =>
        obtain ⟨hnumber, hfile, hid⟩ := mem_entriesOf_iff.mp (mem_of_lookup hlookup)
        exact absurd hid (hpacks l.pack (List.mem_of_getElem? hnumber) hfile l.offset)
  rw [headerOf, hnone]

/-- The header of an id that no pack lists is read from its loose file. -/
theorem headerOf_loose
    (hpacks : ∀ pack ∈ d.packs, pack.hasFile → ∀ offset, (id, offset) ∉ pack.offsets)
    (hloose : d.loose.bind (·.lookup id) = some file) :
    d.headerOf id = Loose.readHeader id file := by
  rw [headerOf_unlisted hpacks, looseHeader?, hloose]
  rfl

open Loose (heading text inputPortion outputPortion)

/-- After any calls, the header of a loose object is the one that resolving it in full gives
if what the beginning of its file inflates to goes beyond the header, and a fault if not.
From a short file it is all that there is space for, and a file that opens with a block
without codes of its own always shows a header of fewer than 39 bytes. -/
theorem loose_header_as_resolved_where_shown (hkind : kind ∈ ObjectKind.proper)
    (hdigits : Bytes.isDigits digits = true) (hvalue : Bytes.value 10 digits = payload.length)
    (hfile : Inflate.Inflates file (text kind digits payload))
    (hindex : d.index = none) (hopened : d.opened = [])
    (hpacks : ∀ pack ∈ d.packs, pack.hasFile → ∀ offset, (id, offset) ∉ pack.offsets)
    (hloose : d.loose.bind (·.lookup id) = some file)
    (hfull : d.full.find? id = some (.ofContent kind payload)) (calls : List Call) :
    d.full.readHeader id = .ok ⟨kind, payload.length⟩ ∧
    ∃ shown, Inflate.inflate outputPortion (file.take inputPortion) = .ok shown ∧
      shown <+: text kind digits payload ∧
      (file.length ≤ inputPortion → shown = (text kind digits payload).take outputPortion) ∧
      (Inflate.OpensPlain ((heading kind digits).length + 1) file →
        (heading kind digits).length < 39 → (heading kind digits).length < shown.length) ∧
      ((d.after calls).readHeader id).1 =
        if (heading kind digits).length < shown.length then d.full.readHeader id
        else .error (.protocol (.corruptLooseHeader id)) := by
  have hresolved : d.full.readHeader id = .ok ⟨kind, payload.length⟩ := by
    rw [ObjectMap.readHeader, hfull]
    rfl
  obtain ⟨shown, hinflate, hprefix, -, hwhole⟩ :=
    Inflate.inflate_take hfile outputPortion inputPortion
  refine ⟨hresolved, shown, hinflate, hprefix, hwhole, fun hplain hshort => ?_, ?_⟩
  · exact Loose.heading_lt_of_opensPlain hinflate hwhole hplain hshort
  · have hholds := (Holds.closed hindex hopened).after calls
    rw [(hholds.readHeader id).1, headerOf_loose hpacks hloose, hresolved,
      Loose.readHeader_of_inflates hkind hdigits hvalue hfile hinflate]

/-- A file of 79 bytes with one block that is stored. -/
theorem loose_header_as_resolved_where_shown_stored :
    ∃ payload file, 64 < file.length ∧ Inflate.Inflates file (text .blob [0x36, 0x30] payload) ∧
      Inflate.OpensPlain 8 file ∧
      ∃ d : Database, d.loose = some [(.zero, file)] ∧
        d.full = [(.zero, .ofContent .blob payload)] ∧
        ((d.after [.header .zero, .close]).readHeader .zero).1 = .ok ⟨.blob, 60⟩ := by
  let payload : Bytes := List.replicate 60 0
  let file : Bytes := [0x78, 0x01, 0x01, 0x44, 0x00, 0xbb, 0xff] ++
    text .blob [0x36, 0x30] payload ++ [0x8c, 0xfa, 0x02, 0x26]
  let d : Database :=
    { loose := some [(.zero, file)], full := [(.zero, .ofContent .blob payload)] }
  have hfile : Inflate.Inflates file (text .blob [0x36, 0x30] payload) := by
    refine ⟨9, 68, ⟨(text .blob [0x36, 0x30] payload).reverse, 0⟩, ?_, by decide⟩
    decide +kernel
  have hplain : Inflate.OpensPlain 8 file := by
    refine ⟨⟨[], file.drop 2⟩, true, 0, ⟨List.replicate 5 false, file.drop 3⟩, 0, 68,
      ⟨(text .blob [0x36, 0x30] payload).reverse, 0⟩, ⟨[], file.drop 75⟩, ?_, ?_, ?_, ?_, ?_⟩
    all_goals decide +kernel
  have hpacks : ∀ pack ∈ d.packs, pack.hasFile → ∀ offset, (.zero, offset) ∉ pack.offsets :=
    fun pack hpack => absurd hpack List.not_mem_nil
  obtain ⟨hresolved, shown, -, -, -, hshown, hanswer⟩ :=
    loose_header_as_resolved_where_shown (by decide : ObjectKind.blob ∈ ObjectKind.proper)
      (by decide : Bytes.isDigits [0x36, 0x30] = true)
      (by decide : Bytes.value 10 [0x36, 0x30] = payload.length)
      hfile rfl rfl hpacks rfl rfl [.header .zero, .close]
  have hlength : (heading .blob [0x36, 0x30]).length < shown.length := hshown hplain (by decide)
  rw [if_pos hlength, hresolved] at hanswer
  exact ⟨payload, file, by decide, hfile, hplain, d, rfl, rfl, hanswer⟩

/-- A right file whose first 64 bytes are blocks without any text. -/
theorem loose_header_behind_empty_blocks :
    ∃ file, Inflate.Inflates file (text .blob [0x30] []) ∧
      ∃ d : Database, d.packs = [] ∧ d.loose = some [(.zero, file)] ∧
        d.full.readHeader .zero = .ok ⟨.blob, 0⟩ ∧
        (d.readHeader .zero).1 = .error (.protocol (.corruptLooseHeader .zero)) := by
  let file : Bytes := [0x78, 0x01] ++ (List.replicate 13 [0x00, 0x00, 0x00, 0xff, 0xff]).flatten ++
    [0x01, 0x07, 0x00, 0xf8, 0xff, 0x62, 0x6c, 0x6f, 0x62, 0x20, 0x30, 0x00, 0x09, 0xb0, 0x01, 0xf0]
  have hfile : Inflate.Inflates file (text .blob [0x30] []) := by
    refine ⟨20, 7, ⟨(text .blob [0x30] []).reverse, 0⟩, ?_, by decide⟩
    decide +kernel
  let d : Database :=
    { loose := some [(.zero, file)], full := [(.zero, .ofContent .blob [])] }
  refine ⟨file, hfile, d, rfl, rfl, rfl, ?_⟩
  decide +kernel

end GitCensus.Database
