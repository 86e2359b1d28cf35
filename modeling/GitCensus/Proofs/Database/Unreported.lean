import GitCensus.Proofs.Census.Survey
import GitCensus.Proofs.Database.EntryHeader
import GitCensus.Proofs.Database.Packed
import GitCensus.Proofs.Inflate.Prefix
import GitCensus.Proofs.Text.Separators
/-!
# Headers that fail without a report

A request for a header is answered or fails with a report, but for one thing: the file of a
pack may end before the entry header that the index leads to.  Loose files are no cause,
whatever is in them, as too little of them is inflated to state an unreadable size.
-/

namespace GitCensus

/-- A request for a header fails and its caller is not told of a sizing error. -/
def Fault.Escapes (answer : Except Fault Header) (fault : Fault) : Prop :=
  answer = .error fault ∧ fault.isReported = false

theorem ObjectMap.not_escapes_readHeader (m : ObjectMap) (id : ObjectId) (fault : Fault) :
    ¬ fault.Escapes (m.readHeader id) := by
  rintro ⟨hanswer, hunreported⟩
  unfold readHeader at hanswer
  split at hanswer
  · obtain rfl := Except.error.inj hanswer
    cases hunreported
  · cases hanswer

namespace Database

variable {id : ObjectId} {fault : Fault} {inflated : Bytes}

/-! ## Loose files -/

namespace Loose

/-- The size that a text begins with has no more digits than the text. -/
theorem length_size_le {header after : Bytes}
    (hnul : Bytes.cut Bytes.nul inflated = some (header, after)) :
    ((Bytes.cut Bytes.space header).getD (header, [])).2.length ≤ inflated.length := by
  have hsplit := congrArg List.length (Bytes.append_of_cut hnul)
  rw [List.length_append, List.length_cons] at hsplit
  cases hspace : Bytes.cut Bytes.space header with
  | none => exact Nat.zero_le _
  | some parts =>
      obtain ⟨kind, size⟩ := parts
      have hsize := Bytes.cut_length hspace
      dsimp only [Option.getD_some]
      omega

theorem not_escapes_parseHeader (hlength : inflated.length ≤ outputPortion) :
    ¬ fault.Escapes (parseHeader id inflated) := by
  rintro ⟨hanswer, hunreported⟩
  unfold parseHeader at hanswer
  split at hanswer
  · obtain rfl := Except.error.inj hanswer
    cases hunreported
  · next header after hnul =>
      have hsize := length_size_le hnul
      have hreadable : outputPortion ≤ Text.Decimal.digitLimit := by decide
      dsimp only at hanswer
      generalize (Bytes.cut Bytes.space header).getD (header, []) = parts at hanswer hsize
      split at hanswer
      · obtain rfl := Except.error.inj hanswer
        cases hunreported
      · rw [Text.Decimal.read?, if_pos (by omega)] at hanswer
        cases hanswer

theorem not_escapes_readHeader (id : ObjectId) (file : Bytes) (fault : Fault) :
    ¬ fault.Escapes (readHeader id file) := by
  unfold readHeader
  cases hinflate : Inflate.inflate outputPortion (file.take inputPortion) with
  | error cause =>
      rintro ⟨hanswer, hunreported⟩
      obtain rfl := Except.error.inj hanswer
      cases hunreported
  | ok inflated => exact not_escapes_parseHeader (Inflate.length_inflate_le hinflate)

end Loose

/-! ## Packs -/

/-- The file of the pack ends before an entry header at this location does: no byte from
there on lacks the top bit. -/
def Location.CutOff (l : Location) : Prop := ∀ b ∈ l.pack.content.drop l.offset, 0x80 ≤ b

theorem headerAt?_eq_none_iff {l : Location} : l.pack.headerAt? l.offset = none ↔ l.CutOff := by
  rw [Pack.headerAt?, ← Option.not_isSome_iff_eq_none, EntryHeader.isSome_read_iff]
  simp only [Location.CutOff, not_exists, not_and, UInt8.not_lt]

theorem Location.isReported_fault (l : Location) : l.fault.isReported = false := by
  unfold fault
  split <;> rfl

theorem not_escapes_unindexed (d : Database) (id : ObjectId) (fault : Fault) :
    ¬ fault.Escapes ((d.looseHeader? id).getD (d.full.readHeader id)) := by
  unfold looseHeader?
  cases d.loose.bind (·.lookup id) with
  | none => exact d.full.not_escapes_readHeader id fault
  | some file => exact Loose.not_escapes_readHeader id file fault

theorem escapes_headerOf_iff {d : Database} :
    fault.Escapes (d.headerOf id) ↔
      ∃ l, (entriesOf d.packs).lookup id = some l ∧ l.CutOff ∧ fault = l.fault := by
  unfold headerOf
  cases hlookup : (entriesOf d.packs).lookup id with
  | none =>
      simpa using d.not_escapes_unindexed id fault
  | some l =>
      simp only [Option.some.injEq, exists_eq_left', ← headerAt?_eq_none_iff]
      cases l.pack.headerAt? l.offset with
      | none =>
          constructor
          · rintro ⟨hanswer, -⟩
            exact ⟨rfl, (Except.error.inj hanswer).symm⟩
          · rintro ⟨-, rfl⟩
            exact ⟨rfl, l.isReported_fault⟩
      | some entry =>
          dsimp only
          cases entry.kind? with
          | some kind => simp [Fault.Escapes]
          | none => simpa using d.full.not_escapes_readHeader id fault

/-- Whatever the packs, the loose files and the calls before, a request for a header fails
without a report exactly if the file of a pack ends before the entry header that the index
leads to, and sizing the object then fails with the same fault. -/
theorem header_escapes_iff_cut_off (d : Database) (calls : List Call) (id : ObjectId)
    (fault : Fault) :
    (fault.Escapes ((d.close.after calls).readHeader id).1 ↔
      ∃ l, (entriesOf d.packs).lookup id = some l ∧ l.CutOff ∧ fault = l.fault) ∧
    ∀ rounds, ((d.close.after calls).readHeader id).1 = .error fault →
      ∃ c, Census.objectSize store rounds id { store := d.close.after calls } =
        some (.error fault, c) := by
  have hholds : Holds d.close (d.close.after calls) := (Holds.closed rfl rfl).after calls
  constructor
  · rw [(hholds.readHeader id).1]
    exact escapes_headerOf_iff
  · intro rounds hanswer
    have hask : (store.readHeader id (d.close.after calls)).1 = .error fault := hanswer
    refine ⟨(Census.askHeader store id { store := d.close.after calls }).2, ?_⟩
    simp only [Census.objectSize, Census.askHeader_eq, hask]

/-- A blob that full resolution finds, and a pack of one byte, of a header that goes on, with
the entry of the blob at an offset. -/
def cutOffPack (offset : Nat) : Database where
  packs := [{ content := [0xb5], offsets := [(.zero, offset)] }]
  full := [(.zero, .ofContent .blob [0, 0, 0, 0, 0])]

/-- The blob is there, but its header cannot be had: inside the entry header, past the end of
the pack, and where no file can be moved to. -/
theorem header_escapes_from_cut_off_pack :
    (∀ offset, (cutOffPack offset).full.readHeader .zero = .ok ⟨.blob, 5⟩) ∧
      Fault.endOfPack.Escapes ((cutOffPack 0).readHeader .zero).1 ∧
      Fault.endOfPack.Escapes ((cutOffPack 1).readHeader .zero).1 ∧
      Fault.offsetTooLarge.Escapes ((cutOffPack 0x8000000000000000).readHeader .zero).1 :=
  ⟨fun _ => rfl, ⟨rfl, rfl⟩, ⟨rfl, rfl⟩, ⟨rfl, rfl⟩⟩

end Database

end GitCensus
