import GitCensus.Proofs.Database.Answers
/-!
# Packed objects

The header in a pack entry is the one that resolving the object in full would give, in
every state that a database comes to: with or without an index, with files closed, open, or
left anywhere, and whichever of several packs the index leads to.
-/

namespace GitCensus.Database

variable {contents d : Database} {id : ObjectId} {pack : Pack} {offset : Nat}

inductive Call where
  | header (id : ObjectId)
  | tree (id : ObjectId)
  | close
deriving DecidableEq

def perform (d : Database) : Call → Database
  | .header id => (d.readHeader id).2
  | .tree id => (d.readTree id).2
  | .close => d.close

def after (d : Database) (calls : List Call) : Database := calls.foldl perform d

/-- What the packs of a database say about its objects is right: each indexed entry either
only tells a difference, or states the kind and length of the object with its id. -/
structure Truthful (d : Database) : Prop where
  size : ∀ id o, d.full.find? id = some o → o.size = o.content.length
  entry : ∀ pack ∈ d.packs, pack.hasFile → ∀ id offset, (id, offset) ∈ pack.offsets →
    ∃ entry, pack.headerAt? offset = some entry ∧
      (entry.type ∉ [1, 2, 3, 4] ∨ ∃ o, d.full.find? id = some o ∧
        entry.kind? = some o.kind ∧ entry.size = o.content.length)

theorem EntryHeader.kind?_eq_none {entry : EntryHeader} (h : entry.type ∉ [1, 2, 3, 4]) :
    entry.kind? = none := by
  simp only [List.mem_cons, List.not_mem_nil, or_false, not_or] at h
  obtain ⟨hcommit, htree, hblob, htag⟩ := h
  unfold kind?
  split
  · exact absurd ‹_› hcommit
  · exact absurd ‹_› htree
  · exact absurd ‹_› hblob
  · exact absurd ‹_› htag
  · rfl

theorem Holds.perform (h : Holds contents d) (call : Call) : Holds contents (d.perform call) := by
  cases call with
  | header id => exact (h.readHeader id).2
  | tree id => exact h
  | close => exact h.close

theorem Holds.after (h : Holds contents d) (calls : List Call) :
    Holds contents (d.after calls) := by
  induction calls generalizing d with
  | nil => exact h
  | cons call calls ih => exact ih (h.perform call)

/-- Where an id is indexed, the entry it leads to and full resolution agree. -/
theorem Truthful.headerOf_eq (h : d.Truthful) (hpack : pack ∈ d.packs) (hfile : pack.hasFile)
    (hid : (id, offset) ∈ pack.offsets) : d.headerOf id = d.full.readHeader id := by
  obtain ⟨l, hlookup⟩ := exists_location hpack hfile hid
  obtain ⟨hnumber, hfile', hid'⟩ := mem_entriesOf_iff.mp (mem_of_lookup hlookup)
  -- the pack that the index leads to need not be the given one
  obtain ⟨entry, hentry, hstated⟩ :=
    h.entry l.pack (List.mem_of_getElem? hnumber) hfile' id l.offset hid'
  unfold headerOf
  rw [hlookup]
  dsimp only
  rw [hentry]
  dsimp only
  rcases hstated with hdelta | ⟨o, hfind, hkind, hsize⟩
  · rw [EntryHeader.kind?_eq_none hdelta]
  · rw [hkind, ObjectMap.readHeader, hfind, hsize]
    dsimp only
    rw [StoredObject.header, h.size id o hfind]

/-- After any calls, the header of an indexed object is the kind and length of the object
that resolving its id in full finds. -/
theorem packed_header_as_resolved (h : d.Truthful) (hindex : d.index = none)
    (hopened : d.opened = []) (calls : List Call) (hpack : pack ∈ d.packs)
    (hfile : pack.hasFile) (hid : (id, offset) ∈ pack.offsets) :
    ((d.after calls).readHeader id).1 =
      match d.full.find? id with
      | some o => .ok ⟨o.kind, o.content.length⟩
      | none => .error (.missing id) := by
  have hholds := (Holds.closed hindex hopened).after calls
  rw [(hholds.readHeader id).1, h.headerOf_eq hpack hfile hid, ObjectMap.readHeader]
  cases hfind : d.full.find? id with
  | none => rfl
  | some o =>
      show Except.ok o.header = _
      rw [StoredObject.header, h.size id o hfind]

/-- A blob of 300 bytes, whole in one pack and as a difference in a later one, and stated
otherwise by a pack without a file; asked for, closed, and asked for again. -/
theorem packed_header_as_resolved_shared :
    ∃ d : Database, d.Truthful ∧
      d.packs.map (·.offsets) = [[(.zero, 0)], [(.zero, 1)], [(.zero, 0)]] ∧
      ((d.after [.header .zero, .tree .zero, .close, .header .zero]).readHeader .zero).1 =
        .ok ⟨.blob, 300⟩ := by
  let whole : Pack := { content := [0xbc, 0x12], offsets := [(.zero, 0)] }
  let difference : Pack := { content := [0xff, 0xe5, 0x01], offsets := [(.zero, 1)] }
  let unnamed : Pack := { content := [0x10], offsets := [(.zero, 0)], hasFile := false }
  let content : Bytes := List.replicate 300 0
  let d : Database :=
    { packs := [whole, difference, unnamed], full := [(.zero, .ofContent .blob content)] }
  have htruthful : d.Truthful := by
    refine ⟨fun id o ho => ?_, fun pack hpack hfile id offset hid => ?_⟩
    · obtain ⟨-, rfl⟩ := Prod.mk.inj (List.mem_singleton.mp (mem_of_lookup ho))
      rfl
    · simp only [d, List.mem_cons, List.not_mem_nil, or_false] at hpack
      rcases hpack with rfl | rfl | rfl
      · obtain ⟨rfl, rfl⟩ := Prod.mk.inj (List.mem_singleton.mp hid)
        exact ⟨⟨3, 300⟩, by decide, .inr ⟨_, rfl, rfl, by decide +kernel⟩⟩
      · obtain ⟨rfl, rfl⟩ := Prod.mk.inj (List.mem_singleton.mp hid)
        exact ⟨⟨6, 21⟩, by decide, .inl (by decide)⟩
      · cases hfile
  refine ⟨d, htruthful, rfl, ?_⟩
  have hfind : d.full.find? .zero = some (.ofContent .blob content) := rfl
  have hanswer := packed_header_as_resolved htruthful rfl rfl
    [.header .zero, .tree .zero, .close, .header .zero]
    (List.mem_cons_self : whole ∈ d.packs) rfl (List.mem_cons_self : (.zero, 0) ∈ whole.offsets)
  rw [hfind] at hanswer
  refine hanswer.trans ?_
  show Except.ok (⟨.blob, content.length⟩ : Header) = _
  rw [List.length_replicate]
  rfl

end GitCensus.Database
