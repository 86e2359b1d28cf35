import GitCensus.Database.Basic
import GitCensus.Proofs.Store.Fixed
/-!
# What a database answers

Whether the index has been made, which files are open and where they stand does not show
in any answer: headers and trees are those that the contents of the database hold.
-/

namespace GitCensus.Database

variable {contents d d' : Database} {id : ObjectId} {l : Location}

theorem exists_lookup_of_mem {α β : Type} [BEq α] [LawfulBEq α] {entries : List (α × β)} {key : α}
    {value : β} (h : (key, value) ∈ entries) : ∃ value', entries.lookup key = some value' := by
  cases hlookup : entries.lookup key with
  | some value' => exact ⟨value', rfl⟩
  | none => simpa using List.lookup_eq_none_iff.mp hlookup (key, value) h

/-! ## The index -/

/-- The index lists the entries of the packs that have a file. -/
theorem mem_entriesOf_iff {packs : List Pack} :
    (id, l) ∈ entriesOf packs ↔
      packs[l.number]? = some l.pack ∧ l.pack.hasFile ∧ (id, l.offset) ∈ l.pack.offsets := by
  unfold entriesOf
  rw [List.mem_reverse, List.mem_flatMap]
  constructor
  · rintro ⟨⟨pack, number⟩, hpack, hentry⟩
    obtain ⟨⟨id', offset⟩, hoffset, heq⟩ := List.mem_map.mp hentry
    obtain ⟨rfl, rfl⟩ := Prod.mk.inj heq
    obtain ⟨hnumber, hfile⟩ := List.mem_filter.mp hpack
    exact ⟨List.mem_zipIdx_iff_getElem?.mp hnumber, hfile, hoffset⟩
  · rintro ⟨hnumber, hfile, hoffset⟩
    refine ⟨(l.pack, l.number), List.mem_filter.mpr ⟨?_, hfile⟩, List.mem_map.mpr ⟨_, hoffset, rfl⟩⟩
    exact List.mem_zipIdx_iff_getElem?.mpr hnumber

theorem exists_location {pack : Pack} {offset : Nat} (hpack : pack ∈ contents.packs)
    (hfile : pack.hasFile) (hid : (id, offset) ∈ pack.offsets) :
    ∃ l, (entriesOf contents.packs).lookup id = some l := by
  obtain ⟨number, hnumber⟩ := List.mem_iff_getElem?.mp hpack
  have hmem : (id, ⟨pack, number, offset⟩) ∈ entriesOf contents.packs :=
    mem_entriesOf_iff.mpr ⟨hnumber, hfile, hid⟩
  exact exists_lookup_of_mem hmem

/-! ## Databases with the same contents -/

/-- A database with the contents of another one: its index is that to these contents, if
it has been made, and its open files are those of the packs, wherever they stand. -/
structure Holds (contents d : Database) : Prop where
  packs : d.packs = contents.packs
  loose : d.loose = contents.loose
  full : d.full = contents.full
  index : d.index = none ∨ d.index = some (entriesOf contents.packs)
  opened : ∀ number file, (number, file) ∈ d.opened →
    ∃ pack, contents.packs[number]? = some pack ∧ file.content = pack.content

theorem Holds.closed (hindex : d.index = none) (hopened : d.opened = []) : Holds d d := by
  refine ⟨rfl, rfl, rfl, .inl hindex, fun number file hfile => ?_⟩
  rw [hopened] at hfile
  cases hfile

theorem Holds.fst_withIndex (h : Holds contents d) : d.withIndex.1 = entriesOf contents.packs := by
  unfold withIndex
  rcases h.index with hindex | hindex
  · rw [hindex, h.packs]
  · rw [hindex]

theorem Holds.withIndex (h : Holds contents d) : Holds contents d.withIndex.2 := by
  unfold Database.withIndex
  rcases h.index with hindex | hindex
  · rw [hindex]
    exact ⟨h.packs, h.loose, h.full, .inr (by rw [h.packs]), h.opened⟩
  · rw [hindex]
    exact h

theorem Holds.close (h : Holds contents d) : Holds contents d.close :=
  ⟨h.packs, h.loose, h.full, .inl rfl, fun _ _ hfile => absurd hfile List.not_mem_nil⟩

theorem Holds.content_handle (h : Holds contents d)
    (hl : contents.packs[l.number]? = some l.pack) : (d.handle l).content = l.pack.content := by
  unfold handle
  cases hlookup : d.opened.lookup l.number with
  | none => rfl
  | some file =>
      obtain ⟨pack, hpack, hcontent⟩ := h.opened l.number file (mem_of_lookup hlookup)
      obtain rfl : l.pack = pack := by simpa [hl] using hpack
      exact hcontent

theorem Holds.fst_readEntry (h : Holds contents d)
    (hl : contents.packs[l.number]? = some l.pack) :
    (d.readEntry l).1 = l.pack.headerAt? l.offset := by
  show (EntryHeader.read ((d.handle l).content.drop l.offset)).1 = _
  rw [h.content_handle hl]
  rfl

theorem Holds.readEntry (h : Holds contents d)
    (hl : contents.packs[l.number]? = some l.pack) : Holds contents (d.readEntry l).2 := by
  refine ⟨h.packs, h.loose, h.full, h.index, fun number file hfile => ?_⟩
  rcases List.mem_cons.mp hfile with heq | hold
  · obtain ⟨rfl, rfl⟩ := Prod.mk.inj heq
    exact ⟨l.pack, hl, h.content_handle hl⟩
  · exact h.opened number file (List.mem_filter.mp hold).1

/-! ## Answers -/

/-- What the contents of a database answer to a header request. -/
def headerOf (contents : Database) (id : ObjectId) : Except Fault Header :=
  match (entriesOf contents.packs).lookup id with
  | some l =>
    match l.pack.headerAt? l.offset with
    | none => .error l.fault
    | some entry =>
      match entry.kind? with
      | some kind => .ok ⟨kind, entry.size⟩
      | none => contents.full.readHeader id
  | none => (contents.looseHeader? id).getD (contents.full.readHeader id)

/-- Each header request is answered from the contents, and leaves them as they are. -/
theorem Holds.readHeader (h : Holds contents d) (id : ObjectId) :
    (d.readHeader id).1 = contents.headerOf id ∧ Holds contents (d.readHeader id).2 := by
  have hindexed := h.withIndex
  unfold Database.readHeader headerOf
  dsimp only
  rw [h.fst_withIndex]
  cases hlookup : (entriesOf contents.packs).lookup id with
  | none =>
      refine ⟨?_, hindexed⟩
      show (d.withIndex.2.looseHeader? id).getD (d.withIndex.2.full.readHeader id) = _
      rw [looseHeader?, hindexed.loose, hindexed.full]
      rfl
  | some l =>
      have hl := (mem_entriesOf_iff.mp (mem_of_lookup hlookup)).1
      have hread := hindexed.readEntry hl
      have hentry := hindexed.fst_readEntry hl
      dsimp only
      rw [hentry]
      cases hheader : l.pack.headerAt? l.offset with
      | none => exact ⟨rfl, hread⟩
      | some entry =>
          dsimp only
          cases entry.kind? with
          | some kind => exact ⟨rfl, hread⟩
          | none => exact ⟨by rw [hread.full], hread⟩

/-- A database does not change for those who ask it. -/
theorem store_fixed (contents : Database) : store.Fixed (Holds contents) where
  keeps := ⟨fun id h => (h.readHeader id).2, fun _ h => h⟩
  header id h h' := (h'.readHeader id).1.trans (h.readHeader id).1.symm
  tree {d d'} id h h' := by
    show d'.full.readTree id = d.full.readTree id
    rw [h.full, h'.full]

end GitCensus.Database
