import GitCensus.Proofs.Database.Loose
import GitCensus.Proofs.Repository.Access
/-!
# Headers in an open repository

An object server states the kind of an object and the length of its content.  The database of
a repository states them too if it can see the header of the object in its files.
-/

namespace GitCensus

namespace ObjectMap

variable {m : ObjectMap} {id id' : ObjectId} {o o' : StoredObject}
  {objects : List (ObjectId × StoredObject)}

@[simp] theorem find?_insert_self (m : ObjectMap) (id : ObjectId) (o : StoredObject) :
    (m.insert id o).find? id = some o := by
  rw [insert, find?, List.lookup_cons, beq_self_eq_true]

theorem find?_erase_of_ne (m : ObjectMap) (hne : id ≠ id') :
    (m.erase id').find? id = m.find? id := by
  induction m with
  | nil => rfl
  | cons entry m ih =>
      obtain ⟨id'', o⟩ := entry
      by_cases heq : id'' = id'
      · have hne' : (id == id'') = false := beq_false_of_ne fun h => hne (h.trans heq)
        rw [erase, List.filter_cons_of_neg (by simp [heq]), find?, find?, List.lookup_cons, hne']
        exact ih
      · rw [erase, List.filter_cons_of_pos (by simp [heq]), find?, find?, List.lookup_cons,
          List.lookup_cons]
        cases id == id'' with
        | true => rfl
        | false => exact ih

theorem find?_insert_of_ne (m : ObjectMap) (o : StoredObject) (hne : id ≠ id') :
    (m.insert id' o).find? id = m.find? id := by
  rw [insert, find?, List.lookup_cons, beq_false_of_ne hne]
  exact find?_erase_of_ne m hne

/-- Of the objects that are given for an id, the first one is found if the later ones have been
put in before it. -/
theorem find?_ofList_reverse (objects : List (ObjectId × StoredObject)) (id : ObjectId) :
    (ofList objects.reverse).find? id = objects.lookup id := by
  rw [ofList, List.foldl_reverse]
  induction objects with
  | nil => rfl
  | cons entry objects ih =>
      obtain ⟨id', o⟩ := entry
      rw [List.foldr_cons, List.lookup_cons]
      by_cases heq : id = id'
      · rw [heq, find?_insert_self, beq_self_eq_true]
      · rw [find?_insert_of_ne _ _ heq, ih, beq_false_of_ne heq]

end ObjectMap

/-! ## Open repositories -/

namespace Repository

open Database.Loose (heading text inputPortion outputPortion)

variable {r : Repository} {id : ObjectId} {o : Object}

theorem lookup_map {α β γ : Type} [BEq α] (entries : List (α × β)) (f : β → γ) (key : α) :
    (entries.map fun e => (e.1, f e.2)).lookup key = (entries.lookup key).map f := by
  induction entries with
  | nil => rfl
  | cons entry entries ih =>
      obtain ⟨key', value⟩ := entry
      rw [List.map_cons, List.lookup_cons, List.lookup_cons]
      cases key == key' with
      | true => rfl
      | false => exact ih

theorem find?_objectMap (r : Repository) (id : ObjectId) :
    r.objectMap.find? id = (r.object? id).map Object.stored := by
  rw [objectMap, List.map_reverse, ObjectMap.find?_ofList_reverse, object?]
  exact lookup_map r.objects Object.stored id

/-- Without packs there is nothing wrong with them. -/
theorem truthful_of_packs (h : r.packs = []) : r.database.Truthful where
  size id o hfind := by
    rw [database, find?_objectMap] at hfind
    obtain ⟨object, -, rfl⟩ := Option.map_eq_some_iff.mp hfind
    rfl
  entry pack hpack := by
    rw [database, h] at hpack
    cases hpack

/-- The files of a repository hold its objects: what packs state of them is right, and a loose
file inflates to its object. -/
structure Intact (r : Repository) : Prop where
  packs : r.database.Truthful
  loose : ∀ id file, r.loose.lookup id = some file →
    ∃ o, r.object? id = some o ∧ Inflate.Inflates file o.digested

/-- The header of an object can be seen in the files: a pack lists the object, or what the
beginning of its loose file inflates to goes beyond the header. -/
def ShowsHeader (r : Repository) (id : ObjectId) : Prop :=
  (∃ pack ∈ r.packs, pack.hasFile ∧ ∃ offset, (id, offset) ∈ pack.offsets) ∨
    ∀ file, r.loose.lookup id = some file → ∃ o shown, r.object? id = some o ∧
      Inflate.inflate outputPortion (file.take inputPortion) = .ok shown ∧
      (heading o.kind (Text.Decimal.digits o.content.length)).length < shown.length

theorem Object.digested_eq (o : Object) :
    o.digested = text o.kind (Text.Decimal.digits o.content.length) o.content := by
  simp [digested, text, heading]

theorem readHeader_of_object (hobject : r.object? id = some o) :
    r.objectMap.readHeader id = .ok ⟨o.kind, o.content.length⟩ := by
  rw [ObjectMap.readHeader, find?_objectMap, hobject]
  rfl

/-- The database of an intact repository knows the header of each object that is seen, and calls
the file of any other one corrupt. -/
theorem Intact.headerOf_database (h : r.Intact) (hobject : r.object? id = some o) :
    (r.ShowsHeader id → r.database.headerOf id = .ok ⟨o.kind, o.content.length⟩) ∧
    (¬ r.ShowsHeader id →
      r.database.headerOf id = .error (.protocol (.corruptLooseHeader id))) := by
  by_cases hpacked : ∃ pack ∈ r.packs, pack.hasFile ∧ ∃ offset, (id, offset) ∈ pack.offsets
  · refine ⟨fun _ => ?_, fun hhidden => absurd (.inl hpacked) hhidden⟩
    obtain ⟨pack, hpack, hhasFile, offset, hoffset⟩ := hpacked
    rw [h.packs.headerOf_eq hpack hhasFile hoffset]
    exact readHeader_of_object hobject
  have hpacks (pack) (hpack : pack ∈ r.database.packs) (hhasFile : pack.hasFile) (offset) :
      (id, offset) ∉ pack.offsets :=
    fun hoffset => hpacked ⟨pack, hpack, hhasFile, offset, hoffset⟩
  cases hfile : r.loose.lookup id with
  | none =>
      refine ⟨fun _ => ?_, fun hhidden => absurd (.inr fun file hfile' => ?_) hhidden⟩
      · rw [Database.headerOf_unlisted hpacks, Database.looseHeader?]
        simp only [database, Option.bind_some, hfile, Option.map_none, Option.getD_none]
        exact readHeader_of_object hobject
      · cases hfile.symm.trans hfile'
  | some file =>
      obtain ⟨o', hobject', hinflates⟩ := h.loose id file hfile
      obtain rfl := Option.some.inj (hobject.symm.trans hobject')
      rw [o.digested_eq] at hinflates
      obtain ⟨shown, hshown, -⟩ := Inflate.inflate_take hinflates outputPortion inputPortion
      have hheader : Database.Loose.readHeader id file = _ :=
        Database.Loose.readHeader_of_inflates o.kind_mem_proper
          (Text.Decimal.isDigits_digits _) (Text.Decimal.value_digits _) hinflates hshown
      rw [Database.headerOf_loose hpacks hfile, hheader]
      constructor
      · rintro (hlisted | hseen)
        · exact absurd hlisted hpacked
        · obtain ⟨o', shown', hobject', hshown', hlength⟩ := hseen file hfile
          obtain rfl := Option.some.inj (hobject.symm.trans hobject')
          obtain rfl := Except.ok.inj (hshown.symm.trans hshown')
          rw [if_pos hlength]
      · intro hhidden
        rw [if_neg]
        intro hlength
        refine hhidden (.inr fun file' hfile' => ⟨o, shown, hobject, ?_, hlength⟩)
        obtain rfl := Option.some.inj (hfile.symm.trans hfile')
        exact hshown

namespace Access

theorem readHeader_openDatabase (r : Repository) (id : ObjectId) :
    (store.readHeader id (openDatabase r)).1 = r.database.headerOf id := by
  have hholds : Database.Holds r.database r.database := .closed rfl rfl
  exact (hholds.readHeader id).1

theorem readHeader_openClient (r : Repository) (id : ObjectId) :
    (store.readHeader id (openClient r)).1 = CatFile.Client.headerOf r.objectMap id :=
  (CatFile.Client.readHeader_synced kind_objectMap id (.connect r.objectMap)).1

end Access

end Repository

end GitCensus
