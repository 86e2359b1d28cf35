import GitCensus.Proofs.CatFile.Steady
import GitCensus.Proofs.Database.Answers
import GitCensus.Repository.Access
/-!
# Open repositories do not change

A repository that has been opened answers alike each time it is asked: its database,
whatever has been indexed and opened, and the servers for as long as they answer.
-/

namespace GitCensus

namespace ObjectMap

theorem mem_ofList {objects : List (ObjectId × StoredObject)} {entry : ObjectId × StoredObject}
    (h : entry ∈ ofList objects) : entry ∈ objects := by
  have hfold : ∀ m : ObjectMap, entry ∈ objects.foldl (fun m e => m.insert e.1 e.2) m →
      entry ∈ m ∨ entry ∈ objects := by
    clear h
    induction objects with
    | nil => exact fun m h => .inl h
    | cons e objects ih =>
        intro m h
        rcases ih _ h with hinsert | hmem
        · rcases List.mem_cons.mp hinsert with rfl | herase
          · exact .inr List.mem_cons_self
          · exact .inl (List.mem_of_mem_filter herase)
        · exact .inr (List.mem_cons_of_mem e hmem)
  exact (hfold [] h).resolve_left List.not_mem_nil

end ObjectMap

namespace Repository

variable {r : Repository} {id : ObjectId} {o : StoredObject}

theorem Object.kind_mem_proper (object : Object) : object.kind ∈ ObjectKind.proper := by
  cases object <;> simp [kind, ObjectKind.proper]

theorem kind_objectMap (h : r.objectMap.find? id = some o) : o.kind ∈ ObjectKind.proper := by
  have hmem := ObjectMap.mem_ofList (ObjectMap.mem_of_find? h)
  obtain ⟨⟨id', object⟩, -, heq⟩ := List.mem_map.mp hmem
  obtain ⟨-, rfl⟩ := Prod.mk.inj heq
  exact object.kind_mem_proper

namespace Access

theorem openClient_steady (r : Repository) :
    ∃ I, store.Steady I ∧ I (openClient r) :=
  ⟨_, (CatFile.Client.store_steady kind_objectMap).lift client (fun _ _ => rfl) (fun _ _ => rfl),
    _, rfl, .connect r.objectMap⟩

theorem openDatabase_steady (r : Repository) :
    ∃ I, store.Steady I ∧ I (openDatabase r) :=
  ⟨_, (Database.store_fixed r.database).steady.lift database (fun _ _ => rfl) (fun _ _ => rfl),
    _, rfl, .closed rfl rfl⟩

end Access

end Repository

end GitCensus
