import GitCensus.ObjectId
/-!
# Tables of records

Records by id, kept in the order in which they were made.  A record is made once
and never changed.
-/

namespace GitCensus

/-- Records of type `β` by id, the newest first. -/
structure Table (β : Type) where
  records : List (ObjectId × β) := []
deriving DecidableEq, Inhabited

namespace Table

variable {β : Type}

def find? (t : Table β) (id : ObjectId) : Option β := t.records.lookup id

def record (t : Table β) (id : ObjectId) (value : β) : Table β := ⟨(id, value) :: t.records⟩

def size (t : Table β) : Nat := t.records.length

def toList (t : Table β) : List (ObjectId × β) := t.records.reverse

@[simp] theorem find?_record_self (t : Table β) (id : ObjectId) (value : β) :
    (t.record id value).find? id = some value := by
  simp [find?, record]

theorem find?_record_of_ne (t : Table β) {id other : ObjectId} (value : β) (h : id ≠ other) :
    (t.record other value).find? id = t.find? id := by
  have : (id == other) = false := by simpa using h
  simp [find?, record, List.lookup_cons, this]

end Table

end GitCensus
