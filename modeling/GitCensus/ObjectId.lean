import GitCensus.Text.Quoted
import GitCensus.Text.Lossy
/-!
# Object ids

An id is twenty bytes.  It is written as forty lower-case hexadecimal digits and
read from digits of either case.
-/

namespace GitCensus

/-- The name of an object: twenty bytes, compared by content. -/
structure ObjectId where
  bytes : Bytes
  length_eq : bytes.length = 20

theorem ObjectId.eq_iff {a b : ObjectId} : a.bytes = b.bytes ↔ a = b := by
  cases a; cases b; simp

instance : DecidableEq ObjectId := fun _ _ =>
  decidable_of_iff _ (Bytes.same_iff.trans ObjectId.eq_iff)

/-- Why something is not an object id. -/
inductive ObjectId.Fault where
  /-- The byte string has another length. -/
  | byteCount (count : Nat)
  /-- The text has another length than forty characters. -/
  | textLength (text : String)
  /-- The character at this index is not the digit that should stand there. -/
  | notHex (index : Nat)
deriving DecidableEq, Repr

namespace ObjectId

def Fault.message : Fault → String
  | .byteCount count => "object id must be 20 bytes, got " ++ toString count
  | .textLength text => "hex oid has the wrong length: " ++ Text.Quoted.text text
  | .notHex index =>
    "non-hexadecimal number found in fromhex() arg at position " ++ toString index

def ofBytes? (bs : Bytes) : Option ObjectId :=
  if h : bs.length = 20 then some ⟨bs, h⟩ else none

def ofBytes (bs : Bytes) : Except Fault ObjectId :=
  match ofBytes? bs with
  | some id => .ok id
  | none => .error (.byteCount bs.length)

/-- Reads an id from its digits: the length is checked first, then the digits, and
last the number of bytes, which blanks between the digits can lower. -/
def ofHex (s : String) : Except Fault ObjectId :=
  if s.length ≠ 40 then .error (.textLength s)
  else match Text.Hex.decode s.toList with
    | .error index => .error (.notHex index)
    | .ok bs => ofBytes bs

def ofHexBytes (bs : Bytes) : Except Fault ObjectId := ofHex (Text.ascii bs)

def hex (id : ObjectId) : String := Text.Hex.text id.bytes

def hexBytes (id : ObjectId) : Bytes :=
  (Text.Hex.encode id.bytes).map fun c => UInt8.ofNat c.toNat

def short (id : ObjectId) : String :=
  String.ofList ((Text.Hex.encode id.bytes).take 7)

instance : ToString ObjectId := ⟨hex⟩

def debugText (id : ObjectId) : String := "Oid(" ++ id.short ++ ")"

def zero : ObjectId := ⟨List.replicate 20 0, by simp⟩

instance : Inhabited ObjectId := ⟨zero⟩

@[simp] theorem ofBytes?_bytes (id : ObjectId) : ofBytes? id.bytes = some id := by
  simp [ofBytes?, id.length_eq]

end ObjectId

end GitCensus
