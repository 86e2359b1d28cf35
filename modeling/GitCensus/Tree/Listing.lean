import GitCensus.Tree.Entry
import GitCensus.Tree.Octal
/-!
# Tree payloads

The payload of a tree is its entries one after the other, each written as mode,
space, name, NUL and the twenty bytes of the id.  Decoding delivers the entries up
to the first that is malformed, and what is wrong with that one.
-/

namespace GitCensus.Tree

/-- Why a record of a payload is no entry. -/
inductive Fault where
  /-- No space follows the mode. -/
  | noSpace
  /-- The mode is not a row of octal digits. -/
  | badMode (text : Bytes)
  /-- No NUL follows the name. -/
  | noNul
  /-- Fewer than twenty bytes follow the NUL. -/
  | cutShort
deriving DecidableEq, Repr

def Fault.message : Fault → String
  | .noSpace => "failed to find SP after mode"
  | .badMode text => "invalid mode " ++ Text.Quoted.bytes text
  | .noNul => "failed to find NUL after filename"
  | .cutShort => "tree entry ends unexpectedly"

def encodeEntry (e : Entry) : Bytes :=
  Octal.write e.mode ++ Bytes.space :: e.name ++ Bytes.nul :: e.id.bytes

def encode (entries : List Entry) : Bytes := entries.flatMap encodeEntry

/-- Reads the first entry of a payload and returns what follows it. -/
def readEntry (data : Bytes) : Except Fault (Entry × Bytes) :=
  match Bytes.cut Bytes.space data with
  | none => .error .noSpace
  | some (digits, afterMode) =>
    match Octal.read? digits with
    | none => .error (.badMode digits)
    | some mode =>
      match Bytes.cut Bytes.nul afterMode with
      | none => .error .noNul
      | some (name, afterName) =>
        match ObjectId.ofBytes? (afterName.take 20) with
        | none => .error .cutShort
        | some id => .ok (⟨mode, name, id⟩, afterName.drop 20)

theorem readEntry_length {data rest : Bytes} {e : Entry}
    (h : readEntry data = .ok (e, rest)) : rest.length < data.length := by
  unfold readEntry at h
  split at h
  · cases h
  · next digits afterMode hmode =>
    have hlt := Bytes.cut_length hmode
    split at h
    · cases h
    · split at h
      · cases h
      · next name afterName hname =>
        have hlt' := Bytes.cut_length hname
        split at h
        · cases h
        · cases h
          simp only [List.length_drop]
          omega

/-- What decoding delivers: the entries in order, and the fault that ended it early. -/
structure Listing where
  entries : List Entry
  fault : Option Fault
deriving DecidableEq

def decode (data : Bytes) : Listing :=
  if data.isEmpty then ⟨[], none⟩
  else match _h : readEntry data with
    | .error fault => ⟨[], some fault⟩
    | .ok (e, rest) =>
      let following := decode rest
      ⟨e :: following.entries, following.fault⟩
termination_by data.length
decreasing_by exact readEntry_length _h

end GitCensus.Tree
