import GitCensus.Channel.Reply
/-!
# Channels

A channel carries one request at a time: an id on a line of its own, answered by a
reply line and, on payload channels, by that many bytes and a line feed.
-/

namespace GitCensus

structure Channel (τ : Type) where
  name : String
  link : τ

namespace Channel

variable {τ : Type}

def requestLine (id : ObjectId) : Bytes := id.hexBytes ++ [Bytes.lineFeed]

def requestFault (name : String) (id : ObjectId) : StreamFault → Fault
  | .tooLong => .readTooLong
  | cause => .channel (.request name id cause)

def payloadFault (name : String) : StreamFault → Fault
  | .tooLong => .readTooLong
  | cause => .channel (.payload name cause)

def shortFault (name : String) (expected got : Int) : Fault :=
  if Text.Decimal.isWritable expected then .protocol (.shortRead name expected got)
  else .digitsToWrite

def request (T : Transport τ) (id : ObjectId) (c : Channel τ) :
    Except Fault Reply × Channel τ :=
  match T.send (requestLine id) c.link with
  | (.error cause, link) => (.error (requestFault c.name id cause), { c with link })
  | (.ok (), link) =>
    match T.readLine link with
    | (.error cause, link) => (.error (requestFault c.name id cause), { c with link })
    | (.ok line, link) =>
      if line.getLast? = some Bytes.lineFeed then
        (Reply.parse id line.dropLast, { c with link })
      else (.error (.protocol (.endOfReplies c.name id)), { c with link })

/-- Reads until nothing is missing or the stream ends: the pieces read, newest first,
and the number of bytes still missing.  Every read asks for all that is missing. -/
def collect (T : Transport τ) (missing : Nat) (pieces : List Bytes) (link : τ) :
    Except StreamFault (List Bytes × Nat) × τ :=
  if missing = 0 then (.ok (pieces, 0), link)
  else match T.read missing link with
    | (.error cause, link) => (.error cause, link)
    | (.ok [], link) => (.ok (pieces, missing), link)
    | (.ok (b :: piece), link) =>
      collect T (missing - (piece.length + 1)) ((b :: piece) :: pieces) link
termination_by missing

/-- The most bytes that one read asks for when the bytes are not wanted. -/
def skipPortion : Nat := 65536

/-- Reads and forgets until nothing is missing or the stream ends: the number of bytes
still missing. -/
def discard (T : Transport τ) (missing : Nat) (link : τ) : Except StreamFault Nat × τ :=
  if missing = 0 then (.ok 0, link)
  else match T.read (min missing skipPortion) link with
    | (.error cause, link) => (.error cause, link)
    | (.ok [], link) => (.ok missing, link)
    | (.ok (_ :: piece), link) => discard T (missing - (piece.length + 1)) link
termination_by missing

/-- Reads exactly `size` bytes; fewer is a fault, and so is a negative size. -/
def readExactly (T : Transport τ) (size : Int) (c : Channel τ) :
    Except Fault Bytes × Channel τ :=
  match collect T size.toNat [] c.link with
  | (.error cause, link) => (.error (payloadFault c.name cause), { c with link })
  | (.ok (pieces, missing), link) =>
    if missing = 0 ∧ 0 ≤ size then (.ok pieces.reverse.flatten, { c with link })
    else (.error (shortFault c.name size (size.toNat - missing)), { c with link })

/-- Passes over exactly `size` bytes, in portions. -/
def skip (T : Transport τ) (size : Int) (c : Channel τ) : Except Fault Unit × Channel τ :=
  match discard T size.toNat c.link with
  | (.error cause, link) => (.error (payloadFault c.name cause), { c with link })
  | (.ok missing, link) =>
    if missing = 0 ∧ 0 ≤ size then (.ok (), { c with link })
    else (.error (shortFault c.name size (size.toNat - missing)), { c with link })

def close (T : Transport τ) (c : Channel τ) : Channel τ := { c with link := T.close c.link }

end Channel

end GitCensus
