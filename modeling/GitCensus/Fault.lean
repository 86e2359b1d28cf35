import GitCensus.Channel.Transport
import GitCensus.Inflate.Fault
import GitCensus.ObjectKind
import GitCensus.Text.Decimal
import GitCensus.Tree.Listing
/-!
# Faults of sizing

Everything that can go wrong between asking for the size of an object and having
it.  The reported faults are those that a caller is told of as sizing errors; the
others are limits of numbers, reads and pack files that nothing on the way turns
into a sizing error.
-/

namespace GitCensus

/-- How a reply or a stored object breaks its format. -/
inductive ProtocolFault where
  /-- The reply is about another object than the request. -/
  | wrongReply (line : Bytes) (id : ObjectId)
  /-- The reply has another number of words than three. -/
  | malformedReply (line : Bytes)
  /-- The reply names a kind that no object has. -/
  | unknownReplyKind (kind : String) (id : ObjectId)
  /-- The size in the reply is not a row of digits. -/
  | invalidReplySize (text : Bytes) (id : ObjectId)
  /-- The replies ended before the reply was complete. -/
  | endOfReplies (channel : String) (id : ObjectId)
  /-- The replies ended before the payload was complete. -/
  | shortRead (channel : String) (expected got : Int)
  /-- The byte after a tree payload is not a line feed. -/
  | unterminatedTree (id : ObjectId)
  /-- The store names a kind that cannot be sized. -/
  | unknownKind (id : ObjectId) (kind : String)
  /-- A loose object does not inflate. -/
  | corruptLoose (id : ObjectId) (cause : Inflate.Fault)
  /-- The inflated beginning of a loose object holds no header. -/
  | corruptLooseHeader (id : ObjectId)
  /-- The size in a loose header is not a row of digits. -/
  | invalidLooseSize (text : Bytes) (id : ObjectId)
deriving DecidableEq

inductive ChannelFault where
  /-- The request could not be sent or its reply line not be read. -/
  | request (channel : String) (id : ObjectId) (cause : Channel.StreamFault)
  /-- The payload could not be read. -/
  | payload (channel : String) (cause : Channel.StreamFault)
  /-- No further request is allowed. -/
  | limitReached
deriving DecidableEq

inductive Fault where
  /-- The store has no such object. -/
  | missing (id : ObjectId)
  /-- The object has another kind than the request needs. -/
  | wrongKind (id : ObjectId) (actual : String) (expected : String)
  /-- The object is of a kind that has no size. -/
  | unsizedKind (id : ObjectId) (actual : String)
  | malformedTree (cause : Tree.Fault)
  | protocol (cause : ProtocolFault)
  | channel (cause : ChannelFault)
  /-- A number has too many digits to be read. -/
  | digitsToRead (count : Nat)
  /-- A number has too many digits to be written. -/
  | digitsToWrite
  /-- More bytes were asked for than one read can be asked for. -/
  | readTooLong
  /-- A pack file ends inside an entry header. -/
  | endOfPack
  /-- No file can be moved to an offset as large as that of an entry. -/
  | offsetTooLarge
  /-- The work stack emptied without a record of the tree asked for. -/
  | unrecorded (id : ObjectId)
deriving DecidableEq

def ProtocolFault.message : ProtocolFault → String
  | .wrongReply line id =>
    "reply " ++ Text.Quoted.bytes line ++ " does not match request " ++ id.hex
  | .malformedReply line =>
    "expected object (id, type, size), got " ++ Text.Quoted.bytes line
  | .unknownReplyKind kind id =>
    "unknown object type " ++ Text.Quoted.text kind ++ " for " ++ id.hex
  | .invalidReplySize text id =>
    "invalid size " ++ Text.Quoted.bytes text ++ " for " ++ id.hex
  | .endOfReplies channel id =>
    channel ++ ": unexpected EOF (last request: " ++ id.hex ++ ")"
  | .shortRead channel expected got =>
    channel ++ ": short read: expected " ++ toString expected ++ " bytes, got " ++ toString got
  | .unterminatedTree id => "tree " ++ id.hex ++ " payload not terminated by LF"
  | .unknownKind id kind =>
    "object " ++ id.hex ++ " has unknown type " ++ Text.Quoted.text kind
  | .corruptLoose id cause => "corrupt loose object " ++ id.hex ++ ": " ++ cause.message
  | .corruptLooseHeader id => "corrupt loose object header for " ++ id.hex
  | .invalidLooseSize text id =>
    "invalid size " ++ Text.Quoted.bytes text ++ " in loose object " ++ id.hex

def ChannelFault.message : ChannelFault → String
  | .request channel id cause =>
    channel ++ ": I/O failure requesting " ++ id.hex ++ ": " ++ cause.message
  | .payload channel cause => channel ++ ": I/O failure reading payload: " ++ cause.message
  | .limitReached => "request limit reached"

namespace Fault

def message : Fault → String
  | missing id => "missing object " ++ id.hex
  | wrongKind id actual expected =>
    "object " ++ id.hex ++ " is a " ++ actual ++ ", not a " ++ expected
  | unsizedKind id actual => "object " ++ id.hex ++ " has unexpected type '" ++ actual ++ "'"
  | malformedTree cause => cause.message
  | protocol cause => cause.message
  | channel cause => cause.message
  | digitsToRead count =>
    "Exceeds the limit (" ++ toString Text.Decimal.digitLimit ++
      " digits) for integer string conversion: value has " ++ toString count ++
      " digits; use sys.set_int_max_str_digits() to increase the limit"
  | digitsToWrite =>
    "Exceeds the limit (" ++ toString Text.Decimal.digitLimit ++
      " digits) for integer string conversion; use sys.set_int_max_str_digits() to increase the limit"
  | readTooLong => Channel.StreamFault.tooLong.message
  | endOfPack => "index out of range"
  | offsetTooLarge => "cannot fit 'int' into an offset-sized integer"
  | unrecorded id => "_fill() did not compute the size of tree " ++ id.hex

/-- Whether a fault is reported to callers as a sizing error. -/
def isReported : Fault → Bool
  | missing _ | wrongKind .. | unsizedKind .. | malformedTree _ | protocol _ | channel _ => true
  | digitsToRead _ | digitsToWrite | readTooLong | endOfPack | offsetTooLarge | unrecorded _ =>
    false

end Fault

end GitCensus
