import GitCensus.Bytes
/-!
# Byte transports

A transport carries bytes to a server and back.  Reading returns at most the bytes
asked for, and none at the end of the stream; every operation may fail.
-/

namespace GitCensus.Channel

inductive StreamFault where
  /-- The other side broke off while it was read from. -/
  | readFailed
  /-- The other side takes no more bytes. -/
  | brokenPipe
  /-- The transport has been closed. -/
  | closed
  /-- More bytes were asked for than one read can be asked for. -/
  | tooLong
deriving DecidableEq, Repr

def StreamFault.message : StreamFault → String
  | .readFailed => "[Errno 5] Input/output error"
  | .brokenPipe => "[Errno 32] Broken pipe"
  | .closed => "I/O operation on closed file."
  | .tooLong => "cannot fit 'int' into an index-sized integer"

/-- The most bytes that one read can be asked for: `2 ^ 63 - 1`. -/
def longestRead : Nat := 0x7fffffffffffffff

/-- The operations of a transport with state `τ`. -/
structure Transport (τ : Type) where
  /-- Sends bytes to the server. -/
  send : Bytes → τ → Except StreamFault Unit × τ
  /-- Reads up to and including the next line feed, or to the end of the stream. -/
  readLine : τ → Except StreamFault Bytes × τ
  /-- Reads some bytes, at least one before the end and at most the number asked for. -/
  read : Nat → τ → Except StreamFault Bytes × τ
  /-- Closes both directions; closing again does nothing. -/
  close : τ → τ

end GitCensus.Channel
