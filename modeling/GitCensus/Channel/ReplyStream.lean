import GitCensus.Channel.Transport
/-!
# Reply streams

A transport whose replies are given beforehand.  How much each read returns is up
to a rule; the stream may break off at its end or refuse to be written to, and it
keeps what was sent and how much each read asked for.
-/

namespace GitCensus.Channel

structure ReplyStream where
  /-- The replies not yet read. -/
  unread : Bytes
  /-- The most bytes a read may return, from the sizes asked for so far, newest first;
  `none` sets no bound. -/
  portion : List Nat → Option Nat := fun _ => none
  /-- Whether reading fails where the replies end. -/
  breaksOff : Bool := false
  /-- Whether sending fails. -/
  refusesInput : Bool := false
  isClosed : Bool := false
  /-- Everything sent. -/
  sent : Bytes := []
  /-- The sizes that reads asked for, newest first. -/
  asked : List Nat := []

namespace ReplyStream

def send (bs : Bytes) (s : ReplyStream) : Except StreamFault Unit × ReplyStream :=
  if s.isClosed then (.error .closed, s)
  else if s.refusesInput then (.error .brokenPipe, s)
  else (.ok (), { s with sent := s.sent ++ bs })

def readLine (s : ReplyStream) : Except StreamFault Bytes × ReplyStream :=
  if s.isClosed then (.error .closed, s)
  else match Bytes.cut Bytes.lineFeed s.unread with
    | some (line, rest) => (.ok (line ++ [Bytes.lineFeed]), { s with unread := rest })
    | none =>
      (if s.breaksOff then .error .readFailed else .ok s.unread, { s with unread := [] })

/-- Delivers some of what is left.  Without a bound of its own the stream refuses to be
asked for more than the longest read.  That limit is the one of streams in memory; readers
of pipes set aside some room and refuse sizes just below it. -/
def read (n : Nat) (s : ReplyStream) : Except StreamFault Bytes × ReplyStream :=
  let s := { s with asked := n :: s.asked }
  if s.isClosed then (.error .closed, s)
  else
    let deliver (most : Nat) : Except StreamFault Bytes × ReplyStream :=
      let piece := s.unread.take most
      if piece.isEmpty && s.breaksOff then (.error .readFailed, s)
      else (.ok piece, { s with unread := s.unread.drop most })
    match s.portion s.asked with
    | some bound => deliver (min n bound)
    | none => if n > longestRead then (.error .tooLong, s) else deliver n

def close (s : ReplyStream) : ReplyStream := { s with isClosed := true }

def transport : Transport ReplyStream where
  send := send
  readLine := readLine
  read := read
  close := close

end ReplyStream

end GitCensus.Channel
