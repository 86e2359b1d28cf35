import GitCensus.Channel.Basic
import GitCensus.Channel.ReplyStream
import GitCensus.Store.ObjectMap
/-!
# Serving objects

A server answers each line it is sent, in order: with the header of the object that
the line names, and on request with its content and a line feed, or with the word
that the object is missing.
-/

namespace GitCensus.CatFile

open Channel (ReplyStream StreamFault Reply)

/-- A server of the objects of a map on one channel. -/
structure Server where
  objects : ObjectMap
  /-- Whether contents follow headers. -/
  withContent : Bool
  /-- The stream of replies made so far. -/
  replies : ReplyStream := { unread := [] }
  /-- The beginning of a line that is not complete. -/
  line : Bytes := []

namespace Server

def reply (objects : ObjectMap) (withContent : Bool) (line : Bytes) : Bytes :=
  let missing := line ++ Bytes.space :: Reply.missingWord ++ [Bytes.lineFeed]
  match ObjectId.ofHexBytes line with
  | .error _ => missing
  | .ok id =>
    match objects.find? id with
    | none => missing
    | some o =>
      Reply.render id (.header o.kind o.content.length) ++ Bytes.lineFeed ::
        if withContent then o.content ++ [Bytes.lineFeed] else []

/-- Takes bytes from the client and replies to the lines completed by them. -/
def send (bs : Bytes) (s : Server) : Except StreamFault Unit × Server :=
  match s.replies.send bs with
  | (.error fault, replies) => (.error fault, { s with replies })
  | (.ok (), replies) =>
    let pieces := Bytes.splitOn Bytes.lineFeed (s.line ++ bs)
    let made := pieces.dropLast.flatMap (reply s.objects s.withContent)
    (.ok (), { s with
      replies := { replies with unread := replies.unread ++ made }
      line := pieces.getLast?.getD [] })

def transport : Channel.Transport Server where
  send := send
  readLine s :=
    let (answer, replies) := s.replies.readLine
    (answer, { s with replies })
  read n s :=
    let (answer, replies) := s.replies.read n
    (answer, { s with replies })
  close s := { s with replies := s.replies.close }

def pair (objects : ObjectMap) : Server × Server :=
  ({ objects, withContent := false }, { objects, withContent := true })

end Server

end GitCensus.CatFile
