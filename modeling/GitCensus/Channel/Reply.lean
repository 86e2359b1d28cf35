import GitCensus.Fault
/-!
# Reply lines

A reply line repeats the id asked for and then says that the object is missing or
gives its kind and size.  The checks run in this order: the id, the number of
words, the kind, the size.
-/

namespace GitCensus.Channel

inductive Reply where
  | missing
  | header (kind : ObjectKind) (size : Nat)
deriving DecidableEq

namespace Reply

def missingWord : Bytes := Bytes.ofAscii "missing"

def readSize (id : ObjectId) (digits : Bytes) : Except Fault Nat :=
  if !Bytes.isDigits digits then .error (.protocol (.invalidReplySize digits id))
  else match Text.Decimal.read? digits with
    | none => .error (.digitsToRead digits.length)
    | some size => .ok size

/-- Reads a reply line, without its line feed, to a request for `id`. -/
def parse (id : ObjectId) (line : Bytes) : Except Fault Reply :=
  match Bytes.splitOn Bytes.space line with
  | [] => .error (.protocol (.wrongReply line id))
  | name :: words =>
    if name ≠ id.hexBytes then .error (.protocol (.wrongReply line id))
    else if words = [missingWord] then .ok .missing
    else match words with
      | [kind, size] =>
        match ObjectKind.ofName? (Text.ascii kind) with
        | none => .error (.protocol (.unknownReplyKind (Text.ascii kind) id))
        | some kind => (readSize id size).map (.header kind)
      | _ => .error (.protocol (.malformedReply line))

def render (id : ObjectId) : Reply → Bytes
  | missing => id.hexBytes ++ Bytes.space :: missingWord
  | header kind size =>
    id.hexBytes ++ Bytes.space :: Bytes.ofAscii kind.name ++
      Bytes.space :: Text.Decimal.digits size

end Reply

end GitCensus.Channel
