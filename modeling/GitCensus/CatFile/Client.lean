import GitCensus.Channel.Basic
import GitCensus.Store.Basic
/-!
# Asking an object server

A client asks a server over two channels: one that answers with headers only, and
one that answers with headers and payloads.  After every request the channel stands
at the start of the next reply.
-/

namespace GitCensus.CatFile

structure Client (τ : Type) where
  headers : Channel τ
  payloads : Channel τ

namespace Client

variable {τ : Type}

def connect (headers payloads : τ) : Client τ :=
  ⟨⟨"cat-file --batch-check", headers⟩, ⟨"cat-file --batch", payloads⟩⟩

def readHeader (T : Channel.Transport τ) (id : ObjectId) (c : Client τ) :
    Except Fault Header × Client τ :=
  match c.headers.request T id with
  | (.error fault, headers) => (.error fault, { c with headers })
  | (.ok .missing, headers) => (.error (.missing id), { c with headers })
  | (.ok (.header kind size), headers) => (.ok ⟨kind, size⟩, { c with headers })

/-- Asks for the payload of a tree.  The payload of any other object is passed over,
so that the next reply can be read. -/
def readTree (T : Channel.Transport τ) (id : ObjectId) (c : Client τ) :
    Except Fault Bytes × Client τ :=
  match c.payloads.request T id with
  | (.error fault, payloads) => (.error fault, { c with payloads })
  | (.ok .missing, payloads) => (.error (.missing id), { c with payloads })
  | (.ok (.header kind size), payloads) =>
    if kind = .tree then
      match payloads.readExactly T (size + 1) with
      | (.error fault, payloads) => (.error fault, { c with payloads })
      | (.ok data, payloads) =>
        if data.getLast? = some Bytes.lineFeed then (.ok data.dropLast, { c with payloads })
        else (.error (.protocol (.unterminatedTree id)), { c with payloads })
    else
      match payloads.skip T (size + 1) with
      | (.error fault, payloads) => (.error fault, { c with payloads })
      | (.ok (), payloads) =>
        (.error (.wrongKind id kind.name ObjectKind.tree.name), { c with payloads })

def close (T : Channel.Transport τ) (c : Client τ) : Client τ :=
  ⟨c.headers.close T, c.payloads.close T⟩

def store (T : Channel.Transport τ) : Store (Client τ) where
  readHeader := readHeader T
  readTree := readTree T

end Client

end GitCensus.CatFile
