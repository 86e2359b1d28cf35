import GitCensus.Bytes
/-!
# Lossy decoding

Bytes that no text has are shown as the replacement character.  ASCII decoding
replaces byte by byte; UTF-8 decoding replaces each longest broken piece.
-/

namespace GitCensus.Text

/-- Stands for bytes that have no text. -/
def replacement : Char := '\uFFFD'

/-- Reads each byte as one character, with a replacement for those above ASCII. -/
def ascii (bs : Bytes) : String :=
  String.ofList (bs.map fun b => if b < 0x80 then Char.ofNat b.toNat else replacement)

namespace Utf8

/-- What a lead byte announces: the payload bits it holds itself, the number of
bytes that follow, and the bounds on the first of these. -/
structure Lead where
  bits : Nat
  following : Nat
  low : UInt8
  high : UInt8

/-- The lead byte's announcement, if it starts a sequence. -/
def Lead.of? (b : UInt8) : Option Lead :=
  if b < 0x80 then some ⟨b.toNat, 0, 0x80, 0xbf⟩
  else if b < 0xc2 then none
  else if b < 0xe0 then some ⟨b.toNat - 0xc0, 1, 0x80, 0xbf⟩
  else if b < 0xf0 then
    some ⟨b.toNat - 0xe0, 2, if b = 0xe0 then 0xa0 else 0x80, if b = 0xed then 0x9f else 0xbf⟩
  else if b < 0xf5 then
    some ⟨b.toNat - 0xf0, 3, if b = 0xf0 then 0x90 else 0x80, if b = 0xf4 then 0x8f else 0xbf⟩
  else none

/-- Reads text; `open?` is the sequence begun and not yet complete. -/
def decodeWith : Option Lead → Bytes → List Char
  | none, [] => []
  | some _, [] => [replacement]
  | state, b :: rest =>
    let begin : List Char :=
      match Lead.of? b with
      | none => replacement :: decodeWith none rest
      | some lead =>
        if lead.following = 0 then Char.ofNat lead.bits :: decodeWith none rest
        else decodeWith (some lead) rest
    match state with
    | none => begin
    | some lead =>
      if lead.low ≤ b ∧ b ≤ lead.high then
        let bits := lead.bits * 64 + (b.toNat - 0x80)
        if lead.following ≤ 1 then Char.ofNat bits :: decodeWith none rest
        else decodeWith (some ⟨bits, lead.following - 1, 0x80, 0xbf⟩) rest
      else replacement :: begin

end Utf8

/-- Reads UTF-8, with one replacement for each piece that is broken off. -/
def utf8 (bs : Bytes) : String := String.ofList (Utf8.decodeWith none bs)

end GitCensus.Text
