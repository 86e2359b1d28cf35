import GitCensus.Text.Quoted
/-!
# JSON on one line

Values are written with a blank after each comma and colon, and texts in ASCII:
control characters and all others by number, those beyond sixteen bits as a pair.
-/

namespace GitCensus.Json

def unit (n : Nat) : List Char := '\\' :: 'u' :: Text.Quoted.padded 4 n

/-- A character by number, as one unit or a pair of them. -/
def byNumber (n : Nat) : List Char :=
  if n < 0x10000 then unit n
  else unit (0xd800 + (n - 0x10000) / 0x400) ++ unit (0xdc00 + (n - 0x10000) % 0x400)

def escape (c : Char) : List Char :=
  match c with
  | '\x22' => ['\\', '\x22']
  | '\\' => ['\\', '\\']
  | '\n' => ['\\', 'n']
  | '\r' => ['\\', 'r']
  | '\t' => ['\\', 't']
  | '\x08' => ['\\', 'b']
  | '\x0c' => ['\\', 'f']
  | c => if ' ' ≤ c && c ≤ '~' then [c] else byNumber c.toNat

def text (s : String) : String :=
  String.ofList ('\x22' :: s.toList.flatMap escape ++ ['\x22'])

def number (n : Int) : String := toString n

def list (items : List String) : String := "[" ++ ", ".intercalate items ++ "]"

def object (fields : List (String × String)) : String :=
  let members := fields.map fun (key, value) => text key ++ ": " ++ value
  "\x7b" ++ ", ".intercalate members ++ "\x7d"

end GitCensus.Json
