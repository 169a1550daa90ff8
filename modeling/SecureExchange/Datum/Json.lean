import SecureExchange.Datum
import SecureExchange.Text.Hex

/-!
# Data on one line of JSON

Entries are parted by a comma and a space, keys by a colon and a space, and every character beyond
ASCII is written as one or two escapes of 16 bits.
-/

namespace SecureExchange.Datum

open Text

def jsonUnit (n : Nat) : List Char := '\\' :: 'u' :: hexDigits .small 4 n

def jsonEscape (c : Char) : List Char :=
  let n := c.toNat
  if c = '\x22' ∨ c = '\\' then ['\\', c]
  else if c = '\n' then ['\\', 'n']
  else if c = '\r' then ['\\', 'r']
  else if c = '\t' then ['\\', 't']
  else if n = 8 then ['\\', 'b']
  else if n = 12 then ['\\', 'f']
  else if 0x20 ≤ n ∧ n < 0x7F then [c]
  else if n < 0x10000 then jsonUnit n
  else jsonUnit (0xD800 + (n - 0x10000) / 0x400) ++ jsonUnit (0xDC00 + (n - 0x10000) % 0x400)

def jsonText (s : String) : String :=
  "\"" ++ String.ofList (s.toList.flatMap jsonEscape) ++ "\""

def jsonFloat : Binary64 → String
  | .nan => "NaN"
  | .infinity negative => if negative then "-Infinity" else "Infinity"
  | x => x.text

mutual

def json : Datum → String
  | .null => "null"
  | .bool b => if b then "true" else "false"
  | .int i => toString i
  | .float x => jsonFloat x
  | .text s => jsonText s
  | .list items => "[" ++ jsonItems items ++ "]"
  | .map entries => "\x7b" ++ jsonEntries entries ++ "\x7d"

def jsonItems : List Datum → String
  | [] => ""
  | [x] => json x
  | x :: rest => json x ++ ", " ++ jsonItems rest

def jsonEntries : List (String × Datum) → String
  | [] => ""
  | [(k, x)] => jsonText k ++ ": " ++ json x
  | (k, x) :: rest => jsonText k ++ ": " ++ json x ++ ", " ++ jsonEntries rest

end

end SecureExchange.Datum
