import SecureExchange.Text.CharClass
import SecureExchange.Text.Quoted
import SecureExchange.Text.Utf8

/-!
# Character sets

The three ways in which header octets are read as text. A text that a set cannot represent is
refused with the first run of characters that lie outside it.
-/

namespace SecureExchange.Text

inductive Charset
  | ascii
  | utf8
  | latin1
  deriving DecidableEq, Repr

/-- The run of characters, and where it starts, that a character set cannot represent. -/
structure Unencodable where
  charset : Charset
  run : List Char
  position : Nat
  deriving DecidableEq, Repr

namespace Charset

/-- The number of characters in a set that takes one octet for each. -/
def limit : Charset → Option Nat
  | .ascii => some 0x80
  | .utf8 => none
  | .latin1 => some 0x100

def name : Charset → String
  | .ascii => "ascii"
  | .utf8 => "utf-8"
  | .latin1 => "latin-1"

def encode (k : Charset) (s : List Char) : Except Unencodable Octets :=
  match k.limit with
  | none => .ok (Utf8.encode s)
  | some n =>
    let fits := s.takeWhile fun c ↦ decide (c.toNat < n)
    let rest := s.dropWhile fun c ↦ decide (c.toNat < n)
    if rest.isEmpty then .ok (s.map fun c ↦ UInt8.ofNat c.toNat)
    else .error ⟨k, rest.takeWhile fun c ↦ decide (n ≤ c.toNat), fits.length⟩

def decode? (k : Charset) (s : Octets) : Option (List Char) :=
  match k with
  | .ascii => if s.all (· < 0x80) then some (s.map fun b ↦ Char.ofNat b.toNat) else none
  | .utf8 => Utf8.decode? s
  | .latin1 => some (s.map fun b ↦ Char.ofNat b.toNat)

theorem encode_utf8 (s : List Char) : encode .utf8 s = .ok (Utf8.encode s) := rfl

end Charset

def Unencodable.message (e : Unencodable) : String :=
  let what := match e.run with
    | [c] => " character '" ++ String.ofList (Quoted.escapeCode c.toNat) ++ "' in position "
        ++ toString e.position
    | run => " characters in position " ++ toString e.position ++ "-"
        ++ toString (e.position + run.length - 1)
  let range := match e.charset.limit with
    | some n => ": ordinal not in range(" ++ toString n ++ ")"
    | none => ""
  "'" ++ e.charset.name ++ "' codec can't encode" ++ what ++ range

end SecureExchange.Text
