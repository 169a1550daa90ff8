import SecureExchange.Credential.Line
import SecureExchange.Text.Hex

/-!
# Headers of blocks

Headers say how the data of a block is encrypted: a kind of processing, a cipher, and the value that
the cipher starts from in hexadecimal digits. `isEncryption` recognises headers that say so.
-/

namespace SecureExchange.Credential.Header

open Text

/-- Ciphers in small letters, with the octets of the value that they start from. -/
def ciphers : List (Octets × Nat) :=
  [(ascii "aes-128-cbc", 16), (ascii "aes-192-cbc", 16), (ascii "aes-256-cbc", 16),
   (ascii "des-ede3-cbc", 8), (ascii "des-cbc", 8)]

def small (b : UInt8) : UInt8 := if 0x41 ≤ b ∧ b ≤ 0x5A then b + 0x20 else b

def isBlank (b : UInt8) : Bool := b == 0x20 || b == 0x09

def skipBlanks (s : Octets) : Octets := s.dropWhile isBlank

def isHex (b : UInt8) : Bool := isHexDigit (Char.ofNat b.toNat)

def comma : UInt8 := 0x2C

/-- A cipher, and the value that it starts from. -/
def isCipher (s : Octets) : Bool :=
  let isEnd (b : UInt8) : Bool := isBlank b || b == comma
  let name := s.takeWhile (!isEnd ·)
  match ciphers.lookup (name.map small), skipBlanks (s.dropWhile (!isEnd ·)) with
  | some n, c :: rest =>
    let digits := rest.take (2 * n)
    c == comma && digits.length == 2 * n && digits.all isHex
  | _, _ => false

/-- The end of the first header, behind its last word. -/
def endsWord (s : Octets) : Option Octets :=
  match s.dropWhile fun b ↦ isBlank b || b == 0x0D with
  | b :: rest => if b = lineEnd then some rest else none
  | [] => none

def isEncryption (header : Octets) : Bool :=
  let drop (start : String) (s : Octets) : Option Octets :=
    (Line.dropStart? (ascii start) s).map skipBlanks
  match (drop "Proc-Type:" header).bind (drop "4,") with
  | none => false
  | some s =>
    match (Line.dropStart? (ascii "ENCRYPTED") s).bind endsWord with
    | none => false
    | some s => (drop "DEK-Info:" s).any isCipher

@[simp] theorem isEncryption_nil : isEncryption [] = false := by decide

end SecureExchange.Credential.Header
