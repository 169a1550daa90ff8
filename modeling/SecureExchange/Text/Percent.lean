import SecureExchange.Text.Cut
import SecureExchange.Text.Hex
import SecureExchange.Text.Utf8

/-!
# Percent escapes

An octet is written as a percent sign and two hexadecimal digits. Reading is lenient: a percent sign
that no two digits follow stands for itself.
-/

namespace SecureExchange.Text.Percent

def encodeOctet (b : UInt8) : List Char := '%' :: hexDigits .capital 2 b.toNat

/-- Characters in `keep` stay as they are; the octets of all others are escaped. -/
def encodeWith (keep : Char → Bool) (s : List Char) : List Char :=
  s.flatMap fun c ↦ if keep c then [c] else (Utf8.encodeChar c).flatMap encodeOctet

def decodeOctets : List Char → Octets
  | [] => []
  | '%' :: a :: b :: rest =>
    match hexValue? a, hexValue? b with
    | some x, some y => UInt8.ofNat (16 * x + y) :: decodeOctets rest
    | _, _ => Utf8.encodeChar '%' ++ decodeOctets (a :: b :: rest)
  | c :: rest => Utf8.encodeChar c ++ decodeOctets rest

def decode (s : List Char) : List Char := Utf8.decodeLossy (decodeOctets s)

@[simp] theorem encodeWith_nil (keep : Char → Bool) : encodeWith keep [] = [] := rfl

theorem encodeWith_of_all {keep : Char → Bool} {s : List Char} (h : s.all keep = true) :
    encodeWith keep s = s := by
  induction s with
  | nil => rfl
  | cons c rest ih =>
      simp only [List.all_cons, Bool.and_eq_true] at h
      have := ih h.2
      simp_all [encodeWith]

end SecureExchange.Text.Percent
