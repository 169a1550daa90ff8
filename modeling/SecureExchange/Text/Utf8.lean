/-!
# UTF-8

Characters as octets and back. `scan` cuts any octets into well-formed characters and maximal
ill-formed pieces; the strict reading refuses the latter and the lenient one writes a replacement
character for each.
-/

namespace SecureExchange

abbrev Octets := List UInt8

namespace Text.Utf8

def continuation (n : Nat) : UInt8 := UInt8.ofNat (0x80 + n % 64)

def encodeChar (c : Char) : Octets :=
  let n := c.toNat
  if n < 0x80 then [UInt8.ofNat n]
  else if n < 0x800 then [UInt8.ofNat (0xC0 + n / 64), continuation n]
  else if n < 0x10000 then
    [UInt8.ofNat (0xE0 + n / 4096), continuation (n / 64), continuation n]
  else
    [UInt8.ofNat (0xF0 + n / 262144), continuation (n / 4096), continuation (n / 64),
      continuation n]

def encode (s : List Char) : Octets := s.flatMap encodeChar

/-- What a first octet announces: the bits it holds, how many octets follow, and the range of the
first of them. Overlong forms, surrogates and numbers beyond the last character are excluded. -/
structure Lead where
  bits : Nat
  more : Nat
  low : Nat
  high : Nat

def lead? (b : UInt8) : Option Lead :=
  let n := b.toNat
  if n < 0x80 then some ⟨n, 0, 0x80, 0xBF⟩
  else if n < 0xC2 then none
  else if n < 0xE0 then some ⟨n - 0xC0, 1, 0x80, 0xBF⟩
  else if n = 0xE0 then some ⟨0, 2, 0xA0, 0xBF⟩
  else if n = 0xED then some ⟨0xD, 2, 0x80, 0x9F⟩
  else if n < 0xF0 then some ⟨n - 0xE0, 2, 0x80, 0xBF⟩
  else if n = 0xF0 then some ⟨0, 3, 0x90, 0xBF⟩
  else if n < 0xF4 then some ⟨n - 0xF0, 3, 0x80, 0xBF⟩
  else if n = 0xF4 then some ⟨4, 3, 0x80, 0x8F⟩
  else none

/-- Reads the octets that a first one announced; stops before the first that does not fit. -/
def follow : Nat → Nat → Nat → Nat → Octets → Option Nat × Octets
  | 0, bits, _, _, rest => (some bits, rest)
  | _ + 1, _, _, _, [] => (none, [])
  | more + 1, bits, low, high, b :: rest =>
    if low ≤ b.toNat ∧ b.toNat ≤ high then follow more (bits * 64 + b.toNat % 64) 0x80 0xBF rest
    else (none, b :: rest)

theorem length_follow_le (more bits low high : Nat) (s : Octets) :
    (follow more bits low high s).2.length ≤ s.length := by
  induction more generalizing bits low high s with
  | zero => simp [follow]
  | succ m ih =>
      cases s with
      | nil => simp [follow]
      | cons b rest =>
          simp only [follow]
          split
          · exact Nat.le_trans (ih ..) (by simp)
          · simp

/-- Each entry is a character, or nothing for a maximal ill-formed piece. -/
def scan : Octets → List (Option Char)
  | [] => []
  | b :: rest =>
    match lead? b with
    | none => none :: scan rest
    | some l =>
      (follow l.more l.bits l.low l.high rest).1.map Char.ofNat
        :: scan (follow l.more l.bits l.low l.high rest).2
termination_by s => s.length
decreasing_by
  · simp
  · exact Nat.lt_succ_of_le (length_follow_le ..)

/-- The characters, if the octets are well-formed. -/
def decode? (s : Octets) : Option (List Char) := (scan s).mapM id

/-- The characters, with a replacement character for each ill-formed piece. -/
def decodeLossy (s : Octets) : List Char := (scan s).map (·.getD '\uFFFD')

@[simp] theorem encode_nil : encode [] = [] := rfl

@[simp] theorem encode_cons (c : Char) (s : List Char) :
    encode (c :: s) = encodeChar c ++ encode s := rfl

@[simp] theorem encode_append (s t : List Char) : encode (s ++ t) = encode s ++ encode t := by
  simp [encode]

@[simp] theorem scan_nil : scan [] = [] := by
  rw [scan]

end Text.Utf8

end SecureExchange
