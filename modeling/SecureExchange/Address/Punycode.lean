import SecureExchange.Text.Cut

/-!
# Punycode

Texts with characters beyond ASCII, written with ASCII letters, digits and hyphens. The characters
beyond ASCII are inserted in the order of their values, each as the distance from the one before in
a number system whose digits adapt to the text. Texts are lists of code points here, since what is
read may hold surrogates.
-/

namespace SecureExchange.Address.Punycode

open Text

def digit (d : Nat) : Char := if d < 26 then Char.ofNat (0x61 + d) else Char.ofNat (0x16 + d)

def digitValue? (c : Char) : Option Nat :=
  let n := c.toNat
  if 0x61 ≤ n ∧ n ≤ 0x7A then some (n - 0x61)
  else if 0x41 ≤ n ∧ n ≤ 0x5A then some (n - 0x41)
  else if 0x30 ≤ n ∧ n ≤ 0x39 then some (n - 0x16)
  else none

/-- A digit below the threshold of its place ends a number. -/
def threshold (place bias : Nat) : Nat :=
  if place ≤ bias then 1 else if bias + 26 ≤ place then 26 else place - bias

theorem one_le_threshold (place bias : Nat) : 1 ≤ threshold place bias := by
  unfold threshold
  split
  · omega
  · split <;> omega

theorem threshold_le (place bias : Nat) : threshold place bias ≤ 26 := by
  unfold threshold
  split
  · omega
  · split <;> omega

def shrink (delta place : Nat) : Nat × Nat :=
  if 455 < delta then shrink (delta / 35) (place + 36) else (delta, place)
termination_by delta
decreasing_by exact Nat.div_lt_self (by omega) (by omega)

/-- The bias after a distance has been written into a text of `length` characters. -/
def adapt (delta length : Nat) (first : Bool) : Nat :=
  let d := if first then delta / 700 else delta / 2
  let r := shrink (d + d / length) 0
  r.2 + 36 * r.1 / (r.1 + 38)

def encodeNumber (bias place n : Nat) : List Char :=
  let t := threshold place bias
  if n < t then [digit n]
  else digit (t + (n - t) % (36 - t)) :: encodeNumber bias (place + 36) ((n - t) / (36 - t))
termination_by n
decreasing_by
  have h₁ := one_le_threshold place bias
  have h₂ : (n - threshold place bias) / (36 - threshold place bias) ≤ n - threshold place bias :=
    Nat.div_le_self _ _
  omega

structure Writer where
  out : List Char
  delta : Nat
  bias : Nat
  /-- The number of characters written so far. -/
  written : Nat

/-- Passes one character of the text while those of value `n` are being inserted. -/
def Writer.pass (w : Writer) (basic n c : Nat) : Writer :=
  if c < n then { w with delta := w.delta + 1 }
  else if c = n then
    { out := w.out ++ encodeNumber w.bias 36 w.delta
      delta := 0
      bias := adapt w.delta (w.written + 1) (w.written == basic)
      written := w.written + 1 }
  else w

/-- Inserts the characters of the values in the list, which is in rising order and starts at `n` or
later. -/
def Writer.insertAll (s : List Nat) (basic : Nat) : List Nat → Nat → Writer → Writer
  | [], _, w => w
  | m :: rest, n, w =>
    let started := { w with delta := w.delta + (m - n) * (w.written + 1) }
    let passed := s.foldl (fun w c ↦ w.pass basic m c) started
    Writer.insertAll s basic rest (m + 1) { passed with delta := passed.delta + 1 }

def encode (s : List Nat) : List Char :=
  let basic := s.filter fun c ↦ decide (c < 0x80)
  let values := (s.filter fun c ↦ decide (0x80 ≤ c)).mergeSort.eraseDups
  let start := if basic.isEmpty then [] else basic.map Char.ofNat ++ ['-']
  (Writer.insertAll s basic.length values 0x80 ⟨start, 0, 72, basic.length⟩).out

/-- Reads one number onto `sum`; the rest of the text is shorter. -/
def decodeNumber (bias : Nat) : List Char → Nat → Nat → Nat → Option (Nat × List Char)
  | [], _, _, _ => none
  | c :: rest, place, weight, sum =>
    match digitValue? c with
    | none => none
    | some d =>
      let t := threshold place bias
      if d < t then some (sum + d * weight, rest)
      else decodeNumber bias rest (place + 36) (weight * (36 - t)) (sum + d * weight)

theorem length_decodeNumber {bias : Nat} {s : List Char} {place weight sum : Nat}
    {r : Nat × List Char} (h : decodeNumber bias s place weight sum = some r) :
    r.2.length < s.length := by
  induction s generalizing place weight sum with
  | nil => simp [decodeNumber] at h
  | cons c rest ih =>
      rw [decodeNumber] at h
      split at h
      · simp at h
      · dsimp only at h
        split at h
        · rw [← Option.some.inj h]
          simp
        · have := ih h
          simp only [List.length_cons]
          omega

/-- The last code point. -/
def lastCode : Nat := 0x10FFFF

/-- Inserts code point after code point into `out`. Values beyond the last one are refused. -/
def decodeAll (first : Bool) (bias n i : Nat) (out : List Nat) (s : List Char) :
    Option (List Nat) :=
  if s.isEmpty then some out
  else match _h : decodeNumber bias s 36 1 i with
    | none => none
    | some (sum, rest) =>
      let length := out.length + 1
      let value := n + sum / length
      if value ≤ lastCode then
        decodeAll false (adapt (sum - i) length first) value (sum % length + 1)
          (out.insertIdx (sum % length) value) rest
      else none
termination_by s.length
decreasing_by simpa using length_decodeNumber _h

/-- The last hyphen parts the ASCII characters from the numbers. -/
def decode (s : List Char) : Option (List Nat) :=
  let (basic, numbers) := cutLast '-' s
  decodeAll true 72 0x80 0 ((basic.getD []).map Char.toNat) numbers

end SecureExchange.Address.Punycode
