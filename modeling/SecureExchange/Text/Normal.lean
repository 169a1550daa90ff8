import SecureExchange.Text.Normal.Table

/-!
# Composed texts

A text is composed when every letter and mark that can be written as one character is, and the
remaining marks stand in their fixed order. `compose` takes any text apart and puts it together
again; a text is composed when this changes nothing.
-/

namespace SecureExchange.Text.Normal

def markClass (c : Char) : Nat :=
  match markOrder.find? fun r ↦ decide (r.1 ≤ c.toNat) && decide (c.toNat ≤ r.2.1) with
  | some r => r.2.2
  | none => 0

/-- A Hangul syllable is a leading consonant, a vowel and, unless it is open, a final consonant. -/
def hangulParts? (c : Char) : Option (List Char) :=
  let n := c.toNat
  if 0xAC00 ≤ n ∧ n < 0xAC00 + 11172 then
    let i := n - 0xAC00
    let open' := [Char.ofNat (0x1100 + i / 588), Char.ofNat (0x1161 + i % 588 / 28)]
    some (if i % 28 = 0 then open' else open' ++ [Char.ofNat (0x11A7 + i % 28)])
  else none

def hangulPair? (a b : Char) : Option Char :=
  let x := a.toNat
  let y := b.toNat
  if 0x1100 ≤ x ∧ x < 0x1113 ∧ 0x1161 ≤ y ∧ y < 0x1176 then
    some (Char.ofNat (0xAC00 + ((x - 0x1100) * 21 + (y - 0x1161)) * 28))
  else if 0xAC00 ≤ x ∧ x < 0xAC00 + 11172 ∧ (x - 0xAC00) % 28 = 0 ∧ 0x11A8 ≤ y ∧ y < 0x11C3 then
    some (Char.ofNat (x + (y - 0x11A7)))
  else none

def parts? (c : Char) : Option (List Char) :=
  match composites.find? (·.1 == c.toNat) with
  | some r => some [Char.ofNat r.2.1, Char.ofNat r.2.2]
  | none => (dissolved.find? (·.1 == c.toNat)).map (·.2.map Char.ofNat)

def pair? (a b : Char) : Option Char :=
  match hangulPair? a b with
  | some c => some c
  | none =>
    (composites.find? fun r ↦ r.2.1 == a.toNat && r.2.2 == b.toNat).map fun r ↦ Char.ofNat r.1

/-- Takes a character apart `depth` times. -/
def decomposeTo : Nat → Char → List Char
  | 0, c => [c]
  | depth + 1, c =>
    match hangulParts? c with
    | some ps => ps
    | none => match parts? c with
      | some ps => ps.flatMap (decomposeTo depth)
      | none => [c]

/-- No character holds parts within parts more than four deep. -/
def decompose (s : List Char) : List Char := s.flatMap (decomposeTo 4)

/-- Puts a mark in front of the marks of higher order that end `reversed`. -/
def settle (c : Char) (k : Nat) : List Char → List Char
  | [] => [c]
  | d :: rest => if k < markClass d then d :: settle c k rest else c :: d :: rest

def orderMarks (s : List Char) : List Char :=
  (s.foldl (fun reversed c ↦
    if markClass c = 0 then c :: reversed else settle c (markClass c) reversed) []).reverse

/-- Joins what follows a letter to it. `held` are the marks that did not join, the last first, and
a mark is out of reach when one of at least its own order is held. -/
def joinFrom (letter : Char) (held : List Char) : List Char → List Char
  | [] => letter :: held.reverse
  | c :: rest =>
    let reachable := match held with
      | [] => true
      | h :: _ => decide (markClass h < markClass c)
    match if reachable then pair? letter c else none with
    | some joined => joinFrom joined held rest
    | none =>
      if markClass c = 0 then letter :: held.reverse ++ joinFrom c [] rest
      else joinFrom letter (c :: held) rest

def compose (s : List Char) : List Char :=
  let ordered := orderMarks (decompose s)
  let leading := ordered.takeWhile (markClass · ≠ 0)
  match ordered.dropWhile (markClass · ≠ 0) with
  | [] => leading
  | c :: rest => leading ++ joinFrom c [] rest

def isComposed (s : List Char) : Bool := compose s == s

end SecureExchange.Text.Normal
