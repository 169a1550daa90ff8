import SecureExchange.Text.Case.Table

/-!
# Lower case and capitals

`lower` writes a whole text in small letters. All letters but one are rewritten on their own: a
capital sigma takes its final form when a letter precedes it and none follows it in the same word.
-/

namespace SecureExchange.Text

def lowerAscii (c : Char) : Char :=
  if 0x41 ≤ c.toNat ∧ c.toNat ≤ 0x5A then Char.ofNat (c.toNat + 0x20) else c

/-- The small form of a letter that stands alone. Only the dotted capital I needs two characters. -/
def lowerChar (c : Char) : List Char :=
  if isAscii c then [lowerAscii c]
  else if c = '\u0130' then ['i', '\u0307']
  else match caseRuns.find? (·.covers c.toNat) with
    | some r => [Char.ofNat (Int.toNat (c.toNat + r.shift))]
    | none => [c]

/-- The nearest character that does not stand aside is a letter with case. -/
def meetsCased (s : List Char) : Bool :=
  match s.dropWhile caseIgnorable.contains with
  | [] => false
  | c :: _ => cased.contains c

def lowerAfter (before : List Char) : List Char → List Char
  | [] => []
  | c :: rest =>
    (if c = 'Σ' then [if meetsCased before && !meetsCased rest then 'ς' else 'σ'] else lowerChar c)
      ++ lowerAfter (c :: before) rest

def lowerChars (s : List Char) : List Char := lowerAfter [] s

def lower (s : String) : String := String.ofList (lowerChars s.toList)

/-- The capital form of a character, as far as it is made of ASCII letters. -/
def asciiCapital (c : Char) : List Char :=
  match c with
  | 'ß' => ['S', 'S']
  | 'ı' => ['I']
  | 'ſ' => ['S']
  | 'ﬀ' => ['F', 'F']
  | 'ﬁ' => ['F', 'I']
  | 'ﬂ' => ['F', 'L']
  | 'ﬃ' => ['F', 'F', 'I']
  | 'ﬄ' => ['F', 'F', 'L']
  | 'ﬅ' => ['S', 'T']
  | 'ﬆ' => ['S', 'T']
  | c => [if 0x61 ≤ c.toNat ∧ c.toNat ≤ 0x7A then Char.ofNat (c.toNat - 0x20) else c]

@[simp] theorem lowerChars_nil : lowerChars [] = [] := rfl

theorem lowerAfter_of_ascii {s : List Char} (h : allAscii s = true) (before : List Char) :
    lowerAfter before s = s.map lowerAscii := by
  induction s generalizing before with
  | nil => rfl
  | cons c rest ih =>
      simp only [allAscii, List.all_cons, Bool.and_eq_true] at h
      have hsigma : c ≠ 'Σ' := by
        rintro rfl
        exact absurd h.1 (by decide)
      simp [lowerAfter, lowerChar, hsigma, h.1, ih h.2]

/-- On ASCII texts letters are rewritten one by one. -/
theorem lowerChars_of_ascii {s : List Char} (h : allAscii s = true) :
    lowerChars s = s.map lowerAscii :=
  lowerAfter_of_ascii h []

end SecureExchange.Text
