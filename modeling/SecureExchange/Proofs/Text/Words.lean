import SecureExchange.Proofs.Text.Case
import SecureExchange.Text.Cut

/-!
# Words in small letters

Whether the small form of a text holds an ASCII word does not depend on the case of the ASCII
letters in the text (`lowerChars_map_lowerAscii_eq`), nor on what stands in front of the text and
behind it (`occurs_lowerChars_append`): a capital sigma is the only letter that its surroundings
are looked at for, and neither of its small forms is part of an ASCII word.
-/

namespace SecureExchange.Text

variable {c : Char} {s word : List Char}

theorem occurs_iff_isInfix : occurs word s = true ↔ word <:+: s := by
  induction s with
  | nil => simp [occurs]
  | cons c rest ih =>
      rw [occurs, Bool.or_eq_true, List.isPrefixOf_iff_prefix, ih, List.infix_cons_iff]

/-! ### The case of ASCII letters -/

theorem lowerAscii_of_beyond (h : isAscii c = false) : lowerAscii c = c := by
  rw [isAscii, decide_eq_false_iff_not] at h
  exact if_neg (by omega)

def IsAsciiLetter (c : Char) : Prop :=
  0x41 ≤ c.toNat ∧ c.toNat ≤ 0x5A ∨ 0x61 ≤ c.toNat ∧ c.toNat ≤ 0x7A

/-- A class that holds all ASCII letters or none does not tell their cases apart. -/
theorem contains_lowerAscii {k : CharClass} {b : Bool}
    (h : ∀ c, IsAsciiLetter c → k.contains c = b) (c : Char) :
    k.contains (lowerAscii c) = k.contains c := by
  by_cases hcapital : 0x41 ≤ c.toNat ∧ c.toNat ≤ 0x5A
  · have hsmall : IsAsciiLetter (lowerAscii c) := by
      rw [IsAsciiLetter, toNat_lowerAscii, if_pos hcapital]
      omega
    rw [h c (.inl hcapital), h _ hsmall]
  · rw [lowerAscii, if_neg hcapital]

theorem caseIgnorable_of_letter (h : IsAsciiLetter c) : caseIgnorable.contains c = false := by
  have hall : caseIgnorable.ranges.toList.all (fun r ↦ decide (r.2 < 0x41) || decide (0x7A < r.1)
      || decide (0x5A < r.1) && decide (r.2 < 0x61)) = true := by
    decide +kernel
  rw [Bool.eq_false_iff]
  intro hc
  obtain ⟨r, hr, hlow, hhigh⟩ := CharClass.contains_iff.mp hc
  have hmisses := List.all_eq_true.mp hall r (Array.mem_toList_iff.mpr hr)
  simp only [Bool.or_eq_true, Bool.and_eq_true, decide_eq_true_eq] at hmisses
  unfold IsAsciiLetter at h
  omega

theorem cased_of_letter (h : IsAsciiLetter c) : cased.contains c = true := by
  have hcapitals : (0x41, 0x5A) ∈ cased.ranges := by decide +kernel
  have hsmalls : (0x61, 0x7A) ∈ cased.ranges := by decide +kernel
  rw [CharClass.contains_iff]
  exact h.elim (fun hcapital ↦ ⟨_, hcapitals, hcapital⟩) fun hsmall ↦ ⟨_, hsmalls, hsmall⟩

theorem meetsCased_map_lowerAscii (s : List Char) :
    meetsCased (s.map lowerAscii) = meetsCased s := by
  have hignored := contains_lowerAscii fun _ ↦ caseIgnorable_of_letter
  have hcased := contains_lowerAscii fun _ ↦ cased_of_letter
  unfold meetsCased
  rw [List.dropWhile_map, Function.comp_def, funext hignored]
  cases s.dropWhile caseIgnorable.contains with
  | nil => rfl
  | cons c rest => exact hcased c

theorem lowerChar_lowerAscii (c : Char) : lowerChar (lowerAscii c) = lowerChar c := by
  cases hascii : isAscii c with
  | true =>
      have hsmall : isAscii (lowerAscii c) = true := by rwa [isAscii_lowerAscii]
      rw [lowerChar, lowerChar, if_pos hsmall, if_pos hascii, lowerAscii_lowerAscii]
  | false => rw [lowerAscii_of_beyond hascii]

theorem lowerAscii_eq_sigma : lowerAscii c = 'Σ' ↔ c = 'Σ' := by
  cases hascii : isAscii c with
  | true =>
      have hother : ∀ d, isAscii d = true → d ≠ 'Σ' := by
        rintro _ hd rfl
        exact absurd hd (by decide)
      exact iff_of_false (hother _ (by rwa [isAscii_lowerAscii])) (hother _ hascii)
  | false => rw [lowerAscii_of_beyond hascii]

theorem lowerAfter_map_lowerAscii (before s : List Char) :
    lowerAfter (before.map lowerAscii) (s.map lowerAscii) = lowerAfter before s := by
  induction s generalizing before with
  | nil => rfl
  | cons c rest ih =>
      have hfirst : lowerAt (before.map lowerAscii) (lowerAscii c) (rest.map lowerAscii)
          = lowerAt before c rest := by
        simp only [lowerAt, lowerAscii_eq_sigma, meetsCased_map_lowerAscii, lowerChar_lowerAscii]
      have hrest := ih (c :: before)
      rw [List.map_cons] at hrest
      rw [List.map_cons, lowerAfter_cons, lowerAfter_cons, hfirst, hrest]

/-- The small form of a text does not depend on the case of its ASCII letters. -/
theorem lowerChars_map_lowerAscii_eq (s : List Char) :
    lowerChars (s.map lowerAscii) = lowerChars s :=
  lowerAfter_map_lowerAscii [] s

/-! ### Surroundings -/

/-- The final form of a small sigma is replaced by the other one. -/
def unfinal (c : Char) : Char := if c = 'ς' then 'σ' else c

/-- The small form of a character up to the form of a sigma. -/
def smallForm (c : Char) : List Char := if c = 'Σ' then ['σ'] else (lowerChar c).map unfinal

/-- Up to the form of a sigma, each letter is made small on its own. -/
theorem map_unfinal_lowerAfter (before s : List Char) :
    (lowerAfter before s).map unfinal = s.flatMap smallForm := by
  induction s generalizing before with
  | nil => rfl
  | cons c rest ih =>
      have hfirst : (lowerAt before c rest).map unfinal = smallForm c := by
        unfold lowerAt smallForm
        by_cases hsigma : c = 'Σ'
        · rw [if_pos hsigma, if_pos hsigma]
          split <;> rfl
        · rw [if_neg hsigma, if_neg hsigma]
      rw [lowerAfter_cons, List.map_append, hfirst, ih, List.flatMap_cons]

theorem eq_of_unfinal_ascii (h : isAscii (unfinal c) = true) : unfinal c = c := by
  unfold unfinal at h ⊢
  split at h
  · exact absurd h (by decide)
  · next hfinal => exact if_neg hfinal

theorem map_unfinal_of_ascii (h : allAscii (word.map unfinal) = true) :
    word.map unfinal = word := by
  refine (List.map_congr_left fun c hc ↦ ?_).trans (List.map_id word)
  rw [allAscii, List.all_map, List.all_eq_true] at h
  exact eq_of_unfinal_ascii (h c hc)

theorem isInfix_map_unfinal (hword : allAscii word = true) :
    word <:+: s.map unfinal ↔ word <:+: s := by
  constructor
  · rintro ⟨front, back, h⟩
    obtain ⟨frontAndWord, back, rfl, hfront, -⟩ := List.map_eq_append_iff.mp h.symm
    obtain ⟨front, found, rfl, -, rfl⟩ := List.map_eq_append_iff.mp hfront
    rw [map_unfinal_of_ascii hword]
    exact ⟨front, back, rfl⟩
  · intro h
    have hsame : word.map unfinal = word := by
      refine (List.map_congr_left fun c hc ↦ ?_).trans (List.map_id word)
      have hascii := List.all_eq_true.mp hword c hc
      exact if_neg fun hfinal ↦ absurd (hfinal ▸ hascii) (by decide)
    have hmapped := h.map unfinal
    rwa [hsame] at hmapped

/-- An ASCII word that the small form of a text holds is not lost when the text is part of another
one. -/
theorem occurs_lowerChars_append (hword : allAscii word = true)
    (h : occurs word (lowerChars s) = true) (before after : List Char) :
    occurs word (lowerChars (before ++ s ++ after)) = true := by
  rw [occurs_iff_isInfix, ← isInfix_map_unfinal hword, lowerChars, map_unfinal_lowerAfter] at h ⊢
  rw [List.flatMap_append, List.flatMap_append]
  exact h.trans ⟨_, _, rfl⟩

end SecureExchange.Text
