import SecureExchange.Proofs.Text.Ascii

/-!
# Small letters

A character that is its own small form stays in a text that is made small, and what is made small
is not changed by doing it again (`lowerChars_lowerChars`). For the letters of the table this is a
property of pairs of runs: no capital of one is a small letter of another.
-/

namespace SecureExchange.Text

variable {c d : Char} {s : List Char}

/-- The first small letter of a run. -/
def CaseRun.lowest (r : CaseRun) : Nat := Int.toNat (r.first + r.shift)

/-- The last small letter of a run. -/
def CaseRun.highest (r : CaseRun) : Nat := Int.toNat (r.last + r.shift)

/-- No small letter of the run lies in an interval. -/
def CaseRun.misses (r : CaseRun) (low high : Nat) : Bool :=
  decide (r.highest < low) || decide (high < r.lowest)

/-- No small letter of the run is a capital of the other one: they lie apart, or they alternate. -/
def CaseRun.isApart (r q : CaseRun) : Bool :=
  r.misses q.first q.last ||
    (r.stride == 2 || r.first == r.last) && q.stride == 2 && (r.lowest + q.first) % 2 == 1

namespace CaseRun

variable {r q : CaseRun} {n : Nat}

/-- A small letter lies as far from the first one of its run as its capital from the first
capital. -/
theorem toNat_small (h : r.isHigh = true) (hn : r.covers n = true) :
    (Char.ofNat (Int.toNat (n + r.shift))).toNat = r.lowest + (n - r.first) ∧
      r.lowest + (n - r.first) ≤ r.highest := by
  simp only [isHigh, Bool.and_eq_true, Bool.or_eq_true, decide_eq_true_eq] at h
  simp only [covers, Bool.and_eq_true, decide_eq_true_eq] at hn
  have hvalid : (Int.toNat (n + r.shift)).isValidChar := by
    unfold Nat.isValidChar
    omega
  rw [toNat_ofNat_of_valid hvalid, lowest, highest]
  omega

theorem misses_small {low high : Nat} (h : r.isHigh = true) (hn : r.covers n = true)
    (hmisses : r.misses low high = true) :
    ¬ (low ≤ (Char.ofNat (Int.toNat (n + r.shift))).toNat ∧
      (Char.ofNat (Int.toNat (n + r.shift))).toNat ≤ high) := by
  obtain ⟨hsmall, hhighest⟩ := toNat_small h hn
  simp only [misses, Bool.or_eq_true, decide_eq_true_eq] at hmisses
  omega

theorem not_covers_small (h : r.isHigh = true) (hn : r.covers n = true)
    (hapart : r.isApart q = true) :
    q.covers (Char.ofNat (Int.toNat (n + r.shift))).toNat = false := by
  rw [Bool.eq_false_iff]
  intro hcovers
  rw [isApart, Bool.or_eq_true] at hapart
  rcases hapart with hmisses | halternate
  · refine misses_small h hn hmisses ?_
    simp only [covers, Bool.and_eq_true, decide_eq_true_eq] at hcovers
    exact hcovers.1
  · obtain ⟨hsmall, -⟩ := toNat_small h hn
    simp only [Bool.and_eq_true, Bool.or_eq_true, beq_iff_eq] at halternate
    obtain ⟨⟨hstride, hq⟩, hodd⟩ := halternate
    simp only [covers, hq, hsmall, Bool.and_eq_true, decide_eq_true_eq, beq_iff_eq] at hcovers
    simp only [covers, Bool.and_eq_true, decide_eq_true_eq, beq_iff_eq] at hn
    rcases hstride with hstride | hsingle
    · rw [hstride] at hn
      omega
    · omega

end CaseRun

theorem isApart_of_mem_caseRuns {r q : CaseRun} (hr : r ∈ caseRuns) (hq : q ∈ caseRuns) :
    r.isApart q = true := by
  have hall : (caseRuns.toList.all fun r ↦ caseRuns.toList.all r.isApart) = true := by
    decide +kernel
  have hapart := List.all_eq_true.mp hall r (Array.mem_toList_iff.mpr hr)
  exact List.all_eq_true.mp hapart q (Array.mem_toList_iff.mpr hq)

/-- A character that is its own small form. -/
def isSmall (c : Char) : Bool := lowerChar c == [c]

theorem lowerChar_of_isSmall (h : isSmall c = true) : lowerChar c = [c] := eq_of_beq h

/-- A character beyond ASCII that no run covers has no other small form. -/
theorem isSmall_of_uncovered (hascii : isAscii c = false) (hdotted : c ≠ '\u0130')
    (h : ∀ r ∈ caseRuns, r.covers c.toNat = false) : isSmall c = true := by
  have hfind : caseRuns.find? (·.covers c.toNat) = none := by
    rw [Array.find?_eq_none]
    exact fun r hr hcovers ↦ by simp [h r hr] at hcovers
  simp [isSmall, lowerChar, hascii, hdotted, hfind]

theorem isSmall_of_table (hascii : isAscii c = false) (hdotted : c ≠ '\u0130')
    (h : (caseRuns.toList.all fun r ↦ !r.covers c.toNat) = true) : isSmall c = true := by
  refine isSmall_of_uncovered hascii hdotted fun r hr ↦ ?_
  simpa using List.all_eq_true.mp h r (Array.mem_toList_iff.mpr hr)

theorem isSmall_of_ascii (hascii : isAscii c = true)
    (h : ¬ (0x41 ≤ c.toNat ∧ c.toNat ≤ 0x5A)) : isSmall c = true := by
  simp [isSmall, lowerChar, hascii, lowerAscii, h]

/-- What a letter is made into is its own small form. -/
theorem isSmall_of_mem_lowerChar (h : d ∈ lowerChar c) : isSmall d = true := by
  unfold lowerChar at h
  split at h
  · next hascii =>
      obtain rfl := List.mem_singleton.mp h
      have hlower : isAscii (lowerAscii c) = true := by rwa [isAscii_lowerAscii]
      simp [isSmall, lowerChar, hlower, lowerAscii_lowerAscii]
  · split at h
    · simp only [List.mem_cons, List.not_mem_nil, or_false] at h
      rcases h with rfl | rfl
      · exact isSmall_of_ascii (by decide) (by decide)
      · exact isSmall_of_table (by decide) (by decide) (by decide +kernel)
    · split at h
      · next r hfind =>
          have hr := Array.mem_of_find?_eq_some hfind
          have hcovers := Array.find?_some hfind
          have hhigh := isHigh_of_mem_caseRuns hr
          obtain rfl := List.mem_singleton.mp h
          cases hascii : isAscii (Char.ofNat (Int.toNat (c.toNat + r.shift))) with
          | true =>
              have hle := CaseRun.le_toNat_of_covers hhigh hcovers
              exact isSmall_of_ascii hascii (by omega)
          | false =>
              refine isSmall_of_uncovered hascii (fun hdotted ↦ ?_) fun q hq ↦
                CaseRun.not_covers_small hhigh hcovers (isApart_of_mem_caseRuns hr hq)
              have hall : caseRuns.toList.all (·.misses 0x130 0x130) = true := by decide +kernel
              refine CaseRun.misses_small hhigh hcovers
                (List.all_eq_true.mp hall r (Array.mem_toList_iff.mpr hr)) ?_
              rw [hdotted]
              decide
      · next hfind =>
          obtain rfl := List.mem_singleton.mp h
          next hascii hdotted =>
          refine isSmall_of_uncovered (by simpa using hascii) hdotted fun r hr ↦ ?_
          simpa using Array.find?_eq_none.mp hfind r hr

theorem lowerChar_ne_nil (c : Char) : lowerChar c ≠ [] := by
  unfold lowerChar
  split
  · exact List.cons_ne_nil _ _
  split
  · exact List.cons_ne_nil _ _
  split <;> exact List.cons_ne_nil _ _

/-- The capital sigma is the only character whose small form depends on what surrounds it. -/
theorem sigma_not_small : isSmall 'Σ' = false := by decide +kernel

/-! ### Texts -/

/-- What one character is made into, in its surroundings. -/
def lowerAt (before : List Char) (c : Char) (rest : List Char) : List Char :=
  if c = 'Σ' then [if meetsCased before && !meetsCased rest then 'ς' else 'σ'] else lowerChar c

theorem lowerAfter_cons (before : List Char) (c : Char) (rest : List Char) :
    lowerAfter before (c :: rest) = lowerAt before c rest ++ lowerAfter (c :: before) rest := rfl

theorem isSmall_of_mem_lowerAt {before rest : List Char} (h : d ∈ lowerAt before c rest) :
    isSmall d = true := by
  unfold lowerAt at h
  split at h
  · obtain rfl := List.mem_singleton.mp h
    split
    · exact isSmall_of_table (by decide) (by decide) (by decide +kernel)
    · exact isSmall_of_table (by decide) (by decide) (by decide +kernel)
  · exact isSmall_of_mem_lowerChar h

theorem lowerAt_of_isSmall (h : isSmall c = true) (before rest : List Char) :
    lowerAt before c rest = [c] := by
  have hsigma : c ≠ 'Σ' := by
    rintro rfl
    simp [sigma_not_small] at h
  rw [lowerAt, if_neg hsigma, lowerChar_of_isSmall h]

theorem lowerAt_ne_nil (before : List Char) (c : Char) (rest : List Char) :
    lowerAt before c rest ≠ [] := by
  unfold lowerAt
  split
  · exact List.cons_ne_nil _ _
  · exact lowerChar_ne_nil c

theorem isSmall_of_mem_lowerAfter {before : List Char} (h : d ∈ lowerAfter before s) :
    isSmall d = true := by
  induction s generalizing before with
  | nil => simp [lowerAfter] at h
  | cons c rest ih =>
      rw [lowerAfter_cons] at h
      rcases List.mem_append.mp h with h | h
      · exact isSmall_of_mem_lowerAt h
      · exact ih h

theorem lowerAfter_of_isSmall (h : ∀ c ∈ s, isSmall c = true) (before : List Char) :
    lowerAfter before s = s := by
  induction s generalizing before with
  | nil => rfl
  | cons c rest ih =>
      rw [lowerAfter_cons, lowerAt_of_isSmall (h c List.mem_cons_self),
        ih fun d hd ↦ h d (List.mem_cons_of_mem _ hd)]
      rfl

/-- A text in small letters stays as it is. -/
theorem lowerChars_lowerChars (s : List Char) : lowerChars (lowerChars s) = lowerChars s :=
  lowerAfter_of_isSmall (fun _ hd ↦ isSmall_of_mem_lowerAfter hd) []

theorem mem_lowerAfter (h : c ∈ s) (hc : isSmall c = true) (before : List Char) :
    c ∈ lowerAfter before s := by
  induction s generalizing before with
  | nil => simp at h
  | cons d rest ih =>
      rw [lowerAfter_cons]
      rcases List.mem_cons.mp h with rfl | h
      · rw [lowerAt_of_isSmall hc]
        exact List.mem_cons_self
      · exact List.mem_append_right _ (ih h _)

theorem lowerAfter_eq_nil {before : List Char} : lowerAfter before s = [] ↔ s = [] := by
  cases s with
  | nil => simp [lowerAfter]
  | cons c rest => simp [lowerAfter_cons, lowerAt_ne_nil]

/-- An ASCII text in front does not change what becomes of the rest, except that the rest has it in
front. -/
theorem lowerAfter_append (h : allAscii s = true) (before rest : List Char) :
    lowerAfter before (s ++ rest) = s.map lowerAscii ++ lowerAfter (s.reverse ++ before) rest := by
  induction s generalizing before with
  | nil => rfl
  | cons c s ih =>
      simp only [allAscii, List.all_cons, Bool.and_eq_true] at h
      have hsigma : c ≠ 'Σ' := by
        rintro rfl
        exact absurd h.1 (by decide)
      have hfirst : lowerAt before c (s ++ rest) = [lowerAscii c] := by
        rw [lowerAt, if_neg hsigma, lowerChar, if_pos h.1]
      rw [List.cons_append, lowerAfter_cons, hfirst, ih h.2]
      simp

theorem eq_of_mem_lowerAt {before rest : List Char} (h : d ∈ lowerAt before c rest)
    (hd : d.toNat < 0x61) : d = c := by
  unfold lowerAt at h
  split at h
  · have hhigh : ∀ e ∈ ['ς', 'σ'], 0x61 ≤ e.toNat := by simp
    have hsigma : d ∈ ['ς', 'σ'] := by
      split at h <;> simp [List.mem_singleton.mp h]
    exact absurd (hhigh d hsigma) (by omega)
  · exact eq_of_mem_lowerChar h hd

/-- A character that nothing else is made into was in the text before. -/
theorem mem_of_mem_lowerAfter {before : List Char}
    (hd : ∀ before c rest, d ∈ lowerAt before c rest → d = c) (h : d ∈ lowerAfter before s) :
    d ∈ s := by
  induction s generalizing before with
  | nil => simp [lowerAfter] at h
  | cons c rest ih =>
      rw [lowerAfter_cons] at h
      rcases List.mem_append.mp h with h | h
      · rw [hd before c rest h]
        exact List.mem_cons_self
      · exact List.mem_cons_of_mem _ (ih h)

/-- What comes before the small letters of ASCII and stands first in the small form of a text,
stands first in the text. -/
theorem head?_of_lowerChars (h : (lowerChars s).head? = some c) (hc : c.toNat < 0x61) :
    s.head? = some c := by
  cases s with
  | nil => simp at h
  | cons d rest =>
      obtain ⟨e, more, hfirst⟩ := List.exists_cons_of_ne_nil (lowerAt_ne_nil [] d rest)
      rw [lowerChars, lowerAfter_cons, hfirst] at h
      obtain rfl : e = c := by simpa using h
      have hsame : e = d := eq_of_mem_lowerAt (by rw [hfirst]; exact List.mem_cons_self) hc
      rw [hsame]
      rfl

end SecureExchange.Text
