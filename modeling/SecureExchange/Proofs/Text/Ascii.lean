import SecureExchange.Proofs.Text.Utf8
import SecureExchange.Text.Case
import SecureExchange.Text.Charset

/-!
# ASCII texts

All three character sets write an ASCII text in the same octets, and read it back from them. Letters
are made small one by one, which keeps a text in ASCII and is done once for all. In any text that is
made small, what comes before the small letters of ASCII was there before (`mem_of_mem_lowerChars`).
-/

namespace SecureExchange.Text

variable {c : Char} {s : List Char}

theorem isAscii_iff : isAscii c = true ↔ c.toNat < 0x80 := by simp [isAscii]

theorem toNat_ofNat_of_valid {n : Nat} (h : n.isValidChar) : (Char.ofNat n).toNat = n := by
  rw [Char.ofNat, dif_pos h]
  rfl

theorem toNat_ofNat_of_lt {n : Nat} (h : n < 0xD800) : (Char.ofNat n).toNat = n :=
  toNat_ofNat_of_valid (.inl h)

/-- What holds of all 128 ASCII characters. -/
theorem of_isAscii {p : Char → Bool} (hp : ∀ n ∈ List.range 0x80, p (Char.ofNat n) = true)
    (h : isAscii c = true) : p c = true := by
  have hcode := hp c.toNat (List.mem_range.mpr (isAscii_iff.mp h))
  rwa [Char.ofNat_toNat] at hcode

theorem toNat_lowerAscii (c : Char) : (lowerAscii c).toNat
    = if 0x41 ≤ c.toNat ∧ c.toNat ≤ 0x5A then c.toNat + 0x20 else c.toNat := by
  unfold lowerAscii
  split
  · next h => exact toNat_ofNat_of_lt (by omega)
  · rfl

theorem isAscii_lowerAscii (c : Char) : isAscii (lowerAscii c) = isAscii c := by
  simp only [isAscii, toNat_lowerAscii, decide_eq_decide]
  split <;> omega

theorem lowerAscii_lowerAscii (c : Char) : lowerAscii (lowerAscii c) = lowerAscii c := by
  have hrange : ¬ (0x41 ≤ (lowerAscii c).toNat ∧ (lowerAscii c).toNat ≤ 0x5A) := by
    rw [toNat_lowerAscii]
    split <;> omega
  exact if_neg hrange

theorem allAscii_map_lowerAscii (h : allAscii s = true) : allAscii (s.map lowerAscii) = true := by
  rw [allAscii, List.all_map]
  simpa [allAscii, Function.comp_def, isAscii_lowerAscii] using h

/-- What is in small letters is not changed by making it small. -/
theorem lowerChars_map_lowerAscii (h : allAscii s = true) :
    lowerChars (s.map lowerAscii) = s.map lowerAscii := by
  rw [lowerChars_of_ascii (allAscii_map_lowerAscii h), List.map_map]
  exact List.map_congr_left fun c _ ↦ lowerAscii_lowerAscii c

/-- The small letters of a run come after the capitals of ASCII. -/
def CaseRun.isHigh (r : CaseRun) : Bool :=
  decide (0x61 ≤ r.first + r.shift) &&
    (decide (r.last + r.shift < 0xD800) ||
      decide (0xDFFF < r.first + r.shift) && decide (r.last + r.shift < 0x110000))

theorem isHigh_of_mem_caseRuns {r : CaseRun} (h : r ∈ caseRuns) : r.isHigh = true := by
  have hall : caseRuns.all CaseRun.isHigh = true := by decide +kernel
  exact Array.all_eq_true_iff_forall_mem.mp hall r h

theorem CaseRun.le_toNat_of_covers {r : CaseRun} {n : Nat} (h : r.isHigh = true)
    (hn : r.covers n = true) : 0x61 ≤ (Char.ofNat (Int.toNat (n + r.shift))).toNat := by
  simp only [isHigh, Bool.and_eq_true, Bool.or_eq_true, decide_eq_true_eq] at h
  simp only [covers, Bool.and_eq_true, decide_eq_true_eq] at hn
  have hvalid : (Int.toNat (n + r.shift)).isValidChar := by
    unfold Nat.isValidChar
    omega
  rw [toNat_ofNat_of_valid hvalid]
  omega

theorem eq_of_mem_lowerChar {d : Char} (h : d ∈ lowerChar c) (hd : d.toNat < 0x61) : d = c := by
  unfold lowerChar at h
  split at h
  · obtain rfl := List.mem_singleton.mp h
    rw [toNat_lowerAscii] at hd
    refine if_neg fun hcapital ↦ ?_
    rw [if_pos hcapital] at hd
    omega
  · split at h
    · have hhigh : ∀ e ∈ ['i', '\u0307'], 0x61 ≤ e.toNat := by simp
      exact absurd (hhigh d h) (by omega)
    · split at h
      · next r hfind =>
          obtain rfl := List.mem_singleton.mp h
          have hhigh := isHigh_of_mem_caseRuns (Array.mem_of_find?_eq_some hfind)
          have hcovers := Array.find?_some hfind
          have hle := CaseRun.le_toNat_of_covers hhigh hcovers
          omega
      · exact List.mem_singleton.mp h

/-- Digits and separators are in the small form of a text only if they are in the text. -/
theorem mem_of_mem_lowerChars (h : c ∈ lowerChars s) (hc : c.toNat < 0x61) : c ∈ s := by
  have hafter : ∀ before, c ∈ lowerAfter before s → c ∈ s := by
    clear h
    induction s with
    | nil => simp [lowerAfter]
    | cons d rest ih =>
        intro before h
        rcases List.mem_append.mp h with h | h
        · split at h
          · have hhigh : ∀ e ∈ ['ς', 'σ'], 0x61 ≤ e.toNat := by simp
            have hsigma : c ∈ ['ς', 'σ'] := by
              split at h <;> simp [List.mem_singleton.mp h]
            exact absurd (hhigh c hsigma) (by omega)
          · rw [eq_of_mem_lowerChar h hc]
            exact List.mem_cons_self
        · exact List.mem_cons_of_mem _ (ih _ h)
  exact hafter [] h

theorem Utf8.encodeChar_of_ascii (h : isAscii c = true) :
    encodeChar c = [UInt8.ofNat c.toNat] := by
  rw [encodeChar]
  simp [isAscii_iff.mp h]

theorem Utf8.encode_of_ascii (h : allAscii s = true) :
    encode s = s.map fun c ↦ UInt8.ofNat c.toNat := by
  induction s with
  | nil => rfl
  | cons c rest ih =>
      obtain ⟨hc, hrest⟩ : isAscii c = true ∧ allAscii rest = true := by
        simpa [allAscii] using h
      simp [encodeChar_of_ascii hc, ih hrest]

namespace Charset

theorem fits_of_ascii {k : Charset} {n : Nat} (hn : k.limit = some n) (h : isAscii c = true) :
    c.toNat < n := by
  have hc := isAscii_iff.mp h
  cases k with
  | ascii =>
      obtain rfl := Option.some.inj hn
      exact hc
  | utf8 => simp [limit] at hn
  | latin1 =>
      obtain rfl := Option.some.inj hn
      omega

theorem encode_of_ascii (k : Charset) (h : allAscii s = true) :
    k.encode s = .ok (Utf8.encode s) := by
  cases hn : k.limit with
  | none => simp [encode, hn]
  | some n =>
      have hfits : ∀ c ∈ s, decide (c.toNat < n) = true := by
        intro c hc
        exact decide_eq_true (fits_of_ascii hn (List.all_eq_true.mp h c hc))
      have hrest : (s ++ []).dropWhile (fun c : Char ↦ decide (c.toNat < n)) = [] :=
        List.dropWhile_append_of_pos hfits
      rw [List.append_nil] at hrest
      simp [encode, hn, hrest, Utf8.encode_of_ascii h]

theorem allAscii_of_encode {o : Octets} (h : Charset.ascii.encode s = .ok o) :
    allAscii s = true := by
  by_cases hrest : s.dropWhile (fun c ↦ decide (c.toNat < 0x80)) = []
  · have hall := List.any_dropWhile (p := fun c ↦ decide (c.toNat < 0x80)) (l := s)
    rw [hrest] at hall
    simpa [allAscii, isAscii] using hall
  · simp [encode, limit, hrest] at h

theorem decode?_of_ascii (k : Charset) (h : allAscii s = true) :
    k.decode? (Utf8.encode s) = some s := by
  have hoctet : ∀ c ∈ s, (UInt8.ofNat c.toNat).toNat = c.toNat := by
    intro c hc
    have hlt := isAscii_iff.mp (List.all_eq_true.mp h c hc)
    rw [UInt8.toNat_ofNat']
    omega
  have hread : (Utf8.encode s).map (fun b ↦ Char.ofNat b.toNat) = s := by
    rw [Utf8.encode_of_ascii h, List.map_map]
    refine (List.map_congr_left fun c hc ↦ ?_).trans (List.map_id s)
    simp [hoctet c hc]
  cases k with
  | ascii =>
      have hall : (Utf8.encode s).all (· < 0x80) = true := by
        rw [Utf8.encode_of_ascii h, List.all_map, List.all_eq_true]
        intro c hc
        have hlt := isAscii_iff.mp (List.all_eq_true.mp h c hc)
        simpa [UInt8.lt_iff_toNat_lt, hoctet c hc] using hlt
      rw [decode?, if_pos hall, hread]
  | utf8 => exact Utf8.decode?_encode s
  | latin1 => rw [decode?, hread]

end Charset

end SecureExchange.Text
