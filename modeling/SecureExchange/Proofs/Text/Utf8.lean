import SecureExchange.Text.Utf8

/-!
# Reading what was written in UTF-8

Every text is read back from its octets, so no two texts have the same octets. The scan of a
character's octets is followed one form after the other, from one octet to four.
-/

namespace SecureExchange.Text.Utf8

theorem toNat_continuation (n : Nat) : (continuation n).toNat = 0x80 + n % 64 := by
  simp only [continuation, UInt8.toNat_ofNat']
  omega

theorem continuation_le (n : Nat) : 0x80 + n % 64 ≤ 0xBF := by omega

theorem scan_of_lead {b : UInt8} {l : Lead} (h : lead? b = some l) (rest : Octets) :
    scan (b :: rest) = (follow l.more l.bits l.low l.high rest).1.map Char.ofNat
      :: scan (follow l.more l.bits l.low l.high rest).2 := by
  rw [scan]
  simp [h]

theorem follow_continuation {more bits low high n : Nat} (hlow : low ≤ 0x80 + n % 64)
    (hhigh : 0x80 + n % 64 ≤ high) (rest : Octets) :
    follow (more + 1) bits low high (continuation n :: rest)
      = follow more (bits * 64 + n % 64) 0x80 0xBF rest := by
  have hmod : (0x80 + n % 64) % 64 = n % 64 := by omega
  simp [follow, toNat_continuation, hlow, hhigh, hmod]

theorem lead?_one {n : Nat} (h : n < 0x80) :
    lead? (UInt8.ofNat n) = some ⟨n, 0, 0x80, 0xBF⟩ := by
  have hn : (UInt8.ofNat n).toNat = n := by
    rw [UInt8.toNat_ofNat']
    omega
  simp [lead?, hn, h]

theorem lead?_two {n : Nat} (hlow : 0x80 ≤ n) (hhigh : n < 0x800) :
    lead? (UInt8.ofNat (0xC0 + n / 64)) = some ⟨n / 64, 1, 0x80, 0xBF⟩ := by
  have hn : (UInt8.ofNat (0xC0 + n / 64)).toNat = 0xC0 + n / 64 := by
    rw [UInt8.toNat_ofNat']
    omega
  have h₁ : ¬ 0xC0 + n / 64 < 0x80 := by omega
  have h₂ : ¬ 0xC0 + n / 64 < 0xC2 := by omega
  have h₃ : 0xC0 + n / 64 < 0xE0 := by omega
  simp only [lead?, hn, if_neg h₁, if_neg h₂, if_pos h₃]
  simp

/-- The octet after the first of three is in the range that the first one announces. -/
theorem lead?_three {n : Nat} (hlow : 0x800 ≤ n) (hhigh : n < 0x10000)
    (hvalid : n < 0xD800 ∨ 0xDFFF < n) :
    ∃ low high, low ≤ 0x80 + n / 64 % 64 ∧ 0x80 + n / 64 % 64 ≤ high ∧
      lead? (UInt8.ofNat (0xE0 + n / 4096)) = some ⟨n / 4096, 2, low, high⟩ := by
  have hn : (UInt8.ofNat (0xE0 + n / 4096)).toNat = 0xE0 + n / 4096 := by
    rw [UInt8.toNat_ofNat']
    omega
  have h₁ : ¬ 0xE0 + n / 4096 < 0x80 := by omega
  have h₂ : ¬ 0xE0 + n / 4096 < 0xC2 := by omega
  have h₃ : ¬ 0xE0 + n / 4096 < 0xE0 := by omega
  have h₄ : 0xE0 + n / 4096 < 0xF0 := by omega
  by_cases hfirst : n / 4096 = 0
  · refine ⟨0xA0, 0xBF, by omega, by omega, ?_⟩
    simp only [lead?, hn, if_neg h₁, if_neg h₂, if_neg h₃]
    simp [hfirst]
  · by_cases hsurrogate : n / 4096 = 0xD
    · refine ⟨0x80, 0x9F, by omega, by omega, ?_⟩
      simp only [lead?, hn, if_neg h₁, if_neg h₂, if_neg h₃]
      simp [hsurrogate]
    · refine ⟨0x80, 0xBF, by omega, by omega, ?_⟩
      have h₅ : ¬ 0xE0 + n / 4096 = 0xE0 := by omega
      have h₆ : ¬ 0xE0 + n / 4096 = 0xED := by omega
      simp only [lead?, hn, if_neg h₁, if_neg h₂, if_neg h₃, if_neg h₅, if_neg h₆, if_pos h₄]
      simp

theorem lead?_four {n : Nat} (hlow : 0x10000 ≤ n) (hhigh : n < 0x110000) :
    ∃ low high, low ≤ 0x80 + n / 4096 % 64 ∧ 0x80 + n / 4096 % 64 ≤ high ∧
      lead? (UInt8.ofNat (0xF0 + n / 262144)) = some ⟨n / 262144, 3, low, high⟩ := by
  have hn : (UInt8.ofNat (0xF0 + n / 262144)).toNat = 0xF0 + n / 262144 := by
    rw [UInt8.toNat_ofNat']
    omega
  have h₁ : ¬ 0xF0 + n / 262144 < 0x80 := by omega
  have h₂ : ¬ 0xF0 + n / 262144 < 0xC2 := by omega
  have h₃ : ¬ 0xF0 + n / 262144 < 0xE0 := by omega
  have h₄ : ¬ 0xF0 + n / 262144 = 0xE0 := by omega
  have h₅ : ¬ 0xF0 + n / 262144 = 0xED := by omega
  have h₆ : ¬ 0xF0 + n / 262144 < 0xF0 := by omega
  by_cases hfirst : n / 262144 = 0
  · refine ⟨0x90, 0xBF, by omega, by omega, ?_⟩
    simp only [lead?, hn, if_neg h₁, if_neg h₂, if_neg h₃, if_neg h₄, if_neg h₅, if_neg h₆]
    simp [hfirst]
  · by_cases hlast : n / 262144 = 4
    · refine ⟨0x80, 0x8F, by omega, by omega, ?_⟩
      simp only [lead?, hn, if_neg h₁, if_neg h₂, if_neg h₃, if_neg h₄, if_neg h₅, if_neg h₆]
      simp [hlast]
    · refine ⟨0x80, 0xBF, by omega, by omega, ?_⟩
      have h₇ : ¬ 0xF0 + n / 262144 = 0xF0 := by omega
      have h₈ : 0xF0 + n / 262144 < 0xF4 := by omega
      simp only [lead?, hn, if_neg h₁, if_neg h₂, if_neg h₃, if_neg h₄, if_neg h₅, if_neg h₆,
        if_neg h₇, if_pos h₈]
      simp

theorem scan_encodeChar (c : Char) (rest : Octets) :
    scan (encodeChar c ++ rest) = some c :: scan rest := by
  have hread : ∀ m, m = c.toNat → Char.ofNat m = c := by
    rintro m rfl
    exact Char.ofNat_toNat c
  have hvalid : c.toNat < 0xD800 ∨ 0xDFFF < c.toNat ∧ c.toNat < 0x110000 := c.valid
  unfold encodeChar
  by_cases h₁ : c.toNat < 0x80
  · rw [if_pos h₁, List.cons_append, scan_of_lead (lead?_one h₁)]
    simp [follow]
  · by_cases h₂ : c.toNat < 0x800
    · rw [if_neg h₁, if_pos h₂, List.cons_append,
        scan_of_lead (lead?_two (Nat.le_of_not_lt h₁) h₂), List.cons_append,
        follow_continuation (Nat.le_add_right ..) (continuation_le _)]
      have hsum := hread (c.toNat / 64 * 64 + c.toNat % 64) (by omega)
      simp [follow, hsum]
    · by_cases h₃ : c.toNat < 0x10000
      · obtain ⟨low, high, hlow, hhigh, hlead⟩ :=
          lead?_three (Nat.le_of_not_lt h₂) h₃ (hvalid.imp_right And.left)
        rw [if_neg h₁, if_neg h₂, if_pos h₃, List.cons_append, scan_of_lead hlead,
          List.cons_append, follow_continuation hlow hhigh, List.cons_append,
          follow_continuation (Nat.le_add_right ..) (continuation_le _)]
        have hsum := hread ((c.toNat / 4096 * 64 + c.toNat / 64 % 64) * 64 + c.toNat % 64)
          (by omega)
        simp [follow, hsum]
      · obtain ⟨low, high, hlow, hhigh, hlead⟩ :=
          lead?_four (Nat.le_of_not_lt h₃) (by omega)
        rw [if_neg h₁, if_neg h₂, if_neg h₃, List.cons_append, scan_of_lead hlead,
          List.cons_append, follow_continuation hlow hhigh, List.cons_append,
          follow_continuation (Nat.le_add_right ..) (continuation_le _), List.cons_append,
          follow_continuation (Nat.le_add_right ..) (continuation_le _)]
        have hsum := hread (((c.toNat / 262144 * 64 + c.toNat / 4096 % 64) * 64
          + c.toNat / 64 % 64) * 64 + c.toNat % 64) (by omega)
        simp [follow, hsum]

theorem scan_encode (s : List Char) : scan (encode s) = s.map some := by
  induction s with
  | nil => exact scan_nil
  | cons c rest ih => rw [encode_cons, scan_encodeChar, ih, List.map_cons]

theorem decode?_encode (s : List Char) : decode? (encode s) = some s := by
  rw [decode?, scan_encode]
  induction s with
  | nil => rfl
  | cons c rest ih => simp [List.mapM_cons, ih]

theorem decodeLossy_encode (s : List Char) : decodeLossy (encode s) = s := by
  rw [decodeLossy, scan_encode, List.map_map]
  exact List.map_id s

theorem encode_injective {s t : List Char} (h : encode s = encode t) : s = t := by
  have hread := congrArg decode? h
  simpa only [decode?_encode, Option.some.injEq] using hread

end SecureExchange.Text.Utf8
