import SecureExchange.Proofs.Exchange.FieldWrites
import SecureExchange.Proofs.Text.Words

/-!
# Reading names in small letters

A name is made small octet by octet before it is read. In each of the three character sets this
makes the ASCII letters of the text small and nothing else (`Charset.decode?_map_lowerOctet`), for
the octets of a character beyond ASCII are none of those of capitals, and what is not well-formed
stays so.
-/

namespace SecureExchange

open Text

theorem toNat_lowerOctet (b : UInt8) : (lowerOctet b).toNat
    = if 0x41 ≤ b.toNat ∧ b.toNat ≤ 0x5A then b.toNat + 0x20 else b.toNat := by
  have hlow : (0x41 : UInt8).toNat = 0x41 := rfl
  have hhigh : (0x5A : UInt8).toNat = 0x5A := rfl
  have hshift : (0x20 : UInt8).toNat = 0x20 := rfl
  unfold lowerOctet
  simp only [UInt8.le_iff_toNat_le, hlow, hhigh]
  split
  · rw [UInt8.toNat_add, hshift]
    omega
  · rfl

namespace Text

theorem ofNat_lowerOctet (b : UInt8) :
    Char.ofNat (lowerOctet b).toNat = lowerAscii (Char.ofNat b.toNat) := by
  have hlt := b.toNat_lt
  have hchar : (Char.ofNat b.toNat).toNat = b.toNat := toNat_ofNat_of_lt (by omega)
  rw [toNat_lowerOctet, lowerAscii, hchar]
  split <;> rfl

theorem lowerAscii_ofNat_of_le {n : Nat} (h : 0x80 ≤ n) :
    lowerAscii (Char.ofNat n) = Char.ofNat n := by
  refine if_neg fun hcapital ↦ ?_
  by_cases hvalid : n.isValidChar
  · rw [toNat_ofNat_of_valid hvalid] at hcapital
    omega
  · have hnone : Char.ofNat n = '\x00' := dif_neg hvalid
    rw [hnone] at hcapital
    exact absurd hcapital (by decide)

namespace Utf8

theorem follow_succ_eq_some {more bits low high n : Nat} {s : Octets}
    (h : (follow (more + 1) bits low high s).1 = some n) :
    ∃ b rest, low ≤ b ∧ b ≤ high ∧
      (follow more (bits * 64 + b % 64) 0x80 0xBF rest).1 = some n := by
  cases s with
  | nil => simp [follow] at h
  | cons b rest =>
      rw [follow] at h
      split at h
      · next hfits => exact ⟨b.toNat, rest, hfits.1, hfits.2, h⟩
      · simp at h

/-- What the octets that follow amount to is at least what was announced. -/
theorem le_of_follow {more bits low high n : Nat} {s : Octets}
    (h : (follow more bits low high s).1 = some n) : bits ≤ n := by
  induction more generalizing bits low high s with
  | zero => exact Nat.le_of_eq (Option.some.inj h)
  | succ more ih =>
      obtain ⟨_, _, _, _, hrest⟩ := follow_succ_eq_some h
      have hle := ih hrest
      omega

/-- Capitals do not continue a character, and neither do their small letters. -/
theorem follow_map_lowerOctet {low : Nat} (hlow : 0x80 ≤ low) (more bits high : Nat)
    (s : Octets) : follow more bits low high (s.map lowerOctet)
      = ((follow more bits low high s).1, (follow more bits low high s).2.map lowerOctet) := by
  induction more generalizing bits low high s with
  | zero => rfl
  | succ more ih =>
      cases s with
      | nil => rfl
      | cons b rest =>
          by_cases hfits : low ≤ b.toNat ∧ b.toNat ≤ high
          · have hsame : lowerOctet b = b := lowerOctet_of_le (by omega)
            simp only [List.map_cons, follow, hsame, if_pos hfits]
            exact ih (Nat.le_refl _) ..
          · have hsmall : ¬ (low ≤ (lowerOctet b).toNat ∧ (lowerOctet b).toNat ≤ high) := by
              rw [toNat_lowerOctet]
              split <;> omega
            simp only [List.map_cons, follow, if_neg hfits, if_neg hsmall]

/-- What an octet beyond ASCII announces is a character beyond ASCII. -/
structure Lead.IsBeyond (l : Lead) : Prop where
  low : 0x80 ≤ l.low
  high : l.high ≤ 0xBF
  least : l.more = 1 ∧ 2 ≤ l.bits ∨ 2 ≤ l.more ∧ 2 ≤ l.bits * 64 + l.low % 64

theorem isBeyond_of_lead? {b : UInt8} {l : Lead} (hb : 0x80 ≤ b.toNat) (h : lead? b = some l) :
    l.IsBeyond := by
  have hascii : ¬ b.toNat < 0x80 := by omega
  unfold lead? at h
  simp only [if_neg hascii] at h
  -- One case for each range of first octets, with what it announces.
  repeat' split at h
  all_goals
    first
    | contradiction
    | obtain rfl := Option.some.inj h
      exact ⟨by simp, by simp, by simp <;> omega⟩

theorem le_of_follow_of_isBeyond {l : Lead} {n : Nat} {s : Octets} (hl : l.IsBeyond)
    (h : (follow l.more l.bits l.low l.high s).1 = some n) : 0x80 ≤ n := by
  have hlow := hl.low
  have hhigh := hl.high
  rcases hl.least with ⟨hmore, hbits⟩ | ⟨hmore, hbits⟩
  · rw [hmore] at h
    obtain ⟨_, _, _, _, hrest⟩ := follow_succ_eq_some h
    have hle := le_of_follow hrest
    omega
  · obtain ⟨more, hmore⟩ : ∃ more, l.more = more + 2 := ⟨l.more - 2, by omega⟩
    rw [hmore] at h
    obtain ⟨_, _, hlower, hupper, hrest⟩ := follow_succ_eq_some h
    obtain ⟨_, _, _, _, hlast⟩ := follow_succ_eq_some hrest
    have hle := le_of_follow hlast
    omega

theorem lead?_of_lt {b : UInt8} (h : b.toNat < 0x80) :
    lead? b = some ⟨b.toNat, 0, 0x80, 0xBF⟩ := by
  simp [lead?, h]

theorem scan_map_lowerOctet (s : Octets) :
    scan (s.map lowerOctet) = (scan s).map (Option.map lowerAscii) := by
  induction s using scan.induct with
  | case1 => simp
  | case2 b rest hnone ih =>
      have hb : 0x80 ≤ b.toNat := by
        refine Nat.le_of_not_lt fun hlt ↦ ?_
        simp [lead?_of_lt hlt] at hnone
      rw [List.map_cons, lowerOctet_of_le hb, scan, scan]
      simp [hnone, ih]
  | case3 b rest l hlead ih =>
      by_cases hb : b.toNat < 0x80
      · have hsmall : (lowerOctet b).toNat < 0x80 := by
          rw [toNat_lowerOctet]
          split <;> omega
        obtain rfl := Option.some.inj ((lead?_of_lt hb).symm.trans hlead)
        have hrest : scan (rest.map lowerOctet) = (scan rest).map (Option.map lowerAscii) := ih
        rw [List.map_cons, scan_of_lead (lead?_of_lt hsmall), scan_of_lead hlead]
        simp [follow, ofNat_lowerOctet, hrest]
      · have hl := isBeyond_of_lead? (Nat.le_of_not_lt hb) hlead
        have hfirst : ((follow l.more l.bits l.low l.high rest).1.map Char.ofNat).map lowerAscii
            = (follow l.more l.bits l.low l.high rest).1.map Char.ofNat := by
          cases hread : (follow l.more l.bits l.low l.high rest).1 with
          | none => rfl
          | some n =>
              exact congrArg some (lowerAscii_ofNat_of_le (le_of_follow_of_isBeyond hl hread))
        rw [List.map_cons, lowerOctet_of_le (Nat.le_of_not_lt hb), scan_of_lead hlead,
          scan_of_lead hlead, follow_map_lowerOctet hl.low, ih, List.map_cons, hfirst]

theorem mapM_id_map (f : Char → Char) (l : List (Option Char)) :
    (l.map (Option.map f)).mapM id = (l.mapM id).map (·.map f) := by
  induction l with
  | nil => rfl
  | cons c rest ih =>
      cases c with
      | none => rfl
      | some c => cases hrest : rest.mapM id <;> simp_all [List.mapM_cons]

theorem decode?_map_lowerOctet (s : Octets) :
    decode? (s.map lowerOctet) = (decode? s).map (·.map lowerAscii) := by
  rw [decode?, decode?, scan_map_lowerOctet, mapM_id_map]

end Utf8

/-- A name that is made small octet by octet is read with its ASCII letters made small. -/
theorem Charset.decode?_map_lowerOctet (k : Charset) (s : Octets) :
    k.decode? (s.map lowerOctet) = (k.decode? s).map (·.map lowerAscii) := by
  have hread : (s.map lowerOctet).map (fun b ↦ Char.ofNat b.toNat)
      = (s.map fun b ↦ Char.ofNat b.toNat).map lowerAscii := by
    rw [List.map_map, List.map_map]
    exact List.map_congr_left fun b _ ↦ ofNat_lowerOctet b
  cases k with
  | utf8 => exact Utf8.decode?_map_lowerOctet s
  | latin1 => exact congrArg some hread
  | ascii =>
      have hfits : ((s.map lowerOctet).all (· < 0x80)) = s.all (· < 0x80) := by
        rw [List.all_map]
        congr 1
        funext b
        have hlimit : (0x80 : UInt8).toNat = 0x80 := rfl
        simp only [Function.comp, UInt8.lt_iff_toNat_lt, toNat_lowerOctet, hlimit,
          decide_eq_decide]
        split <;> omega
      simp only [decode?, hfits]
      split
      · exact congrArg some hread
      · rfl

/-! ### Small forms of names -/

/-- A text with its ASCII letters made small. -/
def smallAscii (s : String) : String := String.ofList (s.toList.map lowerAscii)

/-- The text holds no capitals but those of ASCII: making these small makes it small. -/
def IsPlain (s : String) : Prop := smallAscii s = lower s

instance (s : String) : Decidable (IsPlain s) := inferInstanceAs (Decidable (_ = _))

theorem isPlain_of_ascii {s : String} (h : allAscii s.toList = true) : IsPlain s := by
  rw [IsPlain, smallAscii, lower, lowerChars_of_ascii h]

theorem lower_smallAscii (s : String) : lower (smallAscii s) = lower s := by
  rw [lower, smallAscii, String.toList_ofList, lowerChars_map_lowerAscii_eq, lower]

theorem lower_lower (s : String) : lower (lower s) = lower s := by
  rw [lower, lower, String.toList_ofList, lowerChars_lowerChars]

/-- A text whose ASCII letters are made small meets another one made small exactly if both are the
same in small letters, and the first is plain. -/
theorem smallAscii_eq_lower_iff {s t : String} :
    smallAscii s = lower t ↔ lower s = lower t ∧ IsPlain s := by
  constructor
  · intro h
    have hsame : lower s = lower t := by
      calc lower s = lower (smallAscii s) := (lower_smallAscii s).symm
        _ = lower (lower t) := by rw [h]
        _ = lower t := lower_lower t
    exact ⟨hsame, h.trans hsame.symm⟩
  · rintro ⟨hsame, hplain⟩
    exact hplain.trans hsame

end Text

theorem readWith_key (k : Charset) (f : Field) :
    readWith k f.key = smallAscii (readWith k f.name) := by
  rw [readWith, readWith, smallAscii, Field.key, Charset.decode?_map_lowerOctet,
    String.toList_ofList]
  cases k.decode? f.name <;> rfl

end SecureExchange
