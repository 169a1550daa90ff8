import SecureExchange.Address.Form
import SecureExchange.Proofs.Address.Ascii

/-!
# Form-encoded pairs that are read back

A text is read back from its percent escapes if the percent sign is among what is escaped
(`Percent.decode_encodeWith`). In a form everything is escaped that divides it, so that any list of
pairs is read back from the query that it is written as (`decode_encode`).
-/

namespace SecureExchange

open Text

namespace Text

namespace Percent

theorem decodeOctets_encodeOctet (b : UInt8) (rest : List Char) :
    decodeOctets (encodeOctet b ++ rest) = b :: decodeOctets rest := by
  have hdigits : hexDigits .capital 2 b.toNat
      = [hexDigit .capital (b.toNat / 16 % 16), hexDigit .capital (b.toNat % 16)] := rfl
  have hhigh := hexValue?_hexDigit .capital (Nat.mod_lt (b.toNat / 16) (by decide : 0 < 16))
  have hlow := hexValue?_hexDigit .capital (Nat.mod_lt b.toNat (by decide : 0 < 16))
  have hb : b.toNat < 256 := b.toNat_lt
  have hsum : 16 * (b.toNat / 16 % 16) + b.toNat % 16 = b.toNat := by omega
  rw [encodeOctet, hdigits]
  simp only [List.cons_append, List.nil_append, decodeOctets, hhigh, hlow, hsum, UInt8.ofNat_toNat]

theorem decodeOctets_encodeOctets (o : Octets) (rest : List Char) :
    decodeOctets (o.flatMap encodeOctet ++ rest) = o ++ decodeOctets rest := by
  induction o with
  | nil => rfl
  | cons b o ih =>
      rw [List.flatMap_cons, List.append_assoc, decodeOctets_encodeOctet, ih, List.cons_append]

theorem decodeOctets_cons {c : Char} (h : c ≠ '%') (rest : List Char) :
    decodeOctets (c :: rest) = Utf8.encodeChar c ++ decodeOctets rest := by
  rw [decodeOctets.eq_def]
  split
  · next heq => cases heq
  · next heq => exact absurd (List.cons.inj heq).1 h
  · next heq =>
      obtain ⟨rfl, rfl⟩ := List.cons.inj heq
      rfl

variable {keep : Char → Bool}

theorem decodeOctets_encodeWith (h : keep '%' = false) (s : List Char) :
    decodeOctets (encodeWith keep s) = Utf8.encode s := by
  induction s with
  | nil => rfl
  | cons c s ih =>
      have hcons : encodeWith keep (c :: s)
          = (if keep c then [c] else (Utf8.encodeChar c).flatMap encodeOctet)
            ++ encodeWith keep s := rfl
      rw [hcons, Utf8.encode_cons]
      cases hkept : keep c with
      | true =>
          have hc : c ≠ '%' := by
            rintro rfl
            simp [h] at hkept
          rw [if_pos rfl, List.cons_append, decodeOctets_cons hc, List.nil_append, ih]
      | false => rw [if_neg Bool.false_ne_true, decodeOctets_encodeOctets, ih]

theorem decode_encodeWith (h : keep '%' = false) (s : List Char) :
    decode (encodeWith keep s) = s := by
  rw [decode, decodeOctets_encodeWith h, Utf8.decodeLossy_encode]

/-- What is not kept, and is neither a percent sign nor a digit, does not occur. -/
theorem not_mem_encodeWith {c : Char} (hkeep : keep c = false) (hpercent : c ≠ '%')
    (hdigits : ∀ d ∈ List.range 16, hexDigit .capital d ≠ c) (s : List Char) :
    c ∉ encodeWith keep s := by
  intro hc
  have hkept : ∀ c' ∈ s, keep c' = true → (c' != c) = true := by
    rintro c' - hkept
    simp only [bne_iff_ne]
    rintro rfl
    simp [hkeep] at hkept
  have hother := of_mem_encodeWith (p := (· != c)) hkept (by simpa using hpercent.symm)
    (by simpa using hdigits) hc
  simp at hother

end Percent

theorem pieces_append {d : Char} {s : List Char} (h : d ∉ s) (rest : List Char) :
    pieces d (s ++ d :: rest) = s :: pieces d rest := by
  induction s with
  | nil => simp [pieces]
  | cons x s ih =>
      simp only [List.mem_cons, not_or] at h
      have hx : (x == d) = false := by simpa using fun e ↦ h.1 e.symm
      simp [pieces, hx, ih h.2]

theorem pieces_join {d : Char} {parts : List (List Char)} (hne : parts ≠ [])
    (h : ∀ part ∈ parts, d ∉ part) : pieces d (join d parts) = parts := by
  induction parts with
  | nil => exact absurd rfl hne
  | cons part rest ih =>
      have hpart := h part List.mem_cons_self
      cases rest with
      | nil => exact pieces_of_not_mem hpart
      | cons q qs =>
          rw [join, pieces_append hpart, ih (List.cons_ne_nil q qs)]
          exact fun part hmem ↦ h part (List.mem_cons_of_mem _ hmem)

end Text

namespace Address.Form

theorem plusToSpace_spaceToPlus {s : List Char} (h : '+' ∉ s) :
    plusToSpace (spaceToPlus s) = s := by
  rw [plusToSpace, spaceToPlus, List.map_map]
  refine (List.map_congr_left fun c hc ↦ ?_).trans (List.map_id s)
  have hplus : c ≠ '+' := fun e ↦ h (e ▸ hc)
  by_cases hspace : c = ' ' <;> simp [hspace, hplus]

theorem decodeText_encodeText (s : List Char) : decodeText (encodeText s) = s := by
  have hplus : '+' ∉ Percent.encodeWith isKept s :=
    Percent.not_mem_encodeWith (by decide) (by decide) (by decide) s
  rw [decodeText, encodeText, plusToSpace_spaceToPlus hplus, Percent.decode_encodeWith (by decide)]

theorem not_mem_encodeText {c : Char} (hkeep : isKept c = false) (hplus : c ≠ '+')
    (hpercent : c ≠ '%') (hdigits : ∀ d ∈ List.range 16, hexDigit .capital d ≠ c)
    (s : List Char) : c ∉ encodeText s := by
  intro hc
  obtain ⟨c', hc', heq⟩ := List.mem_map.mp hc
  by_cases hspace : c' = ' '
  · rw [if_pos hspace] at heq
    exact hplus heq.symm
  · obtain rfl : c' = c := by rwa [if_neg hspace] at heq
    exact Percent.not_mem_encodeWith hkeep hpercent hdigits s hc'

theorem equals_not_mem_encodeText (s : List Char) : '=' ∉ encodeText s :=
  not_mem_encodeText (by decide) (by decide) (by decide) (by decide) s

theorem ampersand_not_mem_encodeText (s : List Char) : '&' ∉ encodeText s :=
  not_mem_encodeText (by decide) (by decide) (by decide) (by decide) s

theorem decodePair_encodePair (p : List Char × List Char) : decodePair (encodePair p) = p := by
  simp only [decodePair, encodePair, cut_append (equals_not_mem_encodeText p.1), Option.getD_some,
    decodeText_encodeText]

theorem ampersand_not_mem_encodePair (p : List Char × List Char) : '&' ∉ encodePair p := by
  simp [encodePair, ampersand_not_mem_encodeText]

/-- Every list of pairs is read back from the query that it is written as. -/
theorem decode_encode (pairs : List (List Char × List Char)) : decode (encode pairs) = pairs := by
  by_cases hnil : pairs = []
  · rw [hnil]
    rfl
  · have hpieces : pieces '&' (encode pairs) = pairs.map encodePair := by
      refine pieces_join (by simpa using hnil) fun part hpart ↦ ?_
      obtain ⟨p, -, rfl⟩ := List.mem_map.mp hpart
      exact ampersand_not_mem_encodePair p
    have hwritten : (pairs.map encodePair).filter (!·.isEmpty) = pairs.map encodePair := by
      rw [List.filter_eq_self]
      intro part hpart
      obtain ⟨p, -, rfl⟩ := List.mem_map.mp hpart
      simp [encodePair]
    rw [decode, hpieces, hwritten, List.map_map]
    exact (List.map_congr_left fun p _ ↦ decodePair_encodePair p).trans (List.map_id pairs)

end Address.Form

end SecureExchange
