import Mathlib.Data.List.Basic
import SecureExchange.Address.Target
import SecureExchange.Proofs.Text.Ascii

/-!
# What host names and escaped texts are made of

Texts with percent escapes are made of ASCII characters. Host names in their ASCII form are made of
letters, digits, hyphens and dots (`isNameChar_of_encode`), and numeric addresses of digits, colons
and dots. The zone of a numeric address is not restricted (`isIpv6_zoned`).
-/

namespace SecureExchange

open Text

namespace Text

theorem allAscii_iff {s : List Char} : allAscii s = true ↔ ∀ c ∈ s, isAscii c = true :=
  List.all_eq_true

variable {p : Char → Bool} {s : List Char}

theorem hexDigit_lt_induction {k : HexCase} (hp : ∀ d ∈ List.range 16, p (hexDigit k d) = true)
    (n : Nat) : p (hexDigit k (n % 16)) = true :=
  hp _ (List.mem_range.mpr (Nat.mod_lt n (by decide)))

/-- An escaped text is made of what may stay as it is, percent signs and digits. -/
theorem Percent.of_mem_encodeWith {keep : Char → Bool}
    (hkeep : ∀ c ∈ s, keep c = true → p c = true)
    (hpercent : p '%' = true) (hdigits : ∀ d ∈ List.range 16, p (hexDigit .capital d) = true)
    {c : Char} (hc : c ∈ Percent.encodeWith keep s) : p c = true := by
  obtain ⟨c', hmem, hc⟩ := List.mem_flatMap.mp hc
  cases hkept : keep c' with
  | true =>
      rw [if_pos hkept] at hc
      rw [List.mem_singleton.mp hc]
      exact hkeep c' hmem hkept
  | false =>
      rw [if_neg (by simp [hkept])] at hc
      obtain ⟨b, _, hc⟩ := List.mem_flatMap.mp hc
      have hpieces : c = '%' ∨ c = hexDigit .capital (b.toNat / 16 % 16)
          ∨ c = hexDigit .capital (b.toNat % 16) := by
        simpa [Percent.encodeOctet, hexDigits] using hc
      rcases hpieces with rfl | rfl | rfl
      · exact hpercent
      · exact hexDigit_lt_induction hdigits _
      · exact hexDigit_lt_induction hdigits _

theorem of_mem_join {d : Char} (hd : p d = true) {parts : List (List Char)}
    (hparts : ∀ part ∈ parts, ∀ c ∈ part, p c = true) {c : Char} (hc : c ∈ join d parts) :
    p c = true := by
  induction parts with
  | nil => simp [join] at hc
  | cons part rest ih =>
      have hfirst := hparts part List.mem_cons_self
      have hrest : ∀ q ∈ rest, ∀ c ∈ q, p c = true :=
        fun q hq ↦ hparts q (List.mem_cons_of_mem _ hq)
      cases rest with
      | nil => exact hfirst c hc
      | cons q qs =>
          rcases List.mem_append.mp hc with hc | hc
          · exact hfirst c hc
          · rcases List.mem_cons.mp hc with rfl | hc
            · exact hd
            · exact ih hrest hc

theorem pieces_of_not_mem {d : Char} (h : d ∉ s) : pieces d s = [s] := by
  induction s with
  | nil => rfl
  | cons x rest ih =>
      simp only [List.mem_cons, not_or] at h
      have hx : (x == d) = false := by simpa using fun e ↦ h.1 e.symm
      simp [pieces, hx, ih h.2]

end Text

namespace Address

/-! ### Host names -/

namespace Punycode

variable {p : Char → Bool} {s : List Nat}

theorem of_mem_encodeNumber (hdigits : ∀ d ∈ List.range 36, p (digit d) = true)
    {bias place n : Nat} {c : Char} (hc : c ∈ encodeNumber bias place n) : p c = true := by
  induction place, n using encodeNumber.induct bias with
  | case1 place n t hlt =>
      rw [encodeNumber, if_pos hlt] at hc
      obtain rfl := List.mem_singleton.mp hc
      have hle : t ≤ 26 := threshold_le place bias
      exact hdigits _ (List.mem_range.mpr (by omega))
  | case2 place n t hlt ih =>
      rw [encodeNumber, if_neg hlt] at hc
      have hle : t ≤ 26 := threshold_le place bias
      have hmod : (n - t) % (36 - t) < 36 - t := Nat.mod_lt _ (by omega)
      rcases List.mem_cons.mp hc with rfl | hc
      · have hlt : t + (n - t) % (36 - t) < 36 := by omega
        exact hdigits _ (List.mem_range.mpr hlt)
      · exact ih hc

theorem of_mem_out (hdigits : ∀ d ∈ List.range 36, p (digit d) = true) {basic : Nat}
    (values : List Nat) {n : Nat} {w : Writer} (hw : ∀ c ∈ w.out, p c = true) :
    ∀ c ∈ (Writer.insertAll s basic values n w).out, p c = true := by
  have hpass : ∀ (w : Writer) (m c : Nat), (∀ c ∈ w.out, p c = true) →
      ∀ d ∈ (w.pass basic m c).out, p d = true := by
    intro w m c hw d hd
    unfold Writer.pass at hd
    split at hd
    · exact hw d hd
    · split at hd
      · rcases List.mem_append.mp hd with hd | hd
        · exact hw d hd
        · exact of_mem_encodeNumber hdigits hd
      · exact hw d hd
  have hpasses : ∀ (l : List Nat) (m : Nat) (w : Writer), (∀ c ∈ w.out, p c = true) →
      ∀ d ∈ (l.foldl (fun w c ↦ w.pass basic m c) w).out, p d = true := by
    intro l m
    induction l with
    | nil => exact fun w hw ↦ hw
    | cons c rest ih => exact fun w hw ↦ ih _ (hpass w m c hw)
  induction values generalizing n w with
  | nil => exact hw
  | cons m rest ih => exact ih (hpasses s m _ hw)

/-- An encoded text is made of its own ASCII characters, digits and a hyphen. -/
theorem of_mem_encode (hdigits : ∀ d ∈ List.range 36, p (digit d) = true)
    (hhyphen : p '-' = true) (hbasic : ∀ n ∈ s, n < 0x80 → p (Char.ofNat n) = true) {c : Char}
    (hc : c ∈ encode s) : p c = true := by
  refine of_mem_out hdigits _ ?_ c hc
  dsimp only
  split
  · simp
  · intro d hd
    rcases List.mem_append.mp hd with hd | hd
    · obtain ⟨m, hm, rfl⟩ := List.mem_map.mp hd
      obtain ⟨hm, hlt⟩ := List.mem_filter.mp hm
      exact hbasic m hm (by simpa using hlt)
    · rwa [List.mem_singleton.mp hd]

end Punycode

namespace HostName

/-- The characters that labels are written in. -/
def isLabelChar (c : Char) : Bool := c.isAlphanum || c == '-'

/-- A range that lies beyond ASCII, or holds the hyphen, the digits or the small letters. -/
def isLabelRange (r : Nat × Nat) : Bool :=
  decide (0x80 ≤ r.1) || r == (0x2D, 0x2D) || r == (0x30, 0x39) || r == (0x61, 0x7A)

theorem isLabelRange_of_mem_permitted {r : Nat × Nat} (h : r ∈ permitted.ranges) :
    isLabelRange r = true := by
  have hall : permitted.ranges.toList.all isLabelRange = true := by decide +kernel
  exact List.all_eq_true.mp hall r (Array.mem_toList_iff.mpr h)

theorem isLabelChar_of_permitted {c : Char} (hc : isAscii c = true)
    (h : permitted.contains c = true) : isLabelChar c = true := by
  obtain ⟨r, hr, hfirst, hlast⟩ := CharClass.contains_iff.mp h
  have hall : ∀ n ∈ [0x2D] ++ List.range' 0x30 10 ++ List.range' 0x61 26,
      isLabelChar (Char.ofNat n) = true := by decide
  have hcode : c.toNat ∈ [0x2D] ++ List.range' 0x30 10 ++ List.range' 0x61 26 := by
    have hlt := isAscii_iff.mp hc
    simp only [List.mem_append, List.mem_singleton, List.mem_range'_1]
    have hrange := isLabelRange_of_mem_permitted hr
    simp only [isLabelRange, Bool.or_eq_true, decide_eq_true_eq, beq_iff_eq] at hrange
    rcases hrange with ((hbeyond | rfl) | rfl) | rfl
    · omega
    · dsimp only at hfirst hlast
      omega
    · dsimp only at hfirst hlast
      omega
    · dsimp only at hfirst hlast
      omega
  have hlabel := hall c.toNat hcode
  rwa [Char.ofNat_toNat] at hlabel

theorem isAscii_of_isJoiner {c : Char} (h : isJoiner c = true) : isAscii c = false := by
  simp only [isJoiner, Bool.or_eq_true, beq_iff_eq] at h
  rcases h with rfl | rfl <;> rfl

theorem isAscii_of_isContextual {c : Char} (h : isContextual c = true) : isAscii c = false := by
  simp only [isContextual, isArabicDigit, isExtendedArabicDigit, Bool.or_eq_true,
    Bool.and_eq_true, beq_iff_eq, decide_eq_true_eq] at h
  rcases h with (((((rfl | rfl) | rfl) | rfl) | rfl) | h) | h
  · rfl
  · rfl
  · rfl
  · rfl
  · rfl
  · simp only [isAscii, decide_eq_false_iff_not]
    omega
  · simp only [isAscii, decide_eq_false_iff_not]
    omega

theorem isLabelChar_of_checkCharacters {label before after : List Char}
    (h : checkCharacters label before after = .ok ()) :
    ∀ c ∈ after, isAscii c = true → isLabelChar c = true := by
  induction after generalizing before with
  | nil => simp
  | cons c after ih =>
      -- the first character is permitted, or beyond ASCII
      have hrest : checkCharacters label (c :: before) after = .ok () ∧
          (permitted.contains c = true ∨ isAscii c = false) := by
        rw [checkCharacters] at h
        split at h
        · next hpermitted => exact ⟨h, .inl hpermitted⟩
        · split at h
          · next hjoiner =>
              split at h
              · exact ⟨h, .inr (isAscii_of_isJoiner hjoiner)⟩
              · cases h
              · cases h
          · split at h
            · next hcontextual =>
                split at h
                · exact ⟨h, .inr (isAscii_of_isContextual hcontextual)⟩
                · cases h
            · cases h
      intro d hd hascii
      rcases List.mem_cons.mp hd with rfl | hd
      · rcases hrest.2 with hpermitted | hbeyond
        · exact isLabelChar_of_permitted hascii hpermitted
        · simp [hascii] at hbeyond
      · exact ih hrest.1 d hd hascii

theorem isLabelChar_of_checkLabel {label : List Char} (h : checkLabel label = .ok ()) :
    ∀ c ∈ label, isAscii c = true → isLabelChar c = true := by
  unfold checkLabel at h
  split at h
  · cases h
  split at h
  · cases h
  split at h
  · cases h
  split at h
  · cases h
  split at h
  · cases h
  split at h
  · cases h
  split at h
  · cases h
  · next hcheck => exact isLabelChar_of_checkCharacters hcheck

theorem isLabelChar_of_labelOfCodes {codes : List Nat} {label : List Char}
    (h : labelOfCodes codes = .ok label) :
    ∀ n ∈ codes, n < 0x80 → isLabelChar (Char.ofNat n) = true := by
  intro n hn hlt
  have hcheck : checkLabel (codes.map charOfCode) = .ok () := by
    unfold labelOfCodes at h
    dsimp only at h
    split at h
    · cases h
    · next hcheck => exact hcheck
  have hchar : charOfCode n = Char.ofNat n := if_pos (.inl (by omega))
  refine isLabelChar_of_checkLabel hcheck _ ?_ ?_
  · exact List.mem_map.mpr ⟨n, hn, hchar⟩
  · rw [isAscii_iff, toNat_ofNat_of_lt (by omega)]
    exact hlt

theorem isLabelChar_of_mem_encode {codes : List Nat} {label : List Char}
    (h : labelOfCodes codes = .ok label) {c : Char} (hc : c ∈ Punycode.encode codes) :
    isLabelChar c = true :=
  Punycode.of_mem_encode (by decide) (by decide) (isLabelChar_of_labelOfCodes h) hc

theorem isLabelChar_of_lowerAscii {c : Char} (hc : isAscii c = true)
    (h : isLabelChar (lowerAscii c) = true) : isLabelChar c = true := by
  have himplies : (!isLabelChar (lowerAscii c) || isLabelChar c) = true :=
    of_isAscii (p := fun c ↦ !isLabelChar (lowerAscii c) || isLabelChar c) (by decide +kernel) hc
  simpa [h] using himplies

theorem isLabelChar_of_decodeLabel {label read : List Char} (hascii : allAscii label = true)
    (h : decodeLabel label = .ok read) : ∀ c ∈ label, isLabelChar c = true := by
  have hsmall : ∀ c ∈ label.map lowerAscii, isLabelChar c = true := by
    unfold decodeLabel at h
    dsimp only at h
    split at h
    · cases h
    split at h
    · next hencoded =>
        obtain ⟨body, hbody⟩ := List.isPrefixOf_iff_prefix.mp hencoded
        rw [← hbody, List.drop_left] at h
        unfold decodeBody at h
        split at h
        · cases h
        split at h
        · cases h
        split at h
        · cases h
        · split at h
          · next codes _ hcanonical =>
              intro c hc
              rw [← hbody] at hc
              rcases List.mem_append.mp hc with hc | hc
              · have hall : encodedStart.all isLabelChar = true := by decide
                exact List.all_eq_true.mp hall c hc
              · rw [← hcanonical] at hc
                exact isLabelChar_of_mem_encode h hc
          · cases h
    · intro c hc
      have hcode := isLabelChar_of_labelOfCodes h c.toNat (List.mem_map_of_mem hc)
        (isAscii_iff.mp (allAscii_iff.mp (allAscii_map_lowerAscii hascii) c hc))
      rwa [Char.ofNat_toNat] at hcode
  intro c hc
  exact isLabelChar_of_lowerAscii (allAscii_iff.mp hascii c hc) (hsmall _ (List.mem_map_of_mem hc))

theorem charOfCode_toNat (c : Char) : charOfCode c.toNat = c := by
  have hvalid : c.toNat.isValidChar := c.valid
  rw [charOfCode, if_pos hvalid, Char.ofNat_toNat]

theorem eq_of_checked {label read : List Char} (h : checked label = .ok read) : read = label := by
  unfold checked labelOfCodes at h
  dsimp only at h
  split at h
  · cases h
  · rw [← Except.ok.inj h, List.map_map]
    exact (List.map_congr_left fun c _ ↦ charOfCode_toNat c).trans (List.map_id label)

theorem isLabelChar_of_encodeLabel {label name : List Char} (h : encodeLabel label = .ok name) :
    ∀ c ∈ name, isLabelChar c = true := by
  unfold encodeLabel at h
  split at h
  · next hascii =>
      split at h
      · cases h
      · next hread =>
          split at h
          · obtain rfl := Except.ok.inj h
            exact isLabelChar_of_decodeLabel hascii hread
          · cases h
  · split at h
    · cases h
    · next hchecked =>
        obtain rfl := eq_of_checked hchecked
        dsimp only at h
        split at h
        · obtain rfl := Except.ok.inj h
          intro c hc
          rcases List.mem_append.mp hc with hc | hc
          · have hall : encodedStart.all isLabelChar = true := by decide
            exact List.all_eq_true.mp hall c hc
          · exact isLabelChar_of_mem_encode hchecked hc
        · cases h

section Labels

variable {p : Char → Bool} {f : List Char → Except Fault (List Char)}

theorem of_mem_mapLabels (hf : ∀ {l name}, f l = .ok name → ∀ c ∈ name, p c = true)
    {ls ls' : List (List Char)} (h : mapLabels f ls = .ok ls') :
    ∀ l ∈ ls', ∀ c ∈ l, p c = true := by
  induction ls generalizing ls' with
  | nil =>
      obtain rfl := Except.ok.inj h
      simp
  | cons l rest ih =>
      unfold mapLabels at h
      split at h
      · cases h
      · cases h
      · next l' _ hl =>
          cases hrest : mapLabels f rest with
          | error e => simp [hrest, Except.map] at h
          | ok rest' =>
              rw [hrest] at h
              obtain rfl := Except.ok.inj h
              intro q hq
              rcases List.mem_cons.mp hq with rfl | hq
              · exact hf hl
              · exact ih hrest q hq

/-- A converted name is made of converted labels and dots. -/
theorem of_mem_convert (hf : ∀ {l name}, f l = .ok name → ∀ c ∈ name, p c = true)
    (hdot : p '.' = true) {s name : List Char} (h : convert f s = .ok name) :
    ∀ c ∈ name, p c = true := by
  unfold convert at h
  split at h
  · cases h
  · split at h
    · cases h
    · cases hmap : mapLabels f (labels s).1 with
      | error e => simp [hmap, Except.map] at h
      | ok ls =>
          simp only [hmap, Except.map, Except.ok.injEq] at h
          rw [← h]
          intro c hc
          have hls := of_mem_mapLabels hf hmap
          refine of_mem_join hdot ?_ hc
          intro part hpart c hc
          split at hpart
          · rcases List.mem_append.mp hpart with hpart | hpart
            · exact hls part hpart c hc
            · obtain rfl := List.mem_singleton.mp hpart
              simp at hc
          · exact hls part hpart c hc

end Labels

/-- Letters, digits, hyphens and dots. -/
def isNameChar (c : Char) : Bool := isLabelChar c || c == '.'

theorem isNameChar_of_encode {s name : List Char} (h : encode s = .ok name) :
    ∀ c ∈ name, isNameChar c = true := by
  unfold encode at h
  split at h
  · cases h
  · next hconvert =>
      have hname := of_mem_convert (p := isNameChar)
        (fun hl c hc ↦ by simp [isNameChar, isLabelChar_of_encodeLabel hl c hc]) (by decide)
        hconvert
      split at h
      all_goals
        split at h
        · obtain rfl := Except.ok.inj h
          exact hname
        · cases h

end HostName

/-! ### Numeric addresses -/

/-- Hexadecimal digits, colons and dots. -/
def isAddressChar (c : Char) : Bool := isHexDigit c || c == ':' || c == '.'

theorem isHexDigit_of_isAsciiDigit {c : Char} (h : isAsciiDigit c = true) :
    isHexDigit c = true := by
  simp only [isAsciiDigit, Bool.and_eq_true, decide_eq_true_eq] at h
  simp [isHexDigit, hexValue?, h]

theorem isAscii_of_isAddressChar {c : Char} (h : isAddressChar c = true) : isAscii c = true := by
  simp only [isAddressChar, Bool.or_eq_true, beq_iff_eq] at h
  rcases h with (h | rfl) | rfl
  · unfold isHexDigit hexValue? at h
    rw [isAscii_iff]
    dsimp only at h
    split at h
    · omega
    · split at h
      · omega
      · split at h
        · omega
        · simp at h
  · rfl
  · rfl

/-- A text is made of what its pieces are made of, and what parts them. -/
theorem of_mem_pieces {p : Char → Bool} {d : Char} (hd : p d = true) {s : List Char}
    (h : ∀ part ∈ pieces d s, ∀ c ∈ part, p c = true) : ∀ c ∈ s, p c = true := by
  intro c hc
  rw [← join_pieces d s] at hc
  exact of_mem_join hd h hc

/-- An address of version 4 is made of digits and dots. -/
theorem of_mem_isIpv4 {p : Char → Bool} (hdigit : ∀ c, isAsciiDigit c = true → p c = true)
    (hdot : p '.' = true) {s : List Char} (h : isIpv4 s = true) : ∀ c ∈ s, p c = true := by
  simp only [isIpv4, Bool.and_eq_true, List.all_eq_true] at h
  refine of_mem_pieces hdot fun part hpart c hc ↦ ?_
  have hoctet := h.2 part hpart
  simp only [isOctetText, Bool.and_eq_true, List.all_eq_true] at hoctet
  exact hdigit c (hoctet.1.1.1.2 c hc)

theorem isAddressChar_of_isIpv4 {s : List Char} (h : isIpv4 s = true) :
    ∀ c ∈ s, isAddressChar c = true :=
  of_mem_isIpv4 (fun _ hc ↦ by simp [isAddressChar, isHexDigit_of_isAsciiDigit hc]) (by decide) h

theorem isAddressChar_of_isGroupText {s : List Char} (h : isGroupText s = true) :
    ∀ c ∈ s, isAddressChar c = true := by
  simp only [isGroupText, Bool.and_eq_true, List.all_eq_true] at h
  exact fun c hc ↦ by simp [isAddressChar, h.1.2 c hc]

theorem isAddressChar_of_mem_beside {groups : List (List Char)}
    (h : ∀ g ∈ beside groups, isGroupText g = true) :
    ∀ g ∈ groups, ∀ c ∈ g, isAddressChar c = true := by
  intro g hg
  unfold beside at h
  split at h
  · next hempty =>
      rw [eq_of_beq hempty] at hg
      simp [List.mem_singleton.mp hg]
  · exact isAddressChar_of_isGroupText (h g hg)

/-- All groups are made of such characters, the empty one of a gap included. -/
theorem isAddressChar_of_areGroups {groups : List (List Char)} (h : areGroups groups = true) :
    ∀ g ∈ groups, ∀ c ∈ g, isAddressChar c = true := by
  unfold areGroups at h
  split at h
  · simp only [Bool.and_eq_true, List.all_eq_true] at h
    exact fun g hg ↦ isAddressChar_of_isGroupText (h.2 g hg)
  · next i hgap =>
      obtain ⟨hi, hempty, _⟩ := List.findIdx?_eq_some_iff_getElem.mp hgap
      simp only [Bool.and_eq_true, List.all_eq_true, List.mem_append] at h
      have hbefore := isAddressChar_of_mem_beside fun g hg ↦ h.2 g (.inl hg)
      have hafter := isAddressChar_of_mem_beside fun g hg ↦ h.2 g (.inr hg)
      have hlt : i + 1 < groups.length := by
        rw [List.length_dropLast, List.length_tail] at hi
        omega
      have hgapped : groups[i + 1] = [] := by
        rw [List.getElem_dropLast, List.getElem_tail] at hempty
        exact List.isEmpty_iff.mp hempty
      have hsplit : groups = groups.take (i + 1) ++ [] :: groups.drop (i + 2) := by
        rw [← hgapped, List.getElem_cons_drop, List.take_append_drop]
      intro g hg
      rw [hsplit] at hg
      rcases List.mem_append.mp hg with hg | hg
      · exact hbefore g hg
      · rcases List.mem_cons.mp hg with rfl | hg
        · simp
        · exact hafter g hg

theorem isAddressChar_of_expandIpv4 {groups expanded : List (List Char)}
    (h : expandIpv4 groups = some expanded)
    (hexpanded : ∀ g ∈ expanded, ∀ c ∈ g, isAddressChar c = true) :
    ∀ g ∈ groups, ∀ c ∈ g, isAddressChar c = true := by
  unfold expandIpv4 at h
  split at h
  · obtain rfl := Option.some.inj h
    exact hexpanded
  · next last hlast =>
      split at h
      · split at h
        · next hip =>
            obtain rfl := Option.some.inj h
            intro g hg
            rw [← List.dropLast_append_getLast? last hlast] at hg
            rcases List.mem_append.mp hg with hg | hg
            · exact hexpanded g (List.mem_append_left _ hg)
            · rw [List.mem_singleton.mp hg]
              exact isAddressChar_of_isIpv4 hip
        · cases h
      · obtain rfl := Option.some.inj h
        exact hexpanded

theorem mem_of_two_pieces {d : Char} {s : List Char} (h : 2 ≤ (pieces d s).length) : d ∈ s := by
  by_contra hnone
  rw [pieces_of_not_mem hnone] at h
  simp at h

/-- An address with a zone is read without it. -/
theorem isIpv6_zoned {address : List Char} (hfree : '%' ∉ address) (zone : List Char) :
    isIpv6 (address ++ '%' :: zone)
      = (!zone.isEmpty && !zone.contains '%' && isIpv6 address) := by
  have hplain : splitZone address = some address := by rw [splitZone, cut_of_not_mem hfree]
  have hzoned : splitZone (address ++ '%' :: zone)
      = if zone.isEmpty || zone.contains '%' then none else some address := by
    rw [splitZone, cut_append hfree]
  cases hrefused : zone.isEmpty || zone.contains '%' with
  | true =>
      rw [isIpv6, hzoned, if_pos hrefused, ← Bool.not_or, hrefused]
      rfl
  | false =>
      rw [isIpv6, hzoned, if_neg (by simpa using hrefused), ← Bool.not_or, hrefused, isIpv6,
        hplain]
      rfl

/-- An address of version 6 is written with colons and digits. -/
theorem isAddressChar_of_isIpv6 {s : List Char} (hfree : '%' ∉ s) (h : isIpv6 s = true) :
    ':' ∈ s ∧ ∀ c ∈ s, isAddressChar c = true := by
  rw [isIpv6, splitZone, cut_of_not_mem hfree] at h
  simp only [Bool.and_eq_true, decide_eq_true_eq] at h
  obtain ⟨hlength, hgroups⟩ := h
  refine ⟨mem_of_two_pieces (by omega), ?_⟩
  split at hgroups
  · next expanded hexpanded =>
      simp only [Bool.and_eq_true] at hgroups
      exact of_mem_pieces (d := ':') (by decide)
        (isAddressChar_of_expandIpv4 hexpanded (isAddressChar_of_areGroups hgroups.2))
  · cases hgroups

/-- An address of version 6 is a plain one, or a plain one with a zone behind it. -/
theorem isIpv6_cases {s : List Char} (h : isIpv6 s = true) :
    ('%' ∉ s ∧ ':' ∈ s ∧ ∀ c ∈ s, isAddressChar c = true) ∨
      ∃ address zone, s = address ++ '%' :: zone ∧ '%' ∉ address ∧ '%' ∉ zone ∧ ':' ∈ address ∧
        (∀ c ∈ address, isAddressChar c = true) ∧ isIpv6 address = true := by
  by_cases hzone : '%' ∈ s
  · obtain ⟨address, zone, rfl, hfree⟩ := List.eq_append_cons_of_mem hzone
    simp only [isIpv6_zoned hfree, Bool.and_eq_true, Bool.not_eq_true', List.contains_eq_mem,
      decide_eq_false_iff_not] at h
    obtain ⟨hcolon, hchars⟩ := isAddressChar_of_isIpv6 hfree h.2
    exact .inr ⟨address, zone, rfl, hfree, h.1.2, hcolon, hchars, h.2⟩
  · obtain ⟨hcolon, hchars⟩ := isAddressChar_of_isIpv6 hzone h
    exact .inl ⟨hzone, hcolon, hchars⟩

end Address

end SecureExchange
