import SecureExchange.Exchange.Request
import SecureExchange.Proofs.Text.Ascii

/-!
# Fields that are written one after the other

Fields of one name, letter case aside, are the fields of one key. Writing texts leaves one field for
each name, and it is the last that was written (`fieldsOf_written`). Texts that were accepted are
stored in UTF-8 whatever character set had been settled (`Fields.set_eq_ok`).
-/

namespace SecureExchange

open Text Request

/-- The fields that a key finds. -/
def fieldsOf (key : Octets) (entries : List Field) : List Field :=
  entries.filter fun e ↦ decide (e.key = key)

section FieldsOf

variable {key : Octets} {f e : Field} {entries : List Field}

theorem fieldsOf_append (entries rest : List Field) :
    fieldsOf key (entries ++ rest) = fieldsOf key entries ++ fieldsOf key rest :=
  List.filter_append ..

theorem fieldsOf_eq_nil_iff : fieldsOf key entries = [] ↔ ∀ e ∈ entries, e.key ≠ key := by
  simp [fieldsOf, List.filter_eq_nil_iff]

theorem fieldsOf_of_not_hasField (h : hasField key entries = false) :
    fieldsOf key entries = [] := by
  simpa [fieldsOf_eq_nil_iff, hasField] using h

theorem hasField_of_fieldsOf (h : fieldsOf key entries ≠ []) : hasField key entries = true := by
  cases hfield : hasField key entries with
  | true => rfl
  | false => exact absurd (fieldsOf_of_not_hasField hfield) h

theorem fieldsOf_putField (key : Octets) (f : Field) (entries : List Field) :
    fieldsOf key (putField f entries) = if f.key = key then [f] else fieldsOf key entries := by
  induction entries with
  | nil => by_cases hf : f.key = key <;> simp [putField, fieldsOf, hf]
  | cons e rest ih =>
      by_cases he : e.key = f.key
      · have hdropped : fieldsOf f.key (rest.filter fun e' ↦ decide (e'.key ≠ f.key)) = [] := by
          simp [fieldsOf_eq_nil_iff]
        by_cases hf : f.key = key
        · subst hf
          have hcons : fieldsOf f.key (f :: rest.filter fun e' ↦ decide (e'.key ≠ f.key))
              = [f] ++ fieldsOf f.key (rest.filter fun e' ↦ decide (e'.key ≠ f.key)) := by
            simp [fieldsOf]
          rw [putField, if_pos he, if_pos rfl, hcons, hdropped, List.append_nil]
        · have hkept : ∀ e' : Field,
              (decide (e'.key = key) && decide (e'.key ≠ f.key)) = decide (e'.key = key) := by
            intro e'
            by_cases h : e'.key = key
            · simp [h, Ne.symm hf]
            · simp [h]
          have hother : e.key ≠ key := fun h ↦ hf (he.symm.trans h)
          rw [putField, if_pos he, if_neg hf]
          simp only [fieldsOf, List.filter_cons, List.filter_filter, hkept, hf, hother]
          simp
      · rw [putField, if_neg he]
        by_cases hother : e.key = key
        · have hf : f.key ≠ key := fun h ↦ he (hother.trans h.symm)
          rw [if_neg hf] at ih ⊢
          simpa [fieldsOf, List.filter_cons, hother] using ih
        · simpa [fieldsOf, List.filter_cons, hother] using ih

theorem mem_putField (h : e ∈ putField f entries) : e = f ∨ e ∈ entries := by
  induction entries with
  | nil => exact .inl (List.mem_singleton.mp h)
  | cons e' rest ih =>
      unfold putField at h
      split at h
      · rcases List.mem_cons.mp h with rfl | hrest
        · exact .inl rfl
        · exact .inr (List.mem_cons_of_mem _ (List.mem_filter.mp hrest).1)
      · rcases List.mem_cons.mp h with rfl | hrest
        · exact .inr List.mem_cons_self
        · exact (ih hrest).imp_right (List.mem_cons_of_mem _)

end FieldsOf

/-! ### Names -/

theorem lowerOctet_of_le {b : UInt8} (h : 0x80 ≤ b.toNat) : lowerOctet b = b := by
  refine if_neg fun hrange ↦ ?_
  have hle := UInt8.le_iff_toNat_le.mp hrange.2
  have hcapital : (0x5A : UInt8).toNat = 0x5A := rfl
  omega

theorem lowerOctet_of_ascii {c : Char} (h : isAscii c = true) :
    lowerOctet (UInt8.ofNat c.toNat) = UInt8.ofNat (lowerAscii c).toNat := by
  have hc := isAscii_iff.mp h
  have hoctet : (UInt8.ofNat c.toNat).toNat = c.toNat := by
    rw [UInt8.toNat_ofNat']
    omega
  have hlow : (0x41 : UInt8).toNat = 0x41 := rfl
  have hhigh : (0x5A : UInt8).toNat = 0x5A := rfl
  rw [toNat_lowerAscii, lowerOctet]
  simp only [UInt8.le_iff_toNat_le, hoctet, hlow, hhigh]
  split
  · rw [UInt8.ofNat_add]
    rfl
  · rfl

theorem le_of_mem_encodeChar {c : Char} (h : isAscii c = false) {b : UInt8}
    (hb : b ∈ Utf8.encodeChar c) : 0x80 ≤ b.toNat := by
  have hc : ¬ c.toNat < 0x80 := by simpa [isAscii] using h
  have hvalid : c.toNat < 0xD800 ∨ 0xDFFF < c.toNat ∧ c.toNat < 0x110000 := c.valid
  have hcontinuation : ∀ n, 0x80 ≤ (Utf8.continuation n).toNat := by
    intro n
    rw [Utf8.toNat_continuation]
    omega
  have hlead : ∀ n, 0x80 ≤ n → n < 0x100 → 0x80 ≤ (UInt8.ofNat n).toNat := by
    intro n hlow hhigh
    rw [UInt8.toNat_ofNat']
    omega
  unfold Utf8.encodeChar at hb
  rw [if_neg hc] at hb
  by_cases h₂ : c.toNat < 0x800
  · rw [if_pos h₂] at hb
    simp only [List.mem_cons, List.not_mem_nil, or_false] at hb
    rcases hb with rfl | rfl
    · exact hlead _ (by omega) (by omega)
    · exact hcontinuation _
  · rw [if_neg h₂] at hb
    by_cases h₃ : c.toNat < 0x10000
    · rw [if_pos h₃] at hb
      simp only [List.mem_cons, List.not_mem_nil, or_false] at hb
      rcases hb with rfl | rfl | rfl
      · exact hlead _ (by omega) (by omega)
      · exact hcontinuation _
      · exact hcontinuation _
    · rw [if_neg h₃] at hb
      simp only [List.mem_cons, List.not_mem_nil, or_false] at hb
      rcases hb with rfl | rfl | rfl | rfl
      · exact hlead _ (by omega) (by omega)
      · exact hcontinuation _
      · exact hcontinuation _
      · exact hcontinuation _

theorem map_lowerOctet_encodeChar (c : Char) :
    (Utf8.encodeChar c).map lowerOctet = Utf8.encodeChar (lowerAscii c) := by
  cases h : isAscii c with
  | true =>
      rw [Utf8.encodeChar_of_ascii h, Utf8.encodeChar_of_ascii (by rw [isAscii_lowerAscii, h]),
        List.map_singleton, lowerOctet_of_ascii h]
  | false =>
      have hsame : lowerAscii c = c := by
        have hc : ¬ c.toNat < 0x80 := by simpa [isAscii] using h
        exact if_neg (by omega)
      rw [hsame]
      exact (List.map_congr_left fun b hb ↦ lowerOctet_of_le (le_of_mem_encodeChar h hb)).trans
        (List.map_id _)

theorem map_lowerOctet_encode (s : List Char) :
    (Utf8.encode s).map lowerOctet = Utf8.encode (s.map lowerAscii) := by
  induction s with
  | nil => rfl
  | cons c rest ih => simp [map_lowerOctet_encodeChar, ih]

theorem Field.key_ofText (name value : String) :
    (Field.ofText name value).key = Utf8.encode (name.toList.map lowerAscii) :=
  map_lowerOctet_encode name.toList

/-- Two texts are one name, letter case aside. -/
def sameName (name other : String) : Bool :=
  decide (name.toList.map lowerAscii = other.toList.map lowerAscii)

theorem key_ofText_eq_iff {name other value : String} :
    (Field.ofText other value).key = accessKey name ↔ sameName name other = true := by
  rw [accessKey, Field.key_ofText, Field.key_ofText, sameName, decide_eq_true_eq]
  exact ⟨fun h ↦ (Utf8.encode_injective h).symm, fun h ↦ by rw [h]⟩

/-! ### Writes -/

/-- What is left after texts were written one after the other. -/
def written (writes : List (String × String)) : List Field :=
  writes.foldl (fun entries w ↦ putField (.ofText w.1 w.2) entries) []

/-- The last write of a name, letter case aside. -/
def lastWrite? (name : String) (writes : List (String × String)) : Option (String × String) :=
  (writes.filter fun w ↦ sameName name w.1).getLast?

@[simp] theorem written_concat (writes : List (String × String)) (w : String × String) :
    written (writes ++ [w]) = putField (.ofText w.1 w.2) (written writes) := by
  simp [written]

/-- One field is left for each name that was written, and it is the last one. -/
theorem fieldsOf_written (name : String) (writes : List (String × String)) :
    fieldsOf (accessKey name) (written writes)
      = ((lastWrite? name writes).map fun w ↦ Field.ofText w.1 w.2).toList := by
  -- Along the writes from the last one back, since the last one decides.
  rw [← List.reverse_reverse writes]
  induction writes.reverse with
  | nil => rfl
  | cons w rest ih =>
      rw [List.reverse_cons, written_concat, fieldsOf_putField, lastWrite?, List.filter_append]
      cases hname : sameName name w.1 with
      | true => simp [key_ofText_eq_iff.mpr hname, hname]
      | false =>
          have hkey : (Field.ofText w.1 w.2).key ≠ accessKey name := by
            simp [key_ofText_eq_iff, hname]
          simp [hkey, hname, ih, lastWrite?]

theorem mem_written {f : Field} {writes : List (String × String)} (h : f ∈ written writes) :
    ∃ w ∈ writes, f = .ofText w.1 w.2 := by
  have hreversed : ∀ rest : List (String × String), f ∈ written rest.reverse →
      ∃ w ∈ rest, f = .ofText w.1 w.2 := by
    intro rest hf
    induction rest with
    | nil => simp [written] at hf
    | cons w rest ih =>
        rw [List.reverse_cons, written_concat] at hf
        rcases mem_putField hf with hlast | hbefore
        · exact ⟨w, List.mem_cons_self, hlast⟩
        · obtain ⟨w', hw', heq⟩ := ih hbefore
          exact ⟨w', List.mem_cons_of_mem w hw', heq⟩
  obtain ⟨w, hw, heq⟩ := hreversed writes.reverse (by rwa [List.reverse_reverse])
  exact ⟨w, List.mem_reverse.mp hw, heq⟩

/-- What was written is read in ASCII or in UTF-8. -/
theorem charsetOf_written (writes : List (String × String)) :
    charsetOf (written writes) ≠ .latin1 := by
  have hfits : (written writes).all (fun e ↦ (Charset.utf8.decode? e.name).isSome
      && (Charset.utf8.decode? e.value).isSome) = true := by
    rw [List.all_eq_true]
    intro e he
    obtain ⟨w, _, rfl⟩ := mem_written he
    simp [Field.ofText, Charset.decode?, Utf8.decode?_encode]
  simp only [charsetOf, if_pos hfits]
  split <;> simp

namespace Fields

/-- The entries are what texts leave that were written in UTF-8. -/
structure HoldsWrites (h : Fields) (writes : List (String × String)) : Prop where
  entries : h.entries = written writes
  charset : h.charset ≠ some .latin1

theorem holdsWrites_empty : empty.HoldsWrites [] := ⟨rfl, by simp [empty]⟩

theorem encode_eq_ok {k : Charset} (hk : k ≠ .latin1) {s : List Char} {o : Octets}
    (h : k.encode s = .ok o) : o = Utf8.encode s := by
  cases k with
  | ascii =>
      have hascii := Charset.encode_of_ascii .ascii (Charset.allAscii_of_encode h)
      exact Except.ok.inj (h.symm.trans hascii)
  | utf8 => exact (Except.ok.inj h).symm
  | latin1 => exact absurd rfl hk

theorem set_eq_ok {h fields : Fields} {name value : String} (hk : h.charset ≠ some .latin1)
    (hset : h.set name value = .ok fields) :
    fields = { h with entries := putField (.ofText name value) h.entries } := by
  have hk' : h.charset.getD .utf8 ≠ .latin1 := by
    cases hc : h.charset with
    | none => simp
    | some k => simpa [hc] using hk
  unfold set at hset
  dsimp only at hset
  split at hset
  · simp at hset
  · simp at hset
  · next n v hn hv =>
      rw [encode_eq_ok hk' hn, encode_eq_ok hk' hv] at hset
      exact (Except.ok.inj hset).symm

theorem HoldsWrites.set {h fields : Fields} {writes : List (String × String)}
    {name value : String} (hwrites : h.HoldsWrites writes)
    (hset : h.set name value = .ok fields) : fields.HoldsWrites (writes ++ [(name, value)]) := by
  obtain rfl := set_eq_ok hwrites.charset hset
  refine ⟨?_, hwrites.charset⟩
  rw [written_concat, hwrites.entries]

theorem HoldsWrites.settled {h : Fields} {writes : List (String × String)}
    (hwrites : h.HoldsWrites writes) : h.settled.HoldsWrites writes := by
  refine ⟨?_, ?_⟩
  · rw [entries_settled, hwrites.entries]
  · unfold Fields.settled
    split
    · exact hwrites.charset
    · simp only [readingCharset, ne_eq, Option.some.injEq]
      cases hc : h.charset with
      | none =>
          rw [hwrites.entries]
          exact charsetOf_written writes
      | some k => simpa [hc] using hwrites.charset

end Fields

end SecureExchange
