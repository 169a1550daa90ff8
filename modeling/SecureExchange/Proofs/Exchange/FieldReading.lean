import SecureExchange.Proofs.Exchange.Listing

/-!
# Reading fields settles how they are written

Texts that were accepted are stored in UTF-8, so what is read does not depend on the character set
that an earlier reading has settled (`Fields.ReadAlike`). What can be written does: fields that were
read in ASCII are narrow, and take nothing but ASCII texts from then on.
-/

namespace SecureExchange

open Text

namespace Text.Charset

theorem allAscii_of_decode? {s : List Char}
    (h : (Charset.ascii.decode? (Utf8.encode s)).isSome = true) : allAscii s = true := by
  have hoctets : ∀ b ∈ Utf8.encode s, b < 0x80 := by
    cases hall : (Utf8.encode s).all (· < 0x80) with
    | true => simpa using hall
    | false => simp [decode?, hall] at h
  rw [allAscii, List.all_eq_true]
  intro c hc
  cases hascii : isAscii c with
  | true => rfl
  | false =>
      have hne : Utf8.encodeChar c ≠ [] := by
        unfold Utf8.encodeChar
        dsimp only
        repeat' split
        all_goals simp
      obtain ⟨b, hb⟩ := List.exists_mem_of_ne_nil _ hne
      have hle := le_of_mem_encodeChar hascii hb
      have hlt := UInt8.lt_iff_toNat_lt.mp (hoctets b (List.mem_flatMap.mpr ⟨c, hc, hb⟩))
      have hlimit : (0x80 : UInt8).toNat = 0x80 := rfl
      omega

end Text.Charset

/-- Name and value are ASCII texts. -/
def Field.IsAscii (f : Field) : Prop :=
  ∃ name value : String, allAscii name.toList = true ∧ allAscii value.toList = true ∧
    f = .ofText name value

section Reading

variable {entries : List Field} {f : Field}

theorem Field.IsAscii.asciiNamed (h : f.IsAscii) : f.AsciiNamed := by
  obtain ⟨name, value, hname, _, rfl⟩ := h
  exact Field.asciiNamed_ofText hname value

theorem Field.IsAscii.readWith_key (h : f.IsAscii) (k k' : Charset) :
    readWith k f.key = readWith k' f.key := by
  obtain ⟨name, value, hname, _, rfl⟩ := h
  have hsmall := allAscii_map_lowerAscii hname
  rw [Field.key_ofText, readWith, readWith, Charset.decode?_of_ascii k hsmall,
    Charset.decode?_of_ascii k' hsmall]

theorem Field.IsAscii.readWith_value (h : f.IsAscii) (k k' : Charset) :
    readWith k f.value = readWith k' f.value := by
  obtain ⟨name, value, _, hvalue, rfl⟩ := h
  rw [Field.ofText, readWith, readWith, Charset.decode?_of_ascii k hvalue,
    Charset.decode?_of_ascii k' hvalue]

theorem readFields_of_isAscii (h : ∀ e ∈ entries, e.IsAscii) (k k' : Charset) :
    readFields k entries = readFields k' entries := by
  refine List.map_congr_left fun e he ↦ ?_
  rw [(h e he).readWith_key k k', (h e he).readWith_value k k']

theorem findField?_of_isAscii (h : ∀ e ∈ entries, e.IsAscii) (hf : f ∈ entries)
    (k k' : Charset) :
    findField? k (readWith k f.key) entries = findField? k' (readWith k f.key) entries := by
  have hencode := (h f hf).asciiNamed.encode_listed k
  have hencode' := (h f hf).asciiNamed.encode_listed k'
  rw [(h f hf).readWith_key k' k] at hencode'
  have hvalues : ∀ e ∈ entries, readWith k e.value = readWith k' e.value :=
    fun e he ↦ (h e he).readWith_value k k'
  have hfound : (entries.filter fun e ↦ decide (e.key = f.key)).map (readWith k ·.value)
      = (entries.filter fun e ↦ decide (e.key = f.key)).map (readWith k' ·.value) :=
    List.map_congr_left fun e he ↦ hvalues e (List.mem_filter.mp he).1
  simp only [findField?, hencode, hencode']
  generalize entries.filter (fun e ↦ decide (e.key = f.key)) = found at hfound
  cases found with
  | nil => rfl
  | cons e rest => simp only [hfound]

theorem listFields_of_isAscii (h : ∀ e ∈ entries, e.IsAscii) (k k' : Charset) :
    listFields k entries = listFields k' entries := by
  have hnames : ∀ names : List String,
      (∀ name ∈ names, findField? k name entries = findField? k' name entries) →
      lookUpAll k entries names = lookUpAll k' entries names := by
    intro names hsame
    induction names with
    | nil => rfl
    | cons name rest ih =>
        rw [lookUpAll, lookUpAll, hsame name List.mem_cons_self,
          ih fun n hn ↦ hsame n (List.mem_cons_of_mem _ hn)]
  rw [listFields, listFields, readFields_of_isAscii h k' k]
  refine hnames _ fun name hname ↦ ?_
  obtain ⟨e, he, rfl⟩ := exists_of_mem_listed hname
  exact findField?_of_isAscii h he k k'

end Reading

namespace Fields

/-- Fields as writing texts and reading them leave them. -/
structure Kept (h : Fields) : Prop where
  written : ∃ writes, h.HoldsWrites writes
  ascii : h.charset = some .ascii → ∀ e ∈ h.entries, e.IsAscii

/-- Fields that hold the same. Different character sets may have been settled for them, unless the
comparison is strict. -/
structure ReadAlike (strict : Prop) (h h' : Fields) : Prop where
  left : h.Kept
  right : h'.Kept
  entries : h'.entries = h.entries
  charset : strict → h'.charset = h.charset

/-- Only ASCII texts can be set. -/
def isNarrow (h : Fields) : Bool := decide (h.charset = some .ascii)

/-- The character set in which texts are written. -/
def writingCharset (h : Fields) : Charset := h.charset.getD .utf8

variable {strict : Prop} {h h' fields : Fields} {name value : String}

/-! ### Reading -/

theorem kept_empty : empty.Kept := ⟨⟨[], holdsWrites_empty⟩, by simp [empty]⟩

theorem Kept.isAscii_of_reading (hkept : h.Kept) (hk : h.readingCharset = .ascii) :
    ∀ e ∈ h.entries, e.IsAscii := by
  cases hc : h.charset with
  | some k =>
      obtain rfl : k = .ascii := by simpa [readingCharset, hc] using hk
      exact hkept.ascii hc
  | none =>
      have hascii : charsetOf h.entries = .ascii := by simpa [readingCharset, hc] using hk
      obtain ⟨writes, hwrites⟩ := hkept.written
      intro e he
      have hfits : (Charset.ascii.decode? e.name).isSome = true ∧
          (Charset.ascii.decode? e.value).isSome = true := by
        unfold charsetOf at hascii
        dsimp only at hascii
        split at hascii
        · next hall => simpa using List.all_eq_true.mp hall e he
        · split at hascii <;> simp at hascii
      obtain ⟨w, _, rfl⟩ := mem_written (hwrites.entries ▸ he)
      exact ⟨w.1, w.2, Charset.allAscii_of_decode? hfits.1, Charset.allAscii_of_decode? hfits.2,
        rfl⟩

theorem Kept.reading_ne_latin1 (hkept : h.Kept) : h.readingCharset ≠ .latin1 := by
  obtain ⟨writes, hwrites⟩ := hkept.written
  cases hc : h.charset with
  | some k =>
      have hk := hwrites.charset
      simpa [readingCharset, hc] using hk
  | none =>
      have hentries := charsetOf_written writes
      simpa [readingCharset, hc, hwrites.entries] using hentries

theorem Kept.settled (hkept : h.Kept) : h.settled.Kept := by
  obtain ⟨writes, hwrites⟩ := hkept.written
  refine ⟨⟨writes, hwrites.settled⟩, ?_⟩
  rw [entries_settled]
  unfold Fields.settled
  split
  · exact hkept.ascii
  · intro hk
    exact hkept.isAscii_of_reading (Option.some.inj hk)

namespace ReadAlike

/-- What depends on no character set where fields are ASCII is the same for both. -/
theorem reading {α : Type} (hread : h.ReadAlike strict h') {p : Charset → α}
    (hp : (∀ e ∈ h.entries, e.IsAscii) → ∀ k k', p k = p k') :
    p h'.readingCharset = p h.readingCharset := by
  have hright := hread.right.isAscii_of_reading
  rw [hread.entries] at hright
  have hleft := hread.left.isAscii_of_reading
  have hne := hread.left.reading_ne_latin1
  have hne' := hread.right.reading_ne_latin1
  cases hk : h.readingCharset with
  | ascii => exact hp (hleft hk) _ _
  | latin1 => exact absurd hk hne
  | utf8 =>
      cases hk' : h'.readingCharset with
      | ascii => exact hp (hright hk') _ _
      | latin1 => exact absurd hk' hne'
      | utf8 => rfl

theorem texts (hread : h.ReadAlike strict h') : h'.texts = h.texts := by
  have hsame := hread.reading (p := fun k ↦ joinValues (readFields k h.entries))
    fun hascii k k' ↦ by rw [readFields_of_isAscii hascii k k']
  rw [Fields.texts, Fields.texts, hread.entries]
  exact hsame

theorem listed (hread : h.ReadAlike strict h') :
    listFields h'.readingCharset h'.entries = listFields h.readingCharset h.entries := by
  rw [hread.entries]
  exact hread.reading fun hascii ↦ listFields_of_isAscii hascii

theorem settled (hread : h.ReadAlike strict h') : h.settled.ReadAlike strict h'.settled where
  left := hread.left.settled
  right := hread.right.settled
  entries := by rw [entries_settled, entries_settled, hread.entries]
  charset hstrict := by
    have hsame : h' = h := by
      obtain ⟨entries, charset⟩ := h
      obtain ⟨entries', charset'⟩ := h'
      rw [show entries' = entries from hread.entries,
        show charset' = charset from hread.charset hstrict]
    rw [hsame]

theorem settled_right (hread : h.ReadAlike strict h') (hstrict : ¬ strict) :
    h.ReadAlike strict h'.settled :=
  ⟨hread.left, hread.right.settled, by rw [entries_settled, hread.entries],
    fun hs ↦ absurd hs hstrict⟩

end ReadAlike

/-! ### Writing -/

theorem Kept.writingCharset_eq (hkept : h.Kept) :
    h.writingCharset = if h.isNarrow then .ascii else .utf8 := by
  obtain ⟨writes, hwrites⟩ := hkept.written
  have hk := hwrites.charset
  unfold writingCharset isNarrow
  rcases hc : h.charset with _ | _ | _ | _
  · rfl
  · rfl
  · rfl
  · exact absurd hc hk

theorem set_eq (h : Fields) (name value : String) : h.set name value =
    match h.writingCharset.encode name.toList, h.writingCharset.encode value.toList with
    | .error e, _ => .error e
    | .ok _, .error e => .error e
    | .ok n, .ok v => .ok { h with entries := putField ⟨n, v⟩ h.entries } := rfl

theorem allAscii_of_set (hk : h.writingCharset = .ascii) (hset : h.set name value = .ok fields) :
    allAscii name.toList = true ∧ allAscii value.toList = true := by
  rw [set_eq, hk] at hset
  split at hset
  · simp at hset
  · simp at hset
  · next n v hn hv => exact ⟨Charset.allAscii_of_encode hn, Charset.allAscii_of_encode hv⟩

theorem Kept.set (hkept : h.Kept) (hset : h.set name value = .ok fields) : fields.Kept := by
  obtain ⟨writes, hwrites⟩ := hkept.written
  refine ⟨⟨_, hwrites.set hset⟩, ?_⟩
  rw [set_eq_ok hwrites.charset hset]
  intro hc e he
  rcases mem_putField he with rfl | he
  · have hk : h.writingCharset = .ascii := by
      rw [writingCharset, show h.charset = _ from hc]
      rfl
    obtain ⟨hname, hvalue⟩ := allAscii_of_set hk hset
    exact ⟨name, value, hname, hvalue, rfl⟩
  · exact hkept.ascii hc e he

/-- Texts beyond ASCII are refused by narrow fields, and by no others. -/
theorem Kept.set_isOk_iff (hkept : h.Kept)
    (hbeyond : (allAscii name.toList && allAscii value.toList) = false) :
    (∃ fields, h.set name value = .ok fields) ↔ h.isNarrow = false := by
  have hk := hkept.writingCharset_eq
  cases hnarrow : h.isNarrow with
  | false =>
      rw [hnarrow] at hk
      simp [set_eq, hk, Charset.encode_utf8]
  | true =>
      rw [hnarrow] at hk
      refine iff_of_false ?_ (by simp)
      rintro ⟨fields, hset⟩
      obtain ⟨hname, hvalue⟩ := allAscii_of_set hk hset
      simp [hname, hvalue] at hbeyond

theorem ReadAlike.set (hread : h.ReadAlike strict h')
    (hnarrow : (allAscii name.toList && allAscii value.toList) = true ∨ h'.isNarrow = h.isNarrow) :
    (∃ e, h.set name value = .error e ∧ h'.set name value = .error e) ∨
      ∃ fields fields', h.set name value = .ok fields ∧ h'.set name value = .ok fields' ∧
        fields.ReadAlike strict fields' := by
  have hencode : h'.writingCharset.encode name.toList = h.writingCharset.encode name.toList ∧
      h'.writingCharset.encode value.toList = h.writingCharset.encode value.toList := by
    rcases hnarrow with hascii | hsame
    · obtain ⟨hname, hvalue⟩ := Bool.and_eq_true_iff.mp hascii
      constructor
      · rw [Charset.encode_of_ascii _ hname, Charset.encode_of_ascii _ hname]
      · rw [Charset.encode_of_ascii _ hvalue, Charset.encode_of_ascii _ hvalue]
    · rw [hread.left.writingCharset_eq, hread.right.writingCharset_eq, hsame]
      exact ⟨rfl, rfl⟩
  rw [set_eq, set_eq, hencode.1, hencode.2]
  cases hn : h.writingCharset.encode name.toList with
  | error e => exact .inl ⟨e, rfl, rfl⟩
  | ok n =>
      cases hv : h.writingCharset.encode value.toList with
      | error e => exact .inl ⟨e, rfl, rfl⟩
      | ok v =>
          have hset : h.set name value
              = .ok { h with entries := putField ⟨n, v⟩ h.entries } := by
            rw [set_eq, hn, hv]
          have hset' : h'.set name value
              = .ok { h' with entries := putField ⟨n, v⟩ h'.entries } := by
            rw [set_eq, hencode.1, hencode.2, hn, hv]
          refine .inr ⟨_, _, rfl, rfl, hread.left.set hset, hread.right.set hset', ?_,
            hread.charset⟩
          rw [hread.entries]

end Fields

end SecureExchange
