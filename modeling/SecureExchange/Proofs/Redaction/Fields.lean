import Mathlib.Data.List.Forall2
import SecureExchange.Proofs.Exchange.Listing
import SecureExchange.Redaction.Fields

/-!
# Fields that are shown alike

Two lists of fields are shown alike if they have the same ASCII names, and the same ASCII values but
for those under sensitive names. Reading them, collecting the values of one name and joining these
keep that relation (`ShownAlike`), and redaction makes an equation of it. Whether a request can be
built depends on the names alone (`build_isOk_iff`).
-/

namespace SecureExchange

open Text

namespace Redaction

theorem isSensitiveKey_map_lowerAscii {name : List Char} (h : allAscii name = true) :
    isSensitiveKey (String.ofList (name.map lowerAscii)) = isSensitiveKey (String.ofList name) := by
  simp only [isSensitiveKey, String.toList_ofList, lowerChars_map_lowerAscii h,
    lowerChars_of_ascii h]

/-- The same key, and the same value unless the key is sensitive. -/
def ShownAlike {α : Type} (p q : String × α) : Prop :=
  q.1 = p.1 ∧ (isSensitiveKey p.1 = false → q.2 = p.2)

section Maps

variable {α β : Type} {k : String} {m m' : OrderedMap String α} {a a' : α}

theorem insert_shownAlike (hm : List.Forall₂ ShownAlike m m')
    (ha : isSensitiveKey k = false → a' = a) :
    List.Forall₂ ShownAlike (OrderedMap.insert k a m) (OrderedMap.insert k a' m') := by
  induction hm with
  | nil => exact .cons ⟨rfl, ha⟩ .nil
  | @cons p q m m' hp hm ih =>
      obtain ⟨key, value⟩ := p
      obtain ⟨key', value'⟩ := q
      obtain ⟨rfl, hvalue⟩ : key' = key ∧ (isSensitiveKey key = false → value' = value) := hp
      unfold OrderedMap.insert
      split
      · exact .cons ⟨rfl, ha⟩ hm
      · exact .cons ⟨rfl, hvalue⟩ ih

theorem get?_of_shownAlike (hm : List.Forall₂ ShownAlike m m') (hk : isSensitiveKey k = false) :
    OrderedMap.get? k m' = OrderedMap.get? k m := by
  induction hm with
  | nil => rfl
  | @cons p q m m' hp hm ih =>
      obtain ⟨key, value⟩ := p
      obtain ⟨key', value'⟩ := q
      obtain ⟨rfl, hvalue⟩ : key' = key ∧ (isSensitiveKey key = false → value' = value) := hp
      unfold OrderedMap.get?
      split
      · next heq => rw [hvalue (eq_of_beq heq ▸ hk)]
      · exact ih

theorem group_shownAlike {pairs pairs' : List (String × α)}
    (h : List.Forall₂ ShownAlike pairs pairs') :
    List.Forall₂ ShownAlike (OrderedMap.group pairs) (OrderedMap.group pairs') := by
  let collect (m : OrderedMap String (List α)) (p : String × α) : OrderedMap String (List α) :=
    OrderedMap.insert p.1 ((OrderedMap.get? p.1 m).getD [] ++ [p.2]) m
  have hstep : ∀ {pairs pairs' : List (String × α)}, List.Forall₂ ShownAlike pairs pairs' →
      ∀ {m m' : OrderedMap String (List α)}, List.Forall₂ ShownAlike m m' →
        List.Forall₂ ShownAlike (pairs.foldl collect m) (pairs'.foldl collect m') := by
    intro pairs pairs' h
    induction h with
    | nil => exact fun hm ↦ hm
    | @cons p q pairs pairs' hp _ ih =>
        intro m m' hm
        obtain ⟨key, value⟩ := p
        obtain ⟨key', value'⟩ := q
        obtain ⟨rfl, hvalue⟩ : key' = key ∧ (isSensitiveKey key = false → value' = value) := hp
        refine ih (insert_shownAlike hm fun hk ↦ ?_)
        dsimp only
        rw [get?_of_shownAlike hm hk, hvalue hk]
  exact hstep h .nil

theorem map_shownAlike (f : α → β) (hm : List.Forall₂ ShownAlike m m') :
    List.Forall₂ ShownAlike (m.map fun p ↦ (p.1, f p.2)) (m'.map fun p ↦ (p.1, f p.2)) := by
  rw [List.forall₂_map_left_iff, List.forall₂_map_right_iff]
  exact hm.imp fun p q hpq ↦ ⟨hpq.1, fun hk ↦ congrArg f (hpq.2 hk)⟩

/-- What is shown alike is the same once it has been redacted. -/
theorem fields_of_shownAlike {entries entries' : List (String × Datum)}
    (h : List.Forall₂ ShownAlike entries entries') :
    fields false entries' = fields false entries := by
  induction h with
  | nil => rfl
  | @cons p q _ _ hp _ ih =>
      obtain ⟨key, value⟩ := p
      obtain ⟨key', value'⟩ := q
      obtain ⟨rfl, hvalue⟩ : key' = key ∧ (isSensitiveKey key = false → value' = value) := hp
      cases hk : isSensitiveKey key' with
      | true => simp [fields, hk, ih]
      | false => simp [fields, ih, hvalue hk]

end Maps

end Redaction

open Redaction

inductive Field.Alike : Field → Field → Prop
  | ofText {name value value' : String} (hname : allAscii name.toList = true)
      (hvalue : allAscii value.toList = true) (hvalue' : allAscii value'.toList = true)
      (hshown : isSensitiveKey name = false → value' = value) :
      Alike (.ofText name value) (.ofText name value')

namespace Field.Alike

variable {e e' : Field} {k : Charset}

theorem key (h : Alike e e') : e'.key = e.key := by
  cases h
  rw [Field.key_ofText, Field.key_ofText]

theorem asciiNamed (h : Alike e e') : e.AsciiNamed ∧ e'.AsciiNamed := by
  cases h with
  | ofText hname => exact ⟨Field.asciiNamed_ofText hname _, Field.asciiNamed_ofText hname _⟩

/-- Both fields can be read in every character set, and are shown alike. -/
theorem read (h : Alike e e') (k : Charset) :
    ShownAlike (readWith k e.key, readWith k e.value) (readWith k e'.key, readWith k e'.value) := by
  refine ⟨by rw [h.key], ?_⟩
  cases h with
  | @ofText name value value' hname _ _ hshown =>
      intro hk
      have hkey : readWith k (Field.ofText name value).key
          = String.ofList (name.toList.map lowerAscii) := by
        rw [Field.key_ofText, readWith,
          Charset.decode?_of_ascii k (allAscii_map_lowerAscii hname)]
        rfl
      dsimp only at hk ⊢
      rw [hkey, isSensitiveKey_map_lowerAscii hname, String.ofList_toList] at hk
      rw [hshown hk]

end Field.Alike

theorem putField_alike {f f' : Field} {entries entries' : List Field} (hf : Field.Alike f f')
    (h : List.Forall₂ Field.Alike entries entries') :
    List.Forall₂ Field.Alike (putField f entries) (putField f' entries') := by
  have hfilter : ∀ {rest rest' : List Field}, List.Forall₂ Field.Alike rest rest' →
      List.Forall₂ Field.Alike (rest.filter fun e ↦ decide (e.key ≠ f.key))
        (rest'.filter fun e ↦ decide (e.key ≠ f'.key)) := by
    intro rest rest' h
    refine List.rel_filter ?_ h
    intro e e' he
    simp [he.key, hf.key]
  induction h with
  | nil => exact .cons hf .nil
  | @cons e e' rest rest' he hrest ih =>
      unfold putField
      rw [he.key, hf.key]
      split
      · have hkept := hfilter hrest
        rw [hf.key] at hkept
        exact .cons hf hkept
      · exact .cons he ih

namespace Fields

/-- Maps of fields that are written in the same character set and shown alike. -/
structure Alike (h h' : Fields) : Prop where
  charset : h'.charset = h.charset
  entries : List.Forall₂ Field.Alike h.entries h'.entries

variable {h h' : Fields}

theorem alike_empty : Alike empty empty := ⟨rfl, .nil⟩

/-- ASCII texts can always be set. -/
theorem Alike.set (ha : h.Alike h') {name value value' : String}
    (hname : allAscii name.toList = true) (hvalue : allAscii value.toList = true)
    (hvalue' : allAscii value'.toList = true)
    (hshown : isSensitiveKey name = false → value' = value) :
    ∃ fields fields', h.set name value = .ok fields ∧ h'.set name value' = .ok fields' ∧
      fields.Alike fields' := by
  refine ⟨{ h with entries := putField (.ofText name value) h.entries },
    { h' with entries := putField (.ofText name value') h'.entries }, ?_, ?_, ?_⟩
  · simp only [Fields.set, Charset.encode_of_ascii _ hname, Charset.encode_of_ascii _ hvalue]
    rfl
  · simp only [Fields.set, Charset.encode_of_ascii _ hname, Charset.encode_of_ascii _ hvalue']
    rfl
  · exact ⟨ha.charset, putField_alike (.ofText hname hvalue hvalue' hshown) ha.entries⟩

theorem charsetOf_of_alike {entries entries' : List Field}
    (h : List.Forall₂ Field.Alike entries entries') :
    charsetOf entries = .ascii ∧ charsetOf entries' = .ascii := by
  have hfits : ∀ {name value : String}, allAscii name.toList = true →
      allAscii value.toList = true →
      ((Charset.ascii.decode? (Field.ofText name value).name).isSome &&
        (Charset.ascii.decode? (Field.ofText name value).value).isSome) = true := by
    intro name value hname hvalue
    simp [Field.ofText, Charset.decode?_of_ascii _ hname, Charset.decode?_of_ascii _ hvalue]
  have hall : entries.all (fun e ↦ (Charset.ascii.decode? e.name).isSome &&
        (Charset.ascii.decode? e.value).isSome) = true ∧
      entries'.all (fun e ↦ (Charset.ascii.decode? e.name).isSome &&
        (Charset.ascii.decode? e.value).isSome) = true := by
    induction h with
    | nil => exact ⟨rfl, rfl⟩
    | cons he _ ih =>
        cases he with
        | ofText hname hvalue hvalue' =>
            rw [List.all_cons, List.all_cons, hfits hname hvalue, hfits hname hvalue']
            exact ih
  exact ⟨if_pos hall.1, if_pos hall.2⟩

theorem Alike.readingCharset (ha : h.Alike h') : h'.readingCharset = h.readingCharset := by
  obtain ⟨hascii, hascii'⟩ := charsetOf_of_alike ha.entries
  rw [Fields.readingCharset, Fields.readingCharset, hascii, hascii', ha.charset]

theorem Alike.settled (ha : h.Alike h') : h.settled.Alike h'.settled := by
  refine ⟨?_, by simpa using ha.entries⟩
  have hempty : h'.entries.isEmpty = h.entries.isEmpty := by
    rw [Bool.eq_iff_iff, List.isEmpty_iff_length_eq_zero, List.isEmpty_iff_length_eq_zero,
      ha.entries.length_eq]
  unfold Fields.settled
  rw [hempty]
  split
  · exact ha.charset
  · exact congrArg some ha.readingCharset

/-- A log shows the same of both. -/
theorem Alike.redacted (ha : h.Alike h') :
    Redaction.fields false (h'.texts.map fun p ↦ (p.1, Datum.text p.2))
      = Redaction.fields false (h.texts.map fun p ↦ (p.1, Datum.text p.2)) := by
  refine fields_of_shownAlike (map_shownAlike Datum.text (map_shownAlike _ (group_shownAlike ?_)))
  rw [ha.readingCharset, readFields, readFields, List.forall₂_map_left_iff,
    List.forall₂_map_right_iff]
  exact ha.entries.imp fun e e' he ↦ he.read _

theorem Alike.asciiNamed (ha : h.Alike h') :
    (∀ e ∈ h.entries, e.AsciiNamed) ∧ ∀ e ∈ h'.entries, e.AsciiNamed := by
  have hall : ∀ {es es' : List Field}, List.Forall₂ Field.Alike es es' →
      (∀ e ∈ es, e.AsciiNamed) ∧ ∀ e ∈ es', e.AsciiNamed := by
    intro es es' h
    induction h with
    | nil => simp
    | cons he _ ih =>
        simp only [List.forall_mem_cons]
        exact ⟨⟨he.asciiNamed.1, ih.1⟩, he.asciiNamed.2, ih.2⟩
  exact hall ha.entries

theorem Alike.hasField (ha : h.Alike h') (key : Octets) :
    hasField key h'.entries = hasField key h.entries := by
  have hany : ∀ {es es' : List Field}, List.Forall₂ Field.Alike es es' →
      SecureExchange.hasField key es' = SecureExchange.hasField key es := by
    intro es es' h
    induction h with
    | nil => rfl
    | cons he _ ih =>
        unfold SecureExchange.hasField at ih ⊢
        rw [List.any_cons, List.any_cons, he.key, ih]
  exact hany ha.entries

end Fields

namespace Request

variable {own : List Field} {verb : Verb} {target : Address.Target} {body : Octets}
  {readTimeout : Binary64}

theorem comparedKeys_of_asciiNamed (h : ∀ e ∈ own, e.AsciiNamed) (k : Charset) :
    comparedKeys k own = .ok (own.map Field.key) := by
  induction own with
  | nil => rfl
  | cons e rest ih =>
      obtain ⟨name, hname, hkey⟩ := h e List.mem_cons_self
      have hrest := ih fun e he ↦ h e (List.mem_cons_of_mem _ he)
      simp [comparedKeys, comparedKey_of_ascii hname hkey k, hrest, Except.map]

theorem hasField_host_freeFields (keys : List Octets) (rest : List Field) :
    hasField (accessKey "host") (freeFields keys ++ rest) = hasField (accessKey "host") rest := by
  have hnone : hasField (accessKey "host") (freeFields keys) = false := by
    have hclient : hasField (accessKey "host") clientFields = false := by decide
    rw [hasField, List.any_eq_false] at hclient ⊢
    exact fun e he ↦ hclient e (List.mem_filter.mp he).1
  rw [hasField, List.any_append, ← hasField, hnone, Bool.false_or, hasField]

theorem hasField_host_addLength (body : Octets) (fields : List Field) :
    hasField (accessKey "host") (addLength body fields) = hasField (accessKey "host") fields := by
  unfold addLength
  split
  · rfl
  · have hother : (Field.ofText "Content-Length" (toString body.length)).key
        ≠ accessKey "host" := by
      rw [key_contentLength]
      decide
    rw [hasField, List.any_append, ← hasField, List.any_cons, List.any_nil, decide_eq_false hother,
      Bool.or_false, Bool.or_false]

/-- With ASCII names and without cookies, a request can be built if its host is set, or can be
written in ASCII. -/
theorem build_isOk_iff (hown : ∀ e ∈ own, e.AsciiNamed) :
    (∃ r, build verb target own body readTimeout .empty = .ok r) ↔
      hasField (accessKey "host") own = true ∨ allAscii target.hostPort = true := by
  have hmerged : mergeFields own = .ok (freeFields (own.map Field.key) ++ own) := by
    rw [mergeFields, comparedKeys_of_asciiNamed hown]
    rfl
  simp only [build, hmerged, addCookies, hostFields, hasField_host_addLength,
    hasField_host_freeFields]
  cases hhost : hasField (accessKey "host") own with
  | true => simp
  | false =>
      cases hencoded : Charset.ascii.encode target.hostPort with
      | ok o => simp [Except.map, Charset.allAscii_of_encode hencoded]
      | error e =>
          have hbeyond : allAscii target.hostPort ≠ true := by
            intro hascii
            rw [Charset.encode_of_ascii _ hascii] at hencoded
            cases hencoded
          simp [Except.map, hbeyond]

end Request

end SecureExchange
