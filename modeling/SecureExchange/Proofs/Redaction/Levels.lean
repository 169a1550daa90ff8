import Mathlib.Data.List.Forall2
import SecureExchange.Proofs.Text.Words
import SecureExchange.Redaction.Fields

/-!
# Redaction at every level

Maps may hold maps, to any depth. `Level` names those that are reached through keys that are not
sensitive. Each of them is shown with all of its keys, and with all of its values but for those
under sensitive keys, which are replaced. So redaction can be done again without changing anything,
and two maps are shown alike exactly if they differ in values under sensitive keys only
(`fields_eq_iff`). A sensitive key stays one in other letters and as part of a longer key.
-/

namespace SecureExchange.Redaction

open Text

variable {k : String} {x : Datum} {entries entries' inner level shown : List (String × Datum)}
  {path : List String}

/-- A map that is reached from a map along keys that are not sensitive. -/
inductive Level : List String → List (String × Datum) → List (String × Datum) → Prop
  | here (entries : List (String × Datum)) : Level [] entries entries
  | into {k : String} {path : List String} {entries inner level : List (String × Datum)}
      (hmem : (k, .map inner) ∈ entries) (hk : isSensitiveKey k = false)
      (h : Level path inner level) : Level (k :: path) entries level

/-- An entry of a map, and what is shown of it. -/
structure ShownEntry (p q : String × Datum) : Prop where
  key : q.1 = p.1
  secret : isSensitiveKey p.1 = true → q.2 = .text placeholder
  map : isSensitiveKey p.1 = false → ∀ inner, p.2 = .map inner → q.2 = .map (fields false inner)
  plain : isSensitiveKey p.1 = false → (∀ inner, p.2 ≠ .map inner) → q.2 = p.2

/-- Two maps that differ in values under sensitive keys only, their own or those of maps in them. -/
inductive DifferInSecrets : List (String × Datum) → List (String × Datum) → Prop
  | nil : DifferInSecrets [] []
  | secret {k : String} {rest rest' : List (String × Datum)} (x y : Datum)
      (hk : isSensitiveKey k = true) (h : DifferInSecrets rest rest') :
      DifferInSecrets ((k, x) :: rest) ((k, y) :: rest')
  | same {rest rest' : List (String × Datum)} (k : String) (x : Datum)
      (h : DifferInSecrets rest rest') : DifferInSecrets ((k, x) :: rest) ((k, x) :: rest')
  | inner {inner inner' rest rest' : List (String × Datum)} (k : String)
      (hinner : DifferInSecrets inner inner') (h : DifferInSecrets rest rest') :
      DifferInSecrets ((k, .map inner) :: rest) ((k, .map inner') :: rest')

/-! ### Entries -/

theorem value_map (unredacted : Bool) (entries : List (String × Datum)) :
    value unredacted (.map entries) = .map (fields unredacted entries) := by
  rw [value]

theorem value_of_plain (h : ∀ inner, x ≠ .map inner) (unredacted : Bool) :
    value unredacted x = x := by
  cases x with
  | map entries => exact absurd rfl (h entries)
  | _ => simp [value]

/-- Only a map is shown as a map. -/
theorem value_eq_map (h : value false x = .map shown) :
    ∃ inner, x = .map inner ∧ fields false inner = shown := by
  by_cases hmap : ∃ inner, x = .map inner
  · obtain ⟨inner, rfl⟩ := hmap
    rw [value_map] at h
    exact ⟨inner, rfl, Datum.map.inj h⟩
  · rw [value_of_plain (fun inner hx ↦ hmap ⟨inner, hx⟩)] at h
    exact absurd ⟨shown, h⟩ hmap

/-- What is shown under a key. -/
def shownUnder (k : String) (x : Datum) : Datum :=
  if isSensitiveKey k then .text placeholder else value false x

theorem shownUnder_of_sensitive (hk : isSensitiveKey k = true) (x : Datum) :
    shownUnder k x = .text placeholder := if_pos hk

theorem shownUnder_of_plain (hk : isSensitiveKey k = false) (x : Datum) :
    shownUnder k x = value false x := by
  rw [shownUnder, hk, if_neg Bool.false_ne_true]

theorem fields_cons (k : String) (x : Datum) (rest : List (String × Datum)) :
    fields false ((k, x) :: rest) = (k, shownUnder k x) :: fields false rest := by
  simp [fields, shownUnder]

theorem fields_eq_map (entries : List (String × Datum)) :
    fields false entries = entries.map fun p ↦ (p.1, shownUnder p.1 p.2) := by
  induction entries with
  | nil => simp [fields]
  | cons p rest ih => rw [fields_cons, ih, List.map_cons]

theorem shownEntry_shownUnder (p : String × Datum) : ShownEntry p (p.1, shownUnder p.1 p.2) where
  key := rfl
  secret hk := shownUnder_of_sensitive hk p.2
  map hk inner hinner := by
    dsimp only
    rw [shownUnder_of_plain hk, hinner, value_map]
  plain hk hplain := by
    dsimp only
    rw [shownUnder_of_plain hk, value_of_plain hplain]

theorem forall₂_shownEntry (entries : List (String × Datum)) :
    List.Forall₂ ShownEntry entries (fields false entries) := by
  rw [fields_eq_map, List.forall₂_map_right_iff, List.forall₂_same]
  exact fun p _ ↦ shownEntry_shownUnder p

/-! ### Levels -/

theorem mem_fields_of_mem (hk : isSensitiveKey k = false) (h : (k, .map inner) ∈ entries) :
    (k, .map (fields false inner)) ∈ fields false entries := by
  rw [fields_eq_map, List.mem_map]
  exact ⟨(k, .map inner), h, by rw [shownUnder_of_plain hk, value_map]⟩

theorem exists_of_mem_fields (hk : isSensitiveKey k = false)
    (h : (k, .map shown) ∈ fields false entries) :
    ∃ inner, (k, .map inner) ∈ entries ∧ fields false inner = shown := by
  rw [fields_eq_map, List.mem_map] at h
  obtain ⟨⟨key, x⟩, hmem, heq⟩ := h
  obtain ⟨rfl, hshown⟩ := Prod.mk.inj heq
  rw [shownUnder_of_plain hk] at hshown
  obtain ⟨inner, rfl, hinner⟩ := value_eq_map hshown
  exact ⟨inner, hmem, hinner⟩

theorem Level.redacted (h : Level path entries level) :
    Level path (fields false entries) (fields false level) := by
  induction h with
  | here entries => exact .here _
  | into hmem hk _ ih => exact .into (mem_fields_of_mem hk hmem) hk ih

/-- Redaction adds no level. -/
theorem Level.exists_of_shown (h : Level path (fields false entries) shown) :
    ∃ level, Level path entries level ∧ fields false level = shown := by
  induction path generalizing entries with
  | nil =>
      cases h
      exact ⟨entries, .here entries, rfl⟩
  | cons k path ih =>
      cases h with
      | into hmem hk hinto =>
          obtain ⟨inner, hinner, rfl⟩ := exists_of_mem_fields hk hmem
          obtain ⟨level, hlevel, hshown⟩ := ih hinto
          exact ⟨level, .into hinner hk hlevel, hshown⟩

/-! ### Maps as a whole -/

theorem fields_unredacted (entries : List (String × Datum)) : fields true entries = entries := by
  induction entries using fields.induct (motive_1 := fun x ↦ value true x = x) with
  | case1 entries ih => rw [value_map, ih]
  | case2 x hplain => exact value_of_plain hplain true
  | case3 => simp [fields]
  | case4 k x rest hx hrest => simp [fields, hx, hrest]

/-- What is shown is shown as it is. -/
theorem fields_fields (entries : List (String × Datum)) :
    fields false (fields false entries) = fields false entries := by
  induction entries using fields.induct
    (motive_1 := fun x ↦ value false (value false x) = value false x) with
  | case1 entries ih => rw [value_map, value_map, ih]
  | case2 x hplain => rw [value_of_plain hplain, value_of_plain hplain]
  | case3 => simp [fields]
  | case4 k x rest hx hrest =>
      rw [fields_cons, fields_cons, hrest]
      cases hk : isSensitiveKey k with
      | true => rw [shownUnder_of_sensitive hk, shownUnder_of_sensitive hk]
      | false => rw [shownUnder_of_plain hk, shownUnder_of_plain hk, hx]

theorem DifferInSecrets.fields_eq (h : DifferInSecrets entries entries') :
    fields false entries' = fields false entries := by
  induction h with
  | nil => rfl
  | secret x y hk _ ih =>
      rw [fields_cons, fields_cons, ih, shownUnder_of_sensitive hk, shownUnder_of_sensitive hk]
  | same k x _ ih => rw [fields_cons, fields_cons, ih]
  | inner k _ _ hinner ih =>
      rw [fields_cons, fields_cons, ih, shownUnder, shownUnder, value_map, value_map, hinner]

/-- Nothing else is hidden: what is shown alike differs in secrets only. -/
theorem differInSecrets_of_fields (h : fields false entries' = fields false entries) :
    DifferInSecrets entries entries' := by
  induction entries using fields.induct (motive_1 := fun x ↦ ∀ x',
      value false x' = value false x → x' = x ∨ ∃ inner inner', x = .map inner ∧
        x' = .map inner' ∧ DifferInSecrets inner inner') generalizing entries' with
  | case1 entries ih x' h =>
      rw [value_map] at h
      obtain ⟨inner', rfl, hinner⟩ := value_eq_map h
      exact .inr ⟨entries, inner', rfl, rfl, ih hinner⟩
  | case2 x hplain x' h =>
      rw [value_of_plain hplain] at h
      by_cases hmap : ∃ inner, x' = .map inner
      · obtain ⟨inner, rfl⟩ := hmap
        rw [value_map] at h
        exact absurd h.symm (hplain _)
      · rw [value_of_plain fun inner hx ↦ hmap ⟨inner, hx⟩] at h
        exact .inl h
  | case3 =>
      rw [fields_eq_map, fields_eq_map, List.map_nil, List.map_eq_nil_iff] at h
      rw [h]
      exact .nil
  | case4 k x rest hx hrest =>
      cases entries' with
      | nil => simp [fields] at h
      | cons p rest' =>
          obtain ⟨k', x'⟩ := p
          rw [fields_cons, fields_cons] at h
          obtain ⟨hfirst, htail⟩ := List.cons.inj h
          obtain ⟨rfl, hshown⟩ := Prod.mk.inj hfirst
          cases hk : isSensitiveKey k' with
          | true => exact .secret x x' hk (hrest htail)
          | false =>
              rw [shownUnder_of_plain hk, shownUnder_of_plain hk] at hshown
              rcases hx x' hshown with rfl | ⟨inner, inner', rfl, rfl, hinner⟩
              · exact .same k' x' (hrest htail)
              · exact .inner k' hinner (hrest htail)

theorem fields_eq_iff :
    fields false entries' = fields false entries ↔ DifferInSecrets entries entries' :=
  ⟨differInSecrets_of_fields, DifferInSecrets.fields_eq⟩

/-! ### Keys -/

theorem allAscii_of_mem_sensitiveWords {w : String} (h : w ∈ sensitiveWords) :
    allAscii w.toList = true := by
  have hall : sensitiveWords.all (fun w ↦ allAscii w.toList) = true := by decide
  exact List.all_eq_true.mp hall w h

/-- A sensitive key stays one whatever the case of its ASCII letters, and as part of another. -/
theorem isSensitiveKey_of_part {k' : String} (hk : isSensitiveKey k = true)
    (hcase : k'.toList.map lowerAscii = k.toList.map lowerAscii) (before after : String) :
    isSensitiveKey (before ++ k' ++ after) = true := by
  obtain ⟨w, hw, hoccurs⟩ := List.any_eq_true.mp hk
  refine List.any_eq_true.mpr ⟨w, hw, ?_⟩
  have hsame : lowerChars k'.toList = lowerChars k.toList := by
    rw [← lowerChars_map_lowerAscii_eq, hcase, lowerChars_map_lowerAscii_eq]
  rw [← hsame] at hoccurs
  rw [String.toList_append, String.toList_append]
  exact occurs_lowerChars_append (allAscii_of_mem_sensitiveWords hw) hoccurs _ _

/-- Unless the setting turns redaction off, every map that is reached along plain keys is shown
where it stands, with the same keys in the same order, and with the same values but for those under
sensitive keys; no other map is reached in what is shown. Redacting that again changes nothing, and
the maps that are shown alike are those that differ in secrets only. A setting that is on shows
everything as it is. -/
theorem fields_redacted_at_every_level (setting : Option String)
    (entries : List (String × Datum)) :
    (isOn setting = false →
      (∀ path level, Level path entries level →
        Level path (fields (isOn setting) entries) (fields (isOn setting) level) ∧
          List.Forall₂ ShownEntry level (fields (isOn setting) level)) ∧
      (∀ path shown, Level path (fields (isOn setting) entries) shown →
        ∃ level, Level path entries level ∧ fields (isOn setting) level = shown) ∧
      fields (isOn setting) (fields (isOn setting) entries) = fields (isOn setting) entries ∧
      ∀ other, fields (isOn setting) other = fields (isOn setting) entries ↔
        DifferInSecrets entries other) ∧
    (isOn setting = true → fields (isOn setting) entries = entries) ∧
    ∀ k k' : String, isSensitiveKey k = true →
      k'.toList.map lowerAscii = k.toList.map lowerAscii →
      ∀ before after, isSensitiveKey (before ++ k' ++ after) = true := by
  refine ⟨fun hoff ↦ ?_, fun hon ↦ ?_, fun k k' hk hcase ↦ isSensitiveKey_of_part hk hcase⟩
  · rw [hoff]
    exact ⟨fun path level h ↦ ⟨h.redacted, forall₂_shownEntry level⟩,
      fun path shown h ↦ h.exists_of_shown, fields_fields entries, fun other ↦ fields_eq_iff⟩
  · rw [hon]
    exact fields_unredacted entries

/-- What a device tells of itself: a key, no state, and a list that holds a map. -/
def device (key : Datum) : List (String × Datum) :=
  [("Key", key), ("state", .map []), ("log", .list [.map [("key", .null)]])]

/-- A device with its token. -/
def deviceWithToken (key token : Datum) : List (String × Datum) :=
  [("device", .map (device key)), ("SasToken", token)]

/-- A device gets a new key and a new token, which is not even a map any more. -/
theorem fields_redacted_at_every_level_of_renewed :
    (isOn none = false ∧
      Level ["device"] (deviceWithToken (.int 1) (.map [])) (device (.int 1)) ∧
      Level ["device"] (fields (isOn none) (deviceWithToken (.int 1) (.map [])))
        (fields (isOn none) (device (.int 1))) ∧
      DifferInSecrets (deviceWithToken (.int 1) (.map [])) (deviceWithToken .null .null) ∧
      fields (isOn none) (deviceWithToken .null .null)
        = fields (isOn none) (deviceWithToken (.int 1) (.map []))) ∧
    (isOn (some " Yes") = true ∧
      fields (isOn (some " Yes")) (device (.int 1)) = device (.int 1)) ∧
    isSensitiveKey "SasToken" = true ∧ isSensitiveKey ("x-" ++ "SASTOKEN" ++ "-2") = true := by
  have hoff : isOn none = false := by decide
  have hon : isOn (some " Yes") = true := by decide +kernel
  have hkey : isSensitiveKey "Key" = true := by decide +kernel
  have htoken : isSensitiveKey "SasToken" = true := by decide +kernel
  have hlevel : Level ["device"] (deviceWithToken (.int 1) (.map [])) (device (.int 1)) :=
    .into List.mem_cons_self (by decide +kernel) (.here _)
  have hdiffer : DifferInSecrets (deviceWithToken (.int 1) (.map []))
      (deviceWithToken .null .null) :=
    .inner _ (.secret _ _ hkey (.same _ _ (.same _ _ .nil))) (.secret _ _ htoken .nil)
  obtain ⟨hredacted, -, hkeys⟩ :=
    fields_redacted_at_every_level none (deviceWithToken (.int 1) (.map []))
  obtain ⟨hlevels, -, -, halike⟩ := hredacted hoff
  obtain ⟨-, hshown, -⟩ := fields_redacted_at_every_level (some " Yes") (device (.int 1))
  exact ⟨⟨hoff, hlevel, (hlevels _ _ hlevel).1, hdiffer, (halike _).mpr hdiffer⟩,
    ⟨hon, hshown hon⟩, htoken, hkeys _ "SASTOKEN" htoken (by decide) "x-" "-2"⟩

end SecureExchange.Redaction
