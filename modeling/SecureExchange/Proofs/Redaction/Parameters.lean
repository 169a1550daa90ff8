import SecureExchange.Proofs.Redaction.Rejoining

/-!
# Masked parameters

An address without a password that has a sensitive parameter is shown with a new query and all of
its other parts (`divide_of_plain`). The pairs of the new query are those of the old one, in the
same order, with the mask under the sensitive names. What is shown has nothing left to mask, and is
shown as it is.
-/

namespace SecureExchange.Redaction

open Text Address

variable {s t : List Char} {r : Reference} {query : List Char}

/-! ### Queries -/

theorem maskPair_eq (p : List Char × List Char) :
    maskPair p = (p.1, if isSensitiveParameter p.1 then mask else p.2) := by
  unfold maskPair
  split <;> rfl

@[simp] theorem maskPair_fst (p : List Char × List Char) : (maskPair p).1 = p.1 := by
  rw [maskPair_eq]

theorem maskPair_maskPair (p : List Char × List Char) : maskPair (maskPair p) = maskPair p := by
  cases hname : isSensitiveParameter p.1 <;> simp [maskPair, hname]

/-- The pairs of a query that is written anew are those of the old one, masked. -/
theorem decode_maskQuery (h : holdsSignature query = true) :
    Form.decode (maskQuery query) = (Form.decode query).map maskPair := by
  rw [maskQuery_of_signature h, Form.decode_encode]

theorem holdsSignature_maskQuery (h : holdsSignature query = true) :
    holdsSignature (maskQuery query) = true := by
  obtain ⟨p, hp, hname⟩ := List.any_eq_true.mp h
  rw [holdsSignature, decode_maskQuery h]
  exact List.any_eq_true.mpr ⟨maskPair p, List.mem_map_of_mem hp, by rwa [maskPair_fst]⟩

theorem maskQuery_maskQuery (h : holdsSignature query = true) :
    maskQuery (maskQuery query) = maskQuery query := by
  have hpairs : ((Form.decode query).map maskPair).map maskPair
      = (Form.decode query).map maskPair := by
    rw [List.map_map]
    exact List.map_congr_left fun p _ ↦ maskPair_maskPair p
  rw [maskQuery_of_signature (holdsSignature_maskQuery h), decode_maskQuery h, hpairs,
    maskQuery_of_signature h]

/-! ### Addresses without a password -/

/-- Such an address is shown as it is, or with its query written anew. -/
theorem address_of_plain (hne : s ≠ []) (hparse : Reference.parse s = .ok r)
    (hpassword : hasPassword r = false) :
    address s = .ok (if maskQuery r.query = r.query then s
      else { r with query := maskQuery r.query }.render) := by
  have hnonempty : s.isEmpty = false := by simpa using hne
  simp only [address, hnonempty, hparse, maskAuthority_of_plain hpassword, Bool.false_eq_true,
    if_false, true_and]
  split
  · rfl
  · rfl

theorem parted_withMaskedQuery (h : r.Parted) :
    ({ r with query := maskQuery r.query } : Reference).Parted :=
  ⟨h.scheme, h.authority, h.located, h.path, h.params, staysInQuery_of_mem_maskQuery h.query,
    h.fragment⟩

theorem ne_nil_of_authority (hparse : Reference.parse s = .ok r) (hauthority : r.authority ≠ []) :
    s ≠ [] := by
  rintro rfl
  obtain rfl := (parse_eq_ok hparse).1
  exact hauthority rfl

/-- What is shown is divided into the same parts, but for the query. -/
theorem divide_of_plain (hparse : Reference.parse s = .ok r) (hauthority : r.authority ≠ [])
    (hpassword : hasPassword r = false) :
    ∃ t, address s = .ok t ∧ Reference.divide t = { r with query := maskQuery r.query } := by
  have hdivide := (parse_eq_ok hparse).1
  refine ⟨_, address_of_plain (ne_nil_of_authority hparse hauthority) hparse hpassword, ?_⟩
  split
  · next hsame => rw [hsame, hdivide]
  · have hparted : r.Parted := by
      rw [hdivide] at hauthority ⊢
      exact Reference.parted_divide hauthority
    exact (parted_withMaskedQuery hparted).divide_render hauthority

/-- What is shown is accepted, and has nothing left to mask. -/
theorem address_of_masked (hparse : Reference.parse t = .ok { r with query := maskQuery r.query })
    (hauthority : r.authority ≠ []) (hpassword : hasPassword r = false)
    (hsigned : holdsSignature r.query = true) : address t = .ok t := by
  rw [address_of_plain (ne_nil_of_authority hparse hauthority) hparse hpassword]
  dsimp only
  rw [if_pos (maskQuery_maskQuery hsigned)]

/-- An address without a password that has a sensitive parameter is shown. What is shown is read
with the same parts but for the query, which has the same pairs but for the masked values, and it is
shown as it is. -/
theorem masked_parameters_read_back {s : String} (hparse : Reference.parse s.toList = .ok r)
    (hauthority : r.authority ≠ []) (hpassword : hasPassword r = false)
    (hsigned : holdsSignature r.query = true) :
    ∃ t r', addressText s = .ok t ∧ Reference.parse t.toList = .ok r' ∧
      r'.scheme = r.scheme ∧ r'.authority = r.authority ∧ r'.path = r.path ∧
      r'.params = r.params ∧ r'.fragment = r.fragment ∧
      Form.decode r'.query = (Form.decode r.query).map
        (fun p ↦ (p.1, if isSensitiveParameter p.1 then mask else p.2)) ∧
      addressText t = .ok t := by
  obtain ⟨-, hbrackets, hundisguised⟩ := parse_eq_ok_iff.mp hparse
  obtain ⟨t, hshown, hdivide⟩ := divide_of_plain hparse hauthority hpassword
  have hread : Reference.parse t = .ok { r with query := maskQuery r.query } :=
    parse_eq_ok_iff.mpr ⟨hdivide.symm, hbrackets, hundisguised⟩
  have hpairs : Form.decode (maskQuery r.query) = (Form.decode r.query).map
      (fun p ↦ (p.1, if isSensitiveParameter p.1 then mask else p.2)) := by
    rw [decode_maskQuery hsigned]
    exact List.map_congr_left fun p _ ↦ maskPair_eq p
  have hagain := address_of_masked hread hauthority hpassword hsigned
  refine ⟨String.ofList t, { r with query := maskQuery r.query }, ?_, ?_, rfl, rfl, rfl, rfl, rfl,
    hpairs, ?_⟩
  · rw [addressText, hshown, Except.map]
  · rwa [String.toList_ofList]
  · rw [addressText, String.toList_ofList, hagain, Except.map]

/-- An empty parameter, a sensitive one with separators in its value and one without a value, and an
escape that is no text. -/
theorem masked_parameters_read_back_of_repeated :
    ∃ r, Reference.parse "HTTPS://d1@[::1]:443/a;v=1;?=&SI%47=x%26y+z&n=%FF&sig#top".toList
        = .ok r ∧ r.authority ≠ [] ∧ hasPassword r = false ∧ holdsSignature r.query = true ∧
      addressText "HTTPS://d1@[::1]:443/a;v=1;?=&SI%47=x%26y+z&n=%FF&sig#top"
        = .ok "https://d1@[::1]:443/a;v=1;?=&SIG=***&n=%EF%BF%BD&sig=***#top" ∧
      addressText "https://d1@[::1]:443/a;v=1;?=&SIG=***&n=%EF%BF%BD&sig=***#top"
        = .ok "https://d1@[::1]:443/a;v=1;?=&SIG=***&n=%EF%BF%BD&sig=***#top" := by
  let r : Reference := ⟨"https".toList, "d1@[::1]:443".toList, "/a".toList, "v=1;".toList,
    "=&SI%47=x%26y+z&n=%FF&sig".toList, "top".toList⟩
  have hparse : Reference.parse "HTTPS://d1@[::1]:443/a;v=1;?=&SI%47=x%26y+z&n=%FF&sig#top".toList
      = .ok r := by decide +kernel
  have hauthority : r.authority ≠ [] := by decide
  have hpassword : hasPassword r = false := by decide +kernel
  have hsigned : holdsSignature r.query = true := by decide +kernel
  have hshown : addressText "HTTPS://d1@[::1]:443/a;v=1;?=&SI%47=x%26y+z&n=%FF&sig#top"
      = .ok "https://d1@[::1]:443/a;v=1;?=&SIG=***&n=%EF%BF%BD&sig=***#top" := by decide +kernel
  obtain ⟨t, _, ht, -, -, -, -, -, -, -, hagain⟩ :=
    masked_parameters_read_back hparse hauthority hpassword hsigned
  obtain rfl := Except.ok.inj (ht.symm.trans hshown)
  exact ⟨r, hparse, hauthority, hpassword, hsigned, hshown, hagain⟩

end SecureExchange.Redaction
