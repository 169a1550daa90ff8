import Mathlib.Data.List.Forall2
import SecureExchange.Proofs.Address.FormPairs
import SecureExchange.Proofs.Redaction.Address

/-!
# What is shown does not depend on secrets

An address that holds a secret is never shown as it was given, unless the secret reads like the mask
that would replace it (`address_of_holdsSecret`): masking changes the authority, or the pairs of the
query. What is written instead depends on user name, host, port and the pairs that are not masked
(`shown_address_independent_of_secrets`).
-/

namespace SecureExchange.Redaction

open Text Address

variable {s : List Char} {r r' : Reference}

/-- A query has a parameter with a sensitive name. -/
def holdsSignature (query : List Char) : Bool :=
  (Form.decode query).any (isSensitiveParameter ·.1)

/-- An address has a password or a sensitive parameter, and nothing of the kind reads like the
mask. -/
structure HoldsSecret (r : Reference) : Prop where
  secret : hasPassword r = true ∨ holdsSignature r.query = true
  password : r.password ≠ some mask
  values : ∀ p ∈ Form.decode r.query, isSensitiveParameter p.1 = true → p.2 ≠ mask

/-- The same name, and the same value unless the name is sensitive. -/
def PairAlike (p q : List Char × List Char) : Prop :=
  q.1 = p.1 ∧ (isSensitiveParameter p.1 = false → q.2 = p.2)

/-- Two addresses that differ in secrets only. -/
structure AlikeButForSecrets (r r' : Reference) : Prop where
  scheme : r'.scheme = r.scheme
  path : r'.path = r.path
  params : r'.params = r.params
  fragment : r'.fragment = r.fragment
  authority : (hasPassword r = false ∧ r'.authority = r.authority) ∨
    (hasPassword r = true ∧ hasPassword r' = true ∧ r'.userName = r.userName ∧
      r'.hostName = r.hostName ∧ r'.hostAndPort.2 = r.hostAndPort.2)
  query : (holdsSignature r.query = false ∧ r'.query = r.query) ∨
    (holdsSignature r.query = true ∧ holdsSignature r'.query = true ∧
      List.Forall₂ PairAlike (Form.decode r.query) (Form.decode r'.query))

/-! ### Queries -/

theorem maskQuery_of_signature {query : List Char} (h : holdsSignature query = true) :
    maskQuery query = Form.encode ((Form.decode query).map maskPair) := if_pos h

theorem maskPair_of_alike {p q : List Char × List Char} (h : PairAlike p q) :
    maskPair q = maskPair p := by
  obtain ⟨hname, hvalue⟩ := h
  cases hp : isSensitiveParameter p.1 with
  | true => simp [maskPair, hname, hp]
  | false => simp [maskPair, hname, hp, Prod.ext_iff, hvalue hp]

theorem maskQuery_of_alike (h : AlikeButForSecrets r r') :
    maskQuery r'.query = maskQuery r.query := by
  rcases h.query with ⟨-, hsame⟩ | ⟨hr, hr', hpairs⟩
  · rw [hsame]
  · have hmasked : (Form.decode r'.query).map maskPair = (Form.decode r.query).map maskPair := by
      rw [← List.forall₂_eq_eq_eq, List.forall₂_map_left_iff, List.forall₂_map_right_iff]
      exact hpairs.flip.imp fun q p hpq ↦ maskPair_of_alike hpq
    rw [maskQuery_of_signature hr, maskQuery_of_signature hr', hmasked]

/-- A query that is left as it is has the mask under its sensitive names already. -/
theorem maskQuery_ne {query : List Char} (h : holdsSignature query = true)
    (hvalues : ∀ p ∈ Form.decode query, isSensitiveParameter p.1 = true → p.2 ≠ mask) :
    maskQuery query ≠ query := by
  intro hsame
  obtain ⟨p, hp, hsensitive⟩ := List.any_eq_true.mp h
  have hpairs : (Form.decode query).map maskPair = Form.decode query := by
    rw [← Form.decode_encode ((Form.decode query).map maskPair), ← maskQuery_of_signature h, hsame]
  have hmasked : maskPair p = p := by
    have hid : (Form.decode query).map maskPair = (Form.decode query).map id := by
      rw [hpairs, List.map_id]
    exact List.map_inj_left.mp hid p hp
  rw [maskPair, if_pos hsensitive] at hmasked
  exact hvalues p hp hsensitive (congrArg Prod.snd hmasked).symm

/-! ### Authorities -/

/-- A port as it is written behind a host. -/
def portPart : Option Nat → List Char
  | none | some 0 => []
  | some n => ':' :: (toString n).toList

theorem maskAuthority_of_plain (h : hasPassword r = false) : maskAuthority r = .ok r.authority := by
  simp [maskAuthority, h]

theorem maskAuthority_of_password (h : hasPassword r = true) :
    maskAuthority r = r.port.map fun port ↦ r.userName.getD [] ++ ':' :: mask
      ++ '@' :: (r.hostName.getD "None".toList ++ portPart port) := by
  simp only [maskAuthority, h, if_true]
  cases r.port with
  | error e => rfl
  | ok port =>
      match port with
      | none | some 0 => simp [portPart, Except.map]
      | some (n + 1) => simp [portPart, Except.map]

theorem maskAuthority_of_alike (h : AlikeButForSecrets r r') :
    maskAuthority r' = maskAuthority r := by
  rcases h.authority with ⟨hr, hsame⟩ | ⟨hr, hr', huser, hhost, hport⟩
  · have hr' : hasPassword r' = false := by
      simpa only [hasPassword, Reference.password, Reference.userinfo, hsame] using hr
    rw [maskAuthority_of_plain hr, maskAuthority_of_plain hr', hsame]
  · have hread : r'.port = r.port := by simp only [Reference.port, hport]
    rw [maskAuthority_of_password hr, maskAuthority_of_password hr', huser, hhost, hread]

theorem at_not_mem_hostInfo (authority : List Char) : '@' ∉ Reference.hostInfo authority :=
  fun h ↦ (mem_of_mem_cutLast h).2 rfl

theorem at_not_mem_hostName (r : Reference) : '@' ∉ r.hostName.getD "None".toList := by
  have hhost : '@' ∉ r.hostAndPort.1 := fun h ↦
    at_not_mem_hostInfo r.authority (r.hostAndPort_fst_subset h)
  have hlower : ∀ {name : List Char}, '@' ∉ name → '@' ∉ lowerChars name :=
    fun h hmem ↦ h (mem_of_mem_lowerChars hmem (by decide))
  unfold Reference.hostName
  dsimp only
  split
  · decide
  · split
    · next name hcut =>
        rw [eq_of_cut_none hcut] at hhost
        exact hlower hhost
    · next name zone hcut =>
        rw [eq_of_cut_some hcut] at hhost
        simp only [List.mem_append, List.mem_cons, not_or] at hhost
        simp [hlower hhost.1, hhost.2.2]

/-- A port is written in digits, behind a colon. -/
theorem not_mem_portPart {c : Char} (hdigit : c.isDigit = false) (hcolon : c ≠ ':')
    (port : Option Nat) : c ∉ portPart port := by
  match port with
  | none | some 0 => simp [portPart]
  | some (n + 1) =>
      have hdigits : c ∉ (toString (n + 1)).toList := by
        rw [Nat.toString_eq_ofList_toDigits, String.toList_ofList]
        intro hmem
        have hread := Nat.isDigit_of_mem_toDigits (by decide) (by decide) hmem
        simp [hdigit] at hread
      simpa [portPart, hcolon] using hdigits

/-- An authority that is left as it is has the mask as its password already. -/
theorem maskAuthority_ne {authority : List Char} (h : hasPassword r = true)
    (hpassword : r.password ≠ some mask) (hmask : maskAuthority r = .ok authority) :
    authority ≠ r.authority := by
  rw [maskAuthority_of_password h] at hmask
  cases hport : r.port with
  | error e => simp [hport, Except.map] at hmask
  | ok port =>
      rw [hport] at hmask
      have hwritten : r.userName.getD [] ++ ':' :: mask
          ++ '@' :: (r.hostName.getD "None".toList ++ portPart port) = authority :=
        Except.ok.inj hmask
      intro hsame
      have hshown : '@' ∉ r.hostName.getD "None".toList ++ portPart port := by
        rw [List.mem_append, not_or]
        exact ⟨at_not_mem_hostName r, not_mem_portPart (by decide) (by decide) port⟩
      -- the last at sign of both divides them alike, and the first colon in front of it too
      have huserinfo : r.userinfo = some (r.userName.getD [] ++ ':' :: mask) := by
        rw [Reference.userinfo, ← hsame, ← hwritten, cutLast_append hshown]
      have hcolon : ':' ∉ r.userName.getD [] := by
        rw [Reference.userName, huserinfo]
        exact not_mem_cut_fst ':' _
      refine hpassword ?_
      rw [Reference.password, huserinfo, Option.bind_some, cut_append hcolon]

/-! ### Addresses -/

theorem holdsSecret_ne_nil (hparse : Reference.parse s = .ok r) (h : HoldsSecret r) : s ≠ [] := by
  rintro rfl
  obtain rfl := Except.ok.inj hparse
  rcases h.secret with hpassword | hsignature
  · exact absurd hpassword (by decide)
  · exact absurd hsignature (by decide)

/-- An address that holds a secret is written anew. -/
theorem address_of_holdsSecret (hparse : Reference.parse s = .ok r) (h : HoldsSecret r) :
    address s = (maskAuthority r).map fun authority ↦
      { r with authority := authority, query := maskQuery r.query }.render := by
  have hne : s.isEmpty = false := by simpa using holdsSecret_ne_nil hparse h
  cases hmask : maskAuthority r with
  | error e => simp [address, hne, hparse, hmask, Except.map]
  | ok authority =>
      have hchanged : ¬ (authority = r.authority ∧ maskQuery r.query = r.query) := by
        rintro ⟨hauthority, hquery⟩
        rcases h.secret with hpassword | hsignature
        · exact maskAuthority_ne hpassword h.password hmask hauthority
        · exact maskQuery_ne hsignature h.values hquery
      simp [address, hne, hparse, hmask, hchanged, Except.map]

/-- Two addresses that hold secrets and differ in nothing else are shown alike, or refused alike;
what is shown has every secret masked. -/
theorem shown_address_independent_of_secrets {s s' : String}
    (hparse : Reference.parse s.toList = .ok r) (hparse' : Reference.parse s'.toList = .ok r')
    (hr : HoldsSecret r) (hr' : HoldsSecret r') (h : AlikeButForSecrets r r') :
    addressText s' = addressText s ∧
      addressText s = (maskAuthority r).map fun authority ↦
        String.ofList { r with authority := authority, query := maskQuery r.query }.render := by
  have hshown : ∀ {t : String} {q : Reference}, Reference.parse t.toList = .ok q →
      HoldsSecret q → addressText t = (maskAuthority q).map fun authority ↦
        String.ofList { q with authority := authority, query := maskQuery q.query }.render := by
    intro t q hparse hq
    rw [addressText, address_of_holdsSecret hparse hq]
    cases maskAuthority q <;> rfl
  refine ⟨?_, hshown hparse hr⟩
  rw [hshown hparse hr, hshown hparse' hr', maskAuthority_of_alike h, maskQuery_of_alike h,
    h.scheme, h.path, h.params, h.fragment]

/-- A password and a signature are exchanged for longer ones, with separators in them. -/
theorem shown_address_independent_of_secrets_of_renewed :
    ∃ r r', Reference.parse "https://d1:pw@HUB:443/a;v=1?n=%20&sig=abc#top".toList = .ok r ∧
      Reference.parse "https://d1:p:w@2@hub:443/a;v=1?n=+&s%69g=x%26y%3Dz#top".toList = .ok r' ∧
      HoldsSecret r ∧ HoldsSecret r' ∧ AlikeButForSecrets r r' ∧
      addressText "https://d1:p:w@2@hub:443/a;v=1?n=+&s%69g=x%26y%3Dz#top"
        = addressText "https://d1:pw@HUB:443/a;v=1?n=%20&sig=abc#top" := by
  let r : Reference := ⟨"https".toList, "d1:pw@HUB:443".toList, "/a".toList, "v=1".toList,
    "n=%20&sig=abc".toList, "top".toList⟩
  let r' : Reference := ⟨"https".toList, "d1:p:w@2@hub:443".toList, "/a".toList, "v=1".toList,
    "n=+&s%69g=x%26y%3Dz".toList, "top".toList⟩
  have hparse : Reference.parse "https://d1:pw@HUB:443/a;v=1?n=%20&sig=abc#top".toList
      = .ok r := by decide +kernel
  have hparse' : Reference.parse "https://d1:p:w@2@hub:443/a;v=1?n=+&s%69g=x%26y%3Dz#top".toList
      = .ok r' := by decide +kernel
  have hpairs : Form.decode r.query = [("n".toList, " ".toList), ("sig".toList, "abc".toList)] := by
    decide +kernel
  have hpairs' : Form.decode r'.query
      = [("n".toList, " ".toList), ("sig".toList, "x&y=z".toList)] := by
    decide +kernel
  have hr : HoldsSecret r := ⟨.inl (by decide +kernel), by decide +kernel, by decide +kernel⟩
  have hr' : HoldsSecret r' := ⟨.inl (by decide +kernel), by decide +kernel, by decide +kernel⟩
  have halike : AlikeButForSecrets r r' := by
    refine ⟨rfl, rfl, rfl, rfl, .inr (by decide +kernel), .inr ⟨?_, ?_, ?_⟩⟩
    · decide +kernel
    · decide +kernel
    · have hsensitive : isSensitiveParameter "sig".toList = true := by decide +kernel
      rw [hpairs, hpairs']
      refine .cons ⟨rfl, fun _ ↦ rfl⟩ (.cons ⟨rfl, fun hplain ↦ ?_⟩ .nil)
      exact absurd (hsensitive.symm.trans hplain) (by decide)
  obtain ⟨hsame, -⟩ := shown_address_independent_of_secrets hparse hparse' hr hr' halike
  exact ⟨r, r', hparse, hparse', hr, hr', halike, hsame⟩

end SecureExchange.Redaction
