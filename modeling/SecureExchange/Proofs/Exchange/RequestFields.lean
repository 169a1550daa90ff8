import SecureExchange.Proofs.Exchange.FieldWrites

/-!
# The fields of a request

A request carries the fields of its exchange as they are: the client adds fields of its own only
under names that the exchange leaves free (`fieldsOf_build`), and adds no field but those and one
for cookies (`mem_build`). Credentials in the target then replace the field for credentials, and
nothing else.
-/

namespace SecureExchange.Request

open Text Address

variable {verb : Verb} {target : Target} {own : List Field} {body : Octets}
  {readTimeout : Binary64} {cookies : Cookies} {r : Request} {key : Octets} {f : Field}
  {name : String}

/-- The client's fields whose names are not among the given ones. -/
def freeFields (keys : List Octets) : List Field :=
  clientFields.filter fun f ↦ !keys.contains f.key

theorem mergeFields_eq_ok {merged : List Field} (h : mergeFields own = .ok merged) :
    ∃ keys, comparedKeys (charsetOf own) own = .ok keys ∧ merged = freeFields keys ++ own := by
  cases hkeys : comparedKeys (charsetOf own) own with
  | error e => simp [mergeFields, hkeys, Except.map] at h
  | ok keys =>
      rw [mergeFields, hkeys] at h
      exact ⟨keys, rfl, (Except.ok.inj h).symm⟩

/-- The field for cookies holds the text that the client has for the request. -/
structure IsCookie (cookies : Cookies) (f : Field) : Prop where
  key : f.key = accessKey "cookie"
  value : ∃ s, cookies = .text s ∧ ∃ k : Charset, k.encode s.toList = .ok f.value

/-- Cookies are one field more, unless they are set. -/
theorem addCookies_eq_ok {given : List Field} (h : addCookies cookies target own = .ok given) :
    given = own ∨
      hasField (accessKey "cookie") own = false ∧ ∃ f, given = own ++ [f] ∧ IsCookie cookies f := by
  cases cookies with
  | empty => exact .inl (Except.ok.inj h).symm
  | unmatched =>
      cases hcheck : checkForCookies target own with
      | error f => simp [addCookies, hcheck, Except.map] at h
      | ok =>
          rw [addCookies, hcheck] at h
          exact .inl (Except.ok.inj h).symm
  | text s =>
      simp only [addCookies] at h
      split at h
      · cases h
      · split at h
        · exact .inl (Except.ok.inj h).symm
        · next hfree =>
            split at h
            · cases h
            · next value hvalue =>
                refine .inr ⟨by simpa using hfree, _, (Except.ok.inj h).symm, ?_, s, rfl, _, hvalue⟩
                change (Field.ofText "Cookie" "").key = _
                exact key_ofText_eq_iff.mpr (by decide)

theorem build_eq_ok (h : build verb target own body readTimeout cookies = .ok r) :
    ∃ merged given host, mergeFields own = .ok merged ∧
      addCookies cookies target merged = .ok given ∧
      hostFields target (addLength body given) = .ok host ∧
      r = {
        verb := verb
        target := target
        fields := host ++ zeroLength verb (addLength body given) ++ addLength body given
        body := body
        readTimeout := if readTimeout.isZero then none else some readTimeout } := by
  cases hmerged : mergeFields own with
  | error e => simp [build, hmerged] at h
  | ok merged =>
      cases hgiven : addCookies cookies target merged with
      | error f => simp [build, hmerged, hgiven] at h
      | ok given =>
          cases hhost : hostFields target (addLength body given) with
          | error e => simp [build, hmerged, hgiven, hhost] at h
          | ok host =>
              refine ⟨merged, given, host, rfl, hgiven, hhost, ?_⟩
              simp only [build, hmerged, hgiven, hhost] at h
              exact (Except.ok.inj h).symm

theorem key_contentLength (value : String) :
    (Field.ofText "Content-Length" value).key = contentLength :=
  key_ofText_eq_iff.mpr (by decide)

theorem key_authorization (value : String) :
    (Field.ofText "Authorization" value).key = accessKey "Authorization" :=
  key_ofText_eq_iff.mpr (by decide)

theorem hostFields_eq_ok {host : List Field} (h : hostFields target own = .ok host) :
    host = [] ∨ hasField (accessKey "host") own = false ∧
      ∃ f, host = [f] ∧ f.key = accessKey "host" := by
  unfold hostFields at h
  split at h
  · exact .inl (Except.ok.inj h).symm
  · next hfree =>
      cases htext : Charset.ascii.encode target.hostPort with
      | error e => simp [htext, Except.map] at h
      | ok o =>
          rw [htext] at h
          refine .inr ⟨by simpa using hfree, _, (Except.ok.inj h).symm, ?_⟩
          change (Field.ofText "Host" "").key = _
          exact key_ofText_eq_iff.mpr (by decide)

/-! ### Fields under a name of the exchange -/

/-- An ASCII name is read in small letters, in any character set. -/
theorem lowerChars_readWith (hname : allAscii name.toList = true) (hkey : f.key = accessKey name)
    (k : Charset) : lowerChars (readWith k f.key).toList = name.toList.map lowerAscii := by
  have hread : readWith k f.key = String.ofList (name.toList.map lowerAscii) := by
    rw [hkey, accessKey, Field.key_ofText, readWith,
      Charset.decode?_of_ascii k (allAscii_map_lowerAscii hname)]
    rfl
  rw [hread, String.toList_ofList, lowerChars_map_lowerAscii hname]

theorem comparedKey_of_ascii (hname : allAscii name.toList = true) (hkey : f.key = accessKey name)
    (k : Charset) : comparedKey k f = .ok f.key := by
  rw [comparedKey, lowerChars_readWith hname hkey,
    Charset.encode_of_ascii .ascii (allAscii_map_lowerAscii hname), hkey, accessKey,
    Field.key_ofText]

theorem mem_comparedKeys {k : Charset} {keys : List Octets} (h : comparedKeys k own = .ok keys)
    (hf : f ∈ own) (hkey : comparedKey k f = .ok key) : key ∈ keys := by
  induction own generalizing keys with
  | nil => simp at hf
  | cons e rest ih =>
      cases he : comparedKey k e with
      | error u => simp [comparedKeys, he] at h
      | ok key' =>
          cases hrest : comparedKeys k rest with
          | error u => simp [comparedKeys, he, hrest, Except.map] at h
          | ok keys' =>
              obtain rfl : key' :: keys' = keys := by
                simpa [comparedKeys, he, hrest, Except.map] using h
              rcases List.mem_cons.mp hf with rfl | hf
              · obtain rfl := Except.ok.inj (hkey.symm.trans he)
                exact List.mem_cons_self
              · exact List.mem_cons_of_mem _ (ih hrest hf)

theorem fieldsOf_freeFields {keys : List Octets} (h : key ∈ keys) :
    fieldsOf key (freeFields keys) = [] := by
  rw [fieldsOf_eq_nil_iff]
  rintro e he rfl
  have hfree := (List.mem_filter.mp he).2
  simp [h] at hfree

theorem fieldsOf_singleton_of_ne (h : f.key ≠ key) : fieldsOf key [f] = [] := by
  simp [fieldsOf, h]

theorem fieldsOf_addCookies {given : List Field} (h : hasField key own = true)
    (hgiven : addCookies cookies target own = .ok given) :
    fieldsOf key given = fieldsOf key own := by
  rcases addCookies_eq_ok hgiven with rfl | ⟨hfree, f, rfl, hcookie⟩
  · rfl
  · have hkey : f.key ≠ key := by
      rw [hcookie.key]
      rintro rfl
      simp [h] at hfree
    rw [fieldsOf_append, fieldsOf_singleton_of_ne hkey, List.append_nil]

theorem fieldsOf_addLength (h : hasField key own = true) (body : Octets) :
    fieldsOf key (addLength body own) = fieldsOf key own := by
  unfold addLength
  split
  · rfl
  · next hlength =>
      have hkey : (Field.ofText "Content-Length" (toString body.length)).key ≠ key := by
        rw [key_contentLength]
        rintro rfl
        simp [h] at hlength
      rw [fieldsOf_append, fieldsOf_singleton_of_ne hkey, List.append_nil]

theorem fieldsOf_zeroLength (h : hasField key own = true) (verb : Verb) :
    fieldsOf key (zeroLength verb own) = [] := by
  unfold zeroLength
  split
  · next hlength =>
      refine fieldsOf_singleton_of_ne ?_
      rw [key_contentLength]
      rintro rfl
      simp [h] at hlength
  · rfl

theorem fieldsOf_hostFields {host : List Field} (h : hasField key own = true)
    (hhost : hostFields target own = .ok host) : fieldsOf key host = [] := by
  rcases hostFields_eq_ok hhost with rfl | ⟨hfree, f, rfl, hkey⟩
  · rfl
  · refine fieldsOf_singleton_of_ne ?_
    rw [hkey]
    rintro rfl
    simp [h] at hfree

/-- Under an ASCII name that the exchange sets, a request has the fields of the exchange. -/
theorem fieldsOf_build (hbuild : build verb target own body readTimeout cookies = .ok r)
    (hname : allAscii name.toList = true) (hown : fieldsOf (accessKey name) own ≠ []) :
    fieldsOf (accessKey name) r.fields = fieldsOf (accessKey name) own := by
  obtain ⟨merged, given, host, hmerge, hgiven, hhost, rfl⟩ := build_eq_ok hbuild
  obtain ⟨keys, hkeys, rfl⟩ := mergeFields_eq_ok hmerge
  have htaken : accessKey name ∈ keys := by
    obtain ⟨f, hf⟩ := List.exists_mem_of_ne_nil _ hown
    obtain ⟨hmem, hkey⟩ : f ∈ own ∧ f.key = accessKey name := by
      simpa [fieldsOf] using hf
    exact hkey ▸ mem_comparedKeys hkeys hmem (comparedKey_of_ascii hname hkey _)
  have hmerged : fieldsOf (accessKey name) (freeFields keys ++ own)
      = fieldsOf (accessKey name) own := by
    rw [fieldsOf_append, fieldsOf_freeFields htaken, List.nil_append]
  have hcookies : fieldsOf (accessKey name) given = fieldsOf (accessKey name) own := by
    rw [fieldsOf_addCookies (hasField_of_fieldsOf (hmerged ▸ hown)) hgiven, hmerged]
  have hall : fieldsOf (accessKey name) (addLength body given)
      = fieldsOf (accessKey name) own := by
    rw [fieldsOf_addLength (hasField_of_fieldsOf (hcookies ▸ hown)), hcookies]
  have hset := hasField_of_fieldsOf (hall ▸ hown)
  rw [fieldsOf_append, fieldsOf_append, fieldsOf_hostFields hset hhost, fieldsOf_zeroLength hset,
    hall, List.nil_append, List.nil_append]

/-! ### Fields that the client adds -/

/-- The names under which the client adds fields to a request. -/
def clientKeys : List Octets := accessKey "host" :: contentLength :: clientFields.map Field.key

theorem mem_zeroLength (hf : f ∈ zeroLength verb own) : f.key = contentLength := by
  unfold zeroLength at hf
  split at hf
  · obtain rfl := List.mem_singleton.mp hf
    exact key_contentLength _
  · simp at hf

theorem mem_addLength (hf : f ∈ addLength body own) : f ∈ own ∨ f.key = contentLength := by
  unfold addLength at hf
  split at hf
  · exact .inl hf
  · rcases List.mem_append.mp hf with hf | hf
    · exact .inl hf
    · obtain rfl := List.mem_singleton.mp hf
      exact .inr (key_contentLength _)

theorem mem_addCookies {given : List Field} (h : addCookies cookies target own = .ok given)
    (hf : f ∈ given) : f ∈ own ∨ IsCookie cookies f := by
  rcases addCookies_eq_ok h with rfl | ⟨_, e, rfl, hcookie⟩
  · exact .inl hf
  · rcases List.mem_append.mp hf with hf | hf
    · exact .inl hf
    · obtain rfl := List.mem_singleton.mp hf
      exact .inr hcookie

/-- Every field of a request is one of the exchange, or one that the client adds. -/
theorem mem_build (hbuild : build verb target own body readTimeout cookies = .ok r)
    (hf : f ∈ r.fields) : f ∈ own ∨ f.key ∈ clientKeys ∨ IsCookie cookies f := by
  obtain ⟨merged, given, host, hmerge, hgiven, hhost, rfl⟩ := build_eq_ok hbuild
  obtain ⟨keys, _, rfl⟩ := mergeFields_eq_ok hmerge
  rcases List.mem_append.mp hf with hf | hf
  · rcases List.mem_append.mp hf with hf | hf
    · rcases hostFields_eq_ok hhost with rfl | ⟨_, e, rfl, hkey⟩
      · simp at hf
      · obtain rfl := List.mem_singleton.mp hf
        exact .inr (.inl (by simp [clientKeys, hkey]))
    · exact .inr (.inl (by simp [clientKeys, mem_zeroLength hf]))
  · rcases mem_addLength hf with hf | hlength
    · rcases mem_addCookies hgiven hf with hf | hcookie
      · rcases List.mem_append.mp hf with hf | hf
        · have hclient : f.key ∈ clientFields.map Field.key :=
            List.mem_map_of_mem (List.mem_filter.mp hf).1
          exact .inr (.inl (List.mem_cons_of_mem _ (List.mem_cons_of_mem _ hclient)))
        · exact .inl hf
      · exact .inr (.inr hcookie)
    · exact .inr (.inl (by simp [clientKeys, hlength]))

/-! ### Credentials in the target -/

/-- The target names a user or a password. -/
def carriesCredentials (t : Target) : Bool := !(t.userName.isEmpty && t.password.isEmpty)

theorem authorize_of_none (h : carriesCredentials r.target = false) : r.authorize = r := by
  have hnone : (r.target.userName.isEmpty && r.target.password.isEmpty) = true := by
    simpa [carriesCredentials] using h
  simp only [authorize, hnone, if_true]

theorem authorize_of_credentials (h : carriesCredentials r.target = true) :
    r.authorize = { r with fields := putField (.ofText "Authorization"
      (basicCredentials r.target.userName r.target.password)) r.fields } := by
  have hgiven : (r.target.userName.isEmpty && r.target.password.isEmpty) = false := by
    simpa only [carriesCredentials, Bool.not_eq_true'] using h
  simp only [authorize, hgiven]
  rfl

@[simp] theorem readTimeout_authorize (r : Request) :
    r.authorize.readTimeout = r.readTimeout := by
  cases h : carriesCredentials r.target with
  | false => rw [authorize_of_none h]
  | true => rw [authorize_of_credentials h]

theorem fieldsOf_authorize_of_ne
    (h : carriesCredentials r.target = true → sameName name "Authorization" = false) :
    fieldsOf (accessKey name) r.authorize.fields = fieldsOf (accessKey name) r.fields := by
  cases hgiven : carriesCredentials r.target with
  | false => rw [authorize_of_none hgiven]
  | true =>
      rw [authorize_of_credentials hgiven, fieldsOf_putField, if_neg]
      simp [key_ofText_eq_iff, h hgiven]

/-- The credentials of the target are the only ones that are sent. -/
theorem fieldsOf_authorize (h : carriesCredentials r.target = true) :
    fieldsOf (accessKey "Authorization") r.authorize.fields = [.ofText "Authorization"
      (basicCredentials r.target.userName r.target.password)] := by
  rw [authorize_of_credentials h, fieldsOf_putField, if_pos (key_authorization _)]

theorem mem_authorize (hf : f ∈ r.authorize.fields) :
    f ∈ r.fields ∨ carriesCredentials r.target = true ∧ f.key = accessKey "Authorization" := by
  cases h : carriesCredentials r.target with
  | false =>
      rw [authorize_of_none h] at hf
      exact .inl hf
  | true =>
      rw [authorize_of_credentials h] at hf
      rcases mem_putField hf with rfl | hf
      · exact .inr ⟨rfl, key_authorization _⟩
      · exact .inl hf

end SecureExchange.Request
