import SecureExchange.Proofs.Exchange.RequestFields

/-!
# Listing the fields of a request

Listing looks each name up again that it finds among the fields. A name in ASCII is found, so that
fields with such names can always be listed (`listFields_of_asciiNamed`). All names that the client
adds are of that kind; it is up to the exchange whether a request can be listed.
-/

namespace SecureExchange

open Text Request

namespace OrderedMap

variable {κ α : Type} [BEq κ]

theorem mem_keys_insert {k k' : κ} {a : α} {m : OrderedMap κ α} (h : k' ∈ keys (insert k a m)) :
    k' = k ∨ k' ∈ keys m := by
  induction m with
  | nil => simpa [insert, keys] using h
  | cons p rest ih =>
      unfold insert at h
      split at h
      · rcases List.mem_cons.mp h with rfl | hrest
        · exact .inl rfl
        · exact .inr (List.mem_cons_of_mem _ hrest)
      · rcases List.mem_cons.mp h with rfl | hrest
        · exact .inr List.mem_cons_self
        · exact (ih hrest).imp_right (List.mem_cons_of_mem _)

theorem mem_keys_group {k : κ} {pairs : List (κ × α)} (h : k ∈ keys (group pairs)) :
    k ∈ pairs.map Prod.fst := by
  have hstep : ∀ (pairs : List (κ × α)) (m : OrderedMap κ (List α)),
      k ∈ keys (pairs.foldl (fun m p ↦ insert p.1 ((get? p.1 m).getD [] ++ [p.2]) m) m) →
      k ∈ keys m ∨ k ∈ pairs.map Prod.fst := by
    intro pairs
    induction pairs with
    | nil => exact fun m hm ↦ .inl hm
    | cons p rest ih =>
        intro m hm
        rcases ih _ hm with hfirst | hrest
        · rcases mem_keys_insert hfirst with rfl | hold
          · exact .inr List.mem_cons_self
          · exact .inl hold
        · exact .inr (List.mem_cons_of_mem _ hrest)
  rcases hstep pairs [] h with hnil | hpairs
  · simp [keys] at hnil
  · exact hpairs

end OrderedMap

/-- The name of the field is an ASCII text. -/
def Field.AsciiNamed (f : Field) : Prop :=
  ∃ name : String, allAscii name.toList = true ∧ f.key = accessKey name

theorem Field.asciiNamed_ofText {name : String} (h : allAscii name.toList = true)
    (value : String) : (Field.ofText name value).AsciiNamed :=
  ⟨name, h, by rw [accessKey, Field.key_ofText, Field.key_ofText]⟩

/-- A field that is set by an ASCII name has this name, in whatever character set it is written. -/
theorem Fields.asciiNamed_of_set {h fields : Fields} {name value : String}
    (hset : h.set name value = .ok fields) (hname : allAscii name.toList = true)
    (hentries : ∀ e ∈ h.entries, e.AsciiNamed) : ∀ e ∈ fields.entries, e.AsciiNamed := by
  have hencode := Charset.encode_of_ascii (h.charset.getD .utf8) hname
  simp only [set, hencode] at hset
  split at hset
  · simp at hset
  · simp at hset
  · next n v hn hv =>
      obtain rfl := Except.ok.inj hset
      obtain rfl := Except.ok.inj hn
      intro e he
      rcases mem_putField he with rfl | hold
      · exact ⟨name, hname, rfl⟩
      · exact hentries e hold

section Listing

variable {k : Charset} {entries : List Field} {f : Field}

/-- The name that an ASCII name is listed under, which is the one it is looked up by. -/
theorem Field.AsciiNamed.encode_listed (h : f.AsciiNamed) (k : Charset) :
    k.encode (lowerChars (readWith k f.key).toList) = .ok f.key := by
  obtain ⟨name, hname, hkey⟩ := h
  rw [lowerChars_readWith hname hkey, Charset.encode_of_ascii k (allAscii_map_lowerAscii hname),
    hkey, accessKey, Field.key_ofText]

theorem findField?_of_asciiNamed (h : f.AsciiNamed) (hf : f ∈ entries) :
    ∃ value, findField? k (readWith k f.key) entries = .ok (some value) := by
  have hfound : entries.filter (fun e ↦ decide (e.key = f.key)) ≠ [] := by
    rw [ne_eq, List.filter_eq_nil_iff]
    intro hnone
    exact absurd (decide_eq_true rfl) (hnone f hf)
  unfold findField?
  rw [h.encode_listed k]
  dsimp only
  split
  · next hnil => exact absurd hnil hfound
  · exact ⟨_, rfl⟩

theorem lookUpAll_eq_ok {names : List String}
    (h : ∀ name ∈ names, ∃ value, findField? k name entries = .ok (some value)) :
    ∃ listed, lookUpAll k entries names = .ok listed := by
  induction names with
  | nil => exact ⟨[], rfl⟩
  | cons name rest ih =>
      obtain ⟨value, hvalue⟩ := h name List.mem_cons_self
      obtain ⟨listed, hlisted⟩ := ih fun n hn ↦ h n (List.mem_cons_of_mem _ hn)
      exact ⟨(name, value) :: listed, by simp [lookUpAll, hvalue, hlisted, Except.map]⟩

/-- The names that are looked up are names of fields. -/
theorem exists_of_mem_listed {name : String}
    (h : name ∈ OrderedMap.keys (joinValues (readFields k entries))) :
    ∃ e ∈ entries, readWith k e.key = name := by
  have hkeys : OrderedMap.keys (joinValues (readFields k entries))
      = OrderedMap.keys (OrderedMap.group (readFields k entries)) := by
    simp [OrderedMap.keys, joinValues]
  rw [hkeys] at h
  simpa [readFields] using OrderedMap.mem_keys_group h

theorem listFields_of_asciiNamed (h : ∀ e ∈ entries, e.AsciiNamed) (k : Charset) :
    ∃ listed, listFields k entries = .ok listed := by
  refine lookUpAll_eq_ok fun name hname ↦ ?_
  obtain ⟨e, he, rfl⟩ := exists_of_mem_listed hname
  exact findField?_of_asciiNamed (h e he) he

end Listing

namespace Request

/-- The fields of the request can be listed once a reply has arrived. -/
def isListable (r : Request) : Bool :=
  match listFields (charsetOf r.fields) r.fields with
  | .ok _ => true
  | .error _ => false

variable {r : Request}

theorem isListable_of_asciiNamed (h : ∀ f ∈ r.fields, f.AsciiNamed) : r.isListable = true := by
  obtain ⟨listed, hlisted⟩ := listFields_of_asciiNamed h (charsetOf r.fields)
  rw [isListable, hlisted]

theorem asciiNamed_of_mem_clientKeys {f : Field} (h : f.key ∈ clientKeys) : f.AsciiNamed := by
  let names := ["host", "content-length", "accept", "accept-encoding", "connection", "user-agent"]
  have hkeys : clientKeys = names.map accessKey := by decide
  have hascii : ∀ name ∈ names, allAscii name.toList = true := by decide
  rw [hkeys] at h
  obtain ⟨name, hname, hkey⟩ := List.mem_map.mp h
  exact ⟨name, hascii name hname, hkey.symm⟩

/-- A request can be listed if all names that the exchange has set are ASCII texts. -/
theorem isListable_of_build {verb : Verb} {target : Address.Target} {own : List Field}
    {body : Octets} {readTimeout : Binary64} {cookies : Cookies}
    (hbuild : build verb target own body readTimeout cookies = .ok r)
    (hown : ∀ f ∈ own, f.AsciiNamed) :
    r.authorize.isListable = true := by
  refine isListable_of_asciiNamed fun f hf ↦ ?_
  rcases mem_authorize hf with hf | ⟨_, hkey⟩
  · rcases mem_build hbuild hf with hf | hkey | hcookie
    · exact hown f hf
    · exact asciiNamed_of_mem_clientKeys hkey
    · exact ⟨"cookie", by decide, hcookie.key⟩
  · exact ⟨"Authorization", by decide, hkey⟩

end Request

end SecureExchange
