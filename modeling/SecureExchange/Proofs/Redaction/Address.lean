import SecureExchange.Proofs.Address.Brackets
import SecureExchange.Redaction.Address

/-!
# What a shown address tells of the host

Masking keeps an ASCII address in ASCII, and it keeps the zone of a numeric address as it was
written. So the address of a target is shown in ASCII exactly if its host is written in ASCII
(`allAscii_shown`), and two targets that are shown alike agree on that.
-/

namespace SecureExchange.Redaction

open Text Address

variable {s shown : List Char} {r : Reference} {t : Target}

theorem isAscii_of_isKept {c : Char} (h : Form.isKept c = true) : isAscii c = true := by
  have hlist : allAscii "_.-~* ".toList = true := by decide
  by_cases halpha : c.isAlphanum = true
  · exact isAscii_of_isAlphanum halpha
  · refine allAscii_iff.mp hlist c ?_
    simpa [Form.isKept, halpha, or_assoc] using h

theorem allAscii_encodeText (s : List Char) : allAscii (Form.encodeText s) = true := by
  refine allAscii_iff.mpr fun c hc ↦ ?_
  obtain ⟨c', hc', rfl⟩ := List.mem_map.mp hc
  split
  · decide
  · exact Percent.of_mem_encodeWith (p := isAscii) (fun _ _ ↦ isAscii_of_isKept) (by decide)
      (by decide) hc'

theorem allAscii_maskQuery (h : allAscii s = true) : allAscii (maskQuery s) = true := by
  unfold maskQuery
  dsimp only
  split
  · refine allAscii_iff.mpr fun c hc ↦ of_mem_join (by decide) ?_ hc
    intro part hpart
    obtain ⟨pair, _, rfl⟩ := List.mem_map.mp hpart
    refine allAscii_iff.mp (allAscii_append.mpr ⟨allAscii_encodeText _, ?_⟩)
    exact allAscii_cons.mpr ⟨by decide, allAscii_encodeText _⟩
  · exact h

theorem allAscii_maskAuthority {a : List Char} (h : allAscii r.authority = true)
    (hmask : maskAuthority r = .ok a) : allAscii a = true := by
  have huser : allAscii (r.userName.getD []) = true := by
    have huserinfo := allAscii_of_subset (cutLast_fst_subset '@' r.authority) h
    unfold Reference.userName Reference.userinfo
    cases hcut : (cutLast '@' r.authority).1 with
    | none => rfl
    | some u =>
        rw [hcut] at huserinfo
        exact allAscii_of_subset (cut_fst_subset ':' u) huserinfo
  unfold maskAuthority at hmask
  split at hmask
  · split at hmask
    · cases hmask
    · next port hport =>
        have hshown : allAscii (r.userName.getD [] ++ ':' :: mask
            ++ '@' :: r.hostName.getD "None".toList) = true := by
          rw [allAscii_append, allAscii_append, allAscii_cons]
          exact ⟨⟨huser, by decide, by decide⟩,
            allAscii_cons.mpr ⟨by decide, Reference.allAscii_hostName h⟩⟩
        rw [← Except.ok.inj hmask]
        split
        · exact hshown
        · exact hshown
        · exact allAscii_append.mpr ⟨hshown, allAscii_cons.mpr ⟨by decide, allAscii_toString _⟩⟩
  · obtain rfl := Except.ok.inj hmask
    exact h

theorem parse_eq_ok (h : Reference.parse s = .ok r) :
    r = Reference.divide s ∧ Reference.checkAuthority r.authority = .ok () := by
  unfold Reference.parse at h
  dsimp only at h
  split at h
  · cases h
  · next hcheck =>
      split at h
      · cases h
      · obtain rfl := Except.ok.inj h
        exact ⟨rfl, hcheck⟩

/-- An address is shown as it is, or written anew with its authority masked. -/
theorem address_eq_ok (hs : s ≠ []) (h : address s = .ok shown) :
    ∃ r authority, Reference.parse s = .ok r ∧ maskAuthority r = .ok authority ∧
      (shown = s ∨
        shown = { r with authority := authority, query := maskQuery r.query }.render) := by
  unfold address at h
  rw [if_neg (by simpa using hs)] at h
  split at h
  · cases h
  · next r hparse =>
      split at h
      · cases h
      · next authority hmask =>
          refine ⟨r, authority, hparse, hmask, ?_⟩
          dsimp only at h
          split at h
          · exact .inl (Except.ok.inj h).symm
          · exact .inr (Except.ok.inj h).symm

/-- Masking keeps ASCII texts in ASCII. -/
theorem allAscii_address (h : allAscii s = true) (hs : s ≠ []) (hshown : address s = .ok shown) :
    allAscii shown = true := by
  obtain ⟨r, authority, hparse, hmask, rfl | rfl⟩ := address_eq_ok hs hshown
  · exact h
  · have hr : r.IsAscii := (parse_eq_ok hparse).1 ▸ Reference.isAscii_divide h
    exact Reference.allAscii_render ⟨hr.scheme, allAscii_maskAuthority hr.authority hmask, hr.path,
      hr.params, allAscii_maskQuery hr.query, hr.fragment⟩

/-- An authority is left as it is, or written anew with the host as it was read. -/
theorem maskAuthority_eq_ok {r : Reference} {authority : List Char}
    (h : maskAuthority r = .ok authority) :
    authority = r.authority ∨
      ∃ port, r.port = .ok port ∧ r.hostName.getD "None".toList ⊆ authority := by
  unfold maskAuthority at h
  split at h
  · split at h
    · cases h
    · next port hport =>
        refine .inr ⟨port, hport, ?_⟩
        have hname : r.hostName.getD "None".toList ⊆ r.userName.getD [] ++ ':' :: mask
            ++ '@' :: r.hostName.getD "None".toList :=
          fun c hc ↦ List.mem_append_right _ (List.mem_cons_of_mem _ hc)
        rw [← Except.ok.inj h]
        split
        · exact hname
        · exact hname
        · exact List.Subset.trans hname (List.subset_append_left _ _)
  · exact .inl (Except.ok.inj h).symm

/-- The zone of a host stands in the address that is shown. -/
theorem zone_subset_shown {address zone : List Char} (h : t.WellFormed)
    (hscheme : t.scheme = Exchange.secureScheme.toList)
    (hzoned : Target.Zoned t.host address zone)
    (hhost : ∀ c ∈ t.host, Target.staysInHost c = true)
    (hshown : Redaction.address t.render = .ok shown) : zone ⊆ shown := by
  have hne : t.host ≠ [] := by simp [hzoned.eq]
  have hbracketed : t.hostPort = '[' :: t.host ++ ']' :: t.portPart := by
    have hcolon : t.host.contains ':' = true := List.contains_iff_mem.mpr hzoned.colon
    change Target.bracketed t.host ++ t.portPart = _
    rw [Target.bracketed, if_pos hcolon]
    simp
  have hzone : zone ⊆ t.authority := by
    intro c hc
    refine List.mem_append_right _ ?_
    rw [hbracketed, hzoned.eq]
    simp [hc]
  have hrender : t.render ≠ [] := by
    rw [Target.render_eq hscheme hne]
    simp
  obtain ⟨r, authority, hparse, hmask, rfl | rfl⟩ := address_eq_ok hrender hshown
  · rw [Target.render_eq hscheme hne]
    intro c hc
    simp [hzone hc]
  · refine List.Subset.trans ?_ (Reference.authority_subset_render _)
    dsimp only
    obtain ⟨rfl, hcheck⟩ := parse_eq_ok hparse
    have hwritten := h.authority_divide hscheme hne hhost
    rcases maskAuthority_eq_ok hmask with rfl | ⟨port, hport, hname⟩
    · rw [hwritten]
      exact hzone
    · -- a password is masked: the host is written as the lenient reading finds it
      have hinfo : Reference.hostInfo (Reference.divide t.render).authority
          = '[' :: t.host ++ ']' :: t.portPart := by
        rw [hwritten, Target.hostInfo_authority hhost, hbracketed]
      have hfree := Reference.not_mem_of_port_ok hinfo hcheck hport
      rw [Reference.hostName_of_zoned hinfo hfree hzoned, Option.getD_some] at hname
      intro c hc
      exact hname (List.mem_append_right _ (List.mem_cons_of_mem _ hc))

/-- The address of a target is shown in ASCII exactly if its host is written in ASCII. -/
theorem allAscii_shown {s : List Char} (hparse : Target.parse s = .ok t)
    (hscheme : t.scheme = Exchange.secureScheme.toList) (hhost : t.host ≠ [])
    (hshown : Redaction.address t.render = .ok shown) :
    allAscii t.hostPort = allAscii shown := by
  have h := Target.wellFormed_of_parse hparse hhost
  rw [Target.allAscii_hostPort]
  by_cases hascii : allAscii t.host = true
  · have hrender := h.allAscii_render hscheme hhost hascii
    have hne : t.render ≠ [] := by
      rw [Target.render_eq hscheme hhost]
      simp
    rw [hascii, allAscii_address hrender hne hshown]
  · -- only a zone goes beyond ASCII, and masking neither drops nor escapes it
    obtain ⟨⟨address, zone, hzoned⟩, hstays⟩ := h.host.resolve_left hascii
    have hzone := zone_subset_shown h hscheme hzoned hstays hshown
    have hbeyond : allAscii shown ≠ true := by
      intro hall
      refine hascii ?_
      rw [hzoned.eq, allAscii_append, allAscii_cons]
      exact ⟨hzoned.ascii, by decide, allAscii_of_subset hzone hall⟩
    rw [Bool.eq_iff_iff]
    simp [hascii, hbeyond]

end SecureExchange.Redaction
