import SecureExchange.Proofs.Redaction.Independence

/-!
# Targets that can be shown

Every target that is accepted is written in a form with a single authority, and the lenient reading
finds that authority again. It may still refuse it: for a zone that disguises a separator or closes
the brackets early, or, as soon as there is a password, for a port out of range
(`Rendered.readable_iff`). A target without password whose host is no zoned address is always
shown.
-/

namespace SecureExchange

open Text

namespace Address

variable {s : List Char} {t : Target} {c : Char}

namespace Reference

theorem undisguised_of_isAscii (h : isAscii c = true) : disguises.contains c = false := by
  have hplain : (!disguises.contains c) = true :=
    of_isAscii (p := (!disguises.contains ·)) (by decide +kernel) h
  simpa using hplain

theorem isPortText_toString (n : Nat) : IsPortText (toString n).toList ↔ n ≤ 65535 := by
  have hdigits : ∀ c ∈ Nat.toDigits 10 n, c.isDigit = true :=
    fun c hc ↦ Nat.isDigit_of_mem_toDigits (by decide) (by decide) hc
  have hvalue : Number.digitsValue (Nat.toDigits 10 n) = n :=
    Nat.ofDigitChars_toDigits (by decide) (by decide)
  rw [IsPortText, Nat.toString_eq_ofList_toDigits, String.toList_ofList, hvalue]
  constructor
  · rintro (hnil | ⟨-, -, hrange⟩)
    · exact absurd hnil Nat.toDigits_ne_nil
    · exact hrange
  · intro hrange
    have hlength : (Nat.toDigits 10 n).length ≤ 5 :=
      (Nat.length_toDigits_le_iff (by decide) (by decide)).mpr (by omega)
    exact .inr ⟨hdigits, hlength.trans (by decide), hrange⟩

/-- A port that is written as a number is read again if it is in range. -/
theorem isPortText_portText_iff :
    IsPortText t.portText ↔ ∀ p, t.port = some p → 0 ≤ p ∧ p ≤ 65535 := by
  unfold Target.portText
  cases t.port with
  | none => simp [IsPortText]
  | some p =>
      simp only [Option.some.injEq, forall_eq']
      cases p with
      | ofNat n =>
          change IsPortText (toString n).toList ↔ _
          rw [isPortText_toString, Int.ofNat_eq_natCast]
          omega
      | negSucc n =>
          rw [toList_toString_negSucc]
          refine iff_of_false ?_ (by omega)
          rintro (hnil | ⟨hdigits, -, -⟩)
          · simp at hnil
          · exact absurd (hdigits '-' List.mem_cons_self) (by decide)

end Reference

namespace Target

theorem isAscii_of_keptInUserinfo (h : keptInUserinfo c = true) : isAscii c = true := by
  have hstays := staysInUserinfo_of_kept h
  simp only [staysInUserinfo, Bool.and_eq_true] at hstays
  exact isAscii_of_isVisible hstays.1.1

theorem host_subset_bracketed (t : Target) : t.host ⊆ bracketed t.host := by
  unfold bracketed
  split
  · exact fun c hc ↦ List.mem_append_left _ (List.mem_cons_of_mem _ hc)
  · exact List.Subset.refl _

theorem not_mem_portPart (hkept : keptInHost c = false) (hcolon : c ≠ ':') : c ∉ t.portPart := by
  intro h
  rcases keptInHost_of_isPortChar (isPortChar_of_mem_portPart h) with hplain | rfl
  · simp [hkept] at hplain
  · exact hcolon rfl

theorem portPart_cases (t : Target) :
    t.portPart = [] ∧ t.portText = [] ∨ t.portPart = ':' :: t.portText := by
  unfold portPart portText
  cases t.port with
  | none => exact .inl ⟨rfl, rfl⟩
  | some p => exact .inr rfl

end Target

/-- A bracket in a numeric address stands in its zone. -/
theorem exists_zone_of_bracket {inside behind : List Char}
    (hip : isIpv6 (inside ++ ']' :: behind) = true) (hfree : ']' ∉ inside) :
    ∃ address rest, inside = address ++ '%' :: rest ∧ '%' ∉ address ∧ '%' ∉ rest ∧
      isIpv6 address = true := by
  have hbracket : isAddressChar ']' = false := by decide
  rcases isIpv6_cases hip with
    ⟨_, _, hchars⟩ | ⟨address, zone, heq, hpercent, hzone, _, hchars, haddress⟩
  · have hchar := hchars ']' (by simp)
    simp [hbracket] at hchar
  · rcases List.append_eq_append_iff.mp heq with ⟨more, rfl, hmore⟩ | ⟨more, rfl, hmore⟩
    · cases more with
      | nil => simp at hmore
      | cons c more =>
          obtain ⟨rfl, -⟩ := List.cons.inj hmore
          have hchar := hchars ']' (by simp)
          simp [hbracket] at hchar
    · cases more with
      | nil => simp at hmore
      | cons c rest =>
          obtain ⟨rfl, rfl⟩ := List.cons.inj hmore
          exact ⟨address, rest, rfl, hpercent, fun hmem ↦ hzone (List.mem_append_left _ hmem),
            haddress⟩

/-- What stands in front of that bracket is an address still, unless nothing of the zone is left. -/
theorem isBracketable_of_zoned {inside behind : List Char}
    (hip : isIpv6 (inside ++ ']' :: behind) = true) (hfree : ']' ∉ inside) :
    Reference.isBracketable inside = true ↔ inside.getLast? ≠ some '%' := by
  obtain ⟨address, rest, rfl, hpercent, hrest, haddress⟩ := exists_zone_of_bracket hip hfree
  have hfuture := Reference.isFutureAddress_of_head
    (Reference.head_ne_of_isIpv6 haddress ('%' :: rest))
  rw [Reference.isBracketable, hfuture, Bool.or_false, isIpv6_zoned hpercent, haddress]
  cases hlast : rest.getLast? with
  | none => simp [List.getLast?_eq_none_iff.mp hlast]
  | some c =>
      have hmem := List.mem_of_getLast? hlast
      have hne : c ≠ '%' := fun e ↦ hrest (e ▸ hmem)
      simp [List.ne_nil_of_mem hmem, hrest, List.getLast?_cons, hlast, hne]

end Address

namespace Redaction

open Address

variable {s : String} {t : Target} {r : Reference}

/-- A reference whose authority can be checked, and written anew if it holds a password. -/
structure Readable (r : Reference) : Prop where
  brackets : Reference.WellBracketed r.authority
  undisguised : ∀ c ∈ r.authority, Reference.disguises.contains c = false
  port : hasPassword r = true → Reference.IsPortText r.hostAndPort.2

theorem exists_maskAuthority_iff :
    (∃ authority, maskAuthority r = .ok authority) ↔
      (hasPassword r = true → Reference.IsPortText r.hostAndPort.2) := by
  cases hpassword : hasPassword r with
  | false => simp [maskAuthority_of_plain hpassword]
  | true =>
      rw [maskAuthority_of_password hpassword, ← Reference.exists_port_iff]
      cases r.port <;> simp [Except.map]

theorem parse_eq_ok_iff {s : List Char} :
    Reference.parse s = .ok r ↔ r = Reference.divide s ∧
      Reference.WellBracketed r.authority ∧
        ∀ c ∈ r.authority, Reference.disguises.contains c = false := by
  constructor
  · intro h
    obtain ⟨rfl, hcheck⟩ := parse_eq_ok h
    refine ⟨rfl, Reference.checkAuthority_eq_ok hcheck, Reference.checkDisguise_eq_ok_iff.mp ?_⟩
    simp only [Reference.parse, hcheck] at h
    split at h
    · cases h
    · next hdisguise => exact hdisguise
  · rintro ⟨rfl, hbrackets, hplain⟩
    simp only [Reference.parse, hbrackets.checkAuthority,
      Reference.checkDisguise_eq_ok_iff.mpr hplain]

/-- An address is shown exactly if it can be read. -/
theorem exists_addressText_iff :
    (∃ shown, addressText s = .ok shown) ↔ Readable (Reference.divide s.toList) := by
  have haddress : (∃ shown, addressText s = .ok shown) ↔ ∃ shown, address s.toList = .ok shown := by
    rw [addressText]
    cases address s.toList <;> simp [Except.map]
  rw [haddress]
  by_cases hempty : s.toList = []
  · have hnone : (Reference.divide []).authority = [] := rfl
    rw [hempty]
    refine iff_of_true ⟨[], rfl⟩ ⟨.none ?_ ?_, ?_, fun _ ↦ .inl rfl⟩ <;> simp [hnone]
  · constructor
    · rintro ⟨shown, hshown⟩
      obtain ⟨r, authority, hparse, hmask, _⟩ := address_eq_ok hempty hshown
      obtain ⟨rfl, hbrackets, hplain⟩ := parse_eq_ok_iff.mp hparse
      exact ⟨hbrackets, hplain, exists_maskAuthority_iff.mp ⟨authority, hmask⟩⟩
    · intro h
      obtain ⟨authority, hmask⟩ := exists_maskAuthority_iff.mpr h.port
      have hparse := parse_eq_ok_iff.mpr ⟨rfl, h.brackets, h.undisguised⟩
      have hnonempty : s.toList.isEmpty = false := by simpa using hempty
      simp only [address, hnonempty, hparse, hmask, Bool.false_eq_true, if_false]
      split
      · exact ⟨_, rfl⟩
      · exact ⟨_, rfl⟩

theorem exists_fault_of_unshown (h : ¬ ∃ shown, addressText s = .ok shown) :
    ∃ e, addressText s = .error e := by
  cases hshown : addressText s with
  | error e => exact ⟨e, rfl⟩
  | ok shown => exact absurd ⟨shown, hshown⟩ h

/-- A target whose written form can be read leniently. -/
structure Showable (t : Target) : Prop where
  undisguised : ∀ c ∈ t.host, Reference.disguises.contains c = false
  brackets : ∀ inside after, cut ']' t.host = (inside, some after) →
    after.head? = some ':' ∧ inside.getLast? ≠ some '%'
  port : (cut ':' t.userinfo).2.getD [] ≠ [] →
    ']' ∉ t.host ∧ ∀ p, t.port = some p → 0 ≤ p ∧ p ≤ 65535

/-- What is known of a target that was accepted, and of the authority that is read in its place. -/
structure Rendered (t : Target) (r : Reference) : Prop where
  host : (∀ c ∈ t.host, Target.keptInHost c = true) ∨ isIpv6 t.host = true
  stays : ∀ c ∈ t.host, Target.staysInHost c = true
  userinfo : ∀ c ∈ t.userinfo, Target.keptInUserinfo c = true
  authority : r.authority = t.authority

theorem rendered_of_parse {s : List Char} (hparse : Target.parse s = .ok t)
    (hscheme : t.scheme = Exchange.secureScheme.toList) (hne : t.host ≠ []) :
    Rendered t (Reference.divide t.render) := by
  obtain ⟨hhost, hstays⟩ := Target.host_of_parse hparse
  have hwritten := Target.wellFormed_of_parse hparse hne
  exact ⟨hhost, hstays, fun _ hc ↦ (Target.parse_eq_ok hparse).2.keptInUserinfo hc,
    hwritten.authority_divide hscheme hne hstays⟩

namespace Rendered

variable (h : Rendered t r)

include h

theorem hostInfo : Reference.hostInfo r.authority = t.hostPort := by
  rw [h.authority, Target.hostInfo_authority h.stays]

theorem hasPassword_iff : hasPassword r = true ↔ (cut ':' t.userinfo).2.getD [] ≠ [] := by
  have huserinfo : r.userinfo.getD [] = t.userinfo := by
    rw [Reference.userinfo, h.authority]
    exact (Target.cutLast_authority h.stays).1
  have hpassword : r.password.getD [] = (cut ':' t.userinfo).2.getD [] := by
    rw [← huserinfo, Reference.password]
    cases r.userinfo with
    | none => rfl
    | some u => rfl
  rw [hasPassword, hpassword]
  simp

theorem undisguised_iff : (∀ c ∈ r.authority, Reference.disguises.contains c = false) ↔
    ∀ c ∈ t.host, Reference.disguises.contains c = false := by
  rw [h.authority]
  constructor
  · intro hall c hc
    refine hall c (List.mem_append_right _ (List.mem_append_left _ ?_))
    exact t.host_subset_bracketed hc
  · intro hall c hc
    rcases Target.mem_authority hc with hc | rfl | hc
    · exact Reference.undisguised_of_isAscii
        (Target.isAscii_of_keptInUserinfo (h.userinfo c hc))
    · exact Reference.undisguised_of_isAscii (by decide)
    · rcases Target.mem_hostPort hc with rfl | rfl | hc | hc
      · exact Reference.undisguised_of_isAscii (by decide)
      · exact Reference.undisguised_of_isAscii (by decide)
      · exact hall c hc
      · exact Reference.undisguised_of_isAscii (Target.of_mem_portPart hc).2

/-! ### Plain hosts -/

omit h in
theorem hostPort_of_plain (hplain : ∀ c ∈ t.host, Target.keptInHost c = true) :
    t.hostPort = t.host ++ t.portPart := by
  have hcolon : ':' ∉ t.host := fun hc ↦ absurd (hplain ':' hc) (by decide)
  change Target.bracketed t.host ++ t.portPart = _
  simp [Target.bracketed, hcolon]

theorem not_mem_of_plain (hplain : ∀ c ∈ t.host, Target.keptInHost c = true) {c : Char}
    (hkept : Target.keptInHost c = false) (huserinfo : Target.keptInUserinfo c = false)
    (hat : c ≠ '@') (hcolon : c ≠ ':') : c ∉ r.authority := by
  rw [h.authority]
  intro hc
  rcases Target.mem_authority hc with hc | rfl | hc
  · simp [h.userinfo c hc] at huserinfo
  · exact hat rfl
  · rw [hostPort_of_plain hplain] at hc
    rcases List.mem_append.mp hc with hc | hc
    · simp [hplain c hc] at hkept
    · exact Target.not_mem_portPart hkept hcolon hc

omit h in
theorem closing_not_mem_of_plain (hplain : ∀ c ∈ t.host, Target.keptInHost c = true) :
    ']' ∉ t.host := fun hc ↦ absurd (hplain ']' hc) (by decide)

theorem wellBracketed_of_plain (hplain : ∀ c ∈ t.host, Target.keptInHost c = true) :
    Reference.WellBracketed r.authority := by
  apply Reference.WellBracketed.none
  · exact h.not_mem_of_plain hplain (by decide) (by decide) (by decide) (by decide)
  · exact h.not_mem_of_plain hplain (by decide) (by decide) (by decide) (by decide)

/-! ### Numeric addresses -/

theorem hostInfo_of_numeric (hip : isIpv6 t.host = true) :
    Reference.hostInfo r.authority = '[' :: t.host ++ ']' :: t.portPart := by
  have hcolon : t.host.contains ':' = true :=
    List.contains_iff_mem.mpr (exists_cons_of_isIpv6 hip).1
  rw [h.hostInfo]
  change Target.bracketed t.host ++ t.portPart = _
  rw [Target.bracketed, if_pos hcolon]
  simp

theorem wellBracketed_of_numeric (hip : isIpv6 t.host = true) (hfree : ']' ∉ t.host) :
    Reference.WellBracketed r.authority := by
  refine .closed (h.hostInfo_of_numeric hip) hfree ?_ ?_
  · simp [Reference.isBracketable, hip]
  · rcases t.portPart_cases with ⟨hnone, _⟩ | hsome
    · exact .inl hnone
    · exact .inr (by rw [hsome]; rfl)

/-- A closing bracket in the zone is taken for the end of the host. -/
theorem wellBracketed_iff_of_zoned {inside behind : List Char}
    (hhost : t.host = inside ++ ']' :: behind) (hip : isIpv6 t.host = true)
    (hfree : ']' ∉ inside) : Reference.WellBracketed r.authority ↔
      behind.head? = some ':' ∧ inside.getLast? ≠ some '%' := by
  have hinfo : Reference.hostInfo r.authority
      = '[' :: inside ++ ']' :: (behind ++ ']' :: t.portPart) := by
    rw [h.hostInfo_of_numeric hip, hhost]
    simp
  rw [Reference.wellBracketed_iff_of_closed hinfo hfree, isBracketable_of_zoned (hhost ▸ hip) hfree]
  cases behind with
  | nil => simp
  | cons c behind => simp [and_comm]

/-! ### Both -/

theorem wellBracketed_iff : Reference.WellBracketed r.authority ↔
    ∀ inside after, cut ']' t.host = (inside, some after) →
      after.head? = some ':' ∧ inside.getLast? ≠ some '%' := by
  by_cases hclosing : ']' ∈ t.host
  · have hip : isIpv6 t.host = true :=
      h.host.resolve_left fun hplain ↦ closing_not_mem_of_plain hplain hclosing
    obtain ⟨inside, behind, hhost, hfree⟩ := List.eq_append_cons_of_mem hclosing
    rw [h.wellBracketed_iff_of_zoned hhost hip hfree, hhost, cut_append hfree]
    simp
  · have hall : Reference.WellBracketed r.authority := by
      rcases h.host with hplain | hip
      · exact h.wellBracketed_of_plain hplain
      · exact h.wellBracketed_of_numeric hip hclosing
    rw [cut_of_not_mem hclosing]
    simp [hall]

theorem portText_eq (hfree : ']' ∉ t.host) : r.hostAndPort.2 = t.portText := by
  rcases h.host with hplain | hip
  · have hopen : '[' ∉ Reference.hostInfo r.authority := fun hc ↦
      h.not_mem_of_plain hplain (by decide) (by decide) (by decide) (by decide)
        (Reference.hostInfo_subset _ hc)
    have hcolon : ':' ∉ t.host := fun hc ↦ absurd (hplain ':' hc) (by decide)
    rw [Reference.hostAndPort, cut_of_not_mem hopen, h.hostInfo, hostPort_of_plain hplain]
    rcases t.portPart_cases with ⟨hnone, htext⟩ | hsome
    · simp [hnone, htext, cut_of_not_mem hcolon]
    · simp [hsome, cut_append hcolon]
  · rw [Reference.hostAndPort_of_bracketed (h.hostInfo_of_numeric hip) hfree]
    rcases t.portPart_cases with ⟨hnone, htext⟩ | hsome
    · simp [hnone, htext, cut]
    · simp [hsome, cut]

/-- The lenient reading of a target as it is written. -/
theorem readable_iff : Readable r ↔ Showable t := by
  constructor
  · intro hreadable
    refine ⟨h.undisguised_iff.mp hreadable.undisguised, h.wellBracketed_iff.mp hreadable.brackets,
      fun hpassword ↦ ?_⟩
    have hport := hreadable.port (h.hasPassword_iff.mpr hpassword)
    have hfree : ']' ∉ t.host := by
      rcases h.host with hplain | hip
      · exact closing_not_mem_of_plain hplain
      · obtain ⟨port, hread⟩ := Reference.exists_port_iff.mpr hport
        exact Reference.not_mem_of_port_ok (h.hostInfo_of_numeric hip)
          hreadable.brackets.checkAuthority hread
    rw [h.portText_eq hfree] at hport
    exact ⟨hfree, Reference.isPortText_portText_iff.mp hport⟩
  · intro hshowable
    refine ⟨h.wellBracketed_iff.mpr hshowable.brackets,
      h.undisguised_iff.mpr hshowable.undisguised, fun hpassword ↦ ?_⟩
    obtain ⟨hfree, hport⟩ := hshowable.port (h.hasPassword_iff.mp hpassword)
    rw [h.portText_eq hfree]
    exact Reference.isPortText_portText_iff.mpr hport

end Rendered

end Redaction

end SecureExchange
