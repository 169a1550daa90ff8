import SecureExchange.Proofs.Address.Lenient

/-!
# Authorities that can be read

Where the brackets of an authority may stand (`checkAuthority_eq_ok_iff`), which ports are read
(`exists_port_iff`), and which characters are refused for disguising a separator.
-/

namespace SecureExchange

open Text

namespace Address

variable {host a inside after : List Char}

theorem exists_cons_of_isIpv6 (h : isIpv6 host = true) :
    ':' ∈ host ∧ ∃ c rest, host = c :: rest ∧ isAddressChar c = true := by
  have hfirst : ∀ s : List Char, ':' ∈ s → (∀ c ∈ s, isAddressChar c = true) →
      ∃ c rest, s = c :: rest ∧ isAddressChar c = true := by
    intro s hcolon hchars
    obtain ⟨c, rest, rfl⟩ := List.exists_cons_of_ne_nil (List.ne_nil_of_mem hcolon)
    exact ⟨c, rest, rfl, hchars c List.mem_cons_self⟩
  rcases isIpv6_cases h with ⟨_, hcolon, hchars⟩ | ⟨address, zone, rfl, _, _, hcolon, hchars, _⟩
  · exact ⟨hcolon, hfirst host hcolon hchars⟩
  · obtain ⟨c, rest, rfl, hc⟩ := hfirst address hcolon hchars
    exact ⟨List.mem_append_left _ hcolon, c, rest ++ '%' :: zone, rfl, hc⟩

theorem not_isIpv4_of_isIpv6 (h : isIpv6 host = true) : isIpv4 host = false := by
  rw [Bool.eq_false_iff]
  intro hip
  have hplain := of_mem_isIpv4 (p := (· != ':')) (fun c hc ↦ ?_) (by decide) hip
  · simpa using hplain ':' (exists_cons_of_isIpv6 h).1
  · rw [bne_iff_ne]
    rintro rfl
    exact absurd hc (by decide)

namespace Reference

variable {r : Reference}

/-! ### Brackets -/

/-- What may stand in brackets. -/
def isBracketable (host : List Char) : Bool := isIpv6 host || isFutureAddress host

theorem isFutureAddress_of_head (h : host.head? ≠ some 'v') : isFutureAddress host = false := by
  unfold isFutureAddress
  split
  · simp at h
  · rfl

theorem head_ne_of_isIpv6 (h : isIpv6 host = true) (more : List Char) :
    (host ++ more).head? ≠ some 'v' := by
  obtain ⟨_, c, rest, rfl, hc⟩ := exists_cons_of_isIpv6 h
  intro hv
  obtain rfl : c = 'v' := by simpa using hv
  exact absurd hc (by decide)

theorem checkBracketed_eq_ok_iff : checkBracketed host = .ok () ↔ isBracketable host = true := by
  by_cases hv : host.head? = some 'v'
  · have hother : isIpv6 host = false := by
      rw [Bool.eq_false_iff]
      intro hip
      have hne := head_ne_of_isIpv6 hip []
      rw [List.append_nil] at hne
      exact hne hv
    rw [checkBracketed, if_pos hv, isBracketable, hother, Bool.false_or]
    cases isFutureAddress host <;> simp
  · rw [checkBracketed, if_neg hv, isBracketable, isFutureAddress_of_head hv, Bool.or_false]
    cases hip : isIpv6 host with
    | true => simp [not_isIpv4_of_isIpv6 hip]
    | false => cases isIpv4 host <;> simp

/-- Where the brackets of an authority may stand. They belong around an address behind the last at
sign, with at most a port behind them. If there are others in front of that sign, the closing one
may be missing, or both. -/
inductive WellBracketed (a : List Char) : Prop
  | none (hopen : '[' ∉ a) (hclose : ']' ∉ a)
  | closed {inside after : List Char} (hinfo : hostInfo a = '[' :: inside ++ ']' :: after)
      (hfree : ']' ∉ inside) (hinside : isBracketable inside = true)
      (hafter : after = [] ∨ after.head? = some ':')
  | unclosed {inside : List Char} (hinfo : hostInfo a = '[' :: inside) (hfree : ']' ∉ inside)
      (hclose : ']' ∈ a) (hinside : isBracketable inside = true)
  | elsewhere (hopen : '[' ∈ a) (hclose : ']' ∈ a) (hfree : '[' ∉ hostInfo a)
      (hfuture : isFutureAddress (cut ':' (hostInfo a)).1 = true)

theorem hostInfo_subset (a : List Char) : hostInfo a ⊆ a := cutLast_snd_subset '@' a

theorem checkAuthority_of_brackets (hopen : '[' ∈ a) (hclose : ']' ∈ a) :
    checkAuthority a = checkBrackets a := by
  simp [checkAuthority, hopen, hclose]

theorem cut_bracket (inner : List Char) : cut '[' ('[' :: inner) = ([], some inner) := rfl

theorem wellBracketed_of_checkBrackets (hopen : '[' ∈ a) (hclose : ']' ∈ a)
    (h : checkBrackets a = .ok ()) : WellBracketed a := by
  rw [checkBrackets] at h
  have hfree := not_mem_cut_fst '[' (hostInfo a)
  rcases hcut : cut '[' (hostInfo a) with ⟨before, _ | inner⟩
  · rw [hcut] at h hfree
    rw [← eq_of_cut_none hcut] at hfree
    refine .elsewhere hopen hclose hfree ?_
    have hhost := checkBracketed_eq_ok_iff.mp h
    rw [isBracketable, Bool.or_eq_true] at hhost
    refine hhost.resolve_left fun hip ↦ ?_
    exact not_mem_cut_fst ':' (hostInfo a) (exists_cons_of_isIpv6 hip).1
  · have hinfo := eq_of_cut_some hcut
    have hinner := not_mem_cut_fst ']' inner
    rcases hcut' : cut ']' inner with ⟨inside, _ | after⟩
    · simp only [hcut, hcut', Option.getD_none] at h
      split at h
      · cases h
      next hbefore =>
        obtain rfl : before = [] := by simpa using hbefore
        rw [hcut', ← eq_of_cut_none hcut'] at hinner
        rw [← eq_of_cut_none hcut'] at h
        exact .unclosed hinfo hinner hclose (checkBracketed_eq_ok_iff.mp (by simpa using h))
    · simp only [hcut, hcut', Option.getD_some] at h
      split at h
      · cases h
      next hbefore =>
        split at h
        · cases h
        next hafter =>
          obtain rfl : before = [] := by simpa using hbefore
          rw [hcut'] at hinner
          rw [eq_of_cut_some hcut'] at hinfo
          refine .closed hinfo hinner (checkBracketed_eq_ok_iff.mp h) ?_
          simpa [or_iff_not_imp_left] using hafter

theorem checkAuthority_eq_ok (h : checkAuthority a = .ok ()) : WellBracketed a := by
  by_cases hopen : '[' ∈ a
  · by_cases hclose : ']' ∈ a
    · rw [checkAuthority_of_brackets hopen hclose] at h
      exact wellBracketed_of_checkBrackets hopen hclose h
    · simp [checkAuthority, hopen, hclose] at h
  · by_cases hclose : ']' ∈ a
    · simp [checkAuthority, hopen, hclose] at h
    · exact .none hopen hclose

theorem WellBracketed.checkAuthority (h : WellBracketed a) : checkAuthority a = .ok () := by
  cases h with
  | none hopen hclose => simp [Reference.checkAuthority, hopen, hclose]
  | closed hinfo hfree hinside hafter =>
      have hopen : '[' ∈ a := hostInfo_subset a (by simp [hinfo])
      have hclose : ']' ∈ a := hostInfo_subset a (by simp [hinfo])
      rw [checkAuthority_of_brackets hopen hclose]
      have hport : ∀ after : List Char, (after = [] ∨ after.head? = some ':') →
          (!after.isEmpty && after.head? != some ':') = false := by
        rintro after (rfl | hafter)
        · rfl
        · simp [hafter]
      simp [checkBrackets, hinfo, cut_bracket, cut_append hfree, hport _ hafter,
        checkBracketed_eq_ok_iff.mpr hinside]
  | unclosed hinfo hfree hclose hinside =>
      have hopen : '[' ∈ a := hostInfo_subset a (by simp [hinfo])
      rw [checkAuthority_of_brackets hopen hclose]
      simp [checkBrackets, hinfo, cut_bracket, cut_of_not_mem hfree,
        checkBracketed_eq_ok_iff.mpr hinside]
  | elsewhere hopen hclose hfree hfuture =>
      rw [checkAuthority_of_brackets hopen hclose, checkBrackets, cut_of_not_mem hfree]
      exact checkBracketed_eq_ok_iff.mpr (by simp [isBracketable, hfuture])

theorem checkAuthority_eq_ok_iff : Reference.checkAuthority a = .ok () ↔ WellBracketed a :=
  ⟨checkAuthority_eq_ok, WellBracketed.checkAuthority⟩

/-- The first closing bracket decides. -/
theorem wellBracketed_iff_of_closed (hinfo : hostInfo a = '[' :: inside ++ ']' :: after)
    (hfree : ']' ∉ inside) : WellBracketed a ↔
      isBracketable inside = true ∧ (after = [] ∨ after.head? = some ':') := by
  constructor
  · intro h
    cases h with
    | none hopen => exact absurd (hostInfo_subset a (by simp [hinfo])) hopen
    | @closed inside' after' hinfo' hfree' hinside hafter =>
        have hsame : inside' ++ ']' :: after' = inside ++ ']' :: after :=
          (List.cons.inj (hinfo'.symm.trans hinfo)).2
        have hcut := congrArg (cut ']') hsame
        rw [cut_append hfree', cut_append hfree] at hcut
        obtain ⟨rfl, hrest⟩ := Prod.mk.inj hcut
        obtain rfl := Option.some.inj hrest
        exact ⟨hinside, hafter⟩
    | @unclosed inside' hinfo' hfree' =>
        have hsame : inside' = inside ++ ']' :: after :=
          (List.cons.inj (hinfo'.symm.trans hinfo)).2
        simp [hsame] at hfree'
    | elsewhere _ _ hopen => exact absurd (by simp [hinfo]) hopen
  · rintro ⟨hinside, hafter⟩
    exact .closed hinfo hfree hinside hafter

/-! ### Ports -/

/-- No port, or one in ASCII digits that is in range. -/
def IsPortText (text : List Char) : Prop :=
  text = [] ∨ (∀ c ∈ text, c.isDigit = true) ∧ text.length ≤ Number.maxDigits ∧
    Number.digitsValue text ≤ 65535

theorem exists_port_iff : (∃ port, r.port = .ok port) ↔ IsPortText r.hostAndPort.2 := by
  rw [Reference.port, IsPortText]
  dsimp only
  generalize r.hostAndPort.2 = text
  split
  · next hempty => simp [List.isEmpty_iff.mp hempty]
  next hnonempty =>
    have hne : text ≠ [] := by simpa using hnonempty
    split
    · next hdigits =>
        rw [List.all_eq_true] at hdigits
        split
        · next hlong => simp [hne, Nat.not_le.mpr hlong]
        · next hshort =>
            have hlength := Nat.not_lt.mp hshort
            split
            · next hrange => simpa [hne, hlength, hrange] using hdigits
            · next hrange => simp [hne, hrange]
    · next hdigits =>
        rw [List.all_eq_true] at hdigits
        simp [hne, hdigits]

/-- A host with a closing bracket in it would end there, and what follows would be no port. -/
theorem not_mem_of_port_ok {port : Option Nat}
    (hinfo : hostInfo r.authority = '[' :: host ++ ']' :: after)
    (hcheck : checkAuthority r.authority = .ok ()) (hport : r.port = .ok port) : ']' ∉ host := by
  intro hmem
  obtain ⟨inside, behind, rfl, hfree⟩ := List.eq_append_cons_of_mem hmem
  have hfirst : hostInfo r.authority = '[' :: inside ++ ']' :: (behind ++ ']' :: after) := by
    rw [hinfo]
    simp
  obtain ⟨_, hnone | hcolon⟩ :=
    (wellBracketed_iff_of_closed hfirst hfree).mp (checkAuthority_eq_ok hcheck)
  · simp at hnone
  · -- the other closing bracket stands in the port then
    obtain ⟨rest, hrest⟩ : ∃ rest, behind ++ ']' :: after = ':' :: rest := by
      cases hbehind : behind ++ ']' :: after with
      | nil => simp at hbehind
      | cons c rest =>
          obtain rfl : c = ':' := by simpa [hbehind] using hcolon
          exact ⟨rest, rfl⟩
    have hclosing : ']' ∈ rest := by
      have hmem : ']' ∈ behind ++ ']' :: after := by simp
      rw [hrest] at hmem
      simpa using hmem
    have htext : r.hostAndPort.2 = rest := by
      rw [hostAndPort_of_bracketed hfirst hfree, hrest]
      rfl
    rcases exists_port_iff.mp ⟨port, hport⟩ with hnil | ⟨hdigits, _⟩
    · simp [htext, List.ne_nil_of_mem hclosing] at hnil
    · rw [htext] at hdigits
      exact absurd (hdigits ']' hclosing) (by decide)

/-! ### Disguises -/

theorem checkDisguise_eq_ok_iff :
    checkDisguise a = .ok () ↔ ∀ c ∈ a, disguises.contains c = false := by
  rw [checkDisguise]
  cases hany : a.any disguises.contains with
  | true => simpa using hany
  | false => simpa using hany

end Reference

end Address

end SecureExchange
