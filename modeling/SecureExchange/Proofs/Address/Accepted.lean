import Mathlib.Data.List.TakeWhile
import SecureExchange.Exchange.Configure
import SecureExchange.Proofs.Address.Ascii

/-!
# Targets as they are written

A target with a host is written in visible characters, and none of its parts holds a separator at
which another part would begin. Only the zone of a numeric address may hold characters beyond ASCII
(`wellFormed_of_parse`).
-/

namespace SecureExchange

open Text

namespace Text

variable {d c : Char} {s a b : List Char}

theorem eq_of_cutLast_none (h : cutLast d s = (none, b)) : s = b ∧ d ∉ b := by
  induction s generalizing b with
  | nil =>
      obtain rfl : [] = b := by simpa [cutLast] using h
      simp
  | cons x rest ih =>
      unfold cutLast at h
      split at h
      · simp at h
      · next after hrest =>
          split at h
          · simp at h
          · next hx =>
              obtain rfl : x :: after = b := by simpa using h
              obtain ⟨rfl, hnot⟩ := ih hrest
              have hne : d ≠ x := fun e ↦ hx (by simp [e])
              simp [hne, hnot]

theorem eq_of_cutLast_some (h : cutLast d s = (some a, b)) : s = a ++ d :: b ∧ d ∉ b := by
  induction s generalizing a with
  | nil => simp [cutLast] at h
  | cons x rest ih =>
      unfold cutLast at h
      split at h
      · next before after hrest =>
          obtain ⟨rfl, rfl⟩ : x :: before = a ∧ after = b := by simpa using h
          obtain ⟨rfl, hnot⟩ := ih hrest
          exact ⟨rfl, hnot⟩
      · next after hrest =>
          split at h
          · next hx =>
              obtain ⟨rfl, rfl⟩ : [] = a ∧ after = b := by simpa using h
              obtain ⟨rfl, hnot⟩ := eq_of_cutLast_none hrest
              exact ⟨by rw [eq_of_beq hx, List.nil_append], hnot⟩
          · simp at h

theorem mem_of_mem_cutLast (h : c ∈ (cutLast d s).2) : c ∈ s ∧ c ≠ d := by
  rcases hcut : cutLast d s with ⟨before | _, after⟩
  · obtain ⟨rfl, hnot⟩ := eq_of_cutLast_none hcut
    rw [hcut] at h
    exact ⟨h, fun e ↦ hnot (e ▸ h)⟩
  · obtain ⟨rfl, hnot⟩ := eq_of_cutLast_some hcut
    rw [hcut] at h
    exact ⟨List.mem_append_right _ (List.mem_cons_of_mem _ h), fun e ↦ hnot (e ▸ h)⟩

theorem isAscii_of_isAlphanum (h : c.isAlphanum = true) : isAscii c = true := by
  change ((decide (65 ≤ c.val ∧ c.val ≤ 90) || (decide (97 ≤ c.val) && decide (c.val ≤ 122)))
    || (decide (48 ≤ c.val) && decide (c.val ≤ 57))) = true at h
  simp only [Bool.or_eq_true, Bool.and_eq_true, decide_eq_true_eq, UInt32.le_iff_toNat_le] at h
  rw [isAscii_iff]
  change c.val.toNat < 128
  change (65 ≤ c.val.toNat ∧ c.val.toNat ≤ 90 ∨ 97 ≤ c.val.toNat ∧ c.val.toNat ≤ 122) ∨
    48 ≤ c.val.toNat ∧ c.val.toNat ≤ 57 at h
  omega

theorem allAscii_of_subset {s t : List Char} (h : s ⊆ t) (ht : allAscii t = true) :
    allAscii s = true :=
  allAscii_iff.mpr fun c hc ↦ allAscii_iff.mp ht c (h hc)

theorem allAscii_append {s t : List Char} :
    allAscii (s ++ t) = true ↔ allAscii s = true ∧ allAscii t = true := by
  rw [allAscii, List.all_append, Bool.and_eq_true, allAscii, allAscii]

theorem allAscii_cons {s : List Char} :
    allAscii (c :: s) = true ↔ isAscii c = true ∧ allAscii s = true := by
  rw [allAscii, List.all_cons, Bool.and_eq_true, allAscii]

theorem allAscii_toString (n : Nat) : allAscii (toString n).toList = true := by
  rw [Nat.toString_eq_ofList_toDigits, String.toList_ofList]
  refine allAscii_iff.mpr fun c hc ↦ isAscii_of_isAlphanum ?_
  simp [Char.isAlphanum, Nat.isDigit_of_mem_toDigits (by decide) (by decide) hc]

theorem toList_toString_negSucc (n : Nat) :
    (toString (Int.negSucc n)).toList = '-' :: (toString (n + 1)).toList := by
  change ("-" ++ toString (n + 1)).toList = _
  rw [String.toList_append]
  rfl

end Text

namespace Address.Target

variable {s : List Char} {t : Target} {c : Char}

/-! ### Characters -/

theorem isAscii_of_isVisible (h : isVisible c = true) : isAscii c = true := by
  simp only [isVisible, Bool.and_eq_true, decide_eq_true_eq] at h
  rw [isAscii_iff]
  omega

theorem isControl_of_isVisible (h : isVisible c = true) : isControl c = false := by
  simp only [isVisible, Bool.and_eq_true, decide_eq_true_eq] at h
  simp [isControl]
  omega

theorem isVisible_of_keptInQuery (h : keptInQuery c = true) : isVisible c = true := by
  simp only [keptInQuery, Bool.and_eq_true] at h
  exact h.1

theorem isVisible_of_keptInFragment (h : keptInFragment c = true) : isVisible c = true := by
  simp only [keptInFragment, Bool.and_eq_true] at h
  exact h.1

theorem isVisible_of_keptInPath (h : keptInPath c = true) : isVisible c = true := by
  simp only [keptInPath, Bool.and_eq_true] at h
  exact isVisible_of_keptInQuery h.1

theorem isAscii_of_keptInHost (h : keptInHost c = true) : isAscii c = true := by
  have hdelimiters : allAscii subDelimiters = true := by decide
  have hothers : allAscii "\"\x60\x7b\x7d%|\\".toList = true := by decide
  simp only [keptInHost, isUnreserved, Bool.or_eq_true, beq_iff_eq, List.contains_iff_mem] at h
  rcases h with (((((halpha | rfl) | rfl) | rfl) | rfl) | hdelimiter) | hother
  · exact isAscii_of_isAlphanum halpha
  · decide
  · decide
  · decide
  · decide
  · exact allAscii_iff.mp hdelimiters c hdelimiter
  · exact allAscii_iff.mp hothers c hother

/-- A character that stays in userinfo ends neither that nor an authority. -/
def staysInUserinfo (c : Char) : Bool := isVisible c && !endsAuthority c && c != '@'

theorem staysInUserinfo_of_kept (h : keptInUserinfo c = true) : staysInUserinfo c = true := by
  have hseparators : "/?#@".toList.all (!keptInUserinfo ·) = true := by decide
  have hne : ∀ d ∈ "/?#@".toList, c ≠ d := by
    rintro d hd rfl
    have hescaped := List.all_eq_true.mp hseparators c hd
    simp [h] at hescaped
  have hvisible : isVisible c = true := by
    simp only [keptInUserinfo, Bool.and_eq_true] at h
    exact isVisible_of_keptInPath h.1
  simp at hne
  simp [staysInUserinfo, endsAuthority, hvisible, hne]

/-! ### Hosts -/

/-- A character of a host as it was written: it ends no authority and is no control character. -/
def staysInHost (c : Char) : Bool := !isControl c && !endsAuthority c && c != '@'

/-- A numeric address with a zone that may hold characters beyond ASCII. -/
structure Zoned (host address zone : List Char) : Prop where
  eq : host = address ++ '%' :: zone
  first : '%' ∉ address
  ascii : allAscii address = true
  colon : ':' ∈ host

theorem keptInHost_of_isAlphanum (h : c.isAlphanum = true) : keptInHost c = true := by
  simp [keptInHost, isUnreserved, h]

theorem keptInHost_of_isNameChar (h : HostName.isNameChar c = true) : keptInHost c = true := by
  simp only [HostName.isNameChar, HostName.isLabelChar, Bool.or_eq_true, beq_iff_eq] at h
  rcases h with (halpha | rfl) | rfl
  · exact keptInHost_of_isAlphanum halpha
  · decide
  · decide

theorem keptInHost_of_isAsciiDigit (h : isAsciiDigit c = true) : keptInHost c = true := by
  refine keptInHost_of_isAlphanum ?_
  have hdigit : c.isDigit = true := by
    simpa [Char.isDigit, UInt32.le_iff_toNat_le, isAsciiDigit] using h
  simp [Char.isAlphanum, hdigit]

theorem eq_of_looksLikeIpv6 (h : looksLikeIpv6 s = true) : s = '[' :: s.tail.dropLast ++ [']'] := by
  simp only [looksLikeIpv6, Bool.and_eq_true, beq_iff_eq, decide_eq_true_eq] at h
  obtain ⟨⟨hfirst, hlast⟩, hlength⟩ := h
  cases s with
  | nil => simp at hfirst
  | cons first rest =>
      obtain rfl : first = '[' := by simpa using hfirst
      have hrest : rest.getLast? = some ']' := by
        rw [List.getLast?_cons] at hlast
        cases hrest : rest.getLast? with
        | none =>
            rw [List.getLast?_eq_none_iff.mp hrest] at hlength
            simp at hlength
        | some d => simpa [hrest] using hlast
      rw [List.tail_cons, List.cons_append, List.dropLast_append_getLast? _ hrest]

/-- A host is a plain one, whose characters are neither colons nor brackets, or stands in brackets
as a numeric address. -/
theorem normalHost_cases {written host : List Char} (h : normalHost written = .ok host) :
    (∀ c ∈ host, keptInHost c = true) ∨
      isIpv6 host = true ∧ written = '[' :: host ++ [']'] := by
  unfold normalHost at h
  split at h
  · obtain rfl := Except.ok.inj h
    simp
  split at h
  · split at h
    · next hip =>
        obtain rfl := Except.ok.inj h
        exact .inl (of_mem_isIpv4 (fun _ ↦ keptInHost_of_isAsciiDigit) (by decide) hip)
    · cases h
  split at h
  · next hbrackets =>
      dsimp only at h
      split at h
      · next hip =>
          obtain rfl := Except.ok.inj h
          exact .inr ⟨hip, eq_of_looksLikeIpv6 hbrackets⟩
      · cases h
  split at h
  · obtain rfl := Except.ok.inj h
    exact .inl fun c hc ↦ Percent.of_mem_encodeWith (fun _ _ hkept ↦ hkept) (by decide)
      (by decide) hc
  · cases hname : HostName.encode (lowerChars written) with
    | error e => simp [hname] at h
    | ok name =>
        obtain rfl : name = host := by simpa [hname] using h
        exact .inl fun c hc ↦ keptInHost_of_isNameChar (HostName.isNameChar_of_encode hname c hc)

theorem normalHost_eq_ok {written host : List Char} (h : normalHost written = .ok host) :
    allAscii host = true ∨
      (∃ address zone, Zoned host address zone) ∧ ∀ c ∈ host, c ∈ written := by
  have hascii : ∀ {s : List Char}, (∀ c ∈ s, isAddressChar c = true) → allAscii s = true :=
    fun hs ↦ allAscii_iff.mpr fun c hc ↦ isAscii_of_isAddressChar (hs c hc)
  rcases normalHost_cases h with hplain | ⟨hip, hwritten⟩
  · exact .inl (allAscii_iff.mpr fun c hc ↦ isAscii_of_keptInHost (hplain c hc))
  · rcases isIpv6_cases hip with ⟨_, _, hchars⟩ | ⟨address, zone, rfl, hfirst, _, hcolon, hchars, _⟩
    · exact .inl (hascii hchars)
    · refine .inr ⟨⟨address, zone, rfl, hfirst, hascii hchars, ?_⟩, fun c hc ↦ ?_⟩
      · exact List.mem_append_left _ hcolon
      · rw [hwritten]
        exact List.mem_cons_of_mem _ (List.mem_append_left _ hc)

theorem mem_of_mem_splitHost (h : c ∈ (splitHost s).1) : c ∈ s := by
  unfold splitHost at h
  split at h
  next host rest hpair =>
    have hc : c ∈ host := by split at h <;> exact h
    split at hpair
    · next inner _ hcut =>
        obtain ⟨rfl, _⟩ := Prod.mk.inj hpair
        obtain ⟨hs, _⟩ := eq_of_cutLast_some hcut
        rw [hs, List.mem_append, List.mem_cons]
        rw [List.mem_append, List.mem_singleton] at hc
        exact hc.imp_right .inl
    · obtain ⟨rfl, _⟩ := Prod.mk.inj hpair
      exact List.takeWhile_subset _ hc

theorem mem_of_mem_splitScheme (h : c ∈ (splitScheme s).2) : c ∈ s := by
  unfold splitScheme at h
  split at h
  · exact h
  · split at h
    · exact List.mem_cons_of_mem _ h
    · split at h
      · split at h
        · next after hdrop =>
            have hsub : ':' :: after ⊆ _ := hdrop ▸ List.dropWhile_subset isSchemeChar
            exact hsub (List.mem_cons_of_mem _ h)
        · exact h
      · exact h

theorem of_mem_splitAuthority (h : c ∈ (splitAuthority s).1) :
    c ∈ s ∧ endsAuthority c = false := by
  unfold splitAuthority at h
  split at h
  · next rest =>
      have hends := List.mem_takeWhile_imp h
      refine ⟨?_, by simpa using hends⟩
      exact List.mem_cons_of_mem _ (List.mem_cons_of_mem _ (List.takeWhile_subset _ h))
  · simp at h

theorem staysInHost_of_divide (hcontrol : ∀ c ∈ s, isControl c = false)
    (hc : c ∈ (divide s).host) : staysInHost c = true := by
  obtain ⟨hauthority, hat⟩ := mem_of_mem_cutLast (mem_of_mem_splitHost hc)
  obtain ⟨hafter, hends⟩ := of_mem_splitAuthority hauthority
  have hwritten := hcontrol c (mem_of_mem_splitScheme hafter)
  simp [staysInHost, hwritten, hends, hat]

/-! ### Paths -/

/-- A path is empty or begins with a slash. -/
def IsRooted (path : List Char) : Prop := path = [] ∨ path.head? = some '/'

theorem isRooted_join {segments : List (List Char)} (h : segments.head? = some []) :
    IsRooted (join '/' segments) := by
  cases segments with
  | nil => simp at h
  | cons first rest =>
      obtain rfl : first = [] := by simpa using h
      cases rest with
      | nil => exact .inl rfl
      | cons second rest => exact .inr rfl

theorem head_resolveDots {segments : List (List Char)} (h : segments.head? = some []) :
    (resolveDots segments).head? = some [] := by
  have hstep : ∀ (segments out : List (List Char)), out.head? = some [] →
      (segments.foldl (fun out s ↦
        if s == ['.'] then out
        else if s == ['.', '.'] then if out == [[]] then out else out.dropLast
        else out ++ [s]) out).head? = some [] := by
    intro segments
    induction segments with
    | nil => exact fun _ h ↦ h
    | cons s rest ih =>
        intro out hout
        refine ih _ ?_
        obtain ⟨more, rfl⟩ : ∃ more, out = [] :: more := by
          cases out with
          | nil => simp at hout
          | cons first more => exact ⟨more, by simpa using hout⟩
        dsimp only
        split
        · rfl
        · split
          · split
            · rfl
            · cases more with
              | nil => simp_all
              | cons second more => rfl
          · rfl
  cases segments with
  | nil => simp at h
  | cons first rest =>
      obtain rfl : first = [] := by simpa using h
      exact hstep rest [[]] rfl

theorem isRooted_normalPath {path : List Char} (h : IsRooted path) :
    IsRooted (normalPath path) := by
  unfold normalPath
  dsimp only
  split
  · refine isRooted_join (head_resolveDots ?_)
    rcases h with rfl | h
    · rfl
    · cases path with
      | nil => simp at h
      | cons c rest =>
          obtain rfl : c = '/' := by simpa using h
          simp [pieces]
  · exact h

theorem isRooted_encodeWith {path : List Char} (h : IsRooted path) :
    IsRooted (Percent.encodeWith keptInPath path) := by
  rcases h with rfl | h
  · exact .inl rfl
  · cases path with
    | nil => simp at h
    | cons c rest =>
        obtain rfl : c = '/' := by simpa using h
        have hkept : keptInPath '/' = true := by decide
        exact .inr (by simp [Percent.encodeWith, hkept])

/-! ### Whole targets -/

/-- How a target with a host is written. -/
structure WellFormed (t : Target) : Prop where
  userinfo : ∀ c ∈ t.userinfo, staysInUserinfo c = true
  host : allAscii t.host = true ∨
    (∃ address zone, Zoned t.host address zone) ∧ ∀ c ∈ t.host, staysInHost c = true
  path : IsRooted t.path
  rest : ∀ c ∈ t.path ++ t.query.getD [] ++ t.fragment.getD [], isVisible c = true

/-- How the parts of a target come from those that were written. -/
structure Normalizes (p : Parts) (t : Target) : Prop where
  scheme : t.scheme = lowerChars p.scheme
  userinfo : t.userinfo = Percent.encodeWith keptInUserinfo p.userinfo
  host : normalHost p.host = .ok t.host
  path : t.host ≠ [] →
    IsRooted p.path ∧ t.path = Percent.encodeWith keptInPath (normalPath p.path)
  query : t.query = p.query.map (Percent.encodeWith keptInQuery)
  fragment : t.fragment = p.fragment.map (Percent.encodeWith keptInFragment)

theorem normalize_normalizes {p : Parts} (h : p.normalize = .ok t) : Normalizes p t := by
  unfold Parts.normalize at h
  split at h
  · cases h
  next host hnormal =>
    split at h
    · cases h
    next port hport =>
      dsimp only at h
      split at h
      · cases h
      next hpath =>
        obtain rfl := Except.ok.inj h
        refine ⟨rfl, rfl, hnormal, fun hhost ↦ ?_, rfl, rfl⟩
        -- with a host there is an authority, and the path begins behind it
        have hauthority : (!(Percent.encodeWith keptInUserinfo p.userinfo).isEmpty ||
            !host.isEmpty || port.isSome) = true := by
          have hne : host.isEmpty = false := by simpa using hhost
          simp [hne]
        rw [hauthority] at hpath
        refine ⟨or_iff_not_imp_left.mpr ?_, ?_⟩
        · simpa [checkPath, List.isEmpty_iff] using hpath
        · simp only [hauthority, Bool.or_true, if_true]

theorem Normalizes.keptInUserinfo {p : Parts} (h : Normalizes p t) (hc : c ∈ t.userinfo) :
    keptInUserinfo c = true := by
  rw [h.userinfo] at hc
  exact Percent.of_mem_encodeWith (fun _ _ hkept ↦ hkept) (by decide) (by decide) hc

theorem Normalizes.wellFormed {p : Parts} (h : Normalizes p t) (hhost : t.host ≠ [])
    (hwritten : ∀ c ∈ p.host, staysInHost c = true) : t.WellFormed := by
  obtain ⟨hrooted, hpath⟩ := h.path hhost
  refine ⟨?_, ?_, ?_, ?_⟩
  · intro c hc
    exact staysInUserinfo_of_kept (h.keptInUserinfo hc)
  · refine (normalHost_eq_ok h.host).imp_right fun hzoned ↦ ⟨hzoned.1, ?_⟩
    exact fun c hc ↦ hwritten c (hzoned.2 c hc)
  · rw [hpath]
    exact isRooted_encodeWith (isRooted_normalPath hrooted)
  · intro c hc
    have hencoded : ∀ {keep : Char → Bool} {s : List Char},
        (∀ c, keep c = true → isVisible c = true) → c ∈ Percent.encodeWith keep s →
        isVisible c = true := by
      intro keep s hkeep hc
      exact Percent.of_mem_encodeWith (p := isVisible) (fun c _ ↦ hkeep c) (by decide)
        (by decide) hc
    rw [List.mem_append, List.mem_append, hpath, h.query, h.fragment] at hc
    rcases hc with (hc | hc) | hc
    · exact hencoded (fun _ ↦ isVisible_of_keptInPath) hc
    · cases hquery : p.query with
      | none => simp [hquery] at hc
      | some q =>
          rw [hquery] at hc
          exact hencoded (fun _ ↦ isVisible_of_keptInQuery) hc
    · cases hfragment : p.fragment with
      | none => simp [hfragment] at hc
      | some f =>
          rw [hfragment] at hc
          exact hencoded (fun _ ↦ isVisible_of_keptInFragment) hc

theorem parse_eq_ok (h : parse s = .ok t) :
    (∀ c ∈ s, isControl c = false) ∧ Normalizes (divide s) t := by
  unfold parse at h
  split at h
  · cases h
  split at h
  · cases h
  next hcontrol =>
    refine ⟨fun c hc ↦ ?_, normalize_normalizes h⟩
    simpa using List.find?_eq_none.mp hcontrol c hc

theorem wellFormed_of_parse (h : parse s = .ok t) (hhost : t.host ≠ []) : t.WellFormed := by
  obtain ⟨hcontrol, hnormal⟩ := parse_eq_ok h
  exact hnormal.wellFormed hhost fun c hc ↦ staysInHost_of_divide hcontrol hc

theorem staysInHost_of_keptInHost (h : keptInHost c = true) : staysInHost c = true := by
  have himplies : (!keptInHost c || staysInHost c) = true :=
    of_isAscii (p := fun c ↦ !keptInHost c || staysInHost c) (by decide +kernel)
      (isAscii_of_keptInHost h)
  simpa [h] using himplies

/-- The host of a target is a plain one, or a numeric address. -/
theorem host_of_parse (h : parse s = .ok t) :
    ((∀ c ∈ t.host, keptInHost c = true) ∨ isIpv6 t.host = true) ∧
      ∀ c ∈ t.host, staysInHost c = true := by
  obtain ⟨hcontrol, hnormal⟩ := parse_eq_ok h
  rcases normalHost_cases hnormal.host with hplain | ⟨hip, hwritten⟩
  · exact ⟨.inl hplain, fun c hc ↦ staysInHost_of_keptInHost (hplain c hc)⟩
  · refine ⟨.inr hip, fun c hc ↦ staysInHost_of_divide hcontrol ?_⟩
    rw [hwritten]
    exact List.mem_cons_of_mem _ (List.mem_append_left _ hc)

/-! ### Writing -/

/-- Digits, a sign, and the colon in front of them. -/
def isPortChar (c : Char) : Bool := c.isDigit || c == '-' || c == ':'

theorem isPortChar_of_mem_portText (hc : c ∈ t.portText) : isPortChar c = true := by
  have hdigits : ∀ n : Nat, c ∈ (toString n).toList → isPortChar c = true := by
    intro n hc
    rw [Nat.toString_eq_ofList_toDigits, String.toList_ofList] at hc
    simp [isPortChar, Nat.isDigit_of_mem_toDigits (by decide) (by decide) hc]
  unfold portText at hc
  split at hc
  · simp at hc
  · next p _ =>
      cases p with
      | ofNat n => exact hdigits n hc
      | negSucc n =>
          rw [toList_toString_negSucc] at hc
          rcases List.mem_cons.mp hc with rfl | hc
          · decide
          · exact hdigits _ hc

/-- The port of an authority, with the colon in front of it. -/
def portPart (t : Target) : List Char := if t.port.isSome then ':' :: t.portText else []

theorem isPortChar_of_mem_portPart (hc : c ∈ t.portPart) : isPortChar c = true := by
  unfold portPart at hc
  split at hc
  · rcases List.mem_cons.mp hc with rfl | hc
    · decide
    · exact isPortChar_of_mem_portText hc
  · simp at hc

theorem keptInHost_of_isPortChar (h : isPortChar c = true) : keptInHost c = true ∨ c = ':' := by
  simp only [isPortChar, Bool.or_eq_true, beq_iff_eq] at h
  rcases h with (hdigit | rfl) | rfl
  · exact .inl (keptInHost_of_isAlphanum (by simp [Char.isAlphanum, hdigit]))
  · exact .inl (by decide)
  · exact .inr rfl

theorem of_mem_portPart (hc : c ∈ t.portPart) : staysInHost c = true ∧ isAscii c = true := by
  rcases keptInHost_of_isPortChar (isPortChar_of_mem_portPart hc) with hkept | rfl
  · exact ⟨staysInHost_of_keptInHost hkept, isAscii_of_keptInHost hkept⟩
  · decide

theorem allAscii_hostPort (t : Target) : allAscii t.hostPort = allAscii t.host := by
  have hport : allAscii t.portPart = true := allAscii_iff.mpr fun c hc ↦ (of_mem_portPart hc).2
  have hbracketed : allAscii (bracketed t.host) = allAscii t.host := by
    unfold bracketed
    split
    · simp [allAscii, isAscii]
    · rfl
  change allAscii (bracketed t.host ++ t.portPart) = _
  rw [allAscii, List.all_append, ← allAscii, ← allAscii, hport, Bool.and_true, hbracketed]

/-- What stands behind the authority of a target. -/
def tail (t : Target) : List Char :=
  t.path ++ (match t.query with | none => [] | some q => '?' :: q)
    ++ (match t.fragment with | none => [] | some f => '#' :: f)

theorem WellFormed.of_mem_tail (h : t.WellFormed) (hc : c ∈ t.tail) : isVisible c = true := by
  have hrest := h.rest
  unfold tail at hc
  cases hquery : t.query <;> cases hfragment : t.fragment <;>
    simp only [hquery, hfragment, Option.getD_none, Option.getD_some, List.mem_append,
      List.mem_cons, List.append_nil] at hc hrest
  · exact hrest c hc
  · rcases hc with hc | rfl | hc
    · exact hrest c (.inl hc)
    · decide
    · exact hrest c (.inr hc)
  · rcases hc with hc | rfl | hc
    · exact hrest c (.inl hc)
    · decide
    · exact hrest c (.inr hc)
  · rcases hc with (hc | rfl | hc) | rfl | hc
    · exact hrest c (.inl (.inl hc))
    · decide
    · exact hrest c (.inl (.inr hc))
    · decide
    · exact hrest c (.inr hc)

theorem WellFormed.takeWhile_tail (h : t.WellFormed) :
    t.tail.takeWhile (!endsAuthority ·) = [] := by
  unfold tail
  rcases h.path with hpath | hpath
  · rw [hpath]
    cases t.query <;> cases t.fragment <;> rfl
  · cases hcons : t.path with
    | nil => simp [hcons] at hpath
    | cons c rest =>
        obtain rfl : c = '/' := by simpa [hcons] using hpath
        rfl

theorem authority_ne_nil (hhost : t.host ≠ []) : t.authority ≠ [] := by
  have hbracketed : bracketed t.host ≠ [] := by
    unfold bracketed
    split
    · simp
    · exact hhost
  simp [authority, hostPort, hbracketed]

theorem render_eq (hscheme : t.scheme = Exchange.secureScheme.toList) (hhost : t.host ≠ []) :
    t.render = Exchange.secureScheme.toList ++ ':' :: '/' :: '/' :: (t.authority ++ t.tail) := by
  have hauthority : t.authority.isEmpty = false := by
    simpa using authority_ne_nil hhost
  have hsecure : Exchange.secureScheme.toList.isEmpty = false := by decide
  unfold render tail
  rw [hscheme, hauthority, hsecure]
  cases t.query <;> cases t.fragment <;>
    simp only [Bool.false_eq_true, if_false, List.append_assoc, List.cons_append, List.nil_append]

/-- A target with an ASCII host is written in ASCII. -/
theorem WellFormed.allAscii_render (h : t.WellFormed)
    (hscheme : t.scheme = Exchange.secureScheme.toList) (hhost : t.host ≠ [])
    (hascii : allAscii t.host = true) : allAscii t.render = true := by
  have huserinfo : allAscii t.userinfo = true := by
    refine allAscii_iff.mpr fun c hc ↦ isAscii_of_isVisible ?_
    have hstays := h.userinfo c hc
    simp only [staysInUserinfo, Bool.and_eq_true] at hstays
    exact hstays.1.1
  have hauthority : allAscii t.authority = true := by
    refine allAscii_append.mpr ⟨?_, t.allAscii_hostPort ▸ hascii⟩
    split
    · rfl
    · exact allAscii_append.mpr ⟨huserinfo, by decide⟩
  have htail : allAscii t.tail = true :=
    allAscii_iff.mpr fun c hc ↦ isAscii_of_isVisible (h.of_mem_tail hc)
  rw [render_eq hscheme hhost]
  simp only [allAscii_append, allAscii_cons]
  exact ⟨by decide, by decide, by decide, by decide, hauthority, htail⟩

theorem mem_hostPort (h : c ∈ t.hostPort) :
    c = '[' ∨ c = ']' ∨ c ∈ t.host ∨ c ∈ t.portPart := by
  rcases List.mem_append.mp (show c ∈ bracketed t.host ++ t.portPart from h) with h | h
  · unfold bracketed at h
    split at h
    · simp only [List.mem_cons, List.mem_append, List.not_mem_nil, or_false] at h
      rcases h with (h | h) | h
      · exact .inl h
      · exact .inr (.inr (.inl h))
      · exact .inr (.inl h)
    · exact .inr (.inr (.inl h))
  · exact .inr (.inr (.inr h))

theorem mem_authority (h : c ∈ t.authority) : c ∈ t.userinfo ∨ c = '@' ∨ c ∈ t.hostPort := by
  unfold authority at h
  rcases List.mem_append.mp h with h | h
  · split at h
    · simp at h
    · rcases List.mem_append.mp h with h | h
      · exact .inl h
      · exact .inr (.inl (List.mem_singleton.mp h))
  · exact .inr (.inr h)

/-- The authority of a target with a zone holds no separator that would end it. -/
theorem WellFormed.of_mem_authority (h : t.WellFormed)
    (hhost : ∀ c ∈ t.host, staysInHost c = true) (hc : c ∈ t.authority) :
    isControl c = false ∧ endsAuthority c = false := by
  have hstays : ∀ c, staysInHost c = true → isControl c = false ∧ endsAuthority c = false := by
    intro c hc
    simp only [staysInHost, Bool.and_eq_true, Bool.not_eq_true'] at hc
    exact hc.1
  rcases mem_authority hc with hc | rfl | hc
  · have huser := h.userinfo c hc
    simp only [staysInUserinfo, Bool.and_eq_true, Bool.not_eq_true'] at huser
    exact ⟨isControl_of_isVisible huser.1.1, huser.1.2⟩
  · decide
  · rcases mem_hostPort hc with rfl | rfl | hc | hc
    · decide
    · decide
    · exact hstays c (hhost c hc)
    · exact hstays c (of_mem_portPart hc).1

theorem host_ne_nil_of_readableHost {host : List Char} (h : t.readableHost = .ok host)
    (hhost : host ≠ []) : t.host ≠ [] := by
  intro hnil
  have hempty : t.readableHost = .ok [] := by
    rw [readableHost, hnil]
    rfl
  rw [hempty] at h
  exact hhost (Except.ok.inj h).symm

end Address.Target

/-- A text that names a target is one, with the secure scheme and a host. -/
theorem Exchange.targetOfText_eq_ok {s : String} {t : Address.Target}
    (h : targetOfText s = .ok t) :
    Address.Target.parse s.toList = .ok t ∧ t.scheme = secureScheme.toList ∧
      ∃ host, t.readableHost = .ok host ∧ host ≠ [] := by
  unfold targetOfText at h
  split at h
  · cases h
  next t' hparse =>
    split at h
    · cases h
    next hscheme =>
      split at h
      · cases h
      next host hhost =>
        split at h
        · split at h <;> cases h
        next hempty =>
          obtain rfl := Except.ok.inj h
          exact ⟨hparse, Decidable.not_not.mp hscheme, host, hhost, by simpa using hempty⟩

end SecureExchange
