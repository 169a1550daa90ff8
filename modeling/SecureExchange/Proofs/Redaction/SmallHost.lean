import SecureExchange.Proofs.Redaction.Showable
import SecureExchange.Proofs.Text.Case

/-!
# Hosts in small letters

The host of a reference is given in small letters, except for the zone of an address. Doing so again
changes nothing, and it neither adds nor removes a separator or a disguise of one. An address of a
later version stays one.
-/

namespace SecureExchange.Address.Reference

open Text

variable {r : Reference} {host name more : List Char} {c : Char}

/-- A host in small letters, except for its zone. -/
def smallHost (host : List Char) : List Char :=
  match cut '%' host with
  | (name, none) => lowerChars name
  | (name, some zone) => lowerChars name ++ '%' :: zone

/-- Nothing, or a zone behind its percent sign. -/
def IsZonePart (more : List Char) : Prop := more = [] ∨ ∃ zone, more = '%' :: zone

theorem hostName_of_nil (h : r.hostAndPort.1 = []) : r.hostName = none := by
  simp [hostName, h]

theorem hostName_of_ne_nil (h : r.hostAndPort.1 ≠ []) :
    r.hostName = some (smallHost r.hostAndPort.1) := by
  have hnonempty : r.hostAndPort.1.isEmpty = false := by simpa using h
  unfold hostName smallHost
  simp only [hnonempty, Bool.false_eq_true, if_false]
  split <;> simp_all

theorem exists_zonePart (host : List Char) :
    ∃ name more, host = name ++ more ∧ '%' ∉ name ∧ IsZonePart more := by
  have hname := not_mem_cut_fst '%' host
  rcases hcut : cut '%' host with ⟨name, _ | zone⟩
  · rw [hcut] at hname
    exact ⟨name, [], by simp [eq_of_cut_none hcut], hname, .inl rfl⟩
  · rw [hcut] at hname
    exact ⟨name, '%' :: zone, eq_of_cut_some hcut, hname, .inr ⟨zone, rfl⟩⟩

theorem smallHost_append (hname : '%' ∉ name) (hmore : IsZonePart more) :
    smallHost (name ++ more) = lowerChars name ++ more := by
  rcases hmore with rfl | ⟨zone, rfl⟩
  · simp [smallHost, cut_of_not_mem hname]
  · simp [smallHost, cut_append hname]

theorem smallHost_smallHost (host : List Char) : smallHost (smallHost host) = smallHost host := by
  obtain ⟨name, more, rfl, hname, hmore⟩ := exists_zonePart host
  have hsmall : '%' ∉ lowerChars name := fun hmem ↦
    hname (mem_of_mem_lowerChars hmem (by decide))
  rw [smallHost_append hname hmore, smallHost_append hsmall hmore, lowerChars_lowerChars]

theorem smallHost_eq_nil : smallHost host = [] ↔ host = [] := by
  obtain ⟨name, more, rfl, hname, hmore⟩ := exists_zonePart host
  rw [smallHost_append hname hmore, List.append_eq_nil_iff, List.append_eq_nil_iff, lowerChars,
    lowerAfter_eq_nil]

theorem mem_of_mem_smallHost (h : c ∈ smallHost host) (hlow : c.toNat < 0x61) : c ∈ host := by
  obtain ⟨name, more, rfl, hname, hmore⟩ := exists_zonePart host
  rw [smallHost_append hname hmore, List.mem_append] at h
  exact List.mem_append.mpr (h.imp_left fun h ↦ mem_of_mem_lowerChars h hlow)

/-- Separators are neither added nor removed. -/
theorem mem_smallHost (hsmall : isSmall c = true) (hlow : c.toNat < 0x61) :
    c ∈ smallHost host ↔ c ∈ host := by
  refine ⟨fun h ↦ mem_of_mem_smallHost h hlow, fun h ↦ ?_⟩
  obtain ⟨name, more, rfl, hname, hmore⟩ := exists_zonePart host
  rw [smallHost_append hname hmore, List.mem_append]
  exact (List.mem_append.mp h).imp_left fun h ↦ mem_lowerAfter h hsmall []

theorem open_mem_smallHost : '[' ∈ smallHost host ↔ '[' ∈ host :=
  mem_smallHost (isSmall_of_ascii (by decide) (by decide)) (by decide)

theorem close_mem_smallHost : ']' ∈ smallHost host ↔ ']' ∈ host :=
  mem_smallHost (isSmall_of_ascii (by decide) (by decide)) (by decide)

theorem colon_mem_smallHost : ':' ∈ smallHost host ↔ ':' ∈ host :=
  mem_smallHost (isSmall_of_ascii (by decide) (by decide)) (by decide)

theorem head?_of_smallHost (h : (smallHost host).head? = some c) (hlow : c.toNat < 0x61) :
    host.head? = some c := by
  obtain ⟨name, more, rfl, hname, hmore⟩ := exists_zonePart host
  rw [smallHost_append hname hmore] at h
  cases name with
  | nil => simpa using h
  | cons d rest =>
      have hne : lowerChars (d :: rest) ≠ [] := by simp [lowerChars, lowerAfter_eq_nil]
      rw [List.head?_append_of_ne_nil _ hne] at h
      rw [List.head?_append_of_ne_nil _ (List.cons_ne_nil d rest)]
      exact head?_of_lowerChars h hlow

/-! ### Disguises -/

theorem misses_disguises {run : CaseRun} (h : run ∈ caseRuns) {range : Nat × Nat}
    (hrange : range ∈ disguises.ranges) : run.misses range.1 range.2 = true := by
  have hall : (caseRuns.toList.all fun run ↦
      disguises.ranges.toList.all fun range ↦ run.misses range.1 range.2) = true := by
    decide +kernel
  have hrun := List.all_eq_true.mp hall run (Array.mem_toList_iff.mpr h)
  exact List.all_eq_true.mp hrun range (Array.mem_toList_iff.mpr hrange)

/-- No other character is made into a disguised separator. -/
theorem eq_of_disguised {d : Char} (hd : disguises.contains d = true) (before : List Char)
    (c : Char) (rest : List Char) (h : d ∈ lowerAt before c rest) : d = c := by
  have hall : (['ς', 'σ', 'i', '\u0307'].all fun e ↦ !disguises.contains e) = true := by
    decide +kernel
  have hplain : ∀ e ∈ ['ς', 'σ', 'i', '\u0307'], disguises.contains e = false :=
    fun e he ↦ by simpa using List.all_eq_true.mp hall e he
  unfold lowerAt lowerChar at h
  split at h
  · have hsigma : d ∈ ['ς', 'σ', 'i', '\u0307'] := by
      split at h <;> simp [List.mem_singleton.mp h]
    simp [hplain d hsigma] at hd
  split at h
  · next hascii =>
      obtain rfl := List.mem_singleton.mp h
      rw [undisguised_of_isAscii (by rwa [isAscii_lowerAscii])] at hd
      cases hd
  split at h
  · have hdotted : d ∈ ['ς', 'σ', 'i', '\u0307'] :=
      List.mem_cons_of_mem _ (List.mem_cons_of_mem _ h)
    simp [hplain d hdotted] at hd
  split at h
  · next run hfind =>
      have hrun := Array.mem_of_find?_eq_some hfind
      obtain rfl := List.mem_singleton.mp h
      obtain ⟨range, hrange, hlies⟩ := CharClass.contains_iff.mp hd
      have hcovers := Array.find?_some hfind
      exact absurd hlies (CaseRun.misses_small (isHigh_of_mem_caseRuns hrun) hcovers
        (misses_disguises hrun hrange))
  · exact List.mem_singleton.mp h

theorem undisguised_smallHost (h : ∀ c ∈ host, disguises.contains c = false) :
    ∀ c ∈ smallHost host, disguises.contains c = false := by
  obtain ⟨name, more, rfl, hname, hmore⟩ := exists_zonePart host
  intro c hc
  rw [smallHost_append hname hmore] at hc
  rcases List.mem_append.mp hc with hc | hc
  · rw [Bool.eq_false_iff]
    intro hdisguised
    have hmem := mem_of_mem_lowerAfter (eq_of_disguised hdisguised) hc
    simp [h c (List.mem_append_left _ hmem)] at hdisguised
  · exact h c (List.mem_append_right _ hc)

/-! ### Addresses of a later version -/

theorem isFutureAddress_iff : isFutureAddress host = true ↔
    ∃ version rest, host = 'v' :: (version ++ '.' :: rest) ∧ version ≠ [] ∧ rest ≠ [] ∧
      ∀ c ∈ version, isHexDigit c = true := by
  constructor
  · intro h
    unfold isFutureAddress at h
    split at h
    · next rest =>
        dsimp only at h
        split at h
        · next c more hdrop =>
            have hsplit := List.takeWhile_append_dropWhile (p := isHexDigit) (l := rest)
            rw [hdrop] at hsplit
            refine ⟨rest.takeWhile isHexDigit, c :: more, by rw [hsplit], by simpa using h,
              List.cons_ne_nil c more, fun d hd ↦ List.mem_takeWhile_imp hd⟩
        · cases h
    · cases h
  · rintro ⟨version, rest, rfl, hversion, hrest, hdigits⟩
    obtain ⟨c, more, rfl⟩ := List.exists_cons_of_ne_nil hrest
    have hdot : isHexDigit '.' = false := by decide
    have htake : (version ++ '.' :: c :: more).takeWhile isHexDigit = version := by
      rw [List.takeWhile_append_of_pos hdigits, List.takeWhile_cons_of_neg (by simp [hdot]),
        List.append_nil]
    have hdrop : (version ++ '.' :: c :: more).dropWhile isHexDigit = '.' :: c :: more := by
      rw [List.dropWhile_append_of_pos hdigits, List.dropWhile_cons_of_neg (by simp [hdot])]
    simp [isFutureAddress, htake, hdrop, hversion]

theorem isAscii_of_isHexDigit (h : isHexDigit c = true) : isAscii c = true :=
  isAscii_of_isAddressChar (by simp [isAddressChar, h])

theorem isHexDigit_lowerAscii (h : isHexDigit c = true) : isHexDigit (lowerAscii c) = true := by
  have hboth : (!isHexDigit c || isHexDigit (lowerAscii c)) = true :=
    of_isAscii (p := fun c ↦ !isHexDigit c || isHexDigit (lowerAscii c)) (by decide +kernel)
      (isAscii_of_isHexDigit h)
  simpa [h] using hboth

/-- Small letters keep the version and the dot behind it. -/
theorem isFutureAddress_smallHost (h : isFutureAddress host = true) :
    isFutureAddress (smallHost host) = true := by
  obtain ⟨version, rest, rfl, hversion, hrest, hdigits⟩ := isFutureAddress_iff.mp h
  obtain ⟨name, more, rfl, hname, hmore⟩ := exists_zonePart rest
  have hfront : '%' ∉ 'v' :: (version ++ ['.']) ++ name := by
    simp only [List.mem_cons, List.mem_append, List.not_mem_nil, or_false, not_or]
    exact ⟨⟨by decide, fun hmem ↦ absurd (hdigits '%' hmem) (by decide), by decide⟩, hname⟩
  have hascii : allAscii ('v' :: (version ++ ['.'])) = true := by
    rw [allAscii_cons, allAscii_append]
    exact ⟨by decide, allAscii_iff.mpr fun c hc ↦ isAscii_of_isHexDigit (hdigits c hc), by decide⟩
  have hdot : ('v' :: (version ++ ['.'])).map lowerAscii
      = 'v' :: (version.map lowerAscii ++ ['.']) := by
    rw [List.map_cons, List.map_append]
    rfl
  have hhost : 'v' :: (version ++ '.' :: (name ++ more))
      = 'v' :: (version ++ ['.']) ++ name ++ more := by simp
  rw [hhost, smallHost_append hfront hmore, lowerChars, lowerAfter_append hascii, hdot]
  generalize hsmall : lowerAfter _ name = small
  refine isFutureAddress_iff.mpr ⟨version.map lowerAscii, small ++ more, by simp,
    by simpa using hversion, ?_, ?_⟩
  · simpa [← hsmall, lowerAfter_eq_nil] using hrest
  · intro c hc
    obtain ⟨d, hd, rfl⟩ := List.mem_map.mp hc
    exact isHexDigit_lowerAscii (hdigits d hd)

end SecureExchange.Address.Reference
