import SecureExchange.Proofs.Address.Lenient

/-!
# References that are read back

A reference whose parts hold none of the separators that would end them is read back from what it is
written as, if it has an authority (`Parted.divide_render`). Every reference that was read is of
this kind (`parted_divide`), and stays so with another authority or another query of that kind.
-/

namespace SecureExchange

open Text

namespace Text

variable {d : Char} {s t : List Char}

/-- A last part behind its separator is found again; an empty one is left out. -/
theorem cut_append_optional (h : d ∉ s) (t : List Char) :
    (cut d (s ++ if t.isEmpty then [] else d :: t)).1 = s ∧
      (cut d (s ++ if t.isEmpty then [] else d :: t)).2.getD [] = t := by
  cases t with
  | nil => simp [cut_of_not_mem h]
  | cons c t => simp [cut_append h]

theorem head?_of_cut {c : Char} (h : (cut d s).1.head? = some c) : s.head? = some c := by
  rcases hcut : cut d s with ⟨a, _ | b⟩
  · rw [hcut] at h
    rw [eq_of_cut_none hcut]
    exact h
  · rw [hcut] at h
    rw [eq_of_cut_some hcut, List.head?_append]
    simp [show a.head? = some c from h]

theorem not_mem_of_cut_eq {a : List Char} {b : Option (List Char)} (h : cut d s = (a, b)) :
    d ∉ a := by
  have hfirst := not_mem_cut_fst d s
  rwa [h] at hfirst

end Text

namespace Address.Reference

variable {s scheme path params : List Char} {r : Reference} {c : Char}

/-- Neither a tab nor the end of a line. -/
def staysInReference (c : Char) : Bool := c != '\t' && c != '\r' && c != '\n'

def staysInAuthority (c : Char) : Bool := !endsAuthority c && staysInReference c

def staysInQuery (c : Char) : Bool := c != '#' && staysInReference c

def staysInPath (c : Char) : Bool := c != '?' && staysInQuery c

theorem staysInReference_of_mem_clean (h : c ∈ clean s) : staysInReference c = true :=
  (List.mem_filter.mp h).2

theorem clean_of_stays (hfirst : ∀ c, s.head? = some c → 0x20 < c.toNat)
    (hstays : ∀ c ∈ s, staysInReference c = true) : clean s = s := by
  have hstart : s.dropWhile (fun c ↦ decide (c.toNat ≤ 0x20)) = s := by
    cases s with
    | nil => rfl
    | cons c rest => exact List.dropWhile_cons_of_neg (by simpa using hfirst c rfl)
  rw [clean, hstart]
  exact List.filter_eq_self.mpr hstays

/-! ### Parameters -/

/-- The path with its parameters behind it. -/
def joinParams (path params : List Char) : List Char :=
  if params.isEmpty then path else path ++ ';' :: params

@[simp] theorem joinParams_nil (path : List Char) : joinParams path [] = path := rfl

/-- The path and the parameters, if the scheme has any. -/
def partParams (scheme pathAndParams : List Char) : List Char × List Char :=
  if schemesWithParams.contains (String.ofList scheme) then splitParams pathAndParams
  else (pathAndParams, [])

theorem splitParams_of_segment {before : Option (List Char)} {segment last : List Char}
    (hcut : cutLast '/' s = (before, last)) (hlast : cut ';' last = (segment, some params)) :
    splitParams s = (match before with
      | some b => b ++ '/' :: segment
      | none => segment, params) := by
  cases before with
  | some b => simp only [splitParams, hcut, hlast]
  | none => simp only [splitParams, hcut, hlast]

theorem splitParams_of_plain (h : ';' ∉ (cutLast '/' s).2) : splitParams s = (s, []) := by
  simp only [splitParams, cut_of_not_mem h]

/-- The parameters are parted from the path again. Only a semicolon with nothing behind it is not
written again. -/
theorem splitParams_joinParams (h : splitParams s = (path, params)) :
    splitParams (joinParams path params) = (path, params) ∧
      (s = joinParams path params ∨ s = joinParams path params ++ [';']) := by
  rcases hcut : cutLast '/' s with ⟨before, last⟩
  rcases hlast : cut ';' last with ⟨segment, _ | found⟩
  · have hplain : ';' ∉ (cutLast '/' s).2 := by
      rw [hcut, eq_of_cut_none hlast]
      exact not_mem_of_cut_eq hlast
    have hsplit := splitParams_of_plain hplain
    obtain ⟨rfl, rfl⟩ := Prod.mk.inj (hsplit.symm.trans h)
    exact ⟨hsplit, .inl rfl⟩
  · have hsegment := not_mem_of_cut_eq hlast
    have hsplit := splitParams_of_segment hcut hlast
    obtain ⟨hpath, rfl⟩ := Prod.mk.inj (hsplit.symm.trans h)
    obtain rfl := eq_of_cut_some hlast
    cases before with
    | none =>
        obtain rfl : segment = path := hpath
        obtain ⟨rfl, hslash⟩ := eq_of_cutLast_none hcut
        cases found with
        | nil =>
            refine ⟨splitParams_of_plain ?_, .inr rfl⟩
            have hfree : '/' ∉ segment := fun hmem ↦ hslash (List.mem_append_left _ hmem)
            rw [joinParams_nil, cutLast_of_not_mem hfree]
            exact hsegment
        | cons c found => exact ⟨hsplit, .inl rfl⟩
    | some b =>
        obtain rfl : b ++ '/' :: segment = path := hpath
        obtain ⟨rfl, hslash⟩ := eq_of_cutLast_some hcut
        cases found with
        | nil =>
            refine ⟨splitParams_of_plain ?_, .inr (by simp [joinParams])⟩
            have hfree : '/' ∉ segment := fun hmem ↦ hslash (List.mem_append_left _ hmem)
            rw [joinParams_nil, cutLast_append hfree]
            exact hsegment
        | cons c found =>
            have hjoin : joinParams (b ++ '/' :: segment) (c :: found)
                = b ++ '/' :: (segment ++ ';' :: c :: found) := by
              simp [joinParams]
            exact ⟨by rw [hjoin]; exact hsplit, .inl hjoin.symm⟩

theorem partParams_joinParams (h : partParams scheme s = (path, params)) :
    partParams scheme (joinParams path params) = (path, params) ∧
      (s = joinParams path params ∨ s = joinParams path params ++ [';']) := by
  unfold partParams at h ⊢
  split
  · next hscheme =>
      rw [if_pos hscheme] at h
      exact splitParams_joinParams h
  · next hscheme =>
      rw [if_neg hscheme] at h
      obtain ⟨rfl, rfl⟩ := Prod.mk.inj h
      exact ⟨rfl, .inl rfl⟩

/-! ### Parts -/

theorem stays_of_staysInAuthority (h : staysInAuthority c = true) :
    endsAuthority c = false ∧ staysInReference c = true := by
  simpa [staysInAuthority] using h

theorem stays_of_staysInQuery (h : staysInQuery c = true) :
    c ≠ '#' ∧ staysInReference c = true := by
  simpa [staysInQuery] using h

theorem stays_of_staysInPath (h : staysInPath c = true) :
    c ≠ '?' ∧ c ≠ '#' ∧ staysInReference c = true := by
  simpa [staysInPath, staysInQuery] using h

/-- No scheme, or one in small letters. -/
structure IsScheme (scheme : List Char) : Prop where
  starts : ∀ c, scheme.head? = some c → c.isAlpha = true
  chars : ∀ c ∈ scheme, isSchemeChar c = true
  small : scheme.map lowerAscii = scheme

/-- A reference whose parts can be written one behind the other. -/
structure Parted (r : Reference) : Prop where
  scheme : IsScheme r.scheme
  authority : ∀ c ∈ r.authority, staysInAuthority c = true
  located : joinParams r.path r.params = [] ∨ (joinParams r.path r.params).head? = some '/'
  path : ∀ c ∈ joinParams r.path r.params, staysInPath c = true
  params : partParams r.scheme (joinParams r.path r.params) = (r.path, r.params)
  query : ∀ c ∈ r.query, staysInQuery c = true
  fragment : ∀ c ∈ r.fragment, staysInReference c = true

/-- What is written behind the authority. -/
def tail (r : Reference) : List Char :=
  (joinParams r.path r.params ++ if r.query.isEmpty then [] else '?' :: r.query)
    ++ if r.fragment.isEmpty then [] else '#' :: r.fragment

theorem isAlpha_lowerAscii (h : c.isAlpha = true) : (lowerAscii c).isAlpha = true := by
  have hboth : (!c.isAlpha || (lowerAscii c).isAlpha) = true :=
    of_isAscii (p := fun c ↦ !c.isAlpha || (lowerAscii c).isAlpha) (by decide +kernel)
      (isAscii_of_isAlphanum (by simp [Char.isAlphanum, h]))
  simpa [h] using hboth

theorem isAscii_of_isSchemeChar (h : isSchemeChar c = true) : isAscii c = true := by
  simp only [isSchemeChar, Bool.or_eq_true, beq_iff_eq] at h
  rcases h with ((h | rfl) | rfl) | rfl
  · exact isAscii_of_isAlphanum h
  · rfl
  · rfl
  · rfl

theorem isSchemeChar_lowerAscii (h : isSchemeChar c = true) :
    isSchemeChar (lowerAscii c) = true := by
  have hboth : (!isSchemeChar c || isSchemeChar (lowerAscii c)) = true :=
    of_isAscii (p := fun c ↦ !isSchemeChar c || isSchemeChar (lowerAscii c)) (by decide +kernel)
      (isAscii_of_isSchemeChar h)
  simpa [h] using hboth

/-- Not a separator behind the scheme, and not a blank. -/
theorem visible_of_isSchemeChar (h : isSchemeChar c = true) :
    c ≠ ':' ∧ 0x20 < c.toNat ∧ staysInReference c = true := by
  have hall : (!isSchemeChar c || c != ':' && decide (0x20 < c.toNat) && staysInReference c)
      = true :=
    of_isAscii (p := fun c ↦ !isSchemeChar c ||
      c != ':' && decide (0x20 < c.toNat) && staysInReference c) (by decide +kernel)
      (isAscii_of_isSchemeChar h)
  simpa [h, and_assoc] using hall

/-- A scheme was found and is written in small letters, or there is none. -/
theorem splitScheme_cases (s : List Char) : splitScheme s = ([], s) ∨
    ∃ first rest after, s = first :: rest ++ ':' :: after ∧ first.isAlpha = true ∧
      (∀ c ∈ rest, isSchemeChar c = true) ∧
        splitScheme s = ((first :: rest).map lowerAscii, after) := by
  unfold splitScheme
  split
  · next first rest after hcut =>
      split
      · next hscheme =>
          rw [Bool.and_eq_true, List.all_eq_true] at hscheme
          exact .inr ⟨first, rest, after, eq_of_cut_some hcut, hscheme.1, hscheme.2, rfl⟩
      · exact .inl rfl
  · exact .inl rfl

theorem isScheme_splitScheme (s : List Char) : IsScheme (splitScheme s).1 := by
  rcases splitScheme_cases s with hnone | ⟨first, rest, after, -, halpha, hchars, hsplit⟩
  · rw [hnone]
    exact ⟨by simp, by simp, rfl⟩
  · have hfirst : isSchemeChar first = true := by simp [isSchemeChar, Char.isAlphanum, halpha]
    rw [hsplit]
    refine ⟨?_, ?_, ?_⟩
    · intro c hc
      obtain rfl : lowerAscii first = c := by simpa using hc
      exact isAlpha_lowerAscii halpha
    · intro c hc
      obtain ⟨d, hd, rfl⟩ := List.mem_map.mp hc
      refine isSchemeChar_lowerAscii ?_
      rcases List.mem_cons.mp hd with rfl | hd
      · exact hfirst
      · exact hchars d hd
    · rw [List.map_map]
      exact List.map_congr_left fun c _ ↦ lowerAscii_lowerAscii c

/-! ### Reading back -/

namespace Parted

variable (h : r.Parted)

include h

theorem splitScheme_render (hne : r.scheme ≠ []) (after : List Char) :
    splitScheme (r.scheme ++ ':' :: after) = (r.scheme, after) := by
  obtain ⟨first, rest, hscheme⟩ := List.exists_cons_of_ne_nil hne
  have hfirst : first.isAlpha = true := h.scheme.starts first (by rw [hscheme]; rfl)
  have hrest : rest.all isSchemeChar = true := List.all_eq_true.mpr fun c hc ↦
    h.scheme.chars c (by rw [hscheme]; exact List.mem_cons_of_mem _ hc)
  have hcolon : ':' ∉ r.scheme := fun hc ↦ (visible_of_isSchemeChar (h.scheme.chars _ hc)).1 rfl
  have hsmall := h.scheme.small
  rw [hscheme] at hcolon hsmall ⊢
  simp only [splitScheme, cut_append hcolon, hfirst, hrest, Bool.and_self, if_true, hsmall]

theorem joinParams_shown : (if (joinParams r.path r.params).isEmpty
      || (joinParams r.path r.params).head? == some '/' then joinParams r.path r.params
      else '/' :: joinParams r.path r.params) = joinParams r.path r.params := by
  rcases h.located with hnil | hslash
  · simp [hnil]
  · simp [hslash]

theorem render_eq (hne : r.authority ≠ []) :
    r.render = (if r.scheme.isEmpty then [] else r.scheme ++ [':'])
      ++ '/' :: '/' :: (r.authority ++ r.tail) := by
  have hshows : r.showsAuthority (joinParams r.path r.params) = true := by
    simp [showsAuthority, hne]
  have hpath : (if r.params.isEmpty then r.path else r.path ++ ';' :: r.params)
      = joinParams r.path r.params := rfl
  simp only [render, hpath, hshows, if_true, h.joinParams_shown, tail]
  simp

theorem of_mem_tail (hc : c ∈ r.tail) : staysInReference c = true := by
  simp only [tail, List.mem_append] at hc
  rcases hc with (hc | hc) | hc
  · exact (stays_of_staysInPath (h.path c hc)).2.2
  · split at hc
    · cases hc
    · rcases List.mem_cons.mp hc with rfl | hc
      · decide
      · exact (stays_of_staysInQuery (h.query c hc)).2
  · split at hc
    · cases hc
    · rcases List.mem_cons.mp hc with rfl | hc
      · decide
      · exact h.fragment c hc

theorem clean_render (hne : r.authority ≠ []) : clean r.render = r.render := by
  rw [h.render_eq hne]
  refine clean_of_stays ?_ ?_
  · intro c hc
    cases hscheme : r.scheme with
    | nil =>
        obtain rfl : '/' = c := by simpa [hscheme] using hc
        decide
    | cons first rest =>
        obtain rfl : first = c := by simpa [hscheme] using hc
        exact (visible_of_isSchemeChar (h.scheme.chars first (by simp [hscheme]))).2.1
  · intro c hc
    rw [List.mem_append] at hc
    rcases hc with hc | hc
    · split at hc
      · cases hc
      · rcases List.mem_append.mp hc with hc | hc
        · exact (visible_of_isSchemeChar (h.scheme.chars c hc)).2.2
        · obtain rfl := List.mem_singleton.mp hc
          decide
    · simp only [List.mem_cons, List.mem_append] at hc
      rcases hc with rfl | rfl | hc | hc
      · decide
      · decide
      · exact (stays_of_staysInAuthority (h.authority c hc)).2
      · exact h.of_mem_tail hc

theorem splitScheme_eq (hne : r.authority ≠ []) :
    splitScheme r.render = (r.scheme, '/' :: '/' :: (r.authority ++ r.tail)) := by
  rw [h.render_eq hne]
  cases hscheme : r.scheme with
  | nil =>
      rcases splitScheme_cases ('/' :: '/' :: (r.authority ++ r.tail)) with
        hnone | ⟨first, rest, after, heq, halpha, _⟩
      · exact hnone
      · obtain ⟨rfl, -⟩ := List.cons.inj heq
        exact absurd halpha (by decide)
  | cons first rest =>
      have hsplit :=
        h.splitScheme_render (by simp [hscheme]) ('/' :: '/' :: (r.authority ++ r.tail))
      rw [hscheme] at hsplit
      simpa using hsplit

theorem head?_tail (hc : r.tail.head? = some c) : endsAuthority c = true := by
  unfold tail at hc
  rcases h.located with hnil | hslash
  · rw [hnil, List.nil_append] at hc
    cases hquery : r.query with
    | nil =>
        cases hfragment : r.fragment with
        | nil => simp [hquery, hfragment] at hc
        | cons d rest =>
            obtain rfl : '#' = c := by simpa [hquery, hfragment] using hc
            rfl
    | cons d rest =>
        obtain rfl : '?' = c := by simpa [hquery] using hc
        rfl
  · obtain ⟨rest, hrest⟩ : ∃ rest, joinParams r.path r.params = '/' :: rest := by
      cases hjoin : joinParams r.path r.params with
      | nil => simp [hjoin] at hslash
      | cons d rest =>
          obtain rfl : d = '/' := by simpa [hjoin] using hslash
          exact ⟨rest, rfl⟩
    obtain rfl : '/' = c := by simpa [hrest] using hc
    rfl

theorem splitAuthority_eq :
    splitAuthority ('/' :: '/' :: (r.authority ++ r.tail)) = (r.authority, r.tail) := by
  have hauthority : ∀ c ∈ r.authority, (!endsAuthority c) = true := fun c hc ↦ by
    rw [(stays_of_staysInAuthority (h.authority c hc)).1]
    rfl
  have htail : r.tail.takeWhile (!endsAuthority ·) = [] ∧
      r.tail.dropWhile (!endsAuthority ·) = r.tail := by
    cases htail : r.tail with
    | nil => exact ⟨rfl, rfl⟩
    | cons c rest =>
        have hends := h.head?_tail (c := c) (by rw [htail]; rfl)
        exact ⟨List.takeWhile_cons_of_neg (by simp [hends]),
          List.dropWhile_cons_of_neg (by simp [hends])⟩
  change (List.takeWhile (!endsAuthority ·) (r.authority ++ r.tail),
    List.dropWhile (!endsAuthority ·) (r.authority ++ r.tail)) = _
  rw [List.takeWhile_append_of_pos hauthority, List.dropWhile_append_of_pos hauthority, htail.1,
    htail.2, List.append_nil]

theorem cut_tail : (cut '#' r.tail).2.getD [] = r.fragment ∧
    (cut '?' (cut '#' r.tail).1).2.getD [] = r.query ∧
      (cut '?' (cut '#' r.tail).1).1 = joinParams r.path r.params := by
  have hnumber : '#' ∉ joinParams r.path r.params
      ++ if r.query.isEmpty then [] else '?' :: r.query := by
    intro hmem
    rcases List.mem_append.mp hmem with hmem | hmem
    · exact (stays_of_staysInPath (h.path _ hmem)).2.1 rfl
    · split at hmem
      · cases hmem
      · rcases List.mem_cons.mp hmem with heq | hmem
        · exact absurd heq (by decide)
        · exact (stays_of_staysInQuery (h.query _ hmem)).1 rfl
  have hquestion : '?' ∉ joinParams r.path r.params := fun hmem ↦
    (stays_of_staysInPath (h.path _ hmem)).1 rfl
  obtain ⟨hfront, hfragment⟩ := cut_append_optional hnumber r.fragment
  obtain ⟨hpath, hquery⟩ := cut_append_optional hquestion r.query
  rw [tail, hfront]
  exact ⟨hfragment, hquery, hpath⟩

/-- Such a reference is read back from what it is written as. -/
theorem divide_render (hne : r.authority ≠ []) : divide r.render = r := by
  obtain ⟨hfragment, hquery, hpath⟩ := h.cut_tail
  have hparams := h.params
  rw [partParams] at hparams
  simp only [divide, h.clean_render hne, h.splitScheme_eq hne, h.splitAuthority_eq, hfragment,
    hquery, hpath, hparams]

end Parted

/-! ### What was read -/

theorem splitAuthority_cases (s : List Char) : splitAuthority s = ([], s) ∨
    ∃ rest : List Char, splitAuthority s
      = (rest.takeWhile (!endsAuthority ·), rest.dropWhile (!endsAuthority ·)) := by
  unfold splitAuthority
  split
  · next rest => exact .inr ⟨rest, rfl⟩
  · exact .inl rfl

theorem ends_of_mem_splitAuthority (h : c ∈ (splitAuthority s).1) : endsAuthority c = false := by
  rcases splitAuthority_cases s with hnone | ⟨rest, hsplit⟩
  · simp [hnone] at h
  · rw [hsplit] at h
    have hkept := List.mem_takeWhile_imp (p := (!endsAuthority ·)) h
    simpa using hkept

/-- What stands behind an authority ends it. -/
theorem head?_of_splitAuthority (hne : (splitAuthority s).1 ≠ [])
    (hc : (splitAuthority s).2.head? = some c) : endsAuthority c = true := by
  rcases splitAuthority_cases s with hnone | ⟨rest, hsplit⟩
  · simp [hnone] at hne
  · rw [hsplit] at hc
    have hhead := List.head?_dropWhile_not (!endsAuthority ·) rest
    simp only [hc] at hhead
    simpa using hhead

theorem joinParams_subset (h : s = joinParams path params ∨ s = joinParams path params ++ [';']) :
    joinParams path params ⊆ s := by
  rcases h with h | h
  · rw [h]
    exact List.Subset.refl _
  · rw [h]
    exact List.subset_append_left _ _

/-- A path behind an authority is empty, or begins with a slash. -/
theorem located_of_partParams (h : partParams scheme s = (path, params))
    (hs : s = [] ∨ s.head? = some '/') :
    joinParams path params = [] ∨ (joinParams path params).head? = some '/' := by
  cases hjoin : joinParams path params with
  | nil => exact .inl rfl
  | cons c rest =>
      have hwritten := (partParams_joinParams h).2
      rw [hjoin] at hwritten
      rcases hwritten with rfl | rfl
      · exact .inr (hs.resolve_left (List.cons_ne_nil _ _))
      · exact .inr (by simpa using hs)

/-- A reference that was read with an authority has parts that can be written again. -/
theorem parted_divide (hne : (divide s).authority ≠ []) : (divide s).Parted := by
  obtain ⟨hauthority, hrest⟩ := splitAuthority_subset (splitScheme (clean s)).2
  have hhead := fun c ↦ head?_of_splitAuthority (c := c) (s := (splitScheme (clean s)).2) hne
  generalize hafter : (splitAuthority (splitScheme (clean s)).2).2 = after at hrest hhead
  have hstays : ∀ c ∈ (splitScheme (clean s)).2, staysInReference c = true := fun c hc ↦
    staysInReference_of_mem_clean (splitScheme_snd_subset _ hc)
  have hfront := cut_fst_subset '#' after
  generalize hbefore : (cut '#' after).1 = before at hfront
  have hnumber : '#' ∉ before := hbefore ▸ not_mem_cut_fst '#' after
  have hpath := cut_fst_subset '?' before
  generalize hpathAndParams : (cut '?' before).1 = pathAndParams at hpath
  have hquestion : '?' ∉ pathAndParams := hpathAndParams ▸ not_mem_cut_fst '?' before
  have hparts : partParams (divide s).scheme pathAndParams
      = ((divide s).path, (divide s).params) := by
    rw [← hpathAndParams, ← hbefore, ← hafter]
    rfl
  have hquery : (divide s).query ⊆ before := by
    rw [← hbefore, ← hafter]
    exact cut_snd_subset '?' _
  have hfragment : (divide s).fragment ⊆ after := by
    rw [← hafter]
    exact cut_snd_subset '#' _
  obtain ⟨hreread, hwritten⟩ := partParams_joinParams hparts
  have hjoined := joinParams_subset hwritten
  refine ⟨isScheme_splitScheme _, ?_, ?_, ?_, hreread, ?_, ?_⟩
  · intro c hc
    simp [staysInAuthority, ends_of_mem_splitAuthority hc, hstays c (hauthority hc)]
  · refine located_of_partParams hparts ?_
    cases hlocated : pathAndParams with
    | nil => exact .inl rfl
    | cons c rest =>
        -- neither of the other two separators is left in front
        have hmem : c ∈ pathAndParams := by simp [hlocated]
        have hfirst : (cut '?' (cut '#' after).1).1.head? = some c := by
          rw [hbefore, hpathAndParams, hlocated]
          rfl
        have hends := hhead c (head?_of_cut (head?_of_cut hfirst))
        simp only [endsAuthority, Bool.or_eq_true, beq_iff_eq] at hends
        rcases hends with (rfl | rfl) | rfl
        · exact .inr rfl
        · exact absurd hmem hquestion
        · exact absurd (hpath hmem) hnumber
  · intro c hc
    have hmem := hjoined hc
    have hother : c ≠ '?' ∧ c ≠ '#' := ⟨fun e ↦ hquestion (e ▸ hmem),
      fun e ↦ hnumber (hpath (e ▸ hmem))⟩
    simp [staysInPath, staysInQuery, hother, hstays c (hrest (hfront (hpath hmem)))]
  · intro c hc
    have hother : c ≠ '#' := fun e ↦ hnumber (hquery (e ▸ hc))
    simp [staysInQuery, hother, hstays c (hrest (hfront (hquery hc)))]
  · exact fun c hc ↦ hstays c (hrest (hfragment hc))

end Address.Reference

end SecureExchange
