import SecureExchange.Address.Reference
import SecureExchange.Proofs.Address.Accepted

/-!
# Targets that are read leniently

Reading an ASCII text leniently gives ASCII parts, and so does writing them. A target whose host is
a numeric address with a zone is read with the authority that it was written with
(`authority_divide`), and the zone is read as it was written (`hostName_of_zoned`).
-/

namespace SecureExchange

open Text

namespace Text

variable {d : Char} {s a b : List Char}

theorem cut_fst_subset (d : Char) (s : List Char) : (cut d s).1 ⊆ s := by
  rcases hcut : cut d s with ⟨a, _ | b⟩
  · rw [eq_of_cut_none hcut]
    exact List.Subset.refl _
  · rw [eq_of_cut_some hcut]
    exact List.subset_append_left _ _

theorem cut_snd_subset (d : Char) (s : List Char) : (cut d s).2.getD [] ⊆ s := by
  rcases hcut : cut d s with ⟨a, _ | b⟩
  · exact List.nil_subset _
  · rw [eq_of_cut_some hcut]
    exact List.Subset.trans (List.subset_cons_self _ _) (List.subset_append_right _ _)

theorem cutLast_fst_subset (d : Char) (s : List Char) : (cutLast d s).1.getD [] ⊆ s := by
  rcases hcut : cutLast d s with ⟨_ | a, b⟩
  · exact List.nil_subset _
  · rw [(eq_of_cutLast_some hcut).1]
    exact List.subset_append_left _ _

theorem cutLast_snd_subset (d : Char) (s : List Char) : (cutLast d s).2 ⊆ s :=
  fun _ hc ↦ (mem_of_mem_cutLast hc).1

theorem cutLast_of_not_mem (h : d ∉ s) : cutLast d s = (none, s) := by
  rcases hcut : cutLast d s with ⟨_ | a, b⟩
  · rw [(eq_of_cutLast_none hcut).1]
  · rw [(eq_of_cutLast_some hcut).1] at h
    simp at h

theorem cutLast_append (h : d ∉ b) (a : List Char) : cutLast d (a ++ d :: b) = (some a, b) := by
  induction a with
  | nil => simp [cutLast, cutLast_of_not_mem h]
  | cons x rest ih => simp [cutLast, ih]

end Text

namespace Address

namespace Reference

variable {s host address zone after : List Char} {r : Reference}

theorem clean_subset (s : List Char) : clean s ⊆ s :=
  fun _ hc ↦ List.dropWhile_subset _ (List.mem_filter.mp hc).1

/-- Nothing is cleaned out of a text without a blank in front and without control characters. -/
theorem clean_eq_self (hstart : s.dropWhile (fun c ↦ decide (c.toNat ≤ 0x20)) = s)
    (hcontrol : ∀ c ∈ s, Target.isControl c = false) : clean s = s := by
  unfold clean
  rw [hstart, List.filter_eq_self]
  intro c hc
  have hc := hcontrol c hc
  simp only [Bool.and_eq_true, bne_iff_ne]
  refine ⟨⟨?_, ?_⟩, ?_⟩ <;> (rintro rfl; cases hc)

theorem splitScheme_snd_subset (s : List Char) : (splitScheme s).2 ⊆ s := by
  unfold splitScheme
  split
  · next first rest after hcut =>
      split
      · have hafter := cut_snd_subset ':' s
        rwa [hcut] at hafter
      · exact List.Subset.refl _
  · exact List.Subset.refl _

theorem allAscii_splitScheme (h : allAscii s = true) : allAscii (splitScheme s).1 = true := by
  unfold splitScheme
  split
  · next first rest after hcut =>
      split
      · have hbefore := cut_fst_subset ':' s
        rw [hcut] at hbefore
        exact allAscii_map_lowerAscii (allAscii_of_subset hbefore h)
      · rfl
  · rfl

theorem splitAuthority_subset (s : List Char) :
    (splitAuthority s).1 ⊆ s ∧ (splitAuthority s).2 ⊆ s := by
  unfold splitAuthority
  split
  · next rest =>
      have hrest : rest ⊆ '/' :: '/' :: rest :=
        fun _ hc ↦ List.mem_cons_of_mem _ (List.mem_cons_of_mem _ hc)
      refine ⟨?_, ?_⟩
      · exact List.Subset.trans (List.takeWhile_subset _) hrest
      · exact List.Subset.trans (List.dropWhile_subset _) hrest
  · exact ⟨List.nil_subset _, List.Subset.refl _⟩

theorem allAscii_splitParams {path : List Char} (h : allAscii path = true) :
    allAscii (splitParams path).1 = true ∧ allAscii (splitParams path).2 = true := by
  have hlast := allAscii_of_subset (cutLast_snd_subset '/' path) h
  have hbefore := allAscii_of_subset (cutLast_fst_subset '/' path) h
  have hsegment := allAscii_of_subset (cut_fst_subset ';' (cutLast '/' path).2) hlast
  have hparams := allAscii_of_subset (cut_snd_subset ';' (cutLast '/' path).2) hlast
  unfold splitParams
  dsimp only
  split
  · next segment params b hcut hb =>
      rw [hcut] at hsegment hparams
      rw [hb] at hbefore
      exact ⟨allAscii_append.mpr ⟨hbefore, allAscii_cons.mpr ⟨by decide, hsegment⟩⟩, hparams⟩
  · next segment params hcut _ =>
      rw [hcut] at hsegment hparams
      exact ⟨hsegment, hparams⟩
  · exact ⟨h, rfl⟩

theorem authority_divide (s : List Char) :
    (divide s).authority = (splitAuthority (splitScheme (clean s)).2).1 := rfl

/-- All parts are written in ASCII. -/
structure IsAscii (r : Reference) : Prop where
  scheme : allAscii r.scheme = true
  authority : allAscii r.authority = true
  path : allAscii r.path = true
  params : allAscii r.params = true
  query : allAscii r.query = true
  fragment : allAscii r.fragment = true

theorem isAscii_divide (h : allAscii s = true) : (divide s).IsAscii := by
  have hclean := allAscii_of_subset (clean_subset s) h
  have hscheme := allAscii_of_subset (splitScheme_snd_subset (clean s)) hclean
  obtain ⟨hauthority, hafter⟩ := splitAuthority_subset (splitScheme (clean s)).2
  have hrest := allAscii_of_subset hafter hscheme
  have hfront := allAscii_of_subset (cut_fst_subset '#' _) hrest
  have hpath := allAscii_of_subset (cut_fst_subset '?' _) hfront
  obtain ⟨hsplit, hparams⟩ := allAscii_splitParams hpath
  refine ⟨allAscii_splitScheme hclean, allAscii_of_subset hauthority hscheme, ?_, ?_,
    allAscii_of_subset (cut_snd_subset '?' _) hfront,
    allAscii_of_subset (cut_snd_subset '#' _) hrest⟩
  · unfold divide
    dsimp only
    split
    · exact hsplit
    · exact hpath
  · unfold divide
    dsimp only
    split
    · exact hparams
    · rfl

theorem allAscii_render (h : r.IsAscii) : allAscii r.render = true := by
  have hpath : allAscii (if r.params.isEmpty then r.path else r.path ++ ';' :: r.params)
      = true := by
    split
    · exact h.path
    · exact allAscii_append.mpr ⟨h.path, allAscii_cons.mpr ⟨by decide, h.params⟩⟩
  unfold render
  dsimp only
  generalize (if r.params.isEmpty then r.path else r.path ++ ';' :: r.params) = path at hpath ⊢
  have hshown : allAscii (if path.isEmpty || path.head? == some '/' then path else '/' :: path)
      = true := by
    split
    · exact hpath
    · exact allAscii_cons.mpr ⟨by decide, hpath⟩
  simp only [allAscii_append]
  refine ⟨⟨⟨?_, ?_⟩, ?_⟩, ?_⟩
  · split
    · rfl
    · exact allAscii_append.mpr ⟨h.scheme, rfl⟩
  · split
    · have hlocated := allAscii_append.mpr ⟨h.authority, hshown⟩
      exact allAscii_cons.mpr ⟨rfl, allAscii_cons.mpr ⟨rfl, hlocated⟩⟩
    · exact hpath
  · split
    · rfl
    · exact allAscii_cons.mpr ⟨rfl, h.query⟩
  · split
    · rfl
    · exact allAscii_cons.mpr ⟨rfl, h.fragment⟩

theorem hostAndPort_fst_subset (r : Reference) : r.hostAndPort.1 ⊆ hostInfo r.authority := by
  unfold hostAndPort
  dsimp only
  split
  · next inner hcut =>
      have hinner := cut_snd_subset '[' (hostInfo r.authority)
      rw [hcut] at hinner
      exact List.Subset.trans (cut_fst_subset ']' _) hinner
  · exact cut_fst_subset ':' _

theorem allAscii_hostName (h : allAscii r.authority = true) :
    allAscii (r.hostName.getD "None".toList) = true := by
  have hinfo : allAscii (hostInfo r.authority) = true :=
    allAscii_of_subset (cutLast_snd_subset '@' _) h
  have hhost := allAscii_of_subset r.hostAndPort_fst_subset hinfo
  unfold hostName
  dsimp only
  split
  · decide
  · split
    · next name hcut =>
        rw [eq_of_cut_none hcut] at hhost
        rw [Option.getD_some, lowerChars_of_ascii hhost]
        exact allAscii_map_lowerAscii hhost
    · next name zone hcut =>
        rw [eq_of_cut_some hcut, allAscii_append, allAscii_cons] at hhost
        obtain ⟨hname, hpercent, hzone⟩ := hhost
        rw [Option.getD_some, lowerChars_of_ascii hname, allAscii_append, allAscii_cons]
        exact ⟨allAscii_map_lowerAscii hname, hpercent, hzone⟩

/-- A bracketed host ends at the first closing bracket. -/
theorem hostAndPort_of_bracketed (hinfo : hostInfo r.authority = '[' :: host ++ ']' :: after)
    (hfree : ']' ∉ host) : r.hostAndPort = (host, (cut ':' after).2.getD []) := by
  have hopen : cut '[' (hostInfo r.authority) = ([], some (host ++ ']' :: after)) := by
    rw [hinfo]
    rfl
  simp only [hostAndPort, hopen, cut_append hfree, Option.getD_some]

/-- The zone of an address is read as it was written. -/
theorem hostName_of_zoned (hinfo : hostInfo r.authority = '[' :: host ++ ']' :: after)
    (hfree : ']' ∉ host) (hzoned : Target.Zoned host address zone) :
    r.hostName = some (lowerChars address ++ '%' :: zone) := by
  have hhost : r.hostAndPort.1 = host := by
    rw [hostAndPort_of_bracketed hinfo hfree]
  have hcut : cut '%' host = (address, some zone) := by
    rw [hzoned.eq]
    exact cut_append hzoned.first zone
  have hnonempty : host.isEmpty = false := by simp [hzoned.eq]
  simp [hostName, hhost, hcut, hnonempty]

theorem authority_subset_render (r : Reference) : r.authority ⊆ r.render := by
  intro c hc
  have hnonempty : r.authority.isEmpty = false := by
    cases hr : r.authority with
    | nil => simp [hr] at hc
    | cons _ _ => rfl
  simp [render, showsAuthority, hnonempty, hc]

end Reference

namespace Target

variable {s : List Char} {t : Target} {c : Char}

/-- A scheme in front of its colon. -/
structure SchemeEnds (s scheme after : List Char) : Prop where
  eq : s = scheme ++ ':' :: after
  starts : ∃ first rest, scheme = first :: rest ∧ first.isAlpha = true
  chars : ∀ c ∈ scheme, isSchemeChar c = true

theorem schemeEnds_of_splitScheme (hne : (splitScheme s).1 ≠ []) :
    SchemeEnds s (splitScheme s).1 (splitScheme s).2 := by
  unfold splitScheme at hne ⊢
  split
  · simp at hne
  next first rest =>
    split
    · next hcolon => simp [hcolon] at hne
    · split
      · next hletter =>
          split
          · next after hdrop =>
              have hsplit : (first :: rest).takeWhile isSchemeChar ++
                  (first :: rest).dropWhile isSchemeChar = first :: rest :=
                List.takeWhile_append_dropWhile
              have hfirst : isSchemeChar first = true := by
                have halpha : first.isAlpha = true := hletter
                simp [isSchemeChar, Char.isAlphanum, halpha]
              rw [hdrop] at hsplit
              refine ⟨hsplit.symm, ⟨first, rest.takeWhile isSchemeChar, ?_, hletter⟩, ?_⟩
              · exact List.takeWhile_cons_of_pos hfirst
              · exact fun c hc ↦ List.mem_takeWhile_imp hc
          · simp_all
      · simp_all

/-- Both readings part the scheme at the same colon. -/
theorem SchemeEnds.splitScheme {scheme after : List Char} (h : SchemeEnds s scheme after) :
    Reference.splitScheme s = (scheme.map lowerAscii, after) := by
  obtain ⟨first, rest, rfl, hfirst⟩ := h.starts
  have hcolon : ':' ∉ first :: rest := fun hc ↦ absurd (h.chars ':' hc) (by decide)
  have hrest : rest.all Reference.isSchemeChar = true := by
    rw [List.all_eq_true]
    intro c hc
    have hchar := h.chars c (List.mem_cons_of_mem _ hc)
    simp only [isSchemeChar, Bool.or_eq_true, beq_iff_eq] at hchar
    simp only [Reference.isSchemeChar, Bool.or_eq_true, beq_iff_eq]
    tauto
  unfold Reference.splitScheme
  rw [h.eq, cut_append hcolon]
  simp only [hfirst, hrest, Bool.and_self, if_true]

theorem SchemeEnds.clean {scheme after : List Char} (h : SchemeEnds s scheme after)
    (hcontrol : ∀ c ∈ s, isControl c = false) : Reference.clean s = s := by
  refine Reference.clean_eq_self ?_ hcontrol
  obtain ⟨first, rest, rfl, halpha⟩ := h.starts
  have hvisible : (!first.isAlpha || !decide (first.toNat ≤ 0x20)) = true :=
    of_isAscii (p := fun c ↦ !c.isAlpha || !decide (c.toNat ≤ 0x20)) (by decide +kernel)
      (isAscii_of_isAlphanum (by simp [Char.isAlphanum, halpha]))
  rw [h.eq]
  refine List.dropWhile_cons_of_neg ?_
  simpa [halpha] using hvisible

/-- Read leniently, such a target has the authority that it was written with. -/
theorem WellFormed.authority_divide (h : t.WellFormed)
    (hscheme : t.scheme = Exchange.secureScheme.toList) (hne : t.host ≠ [])
    (hhost : ∀ c ∈ t.host, staysInHost c = true) :
    (Reference.divide t.render).authority = t.authority := by
  have hrender := render_eq hscheme hne
  have hstart : SchemeEnds t.render Exchange.secureScheme.toList
      ('/' :: '/' :: (t.authority ++ t.tail)) :=
    ⟨hrender, ⟨'h', "ttps".toList, by decide, by decide⟩, List.all_eq_true.mp (by decide)⟩
  have hwritten : ∀ c ∈ t.render, isControl c = false := by
    intro c hc
    rw [hrender] at hc
    rcases List.mem_append.mp hc with hc | hc
    · have hall : Exchange.secureScheme.toList.all (!isControl ·) = true := by decide
      simpa using List.all_eq_true.mp hall c hc
    · simp only [List.mem_cons, List.mem_append] at hc
      rcases hc with rfl | rfl | rfl | hc | hc
      · decide
      · decide
      · decide
      · exact (h.of_mem_authority hhost hc).1
      · exact isControl_of_isVisible (h.of_mem_tail hc)
  have hends : (t.authority ++ t.tail).takeWhile (!Reference.endsAuthority ·) = t.authority := by
    rw [List.takeWhile_append_of_pos]
    · rw [show t.tail.takeWhile (!Reference.endsAuthority ·) = [] from h.takeWhile_tail,
        List.append_nil]
    · intro c hc
      change (!endsAuthority c) = true
      rw [(h.of_mem_authority hhost hc).2]
      rfl
  have hscheme' : Reference.splitScheme t.render
      = (Exchange.secureScheme.toList.map lowerAscii, '/' :: '/' :: (t.authority ++ t.tail)) :=
    hstart.splitScheme
  rw [Reference.authority_divide, hstart.clean hwritten, hscheme']
  exact hends

theorem at_not_mem_hostPort (hhost : ∀ c ∈ t.host, staysInHost c = true) : '@' ∉ t.hostPort := by
  intro hc
  rcases mem_hostPort hc with h | h | h | h
  · cases h
  · cases h
  · exact absurd (hhost '@' h) (by decide)
  · exact absurd (of_mem_portPart h).1 (by decide)

/-- The last at sign of the authority parts userinfo from host and port. -/
theorem cutLast_authority (hhost : ∀ c ∈ t.host, staysInHost c = true) :
    (cutLast '@' t.authority).1.getD [] = t.userinfo ∧
      Reference.hostInfo t.authority = t.hostPort := by
  have hfree := at_not_mem_hostPort hhost
  unfold Reference.hostInfo authority
  split
  · next hempty =>
      rw [List.nil_append, cutLast_of_not_mem hfree]
      exact ⟨(List.isEmpty_iff.mp hempty).symm, rfl⟩
  · rw [List.append_assoc, List.singleton_append, cutLast_append hfree]
    exact ⟨rfl, rfl⟩

theorem hostInfo_authority (hhost : ∀ c ∈ t.host, staysInHost c = true) :
    Reference.hostInfo t.authority = t.hostPort := (cutLast_authority hhost).2

/-- The authority of an address as it is written. -/
def writtenAuthority (s : List Char) : List Char := (splitAuthority (splitScheme s).2).1

/-- Read leniently, an address that is accepted has the authority that the strict reading finds. -/
theorem authority_divide_of_parse (h : parse s = .ok t)
    (hscheme : t.scheme = Exchange.secureScheme.toList) :
    (Reference.divide s).authority = writtenAuthority s := by
  obtain ⟨hcontrol, hnormal⟩ := parse_eq_ok h
  have hends : SchemeEnds s (splitScheme s).1 (splitScheme s).2 := by
    refine schemeEnds_of_splitScheme fun hnil ↦ ?_
    have hlower : t.scheme = lowerChars (splitScheme s).1 := hnormal.scheme
    rw [hnil, hscheme] at hlower
    exact absurd hlower (by decide)
  rw [Reference.authority_divide, hends.clean hcontrol, hends.splitScheme]
  rfl

end Target

end Address

end SecureExchange
