import SecureExchange.Exchange.Configure
import SecureExchange.Proofs.Address.Lenient

/-!
# Addresses with a signature

An address whose query is a signature is accepted whatever the signature holds (`targetOf_signed`),
and shown with the signature masked, however long that is (`addressText_signed`).
-/

namespace SecureExchange.Redaction

open Text Address

/-- An address whose query is one signature. -/
def signed (signature : List Char) : List Char := "https://hub/?sig=".toList ++ signature

def signedTarget (signature : List Char) : Target where
  scheme := Exchange.secureScheme.toList
  userinfo := []
  host := "hub".toList
  port := none
  path := ['/']
  query := some ("sig=".toList ++ signature)
  fragment := none

/-- A signature that stays in one value of its query. -/
structure IsSignature (s : List Char) : Prop where
  control : ∀ c ∈ s, Target.isControl c = false
  hash : '#' ∉ s
  ampersand : '&' ∉ s

variable {s : List Char}

theorem isSignature_of_all
    (h : s.all (fun c ↦ !Target.isControl c && c != '#' && c != '&') = true) : IsSignature s := by
  simp only [List.all_eq_true, Bool.and_eq_true, Bool.not_eq_true', bne_iff_ne] at h
  refine ⟨fun c hc ↦ (h c hc).1.1, fun hc ↦ ?_, fun hc ↦ ?_⟩
  · exact (h _ hc).1.2 rfl
  · exact (h _ hc).2 rfl

theorem length_signed (s : List Char) : (signed s).length = 17 + s.length := by
  have hfront : "https://hub/?sig=".toList.length = 17 := by decide
  exact List.length_append.trans (congrArg (· + s.length) hfront)

theorem render_signedTarget (s : List Char) : (signedTarget s).render = signed s := by
  have hauthority : (signedTarget s).authority = "hub".toList := rfl
  have htail : (signedTarget s).tail = '/' :: '?' :: ("sig=".toList ++ s) := by
    simp [Target.tail, signedTarget]
  have hfront : Exchange.secureScheme.toList
      ++ ':' :: '/' :: '/' :: ("hub".toList ++ '/' :: '?' :: "sig=".toList)
        = "https://hub/?sig=".toList := by decide
  calc (signedTarget s).render
      = Exchange.secureScheme.toList
          ++ ':' :: '/' :: '/' :: ((signedTarget s).authority ++ (signedTarget s).tail) :=
        Target.render_eq rfl (by simp [signedTarget])
    _ = Exchange.secureScheme.toList
          ++ ':' :: '/' :: '/' :: ("hub".toList ++ '/' :: '?' :: "sig=".toList) ++ s := by
        rw [hauthority, htail]
        simp only [List.append_assoc, List.cons_append]
    _ = signed s := congrArg (· ++ s) hfront

theorem divide_signed (h : IsSignature s) : Target.divide (signed s)
    = ⟨"https".toList, [], "hub".toList, [], ['/'], some ("sig=".toList ++ s), none⟩ := by
  have hcut : cut '#' ("sig=".toList ++ s) = ("sig=".toList ++ s, none) :=
    cut_of_not_mem (by simpa using h.hash)
  have hdivide : Target.divide (signed s) = ⟨"https".toList, [], "hub".toList, [], ['/'],
      some (cut '#' ("sig=".toList ++ s)).1, (cut '#' ("sig=".toList ++ s)).2⟩ := rfl
  rw [hdivide, hcut]

theorem normalize_signed (s : List Char) : Target.Parts.normalize
    ⟨"https".toList, [], "hub".toList, [], ['/'], some ("sig=".toList ++ s), none⟩
      = .ok (signedTarget (Percent.encodeWith Target.keptInQuery s)) := by
  have hname : Percent.encodeWith Target.keptInQuery "sig=".toList = "sig=".toList :=
    Percent.encodeWith_of_all (by decide)
  have hquery : Percent.encodeWith Target.keptInQuery ("sig=".toList ++ s)
      = "sig=".toList ++ Percent.encodeWith Target.keptInQuery s := by
    rw [Percent.encodeWith, List.flatMap_append]
    exact congrArg (· ++ _) hname
  rw [signedTarget, ← hquery]
  rfl

theorem isControl_signed (h : IsSignature s) : ∀ c ∈ signed s, Target.isControl c = false := by
  have hfront : "https://hub/?sig=".toList.all (!Target.isControl ·) = true := by decide
  intro c hc
  rcases List.mem_append.mp hc with hc | hc
  · simpa using List.all_eq_true.mp hfront c hc
  · exact h.control c hc

theorem parse_signed (h : IsSignature s) (hlength : (signed s).length ≤ Target.maxLength) :
    Target.parse (signed s)
      = .ok (signedTarget (Percent.encodeWith Target.keptInQuery s)) := by
  have hcontrol : (signed s).find? Target.isControl = none := by
    rw [List.find?_eq_none]
    intro c hc
    simp [isControl_signed h c hc]
  rw [Target.parse, if_neg (Nat.not_lt.mpr hlength), hcontrol, divide_signed h]
  exact normalize_signed s

theorem targetOf_signed (h : IsSignature s) (hlength : (signed s).length ≤ Target.maxLength) :
    Exchange.targetOf (.text (String.ofList (signed s)))
      = .ok (signedTarget (Percent.encodeWith Target.keptInQuery s)) := by
  rw [Exchange.targetOf, Exchange.targetOfText, String.toList_ofList, parse_signed h hlength]
  rfl

/-- Escaping leaves a signature in one value. -/
theorem IsSignature.encodeWith (h : IsSignature s) :
    IsSignature (Percent.encodeWith Target.keptInQuery s) := by
  refine isSignature_of_all (List.all_eq_true.mpr fun c hc ↦ ?_)
  refine Percent.of_mem_encodeWith (p := fun c ↦ !Target.isControl c && c != '#' && c != '&')
    ?_ (by decide) (by decide) hc
  intro c hc hkept
  have hhash : c ≠ '#' := fun e ↦ h.hash (e ▸ hc)
  have hampersand : c ≠ '&' := fun e ↦ h.ampersand (e ▸ hc)
  simp [h.control c hc, hhash, hampersand]

/-! ### Masking -/

theorem parse_reference_signed (h : IsSignature s) : Reference.parse (signed s)
    = .ok ⟨"https".toList, "hub".toList, ['/'], [], "sig=".toList ++ s, []⟩ := by
  have hclean : Reference.clean (signed s) = signed s :=
    Reference.clean_eq_self rfl (isControl_signed h)
  have hcut : cut '#' ("/?sig=".toList ++ s) = ("/?sig=".toList ++ s, none) :=
    cut_of_not_mem (by simpa using h.hash)
  have hscheme : Reference.splitScheme (signed s)
      = ("https".toList, "//hub/?sig=".toList ++ s) := rfl
  have hauthority : Reference.splitAuthority ("//hub/?sig=".toList ++ s)
      = ("hub".toList, "/?sig=".toList ++ s) := rfl
  have hquery : cut '?' ("/?sig=".toList ++ s) = (['/'], some ("sig=".toList ++ s)) := rfl
  have hdivide : Reference.divide (signed s)
      = ⟨"https".toList, "hub".toList, ['/'], [], "sig=".toList ++ s, []⟩ := by
    simp only [Reference.divide, hclean, hscheme, hauthority, hcut, hquery]
    rfl
  have hchecked : Reference.checkAuthority "hub".toList = .ok () ∧
      Reference.checkDisguise "hub".toList = .ok () := by decide +kernel
  simp only [Reference.parse, hdivide, hchecked]

theorem maskQuery_signed (h : IsSignature s) :
    maskQuery ("sig=".toList ++ s) = "sig=".toList ++ mask := by
  have hpieces : pieces '&' ("sig=".toList ++ s) = ["sig=".toList ++ s] :=
    pieces_of_not_mem (by simpa using h.ampersand)
  have hname : Form.decodeText "sig".toList = "sig".toList := by decide +kernel
  have hpair : Form.decodePair ("sig=".toList ++ s) = ("sig".toList, Form.decodeText s) :=
    congrArg (·, Form.decodeText s) hname
  have hdecode : Form.decode ("sig=".toList ++ s) = [("sig".toList, Form.decodeText s)] := by
    rw [Form.decode, hpieces, ← hpair]
    rfl
  have hsensitive : isSensitiveParameter "sig".toList = true := by decide +kernel
  have hmasked : [("sig".toList, Form.decodeText s)].map maskPair = [("sig".toList, mask)] := by
    rw [List.map_singleton, maskPair, if_pos hsensitive]
  have hencode : Form.encode [("sig".toList, mask)] = "sig=".toList ++ mask := by decide +kernel
  rw [maskQuery, hdecode, List.any_cons, hsensitive, Bool.true_or, if_pos rfl, hmasked, hencode]

/-- A signature is masked, whatever it holds. -/
theorem address_signed (h : IsSignature s) : address (signed s) = .ok (signed mask) := by
  have hrender : Reference.render
      ⟨"https".toList, "hub".toList, ['/'], [], "sig=".toList ++ mask, []⟩ = signed mask := by
    decide +kernel
  have hnonempty : (signed s).isEmpty = false := rfl
  have hauthority : maskAuthority
      ⟨"https".toList, "hub".toList, ['/'], [], "sig=".toList ++ s, []⟩ = .ok "hub".toList := rfl
  simp only [address, hnonempty, Bool.false_eq_true, if_false, parse_reference_signed h, hauthority,
    maskQuery_signed h, hrender, true_and]
  split
  · next hsame => rw [List.append_cancel_left hsame]
  · rfl

theorem addressText_signed (h : IsSignature s) :
    addressText (String.ofList (signed s)) = .ok (String.ofList (signed mask)) := by
  rw [addressText, String.toList_ofList, address_signed h]
  rfl

theorem addressText_signedTarget (h : IsSignature s) :
    addressText (signedTarget s).text = .ok (String.ofList (signed mask)) := by
  rw [Target.text, render_signedTarget, addressText_signed h]

/-! ### Escaping -/

theorem isSignature_replicate (n : Nat) : IsSignature (List.replicate n '<') := by
  refine isSignature_of_all ?_
  rw [List.all_replicate]
  split <;> decide

theorem length_encodeWith_replicate (n : Nat) :
    (Percent.encodeWith Target.keptInQuery (List.replicate n '<')).length = n * 3 := by
  induction n with
  | zero => rfl
  | succ n ih =>
      have hfirst : Percent.encodeWith Target.keptInQuery (List.replicate (n + 1) '<')
          = "%3C".toList ++ Percent.encodeWith Target.keptInQuery (List.replicate n '<') := rfl
      rw [hfirst, List.length_append, ih]
      simp
      omega

end SecureExchange.Redaction
