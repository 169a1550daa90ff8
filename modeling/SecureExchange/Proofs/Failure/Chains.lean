import SecureExchange.Failure.Graph

/-!
# Chains of errors

An error that is built around a failure without a message of its own speaks of both: its code comes
first, then the text of what it wraps. Around each other, errors of any classes so tell their codes
from the outermost to the innermost, and then the text of the failure that they were built around
(`Chained`). Each of them reports a code, names a cause and decides on a retry for itself.
-/

namespace SecureExchange.Failure

open Classified

/-- How an error is built around another failure: its class, a kind or a condition if one is named,
and the failure that is being handled. -/
structure Link where
  cls : ErrorClass
  kind : Option Kind
  condition : Option String
  handling : Option FailureId

namespace Link

/-- The kind of the error. -/
def ownKind (l : Link) : Kind := l.kind.getD l.cls.defaultKind

/-- The code of the error. -/
def code (l : Link) : String := l.condition.getD l.ownKind.code

/-- The class takes what is named: a condition and no kind, or a kind, which for errors of a
protocol has to be one of the protocol's. -/
def Admissible (l : Link) : Prop :=
  if l.cls = .unknownCondition then l.kind = none
  else l.condition = none ∧ (l.cls.isProtocol = true → l.ownKind.family = .protocol)

instance (l : Link) : Decidable l.Admissible :=
  inferInstanceAs (Decidable (if l.cls = .unknownCondition then l.kind = none
    else l.condition = none ∧ (l.cls.isProtocol = true → l.ownKind.family = .protocol)))

def arguments (l : Link) (w : Wrapping) : Arguments where
  message := none
  retryable := none
  details := none
  condition := l.condition.map some
  wrapped := some (some w)
  kind := l.kind.map some

/-- What the error of a link around `w` is. -/
structure Builds (l : Link) (w : Wrapping) (e : Classified) : Prop where
  cls : e.cls = l.cls
  kind : e.kind = l.ownKind
  code : e.code = some l.code
  reported : OrderedMap.get? "code" e.report = some (.text l.code)
  wrapped : e.wrapped = some w.id
  message : e.message = l.code ++ ": " ++ w.text
  retryable : e.retryable = l.ownKind.retryable

variable {l : Link} {w : Wrapping}

theorem unexpected?_of_unknown (hcls : l.cls = .unknownCondition) :
    unexpected? l.cls (l.arguments w) = if l.kind.isSome then some "kind" else none := by
  simp [unexpected?, hcls, arguments]

theorem unexpected?_of_known (hcls : l.cls ≠ .unknownCondition) :
    unexpected? l.cls (l.arguments w) = if l.condition.isSome then some "condition" else none := by
  unfold unexpected?
  split
  · next h => exact absurd h hcls
  · simp [arguments]

/-- Errors of an unknown condition are built from the condition. -/
theorem build_of_unknown (hcls : l.cls = .unknownCondition) (hkind : l.kind = none) :
    build l.cls (l.arguments w) = .ok (ofCondition (some l.code) none (some w) []) := by
  have hcode : (l.condition.map some).getD (some Kind.protocol.code) = some l.code := by
    cases hc : l.condition <;> simp [code, ownKind, hc, hkind, hcls, ErrorClass.defaultKind]
  rw [build, unexpected?_of_unknown hcls, hkind]
  simp [hcls, arguments, hcode]

theorem build_of_known (hcls : l.cls ≠ .unknownCondition) (hcondition : l.condition = none) :
    build l.cls (l.arguments w) =
      if l.cls.isProtocol ∧ l.ownKind.family ≠ .protocol then .error (.kindOfOtherFamily l.ownKind)
      else .ok (make l.cls l.ownKind none (some w) none []) := by
  have hkind : (l.kind.map some).join = l.kind := by cases l.kind <;> rfl
  rw [build, unexpected?_of_known hcls, hcondition]
  cases h : l.cls with
  | unknownCondition => exact absurd h hcls
  | _ => simp [arguments, hkind, ownKind, h]

theorem build_of_admissible (h : l.Admissible) (w : Wrapping) :
    ∃ e, build l.cls (l.arguments w) = .ok e ∧ l.Builds w e := by
  unfold Admissible at h
  split at h
  · next hcls =>
      refine ⟨_, build_of_unknown hcls h, ?_⟩
      have hkind : l.ownKind = .protocol := by simp [ownKind, h, hcls, ErrorClass.defaultKind]
      exact {
        cls := hcls.symm
        kind := hkind.symm
        code := rfl
        reported := rfl
        wrapped := rfl
        message := rfl
        retryable := by rw [hkind]; rfl }
  · next hcls =>
      obtain ⟨hcondition, hfamily⟩ := h
      have hcode : l.code = l.ownKind.code := by simp [code, hcondition]
      have hnot : ¬ (l.cls.isProtocol = true ∧ l.ownKind.family ≠ .protocol) :=
        fun ⟨hprotocol, hother⟩ ↦ hother (hfamily hprotocol)
      refine ⟨_, by rw [build_of_known hcls hcondition, if_neg hnot], ?_⟩
      exact {
        cls := rfl
        kind := rfl
        code := by rw [code_make, hcode]
        reported := by rw [hcode]; rfl
        wrapped := rfl
        message := by rw [hcode]; rfl
        retryable := rfl }

theorem build_of_not_admissible (h : ¬ l.Admissible) (w : Wrapping) :
    ∃ e, build l.cls (l.arguments w) = .error e := by
  unfold Admissible at h
  split at h
  · next hcls =>
      have hkind : l.kind.isSome = true := Option.isSome_iff_ne_none.mpr h
      exact ⟨_, by rw [build, unexpected?_of_unknown hcls, if_pos hkind]⟩
  · next hcls =>
      cases hcondition : l.condition with
      | some c =>
          have hsome : l.condition.isSome = true := by simp [hcondition]
          exact ⟨_, by rw [build, unexpected?_of_known hcls, if_pos hsome]⟩
      | none =>
          have hother : l.cls.isProtocol = true ∧ l.ownKind.family ≠ .protocol := by
            simpa [hcondition] using h
          exact ⟨_, by rw [build_of_known hcls hcondition, if_pos hother]⟩

end Link

/-! ### Whole chains -/

namespace Graph

/-- Builds an error around `root` for each link, the last one first, and answers the outermost. -/
def wrapAll (g : Graph) (root : FailureId) : List Link → Except BuildError (FailureId × Graph)
  | [] => .ok (root, g)
  | l :: inner =>
    match g.wrapAll root inner with
    | .error e => .error e
    | .ok (id, g) =>
      (build l.cls (l.arguments (g.wrapping id))).map fun e ↦ g.record (.classified e) l.handling

/-- The codes of a chain from outermost to innermost, and the text of what it was built around. -/
def chainText (links : List Link) (root : String) : String :=
  ": ".intercalate (links.map Link.code ++ [root])

/-- A failure is the error of the first link, built around that of the next one, and so on down to
`root`, whose text is `text`. -/
inductive Chained (g : Graph) (root : FailureId) (text : String) : List Link → FailureId → Prop
  | root : Chained g root text [] root
  | link {l : Link} {inner : List Link} {id outer : FailureId} {e : Classified}
      (hinner : Chained g root text inner id)
      (hrecorded : g[outer]? = some ⟨.classified e, some id, l.handling⟩)
      (hbuilds : l.Builds ⟨id, chainText inner text⟩ e)
      (hmessage : e.message = chainText (l :: inner) text) : Chained g root text (l :: inner) outer

@[simp] theorem chainText_nil (root : String) : chainText [] root = root := by
  simp [chainText]

theorem chainText_cons (l : Link) (inner : List Link) (root : String) :
    chainText (l :: inner) root = l.code ++ ": " ++ chainText inner root := by
  simp [chainText, String.intercalate_cons_of_ne_nil]

variable {g g' : Graph} {root id : FailureId} {text : String} {links : List Link}

theorem Chained.grow (h : Chained g root text links id) (hg : g <+: g') :
    Chained g' root text links id := by
  obtain ⟨rest, rfl⟩ := hg
  induction h with
  | root => exact .root
  | link _ hrecorded hbuilds hmessage ih =>
      have hlt := (List.getElem?_eq_some_iff.mp hrecorded).1
      exact .link ih ((List.getElem?_append_left hlt).trans hrecorded) hbuilds hmessage

/-- A chain is built and recorded behind what was recorded before. -/
theorem wrapAll_of_admissible (hroot : root < g.length) (h : ∀ l ∈ links, l.Admissible) :
    ∃ id g', g.wrapAll root links = .ok (id, g') ∧ g <+: g' ∧ id < g'.length ∧
      g'.text id = chainText links (g.text root) ∧ Chained g' root (g.text root) links id := by
  induction links with
  | nil => exact ⟨root, g, rfl, List.prefix_rfl, hroot, (chainText_nil _).symm, .root⟩
  | cons l inner ih =>
      obtain ⟨hl, hinner⟩ := List.forall_mem_cons.mp h
      obtain ⟨id, g', hwrap, hprefix, hid, htext, hchained⟩ := ih hinner
      obtain ⟨e, hbuild, hbuilds⟩ := Link.build_of_admissible hl (g'.wrapping id)
      have hmessage : e.message = chainText (l :: inner) (g.text root) := by
        rw [hbuilds.message, wrapping, htext, chainText_cons]
      have hrecord : g'.record (.classified e) l.handling
          = (g'.length, g' ++ [⟨.classified e, some id, l.handling⟩]) := by
        simp only [record, hbuilds.wrapped]
        rfl
      have hnew : g' <+: g' ++ [⟨.classified e, some id, l.handling⟩] := List.prefix_append ..
      have hlast : (g' ++ [⟨.classified e, some id, l.handling⟩])[g'.length]?
          = some ⟨.classified e, some id, l.handling⟩ := List.getElem?_concat_length
      refine ⟨_, _, by simp only [wrapAll, hwrap, hbuild, Except.map, hrecord],
        hprefix.trans hnew, by simp, ?_, .link (hchained.grow hnew) hlast ?_ hmessage⟩
      · rw [Graph.text, hlast]
        exact hmessage
      · rwa [wrapping, htext] at hbuilds

theorem admissible_of_wrapAll {r : FailureId × Graph} (h : g.wrapAll root links = .ok r) :
    ∀ l ∈ links, l.Admissible := by
  induction links generalizing r with
  | nil => simp
  | cons l inner ih =>
      cases hwrap : g.wrapAll root inner with
      | error e => simp [wrapAll, hwrap] at h
      | ok r' =>
          refine List.forall_mem_cons.mpr ⟨?_, ih hwrap⟩
          refine Decidable.byContradiction fun hl ↦ ?_
          obtain ⟨e, he⟩ := Link.build_of_not_admissible hl (r'.2.wrapping r'.1)
          simp [wrapAll, hwrap, he, Except.map] at h

/-- A chain can be built around any failure exactly if every class takes what is named for it. Then
message and text of the outermost error tell the codes of all, from the outermost to the innermost,
and the text of the failure in the middle. Each error is recorded with the next one as its cause,
reports its own code, and decides on a retry by its own kind. -/
theorem chains_tell_codes_outermost_first (hroot : root < g.length) (links : List Link) :
    ((∃ r, g.wrapAll root links = .ok r) ↔ ∀ l ∈ links, l.Admissible) ∧
    ∀ id g', g.wrapAll root links = .ok (id, g') →
      g'.text id = ": ".intercalate (links.map Link.code ++ [g.text root]) ∧
      Chained g' root (g.text root) links id := by
  have hbuilt : (∀ l ∈ links, l.Admissible) → _ := wrapAll_of_admissible hroot
  refine ⟨⟨fun ⟨r, hr⟩ ↦ admissible_of_wrapAll hr, fun h ↦ ?_⟩, fun id g' hwrap ↦ ?_⟩
  · obtain ⟨id, g', hwrap, _⟩ := hbuilt h
    exact ⟨_, hwrap⟩
  · obtain ⟨id', g'', hwrap', _, _, htext, hchained⟩ := hbuilt (admissible_of_wrapAll hwrap)
    obtain ⟨rfl, rfl⟩ := Prod.mk.inj (Except.ok.inj (hwrap.symm.trans hwrap'))
    exact ⟨htext, hchained⟩

/-- An unknown condition around a connection failure of another kind around a framing error. -/
def mixedLinks : List Link :=
  [⟨.unknownCondition, none, some "vendor:lost", none⟩,
   ⟨.retryableConnection, some .security, none, some 0⟩, ⟨.amqpFraming, none, none, none⟩]

def brokenPipe : Graph := [⟨.fault ⟨.system .brokenPipe, "broken pipe"⟩, none, none⟩]

theorem chains_tell_codes_outermost_first_of_mixed :
    0 < brokenPipe.length ∧ ∃ id g', brokenPipe.wrapAll 0 mixedLinks = .ok (id, g') ∧
      g'.text id = "vendor:lost: devicelink:transport/security: " ++
        "amqp:connection:framing-error: broken pipe" ∧
      Chained g' 0 "broken pipe" mixedLinks id := by
  have hroot : 0 < brokenPipe.length := by decide
  obtain ⟨hiff, htold⟩ := chains_tell_codes_outermost_first hroot mixedLinks
  obtain ⟨⟨id, g'⟩, hwrap⟩ := hiff.mpr (by decide)
  obtain ⟨htext, hchained⟩ := htold id g' hwrap
  exact ⟨hroot, id, g', hwrap, htext, hchained⟩

end Graph

end SecureExchange.Failure
