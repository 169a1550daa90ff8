import SecureExchange.Proofs.Failure.Walk

/-!
# What failures are classified as

The decision on a failure depends on its class and on whether the walk from it meets a failure of
the secure channel (`Decides`). A walk follows one link of each failure. A failure of the secure
channel that other links lead to is missed only behind the context of a failure on the walk that
declares another cause.
-/

namespace SecureExchange.Failure

namespace HttpFault

/-- A class is `base`, or extends it in any number of steps. -/
inductive Extends (base : HttpFault) : HttpFault → Prop
  | self : Extends base base
  | parent {f p : HttpFault} (hparent : f.parent? = some p) (h : Extends base p) : Extends base f

theorem isTransport_of_extends {f : HttpFault} (h : Extends .transport f) :
    f.isTransport = true := by
  induction h with
  | self => rfl
  | parent hparent _ ih => exact (isTransport_iff_parent _).mpr (.inr ⟨_, hparent, ih⟩)

theorem extends_of_isTransport {f : HttpFault} (h : f.isTransport = true) :
    Extends .transport f := by
  cases f with
  | transport => exact .self
  | timeout | network | protocol | proxy | unsupportedProtocol => exact .parent rfl .self
  | connectTimeout | readTimeout | writeTimeout | poolTimeout | connect | read | write | close
    | localProtocol | remoteProtocol => exact .parent rfl (.parent rfl .self)
  | _ => simp [isTransport] at h

end HttpFault

namespace FaultClass

/-- A fault of carrying a request. -/
def Carries (c : FaultClass) : Prop := ∃ f, c = .http f ∧ HttpFault.Extends .transport f

theorem isHttpTransport_iff_carries (c : FaultClass) : c.isHttpTransport = true ↔ c.Carries := by
  cases c with
  | http f =>
      constructor
      · intro h
        exact ⟨f, rfl, HttpFault.extends_of_isTransport h⟩
      · rintro ⟨f, ⟨⟩, h⟩
        exact HttpFault.isTransport_of_extends h
  | _ => simp [isHttpTransport, Carries]

theorem isInputOutput_iff (c : FaultClass) :
    c.isInputOutput = true ↔ c.isSystem = true ∨ c.Carries := by
  rw [isInputOutput, Bool.or_eq_true, isHttpTransport_iff_carries]

theorem status?_eq_some_iff {c : FaultClass} {s : Int} :
    c.status? = some s ↔ c = .http (.status s) := by
  constructor
  · intro h
    unfold status? at h
    split at h
    · rw [Option.some.inj h]
    · simp at h
  · rintro rfl
    rfl

theorem not_inputOutput_of_status (s : Int) :
    ¬ ((http (.status s)).isSystem = true ∨ (http (.status s)).Carries) := by
  rw [← isInputOutput_iff]
  exact Bool.false_ne_true

end FaultClass

/-! ### The decision -/

/-- What a fault of class `c` is classified as. The first of four rules that applies decides:
failures of the secure channel, statuses, failures of input and output, everything else. -/
structure Decides (c : FaultClass) (throughTls : Prop) (e : Classified) : Prop where
  security : (e.kind = .security ∧ e.retryable = false) ↔ throughTls
  status : ¬ throughTls → ∀ s, c = .http (.status s) →
    e.cls = .protocol ∧ e.kind = .httpStatus ∧
      (e.retryable = true ↔ s = 408 ∨ s = 429 ∨ 500 ≤ s)
  inputOutput : ¬ throughTls → c.isSystem = true ∨ c.Carries →
    e.cls = .retryableConnection ∧ e.kind = .connection ∧ e.retryable = true
  other : ¬ throughTls → (∀ s, c ≠ .http (.status s)) → c.isSystem = false → ¬ c.Carries →
    e.cls = .transport ∧ e.kind = .transport ∧ e.retryable = false

theorem isRetryableStatus_iff (s : Int) :
    isRetryableStatus s = true ↔ s = 408 ∨ s = 429 ∨ 500 ≤ s := by
  simp [isRetryableStatus, retryableStatuses, or_assoc]

variable {c : FaultClass} {w : Classified.Wrapping}

theorem classifyFault_of_status {s : Int} (h : c.status? = some s) (w : Classified.Wrapping) :
    classifyFault c false w = .make .protocol .httpStatus
      (some ("Peer responded with HTTP status " ++ toString s)) (some w)
      (some (isRetryableStatus s)) [("status_code", .int s)] := by
  simp [classifyFault, h]

theorem classifyFault_of_inputOutput (hstatus : c.status? = none) (h : c.isInputOutput = true)
    (w : Classified.Wrapping) :
    classifyFault c false w = .ofClass .retryableConnection none (some w) [] := by
  simp [classifyFault, hstatus, h]

theorem classifyFault_of_other (hstatus : c.status? = none) (h : c.isInputOutput = false)
    (w : Classified.Wrapping) :
    classifyFault c false w = .ofClass .transport none (some w) [] := by
  simp [classifyFault, hstatus, h]

theorem wrapped_classifyFault (c : FaultClass) (throughTls : Bool) (w : Classified.Wrapping) :
    (classifyFault c throughTls w).wrapped = some w.id := by
  unfold classifyFault
  split
  · rfl
  · split
    · rfl
    · split <;> rfl

theorem classifyFault_decides (c : FaultClass) (throughTls : Bool) (w : Classified.Wrapping) :
    Decides c (throughTls = true) (classifyFault c throughTls w) := by
  cases throughTls with
  | true =>
      refine ⟨?_, fun h ↦ absurd rfl h, fun h ↦ absurd rfl h, fun h ↦ absurd rfl h⟩
      simp [classifyFault, Classified.make, Kind.retryable, Kind.entry]
  | false =>
      cases hstatus : c.status? with
      | some s =>
          obtain rfl := FaultClass.status?_eq_some_iff.mp hstatus
          rw [classifyFault_of_status hstatus]
          refine ⟨by simp [Classified.make], ?_,
            fun _ h ↦ absurd h (FaultClass.not_inputOutput_of_status s), fun _ h ↦ absurd rfl (h s)⟩
          rintro _ s' ⟨⟩
          exact ⟨rfl, rfl, isRetryableStatus_iff s⟩
      | none =>
          have hno : ∀ s, c ≠ .http (.status s) := by
            rintro s rfl
            simp [FaultClass.status?] at hstatus
          cases hio : c.isInputOutput with
          | true =>
              rw [classifyFault_of_inputOutput hstatus hio]
              refine ⟨by simp [Classified.ofClass, Classified.make, ErrorClass.defaultKind],
                fun _ s h ↦ absurd h (hno s), fun _ _ ↦ ⟨rfl, rfl, rfl⟩, ?_⟩
              intro _ _ hsystem hcarries
              rcases (FaultClass.isInputOutput_iff c).mp hio with h | h
              · simp [hsystem] at h
              · exact absurd h hcarries
          | false =>
              rw [classifyFault_of_other hstatus hio]
              refine ⟨by simp [Classified.ofClass, Classified.make, ErrorClass.defaultKind],
                fun _ s h ↦ absurd h (hno s), ?_, fun _ _ _ _ ↦ ⟨rfl, rfl, rfl⟩⟩
              intro _ h
              simp [(FaultClass.isInputOutput_iff c).mpr h] at hio

namespace Graph

variable {g : Graph} {id t : FailureId}

/-- The walk from a failure meets one of the secure channel. -/
def WalkMeetsTls (g : Graph) (id : FailureId) : Prop := ∃ t ∈ g.walk id, g.isTls t = true

theorem classify_of_classified {e : Classified} (h : g.classified? id = some e)
    (handling : Option FailureId) : g.classify id handling = (id, g) := by
  obtain ⟨n, hn, he⟩ := Option.bind_eq_some_iff.mp h
  have hnone : g.fault? id = none := by
    cases hfailure : n.failure with
    | fault f => simp [hfailure, Failure.classified?] at he
    | classified e => simp [fault?, hn, hfailure, Failure.fault?]
  simp [classify, verdict?, class?, hnone]

/-- A fault is wrapped in a new error that declares it as its cause. -/
theorem classify_of_fault {f : Fault} (h : g.fault? id = some f) (handling : Option FailureId) :
    ∃ e, g.classify id handling = (g.length, g ++ [⟨.classified e, some id, handling⟩]) ∧
      e.wrapped = some id ∧ Decides f.cls (g.WalkMeetsTls id) e := by
  let e := classifyFault f.cls (g.meetsTls g.length id) (g.wrapping id)
  have hwrapped : e.wrapped = some id := wrapped_classifyFault _ _ _
  have hdecides : Decides f.cls (g.WalkMeetsTls id) e := by
    rw [WalkMeetsTls, ← meetsTls_length_iff]
    exact classifyFault_decides _ _ _
  have hverdict : g.verdict? id = some e := by simp [verdict?, class?, h, e]
  refine ⟨e, ?_, hwrapped, hdecides⟩
  simp only [classify, hverdict, record, hwrapped]

/-- Any recorded failure is classified, however its links run. An error that is classified already
is returned as it is, and any other failure is wrapped in a new error as its cause. The decision
rests on the failures that the walk meets before it would meet one again. -/
theorem classify_decides (hid : id < g.length) (handling : Option FailureId) :
    (g.walk id).Nodup ∧ (g.walk id).length ≤ g.length ∧
    ((∃ e, g.classified? id = some e ∧ g.classify id handling = (id, g)) ∨
      ∃ f e, g.fault? id = some f ∧
        g.classify id handling = (g.length, g ++ [⟨.classified e, some id, handling⟩]) ∧
        e.wrapped = some id ∧ Decides f.cls (g.WalkMeetsTls id) e) := by
  refine ⟨g.nodup_walkFrom [] id, g.length_walk_le id, ?_⟩
  have hn : g[id]? = some g[id] := List.getElem?_eq_getElem hid
  cases hfailure : g[id].failure with
  | classified e =>
      have he : g.classified? id = some e := by
        simp [classified?, hn, hfailure, Failure.classified?]
      exact .inl ⟨e, he, classify_of_classified he handling⟩
  | fault f =>
      have hf : g.fault? id = some f := by
        simp [fault?, hn, hfailure, Failure.fault?]
      obtain ⟨e, hclassify, hwrapped, hdecides⟩ := classify_of_fault hf handling
      exact .inr ⟨f, e, hf, hclassify, hwrapped, hdecides⟩

/-- A failure with a cause behind a failure of the secure channel, and that one behind it again. -/
def circling : Graph :=
  [⟨.fault (.http .connect "handshake failed"), none, some 1⟩,
   ⟨.fault ⟨.tls .certificate, "expired"⟩, some 2, none⟩,
   ⟨.fault ⟨.system .any, "closed"⟩, none, some 1⟩]

theorem classify_decides_of_circling :
    0 < circling.length ∧ (circling.walk 0).length ≤ 3 ∧
    ∃ e, circling.classify 0 none = (3, circling ++ [⟨.classified e, some 0, none⟩]) ∧
      e.kind = .security ∧ e.retryable = false := by
  have hid : 0 < circling.length := by decide
  have hmeets : circling.WalkMeetsTls 0 := by
    rw [WalkMeetsTls, ← meetsTls_length_iff]
    decide
  obtain ⟨_, hlength, ⟨e, he, _⟩ | ⟨f, e, _, hclassify, _, hdecides⟩⟩ := classify_decides hid none
  · simp [circling, classified?, Failure.classified?] at he
  · exact ⟨hid, hlength, e, hclassify, hdecides.security.mpr hmeets⟩

/-! ### Both links -/

/-- `b` is the cause or the context of `a`. -/
def Links (g : Graph) (a b : FailureId) : Prop :=
  ∃ n, g[a]? = some n ∧ (n.cause = some b ∨ n.context = some b)

/-- `c` is the context of `a`, but `a` declares another cause. -/
def PassesOver (g : Graph) (a c : FailureId) : Prop :=
  ∃ n b, g[a]? = some n ∧ n.cause = some b ∧ n.context = some c ∧ b ≠ c

theorem Links.lt {a b : FailureId} (h : g.Links a b) : a < g.length := by
  obtain ⟨n, hn, _⟩ := h
  exact (List.getElem?_eq_some_iff.mp hn).1

theorem Links.follows_or_passesOver {a b : FailureId} (h : g.Links a b) :
    g.Follows a b ∨ g.PassesOver a b := by
  obtain ⟨n, hn, hlink⟩ := h
  have hfollows : (n.cause <|> n.context) = some b → g.Follows a b := by
    intro h
    rw [Follows, behind?, hn, Option.bind_some, h]
  rcases hlink with hcause | hcontext
  · exact .inl (hfollows (by simp [hcause]))
  · cases hcause : n.cause with
    | none => exact .inl (hfollows (by simp [hcause, hcontext]))
    | some b' =>
        by_cases heq : b' = b
        · exact .inl (hfollows (by simp [hcause, heq]))
        · exact .inr ⟨n, b', hn, hcause, hcontext, heq⟩

/-- Whatever links lead to is met by the walk, unless the walk passes over a context that it is
behind. -/
theorem mem_walk_or_passesOver {a : FailureId} (ha : a ∈ g.walk id) (ht : t < g.length)
    (h : Relation.ReflTransGen g.Links a t) :
    t ∈ g.walk id ∨
      ∃ p ∈ g.walk id, ∃ c, g.PassesOver p c ∧ Relation.ReflTransGen g.Links c t := by
  induction h using Relation.ReflTransGen.head_induction_on with
  | refl => exact .inl ha
  | @head a b hlink hrest ih =>
      rcases hlink.follows_or_passesOver with hfollows | hpasses
      · have hb : b < g.length := by
          rcases hrest.cases_head with rfl | ⟨_, hnext, _⟩
          · exact ht
          · exact hnext.lt
        exact ih (mem_walk_of_follows ha hfollows hb)
      · exact .inr ⟨a, ha, b, hpasses, hrest⟩

/-- A failure of the secure channel that any links lead to is recognised exactly if the walk meets
one. It is missed only behind the context of a failure on the walk that declares another cause. -/
theorem tls_behind_recognised_or_passed_over {f : Fault} (hf : g.fault? id = some f)
    (hreach : Relation.ReflTransGen g.Links id t) (htls : g.isTls t = true)
    (handling : Option FailureId) :
    ∃ e, g.classify id handling = (g.length, g ++ [⟨.classified e, some id, handling⟩]) ∧
      ((e.kind = .security ∧ e.retryable = false) ↔ g.WalkMeetsTls id) ∧
      (¬ g.WalkMeetsTls id →
        ∃ a ∈ g.walk id, ∃ c, g.PassesOver a c ∧ Relation.ReflTransGen g.Links c t) := by
  obtain ⟨e, hclassify, _, hdecides⟩ := classify_of_fault hf handling
  refine ⟨e, hclassify, hdecides.security, fun hmissed ↦ ?_⟩
  obtain ⟨n, hn, _⟩ := Option.bind_eq_some_iff.mp hf
  have hid : id < g.length := (List.getElem?_eq_some_iff.mp hn).1
  have hself : id ∈ g.walk id := self_mem_walkFrom hid List.not_mem_nil
  rcases mem_walk_or_passesOver hself (lt_of_isTls htls) hreach with hmem | hpassed
  · exact absurd ⟨t, hmem, htls⟩ hmissed
  · exact hpassed

/-- A reading that failed for a broken connection, while a failure of the secure channel was being
handled. -/
def shadowed : Graph :=
  [⟨.fault (.http .read "read failed"), some 1, some 2⟩,
   ⟨.fault ⟨.system .connectionReset, "reset"⟩, none, none⟩,
   ⟨.fault ⟨.tls .any, "bad record mac"⟩, none, none⟩]

theorem shadowed_links : Relation.ReflTransGen shadowed.Links 0 2 :=
  .single ⟨_, rfl, .inr rfl⟩

theorem tls_behind_passed_over_of_shadowed :
    shadowed.fault? 0 = some (.http .read "read failed") ∧
      Relation.ReflTransGen shadowed.Links 0 2 ∧ shadowed.isTls 2 = true ∧
      ∃ e, shadowed.classify 0 none = (3, shadowed ++ [⟨.classified e, some 0, none⟩]) ∧
        ¬ (e.kind = .security ∧ e.retryable = false) ∧
        ∃ a ∈ shadowed.walk 0, ∃ c, shadowed.PassesOver a c := by
  have hmissed : ¬ shadowed.WalkMeetsTls 0 := by
    rw [WalkMeetsTls, ← meetsTls_length_iff]
    decide
  obtain ⟨e, hclassify, hiff, hpassed⟩ :=
    tls_behind_recognised_or_passed_over (g := shadowed) (f := .http .read "read failed") rfl
      shadowed_links rfl none
  obtain ⟨a, ha, c, hc, _⟩ := hpassed hmissed
  exact ⟨rfl, shadowed_links, rfl, e, hclassify, fun h ↦ hmissed (hiff.mp h), a, ha, c, hc⟩

/-- A failure of the secure channel is presumed transient if it is the context of a failure with
another cause. -/
theorem shadowed_tls_presumed_transient :
    Relation.ReflTransGen shadowed.Links 0 2 ∧ shadowed.isTls 2 = true ∧
      ∃ e, shadowed.classify 0 none = (3, shadowed ++ [⟨.classified e, some 0, none⟩]) ∧
        e.kind = .connection ∧ e.retryable = true :=
  ⟨shadowed_links, rfl, _, rfl, rfl, rfl⟩

end Graph

end SecureExchange.Failure
