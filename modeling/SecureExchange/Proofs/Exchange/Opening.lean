import SecureExchange.Proofs.Exchange.HandleTrust
import SecureExchange.Proofs.Exchange.SingleRequest
import SecureExchange.Proofs.Failure.Classification

/-!
# Handles that cannot be opened

An exchange that cannot open a handle wraps a failure of input or output in an error that is always
retryable. Classification looks behind the same failure, and does not retry it if there is a failure
of the secure channel. The two decisions agree exactly if that is not the case (`FailsToOpen`).
-/

namespace SecureExchange

open Failure

namespace Failure.Graph

variable {g : Graph} {id : FailureId} {f : Fault} {c : FaultClass}

theorem fault?_of_class? (h : g.class? id = some c) : ∃ f, g.fault? id = some f ∧ f.cls = c := by
  obtain ⟨f, hf, hc⟩ := Option.map_eq_some_iff.mp h
  exact ⟨f, hf, hc⟩

theorem verdict?_of_fault (h : g.fault? id = some f) :
    ∃ e, g.verdict? id = some e ∧ Decides f.cls (g.WalkMeetsTls id) e := by
  refine ⟨classifyFault f.cls (g.meetsTls g.length id) (g.wrapping id), ?_, ?_⟩
  · simp [verdict?, class?, h]
  · rw [WalkMeetsTls, ← meetsTls_length_iff]
    exact classifyFault_decides _ _ _

theorem retryDecision_of_fault (h : g.fault? id = some f) :
    ∃ e, Decides f.cls (g.WalkMeetsTls id) e ∧ g.retryDecision id = (e.code, e.retryable) := by
  obtain ⟨e, hverdict, hdecides⟩ := verdict?_of_fault h
  exact ⟨e, hdecides, by simp [retryDecision, hverdict]⟩

theorem retryDecision_of_classified {e : Classified} (h : g.classified? id = some e) :
    g.retryDecision id = (e.code, e.retryable) := by
  have hverdict : g.verdict? id = none := by
    cases hclass : g.verdict? id with
    | none => rfl
    | some e' =>
        have hsame := classify_of_classified h none
        simp [classify, hclass, record] at hsame
  simp [retryDecision, hverdict, h]

/-- A failure of input or output is retried unless one of the secure channel is behind it. -/
theorem retryable_iff_of_inputOutput (h : g.class? id = some c)
    (hio : c.isSystem = true ∨ c.Carries) :
    (g.retryDecision id).2 = true ↔ ¬ g.WalkMeetsTls id := by
  obtain ⟨f, hf, rfl⟩ := fault?_of_class? h
  obtain ⟨e, hdecides, hdecision⟩ := retryDecision_of_fault hf
  rw [hdecision]
  by_cases htls : g.WalkMeetsTls id
  · simp [(hdecides.security.mpr htls).2, htls]
  · simp [(hdecides.inputOutput htls hio).2.2, htls]

/-- A value that is refused is never retried. -/
theorem retryable_of_invalidValue {text : String} (h : g.fault? id = some (.invalidValue text)) :
    (g.retryDecision id).2 = false := by
  obtain ⟨e, hdecides, hdecision⟩ := retryDecision_of_fault h
  rw [hdecision]
  by_cases htls : g.WalkMeetsTls id
  · exact (hdecides.security.mpr htls).2
  · refine (hdecides.other htls (fun s ↦ ?_) rfl ?_).2.2
    · simp [Fault.invalidValue]
    · rintro ⟨f, hf, _⟩
      simp [Fault.invalidValue] at hf

theorem fault?_record (g : Graph) (f : Fault) (h : Option FailureId) :
    (g.record (.fault f) h).2.fault? (g.record (.fault f) h).1 = some f := by
  simp [record, fault?, Failure.fault?]

end Failure.Graph

open Address

/-- How an operation on an exchange with the given target fails, when the recorded failure `id`
keeps its handle from being opened and `raised` is what callers see. -/
structure FailsToOpen (target : Target) (g : Graph) (id : FailureId) (after : Graph)
    (raised : FailureId) : Prop where
  wrapped : ∀ shown, Redaction.addressText target.text = .ok shown →
    ∃ e, after.classified? raised = some e ∧ e.cls = .retryableConnection ∧
      e.retryable = true ∧ e.wrapped = some id
  unshown : ∀ e, Redaction.addressText target.text = .error e →
    after.fault? raised = some e.toFault
  classified : (g.retryDecision id).2 = true ↔ ¬ g.WalkMeetsTls id
  agrees : (after.retryDecision raised).2 = (g.retryDecision id).2 ↔
    ((∃ shown, Redaction.addressText target.text = .ok shown) ↔ ¬ g.WalkMeetsTls id)

namespace Exchange

variable {id : FailureId} {c : FaultClass}

theorem recordOpenFailure_failsToOpen (target : Target) {j : Journal}
    (hclass : j.failures.class? id = some c) (hio : c.isSystem = true ∨ c.Carries) :
    FailsToOpen target j.failures id (recordOpenFailure target id j).2.failures
      (recordOpenFailure target id j).1 := by
  have hinput : c.isInputOutput = true := c.isInputOutput_iff.mpr hio
  have hclassified := Graph.retryable_iff_of_inputOutput hclass hio
  cases hshown : Redaction.addressText target.text with
  | error e =>
      have hrecord : recordOpenFailure target id j = j.record (.fault e.toFault) (some id) := by
        simp [recordOpenFailure, hclass, hinput, hshown]
      have hfault := Graph.fault?_record j.failures e.toFault (some id)
      have hnever := Graph.retryable_of_invalidValue hfault
      rw [hrecord]
      refine ⟨by simp [hshown], fun e' he' ↦ ?_, hclassified, ?_⟩
      · obtain rfl := Except.error.inj (hshown.symm.trans he')
        exact hfault
      · rw [Journal.record, hnever, hshown]
        cases hdecision : (j.failures.retryDecision id).2 <;> simp [hdecision] at hclassified ⊢ <;>
          exact hclassified
  | ok shown =>
      let e := Classified.ofClass .retryableConnection
        (some ("Unable to open connection to " ++ shown)) (some (j.failures.wrapping id)) []
      have hrecord : recordOpenFailure target id j = j.record (.classified e) (some id) := by
        simp [recordOpenFailure, hclass, hinput, hshown, e]
      have he : (j.record (.classified e) (some id)).2.failures.classified?
          (j.record (.classified e) (some id)).1 = some e :=
        Graph.classified?_record j.failures e (some id)
      have hdecision := Graph.retryDecision_of_classified he
      rw [hrecord]
      refine ⟨fun _ _ ↦ ⟨e, he, rfl, rfl, rfl⟩, by simp [hshown], hclassified, ?_⟩
      rw [hdecision, hshown, show e.retryable = true from rfl, ← hclassified]
      cases (j.failures.retryDecision id).2 <;> simp

/-- A failure of input or output that keeps a handle from being opened, at the start or when the
context is set, is raised as a retryable error that wraps it. Classification retries it exactly if
no failure of the secure channel is behind it, so that the two decisions differ where one is. An
address that cannot be shown is raised as that, and never retried. -/
theorem open_failures_retried_unless_tls {j : Journal} (hclass : j.failures.class? id = some c)
    (hio : c.isSystem = true ∨ c.Carries) :
    (∀ {p n m target verb seconds} (unredacted : Bool), targetOf p.target = .ok target →
      Verb.ofDatum? p.verb = some verb → startTimeout p = .ok seconds →
      n.openHandle none = (.error id, m) →
      ∃ r, start p n j unredacted = .error r ∧ r.network = m ∧
        FailsToOpen target j.failures id r.journal.failures r.failure) ∧
    ∀ {x : Exchange} {context m}, x.journal = j → x.phase = .configured →
      x.network.custom = false →
      x.network.closeHandle.openHandle (some context) = (.error id, m) →
      ∃ raised y, x.setTlsContext (some context) = (.error raised, y) ∧ y.network = m ∧
        FailsToOpen x.target j.failures id y.journal.failures raised := by
  constructor
  · intro p n m target verb seconds unredacted htarget hverb htimeout hopen
    refine ⟨⟨(recordOpenFailure target id j).1, m, (recordOpenFailure target id j).2⟩, ?_, rfl,
      recordOpenFailure_failsToOpen target hclass hio⟩
    simp only [start, htarget, hverb, htimeout, hopen]
  · rintro x context m rfl hphase hcustom hopen
    refine ⟨(recordOpenFailure x.target id x.journal).1, { x with
      tlsContext := some context
      network := m
      journal := (recordOpenFailure x.target id x.journal).2 }, ?_, rfl,
      recordOpenFailure_failsToOpen x.target hclass hio⟩
    rw [setTlsContext_of_configured hphase hcustom]
    simp only [reopen, hopen]

/-- The common authorities cannot be loaded. -/
def untrusting : Journal := ⟨[⟨.fault ⟨.tls .any, "unable to load trust store"⟩, none, none⟩], []⟩

/-- A check that finds a refusal to start finds the refusal. -/
theorem exists_of_refusal {p : Proposal} {n : Network} {j : Journal} {u : Bool}
    {q : Refusal → Bool}
    (h : (match start p n j u with
      | .error r => q r
      | .ok _ => false) = true) :
    ∃ r, start p n j u = .error r ∧ q r = true := by
  cases hstart : start p n j u with
  | ok x => simp [hstart] at h
  | error r => exact ⟨r, rfl, by simpa [hstart] using h⟩

theorem open_failures_retried_unless_tls_of_untrusting :
    untrusting.failures.class? 0 = some (.tls .any) ∧ untrusting.failures.WalkMeetsTls 0 ∧
      ∃ r, start queryHub (.start false accepting [some 0]) untrusting false = .error r ∧
        (r.journal.failures.retryDecision r.failure).2
          ≠ (untrusting.failures.retryDecision 0).2 := by
  have hclass : untrusting.failures.class? 0 = some (.tls .any) := rfl
  have htls : untrusting.failures.WalkMeetsTls 0 :=
    (Graph.meetsTls_length_iff _ _).mp (by decide)
  obtain ⟨target, htarget, hshown⟩ : ∃ target, targetOf queryHub.target = .ok target ∧
      (Redaction.addressText target.text).toOption.isSome = true := by
    have hchecked : (targetOf queryHub.target).toOption.any
        (fun t ↦ (Redaction.addressText t.text).toOption.isSome) = true := by decide +kernel
    cases htarget : targetOf queryHub.target with
    | error f => simp [htarget, Except.toOption] at hchecked
    | ok t => exact ⟨t, rfl, by simpa [htarget, Except.toOption] using hchecked⟩
  obtain ⟨hstarts, _⟩ := open_failures_retried_unless_tls hclass (.inl rfl)
  obtain ⟨r, hstart, _, hfails⟩ := hstarts (n := .start false accepting [some 0]) false htarget
    rfl rfl rfl
  refine ⟨hclass, htls, r, hstart, fun hagrees ↦ ?_⟩
  have hiff := hfails.agrees.mp hagrees
  cases htext : Redaction.addressText target.text with
  | error e => simp [htext, Except.toOption] at hshown
  | ok shown => exact hiff.mp ⟨shown, htext⟩ htls

/-- A failure of the secure channel that keeps the first handle from being opened is raised as
retryable, but not classified so. -/
theorem tls_open_failure_presumed_transient :
    ∃ r, start queryHub (.start false accepting [some 0]) untrusting false = .error r ∧
      untrusting.failures.isTls 0 = true ∧
      (r.journal.failures.retryDecision r.failure).2 = true ∧
      (untrusting.failures.retryDecision 0).2 = false := by
  obtain ⟨r, hstart, hretry⟩ := exists_of_refusal (p := queryHub)
    (n := .start false accepting [some 0]) (j := untrusting) (u := false)
    (q := fun r ↦ (r.journal.failures.retryDecision r.failure).2) (by decide +kernel)
  exact ⟨r, hstart, rfl, hretry, by decide⟩

end Exchange

end SecureExchange
