import SecureExchange.Proofs.Exchange.Runs

/-!
# The trust that requests are sent with

An exchange reports the context of its secure channel. Whatever openings fail, an open handle was
opened with the context that is reported, or with the common authorities if none is. So no request
is sent over a handle of another context, and after a failed reopening nothing is sent at all until
a handle has been opened again.
-/

namespace SecureExchange

open Failure

/-- What a handle is opened with when a context is reported, or none. -/
def Trust.ofContext : Option String → Trust
  | none => .common
  | some name => .context name

def Operation.setsContext : Operation → Bool
  | .setTlsContext (some _) => true
  | _ => false

namespace Network

theorem custom_reopen {n m : Network} {context : Option String}
    {outcome : Except FailureId Unit} (h : n.closeHandle.openHandle context = (outcome, m)) :
    m.custom = n.custom := by
  have hm : m = (n.closeHandle.openHandle context).2 := by rw [h]
  rw [hm, custom_openHandle, custom_closeHandle]

theorem usable?_openHandle {n m : Network} {context : Option String} (hcustom : n.custom = false)
    (h : n.openHandle context = (.ok (), m)) :
    m.usable? = some (.opened (.ofContext context)) := by
  have hopened : ∀ openings, usable? { n with
      openings := openings
      handles := .opened (.ofContext context) :: n.handles
      deposits := [] } = some (.opened (.ofContext context)) := fun _ ↦ rfl
  unfold openHandle at h
  rw [if_neg (by simp [hcustom])] at h
  dsimp only at h
  split at h
  · simp at h
  · obtain rfl := (Prod.mk.inj h).2
    exact hopened _
  · obtain rfl := (Prod.mk.inj h).2
    exact hopened n.openings

theorem usable?_of_openHandle_error {n m : Network} {context : Option String} {id : FailureId}
    (h : n.openHandle context = (.error id, m)) : m.usable? = n.usable? := by
  unfold openHandle at h
  split at h
  · simp at h
  · dsimp only at h
    split at h
    · obtain rfl := (Prod.mk.inj h).2
      rfl
    · simp at h
    · simp at h

end Network

namespace Exchange

variable {x y : Exchange} {o : Operation} {r : Outcome Yield}

theorem Transition.custom (h : Transition x o r y) : y.network.custom = x.network.custom := by
  cases h with
  | reopened _ _ hopen => exact Network.custom_reopen hopen
  | reopeningFailed _ _ hopen => exact Network.custom_reopen hopen
  | connecting _ h => exact h.retains.custom
  | bodyRead _ _ _ h => exact h.retains.custom
  | errorRead _ _ _ h => exact h.retains.custom
  | closing h => exact h.retains.custom
  | _ => rfl

theorem Transition.tlsContext_of_connect (h : Transition x .connect r y) :
    y.tlsContext = x.tlsContext := by
  cases h with
  | connecting _ h => exact h.retains.tlsContext
  | _ => rfl

/-- A handle stays usable under the same context, or is closed, or is opened with a new context. -/
theorem Transition.usable?_cases (h : Transition x o r y) :
    y.network.usable? = none ∨
      (y.network.usable? = x.network.usable? ∧ y.tlsContext = x.tlsContext) ∨
      ∃ context, o = .setTlsContext (some context) ∧ y.tlsContext = some context ∧
        y.network.usable? = some (.opened (.context context)) := by
  cases h with
  | reopened _ hcustom hopen =>
      refine .inr (.inr ⟨_, rfl, rfl, ?_⟩)
      exact Network.usable?_openHandle (by simpa using hcustom) hopen
  | reopeningFailed _ _ hopen =>
      refine .inl ?_
      rw [Network.usable?_of_openHandle_error hopen, Network.usable?_closeHandle]
  | connecting _ h => exact h.retains.usable.imp_right fun hu ↦ .inl ⟨hu, h.retains.tlsContext⟩
  | bodyRead _ _ _ h => exact h.retains.usable.imp_right fun hu ↦ .inl ⟨hu, h.retains.tlsContext⟩
  | errorRead _ _ _ h => exact h.retains.usable.imp_right fun hu ↦ .inl ⟨hu, h.retains.tlsContext⟩
  | closing h => exact h.retains.usable.imp_right fun hu ↦ .inl ⟨hu, h.retains.tlsContext⟩
  | _ => exact .inr (.inl ⟨rfl, rfl⟩)

/-- An open handle was opened with the context that is reported. -/
def HandleMatches (x : Exchange) : Prop :=
  ∀ handle, x.network.usable? = some handle → handle.trust = .ofContext x.tlsContext

theorem Transition.handleMatches (h : Transition x o r y) (hx : x.HandleMatches) :
    y.HandleMatches := by
  intro handle hhandle
  rcases h.usable?_cases with hnone | ⟨hsame, htls⟩ | ⟨context, _, htls, hopened⟩
  · simp [hnone] at hhandle
  · rw [htls]
    exact hx handle (hsame.symm.trans hhandle)
  · obtain rfl := Option.some.inj (hopened.symm.trans hhandle)
    rw [htls]
    rfl

theorem Started.handleMatches {p : Proposal} {script : Script}
    {openings : List (Option FailureId)} (h : Started p (.start false script openings) x) :
    x.HandleMatches := by
  intro handle hhandle
  have hopened := Network.usable?_openHandle (n := .start false script openings) rfl h.opened
  obtain rfl := Option.some.inj (hopened.symm.trans hhandle)
  rw [h.tlsContext]
  rfl

/-- Without a usable handle nothing is sent, until one is opened with another context. -/
theorem Transition.usable?_none (h : Transition x o r y) (ho : o.setsContext = false)
    (hx : x.network.usable? = none) :
    y.network.usable? = none ∧ y.network.sent = x.network.sent := by
  refine ⟨?_, ?_⟩
  · rcases h.usable?_cases with hnone | ⟨hsame, _⟩ | ⟨context, rfl, _⟩
    · exact hnone
    · exact hsame.trans hx
    · simp [Operation.setsContext] at ho
  · rcases h.sent with hsent | ⟨_, _, _, _, hsends, _⟩
    · exact hsent
    · simp [hsends.usable] at hx

theorem run_sent_of_usable?_none (hfresh : x.Fresh) (hx : x.network.usable? = none)
    {os : List Operation} (hos : ∀ o ∈ os, o.setsContext = false) :
    (x.run os).network.sent = x.network.sent := by
  induction os generalizing x with
  | nil => rfl
  | cons o rest ih =>
      obtain ⟨hnone, hsent⟩ :=
        (step_transition hfresh o).usable?_none (hos o List.mem_cons_self) hx
      have hrest := ih (step_fresh hfresh o) hnone fun o' ho' ↦ hos o' (List.mem_cons_of_mem o ho')
      exact hrest.trans hsent

theorem usable?_of_failed_reopening {context : String} {id : FailureId}
    (hphase : x.phase = .configured) (hcustom : x.network.custom = false)
    (h : (x.step (.setTlsContext (some context))).1 = .error id) :
    (x.step (.setTlsContext (some context))).2.network.usable? = none ∧
      (x.step (.setTlsContext (some context))).2.network.sent = x.network.sent := by
  rw [step, setTlsContext_of_configured hphase hcustom] at h ⊢
  rcases hopen : x.network.closeHandle.openHandle (some context) with ⟨raised | _, n⟩
  · simp only [reopen, hopen, yielding]
    refine ⟨?_, Network.sent_closeHandle_openHandle hopen⟩
    rw [Network.usable?_of_openHandle_error hopen, Network.usable?_closeHandle]
  · simp [reopen, hopen, yielding, Except.map] at h

/-- Every request goes over a handle that was opened with the context reported at that moment, or
with the common authorities if none is. After a reopening that failed, nothing is sent before a
handle has been opened with a context that is set anew. -/
theorem requests_over_reported_context {p : Proposal} {script : Script}
    {openings : List (Option FailureId)} {j : Journal} {unredacted : Bool}
    (hstart : start p (.start false script openings) j unredacted = .ok x)
    (os : List Operation) :
    (∀ o, ((x.run os).step o).2.network.sent = (x.run os).network.sent ∨
      ∃ s handle, ((x.run os).step o).2.network.sent = (x.run os).network.sent ++ [s] ∧
        (x.run os).network.usable? = some handle ∧ s.trust = handle.trust ∧
        handle.trust = .ofContext (x.run os).tlsContext ∧
        ((x.run os).step o).2.tlsContext = (x.run os).tlsContext) ∧
    ∀ context id later, (x.run os).phase = .configured →
      ((x.run os).step (.setTlsContext (some context))).1 = .error id →
      (∀ o ∈ later, o.setsContext = false) →
      (((x.run os).step (.setTlsContext (some context))).2.run later).network.sent
        = (x.run os).network.sent := by
  have hstarted := start_started hstart
  have hfresh := run_fresh hstarted.fresh os
  have hmatches : (x.run os).HandleMatches :=
    run_induction (fun _ hx h ↦ h.handleMatches hx) hstarted.fresh hstarted.handleMatches os
  have hcustom : (x.run os).network.custom = false := by
    refine run_induction (P := fun y ↦ y.network.custom = false)
      (fun _ hx h ↦ h.custom.trans hx) hstarted.fresh ?_ os
    have hopened := Network.custom_openHandle (.start false script openings) none
    rw [hstarted.opened] at hopened
    exact hopened
  constructor
  · intro o
    have h := step_transition hfresh o
    rcases h.sent with hsent | ⟨request, handle, rfl, _, hsends, hsent⟩
    · exact .inl hsent
    · refine .inr ⟨_, handle, hsent, hsends.usable, rfl, hmatches handle hsends.usable, ?_⟩
      exact h.tlsContext_of_connect
  · intro context id later hphase houtcome hlater
    obtain ⟨hnone, hsent⟩ := usable?_of_failed_reopening hphase hcustom houtcome
    rw [run_sent_of_usable?_none (step_fresh hfresh _) hnone hlater, hsent]

def queryHub : Proposal := ⟨.text "https://hub/twin", .text "GET", none⟩

def hubJournal : Journal := ⟨[⟨.fault ⟨.system .any, "too many open files"⟩, none, none⟩], []⟩

/-- The second opening fails and the third does not. -/
theorem requests_over_reported_context_of_failed_opening :
    ∃ x s, start queryHub (.start false accepting [none, some 0, none]) hubJournal false = .ok x ∧
      (x.run [.setTlsContext (some "device")]).network.usable? = none ∧
      (x.run [.setTlsContext (some "device"), .connect]).network.sent = [] ∧
      (x.run [.setTlsContext (some "device"), .connect, .setTlsContext (some "fleet"),
        .connect]).network.sent = [s] ∧
      s.trust = .context "fleet" := by
  obtain ⟨x, hstart, hx⟩ := exists_of_any_start (p := queryHub)
    (n := .start false accepting [none, some 0, none]) (j := hubJournal) (u := false)
    (q := fun x ↦
      let failing := x.step (.setTlsContext (some "device"))
      let retried := x.run [.setTlsContext (some "device"), .connect,
        .setTlsContext (some "fleet")]
      decide (x.phase = .configured) && failing.1.toOption.isNone &&
        failing.2.network.usable?.isNone && x.network.sent.isEmpty &&
        retried.network.sent.isEmpty && decide (retried.connect.2.network.sent.length = 1) &&
        decide (retried.tlsContext = some "fleet"))
    (by decide +kernel)
  simp only [Bool.and_eq_true, decide_eq_true_eq, Option.isNone_iff_eq_none,
    List.isEmpty_iff] at hx
  obtain ⟨⟨⟨⟨⟨⟨hphase, hfails⟩, hnone⟩, hempty⟩, hretried⟩, hlength⟩, hcontext⟩ := hx
  have hfailed : ∃ id, (x.step (.setTlsContext (some "device"))).1 = .error id := by
    cases hstep : (x.step (.setTlsContext (some "device"))).1 with
    | ok y => simp [hstep, Except.toOption] at hfails
    | error id => exact ⟨id, rfl⟩
  obtain ⟨id, hfailed⟩ := hfailed
  obtain ⟨_, hsilent⟩ := requests_over_reported_context hstart []
  obtain ⟨hover, _⟩ := requests_over_reported_context hstart
    [.setTlsContext (some "device"), .connect, .setTlsContext (some "fleet")]
  have hquiet := hsilent "device" id [.connect] hphase hfailed (by simp [Operation.setsContext])
  rcases hover .connect with hsame | ⟨s, handle, hsent, _, hs, htrust, _⟩
  · have hnil := hlength.symm.trans (congrArg List.length (hsame.trans hretried))
    simp at hnil
  · refine ⟨x, s, hstart, hnone, ?_, ?_, ?_⟩
    · exact hquiet.trans hempty
    · exact hsent.trans (by rw [hretried, List.nil_append])
    · rw [hs, htrust, hcontext, Trust.ofContext]

end Exchange

end SecureExchange
