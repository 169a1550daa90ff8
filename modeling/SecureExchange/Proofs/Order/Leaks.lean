import SecureExchange.Proofs.Order.Sending

/-!
# Which failures of orders are classified

Sending maps the documented failures of the client to classified errors. A failure of any other
kind leaves an order as it is: when the handle is opened with the context of the order, while the
request is sent, or while the reply is read. An address that cannot be shown fails as that
(`Leaks`). Nothing else leaves an order unclassified: staging fields never fails, a refused body or
context is classified, status and fields of a reply are at hand, and the end adds no failure.
-/

namespace SecureExchange

open Failure

theorem Failure.Graph.classified?_of_fault {g : Graph} {id : FailureId} {f : Fault}
    (h : g.fault? id = some f) : g.classified? id = none := by
  obtain ⟨incident, hincident, hfault⟩ := Option.bind_eq_some_iff.mp h
  cases hfailure : incident.failure with
  | fault f => simp [classified?, hincident, hfailure, Failure.classified?]
  | classified e => simp [hfailure, Failure.fault?] at hfault

namespace Exchange

variable {x y z : Exchange} {o : Order} {p : Proposal} {n : Network}

/-- The failure is not classified, and none of the documented ones of the client. -/
structure Raw (x : Exchange) (id : FailureId) : Prop where
  unclassified : x.journal.failures.classified? id = none
  other : x.isHttpFailure id = false

/-- A failure to open a handle is wrapped if it is one of input or output and the target can be
shown. -/
def WrapsOpening (target : Address.Target) (g : Graph) (id : FailureId) : Prop :=
  ∃ c shown, g.class? id = some c ∧ c.isInputOutput = true ∧
    Redaction.addressText target.text = .ok shown

/-- The ways in which an order within a started exchange fails with a failure that is not
classified. -/
inductive Leaks (x : Exchange) (o : Order) : Prop
  | opening {context : String} {raised : FailureId} {m : Network}
      (hcontext : o.tlsContext = some context) (hcustom : x.network.custom = false)
      (hbody : o.body = [] ∨ x.verb.allowsBody = true)
      (hopen : x.network.closeHandle.openHandle (some context) = (.error raised, m))
      (hraw : x.journal.failures.classified? raised = none)
      (hwraps : ¬ WrapsOpening x.target x.journal.failures raised)
  | connecting {y z : Exchange} {id : FailureId} (hprepare : x.prepare o = (.ok (), y))
      (hconnect : y.connect = (.error id, z)) (hraw : z.Raw id)
  | reading {y z w : Exchange} {r : Reply} {id : FailureId}
      (hprepare : x.prepare o = (.ok (), y)) (hconnect : y.connect = (.ok (), z))
      (hchannel : z.channel = some ⟨r, false⟩) (hdrain : z.drain ⟨r, false⟩ = (.error id, w))
      (hraw : w.Raw id)
  | showing {y z : Exchange} {outcome : Outcome Response} {e : Address.Reference.Fault}
      (hprepare : x.prepare o = (.ok (), y)) (hperform : y.perform = (outcome, z))
      (hhandled : ∀ id, outcome = .error id → z.isHttpFailure id = true)
      (hunshown : Redaction.addressText o.address = .error e)

theorem recordOpenFailure_unclassified_iff (target : Address.Target) (id : FailureId)
    (j : Journal) :
    (recordOpenFailure target id j).2.failures.classified? (recordOpenFailure target id j).1
        = none ↔
      j.failures.classified? id = none ∧ ¬ WrapsOpening target j.failures id := by
  cases hclass : j.failures.class? id with
  | none =>
      have hsame : recordOpenFailure target id j = (id, j) := by
        simp [recordOpenFailure, hclass]
      simp [hsame, WrapsOpening, hclass]
  | some c =>
      obtain ⟨f, hf, _⟩ := Graph.fault?_of_class? hclass
      have hraw : j.failures.classified? id = none := Graph.classified?_of_fault hf
      cases hinput : c.isInputOutput with
      | false =>
          have hsame : recordOpenFailure target id j = (id, j) := by
            simp [recordOpenFailure, hclass, hinput]
          simp [hsame, WrapsOpening, hclass, hinput]
      | true =>
          cases hshown : Redaction.addressText target.text with
          | error e =>
              have hrecord : recordOpenFailure target id j
                  = j.record (.fault e.toFault) (some id) := by
                simp [recordOpenFailure, hclass, hinput, hshown]
              have hfault := Graph.fault?_record j.failures e.toFault (some id)
              rw [hrecord]
              simp [WrapsOpening, hraw, hshown, Journal.record, Graph.classified?_of_fault hfault]
          | ok shown =>
              let e := Classified.ofClass .retryableConnection
                (some ("Unable to open connection to " ++ shown)) (some (j.failures.wrapping id)) []
              have hrecord : recordOpenFailure target id j
                  = j.record (.classified e) (some id) := by
                simp [recordOpenFailure, hclass, hinput, hshown, e]
              have he := Graph.classified?_record j.failures e (some id)
              rw [hrecord]
              simp [WrapsOpening, hclass, hinput, hshown, Journal.record, he]

theorem fulfil_of_error {id : FailureId} (hprepare : x.prepare o = (.error id, y)) :
    x.fulfil o = (.error id, y) := by
  simp only [fulfil, hprepare]

theorem fulfil_of_prepared (hprepare : x.prepare o = (.ok (), y)) :
    x.fulfil o = y.performClassified o.address := by
  simp only [fulfil, hprepare]

theorem fulfil_of_raw {id : FailureId} (hprepare : x.prepare o = (.ok (), y))
    (hperform : y.perform = (.error id, z)) (hraw : z.Raw id) : x.fulfil o = (.error id, z) := by
  rw [fulfil_of_prepared hprepare]
  simp only [performClassified, hperform]
  rw [if_neg (by simp [hraw.other])]

/-- The failures that an order leaks are what it fails with. -/
theorem Leaks.raises (h : Leaks x o) (hx : Started p n x) :
    ∃ id, (settle o.address (x.fulfil o)).1 = .error id ∧
      (settle o.address (x.fulfil o)).2.journal.failures.classified? id = none := by
  have hreleased := (fulfil_fulfilling x o).streamReleased hx
  have hraised : ∀ {id z}, x.fulfil o = (.error id, z) →
      z.journal.failures.classified? id = none →
      ∃ id, (settle o.address (x.fulfil o)).1 = .error id ∧
        (settle o.address (x.fulfil o)).2.journal.failures.classified? id = none := by
    intro id z hfulfil hraw
    rw [hfulfil] at hreleased ⊢
    rw [settle_of_error hreleased]
    exact ⟨id, rfl, hraw⟩
  cases h with
  | opening hcontext hcustom hbody hopen hraw hwraps =>
      obtain ⟨outcome, y, hprepare⟩ : ∃ outcome y, x.prepare o = (outcome, y) := ⟨_, _, rfl⟩
      have hunclassified := (recordOpenFailure_unclassified_iff x.target _ x.journal).mpr
        ⟨hraw, hwraps⟩
      cases prepare_preparing hx hprepare with
      | refused _ _ hrefused =>
          rcases hrefused with hrefused | ⟨_, _, hcustom'⟩
          · exact absurd hbody hrefused
          · simp [hcustom] at hcustom'
      | staged _ hnone => simp [hcontext] at hnone
      | reopened _ hcontext' _ hopen' =>
          obtain rfl := Option.some.inj (hcontext.symm.trans hcontext')
          simp [hopen] at hopen'
      | reopeningFailed _ hcontext' _ _ hopen' =>
          obtain rfl := Option.some.inj (hcontext.symm.trans hcontext')
          obtain ⟨⟨⟩, rfl⟩ := Prod.mk.inj (hopen.symm.trans hopen')
          exact hraised (fulfil_of_error hprepare) hunclassified
  | connecting hprepare hconnect hraw =>
      have hperform := fulfil_of_raw hprepare (by simp only [perform, hconnect]) hraw
      exact hraised hperform hraw.unclassified
  | reading hprepare hconnect hchannel hdrain hraw =>
      have hperform := perform_of_drain hconnect hchannel
      rw [hdrain] at hperform
      exact hraised (fulfil_of_raw hprepare hperform hraw) hraw.unclassified
  | @showing y z outcome e hprepare hperform hhandled hunshown =>
      cases outcome with
      | error id =>
          obtain ⟨raised, j, hraise, _, hfault⟩ :=
            raiseClassified_eq (α := Response) (hhandled id rfl) o.address
          have hfulfil : x.fulfil o = (.error raised, { z with journal := j }) := by
            rw [fulfil_of_prepared hprepare]
            simp only [performClassified, hperform, hhandled id rfl, if_true, hraise]
          exact hraised hfulfil (Graph.classified?_of_fault (hfault e hunshown))
      | ok r =>
          have hfulfil : x.fulfil o = (.ok r, z) := by
            rw [fulfil_of_prepared hprepare]
            simp only [performClassified, hperform]
          rw [hfulfil] at hreleased ⊢
          rw [settle_of_unshown hreleased hunshown]
          have hfault := Graph.fault?_record z.journal.failures e.toFault none
          exact ⟨_, rfl, Graph.classified?_of_fault hfault⟩

/-- A failure that is not classified leaves an order in one of the four ways only. -/
theorem leaks_of_raises (hx : Started p n x) {id : FailureId}
    (hend : settle o.address (x.fulfil o) = (.error id, y))
    (hraw : y.journal.failures.classified? id = none) : Leaks x o := by
  have hfulfilling := fulfil_fulfilling x o
  have hreleased := hfulfilling.streamReleased hx
  obtain ⟨outcome, z, hfulfil⟩ : ∃ outcome z, x.fulfil o = (outcome, z) := ⟨_, _, rfl⟩
  rw [hfulfil] at hend hfulfilling hreleased
  cases outcome with
  | ok r =>
      cases hshown : Redaction.addressText o.address with
      | ok shown => simp [settle_of_shown hreleased hshown] at hend
      | error e =>
          cases hfulfilling with
          | performed hprepare hperform => exact .showing hprepare hperform (by simp) hshown
  | error raised =>
      rw [settle_of_error hreleased] at hend
      obtain ⟨hid, rfl⟩ := Prod.mk.inj hend
      obtain rfl := Except.error.inj hid
      have hunclassified : z.journal.failures.classified? raised = none := hraw
      cases hfulfilling with
      | notPrepared hprepare =>
          cases prepare_preparing hx hprepare with
          | refused _ _ _ herror => simp [herror] at hunclassified
          | reopeningFailed fields hcontext hcustom hbody hopen =>
              obtain ⟨hopening, hwraps⟩ :=
                (recordOpenFailure_unclassified_iff _ _ _).mp hunclassified
              exact .opening hcontext hcustom hbody hopen hopening hwraps
      | performed hprepare hperform hother =>
          have hprepared := (prepare_preparing hx hprepare).prepared hx
          have hrawz : z.Raw raised := ⟨hunclassified, hother raised rfl⟩
          have hperforming := perform_performing hprepared hperform
          generalize houtcome : (Except.error raised : Outcome Response) = outcome at hperforming
          cases hperforming with
          | notConnected hconnect =>
              obtain rfl := Except.error.inj houtcome
              exact .connecting hprepare hconnect hrawz
          | @answered r read _ _ hconnect hchannel _ hdrain =>
              cases read with
              | ok content => simp at houtcome
              | error id =>
                  obtain rfl := Except.error.inj houtcome
                  exact .reading hprepare hconnect hchannel hdrain hrawz
      | @classified id _ _ _ j hprepare hperform hfailure hshown =>
          cases haddress : Redaction.addressText o.address with
          | error e => exact .showing hprepare hperform (by simpa using hfailure) haddress
          | ok shown =>
              obtain ⟨e, he, _⟩ := hshown shown haddress
              have hnone : j.failures.classified? raised = none := hunclassified
              simp [he] at hnone

/-- Once an exchange has been started for it, an order fails with a classified error unless it
leaks. A documented failure of the client is wrapped in such an error, as long as the address can
be shown. -/
theorem orders_raise_classified_unless_leaking {j : Journal} {unredacted : Bool}
    (hstart : start o.proposal n j unredacted = .ok x) :
    ∃ outcome y, o.send n j unredacted = .ok (outcome, y) ∧
      ((∃ id, outcome = .error id ∧ y.journal.failures.classified? id = none) ↔ Leaks x o) ∧
      ∀ {id prepared performed shown}, x.prepare o = (.ok (), prepared) →
        prepared.perform = (.error id, performed) → performed.isHttpFailure id = true →
        Redaction.addressText o.address = .ok shown →
        ∃ raised e, outcome = .error raised ∧
          y.journal.failures.classified? raised = some e ∧ e.wrapped = some id := by
  have hx := start_started hstart
  have hsend := send_of_start hstart
  obtain ⟨outcome, y, hend⟩ : ∃ outcome y, settle o.address (x.fulfil o) = (outcome, y) :=
    ⟨_, _, rfl⟩
  rw [hend] at hsend
  refine ⟨outcome, y, hsend, ⟨?_, fun h ↦ ?_⟩, ?_⟩
  · rintro ⟨id, rfl, hraw⟩
    exact leaks_of_raises hx hend hraw
  · have hraises := h.raises hx
    rwa [hend] at hraises
  · intro id prepared z shown hprepare hperform hfailure haddress
    have hreleased := (fulfil_fulfilling x o).streamReleased hx
    obtain ⟨raised, j', hraise, hwrapped, _⟩ :=
      raiseClassified_eq (α := Response) hfailure o.address
    obtain ⟨e, he, hid⟩ := hwrapped shown haddress
    have hfulfil : x.fulfil o = (.error raised, { z with journal := j' }) := by
      rw [fulfil_of_prepared hprepare]
      simp only [performClassified, hperform, hfailure, if_true, hraise]
    rw [hfulfil] at hreleased hend
    rw [settle_of_error hreleased] at hend
    obtain ⟨rfl, rfl⟩ := Prod.mk.inj hend
    exact ⟨raised, e, rfl, he, hid⟩

/-- The connection is reset by the peer. -/
def resetting : Script := ⟨.refusal 0, [], .plain⟩

def resetJournal : Journal := ⟨[⟨.fault ⟨.system .connectionReset, "reset"⟩, none, none⟩], []⟩

theorem orders_raise_classified_unless_leaking_of_resetting :
    ∃ x, start hubOrder.proposal (.start true resetting []) resetJournal false = .ok x ∧
      Leaks x hubOrder := by
  obtain ⟨x, id, y, hstart, hsend, hraw⟩ := exists_of_failed_send (o := hubOrder)
    (n := .start true resetting []) (j := resetJournal) (u := false)
    (q := fun id y ↦ (y.journal.failures.classified? id).isNone) (by decide +kernel)
  obtain ⟨outcome, z, hsend', hleaks, _⟩ := orders_raise_classified_unless_leaking hstart
  obtain ⟨rfl, rfl⟩ := Prod.mk.inj (Except.ok.inj (hsend.symm.trans hsend'))
  exact ⟨x, hstart, hleaks.mp ⟨id, rfl, by simpa using hraw⟩⟩

/-- A connection that is reset while the request is sent leaves an order as it is. -/
theorem reset_connection_left_unclassified :
    ∃ id y, hubOrder.send (.start true resetting []) resetJournal false = .ok (.error id, y) ∧
      y.journal.failures.class? id = some (.system .connectionReset) ∧
      y.journal.failures.classified? id = none := by
  obtain ⟨_, id, y, _, hsend, hraw⟩ := exists_of_failed_send (o := hubOrder)
    (n := .start true resetting []) (j := resetJournal) (u := false)
    (q := fun id y ↦ decide (y.journal.failures.class? id = some (.system .connectionReset)) &&
      (y.journal.failures.classified? id).isNone) (by decide +kernel)
  simp only [Bool.and_eq_true, decide_eq_true_eq, Option.isNone_iff_eq_none] at hraw
  exact ⟨id, y, hsend, hraw.1, hraw.2⟩

end Exchange

end SecureExchange
