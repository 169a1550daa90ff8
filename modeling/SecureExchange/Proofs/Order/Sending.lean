import SecureExchange.Exchange.Order
import SecureExchange.Proofs.Exchange.FieldWrites
import SecureExchange.Proofs.Exchange.Opening
import SecureExchange.Proofs.Exchange.Release

/-!
# What sending an order does

`Preparing` and `Performing` name the ways in which the two halves of an order end: staging fields,
body and context, and then connecting and reading the reply. Whatever happens, the stream of the
reply has been released when the exchange is left (`fulfil_released`), so that closing it at the end
never fails and adds no failure of its own (`settle_of_released`).
-/

namespace SecureExchange

open Failure

theorem Fields.set_of_unsettled {h : Fields} (hcharset : h.charset = none)
    (name value : String) :
    ∃ fields, h.set name value = .ok fields ∧ fields.charset = none := by
  let f : Field := ⟨Text.Utf8.encode name.toList, Text.Utf8.encode value.toList⟩
  refine ⟨{ h with entries := putField f h.entries }, ?_, hcharset⟩
  simp only [set, hcharset, Option.getD_none, Text.Charset.encode_utf8, f]

/-- The response that a reply with the given content amounts to. -/
def Reply.toResponse (r : Reply) (content : Octets) : Response :=
  if r.isError then ⟨r.status, [], r.groupedFields, content⟩
  else ⟨r.status, content, r.groupedFields, []⟩

namespace Exchange

variable {x y z : Exchange} {o : Order} {p : Proposal} {n : Network}

/-! ### Preparing -/

/-- Until a character set has been settled, fields are written in UTF-8, and every text fits. -/
theorem setFields_eq {writes : List (String × String)} (hphase : x.phase = .configured)
    (hcharset : x.fields.charset = none) (hwrites : x.fields.HoldsWrites writes)
    (l : List (String × String)) :
    ∃ fields, fields.HoldsWrites (writes ++ l) ∧
      x.setFields l = (.ok (), { x with fields := fields }) := by
  induction l generalizing x writes with
  | nil => exact ⟨x.fields, by rwa [List.append_nil], rfl⟩
  | cons p rest ih =>
      obtain ⟨name, value⟩ := p
      obtain ⟨fields, hset, hnone⟩ := Fields.set_of_unsettled hcharset name value
      have hstep : x.setField name value = (.ok (), { x with fields := fields }) := by
        simp [setField, hphase, hset]
      obtain ⟨fields', hwrites', hrest⟩ :=
        ih (x := { x with fields := fields }) hphase hnone (hwrites.set hset)
      rw [List.append_assoc] at hwrites'
      refine ⟨fields', hwrites', ?_⟩
      rw [setFields, hstep]
      exact hrest

/-- The ways in which preparing an order ends. -/
inductive Preparing (x : Exchange) (o : Order) : Outcome Unit → Exchange → Prop
  | refused {id : FailureId} {j : Journal} {e : Classified} (fields : Fields) (body : Octets)
      (hrefused : ¬ (o.body = [] ∨ x.verb.allowsBody = true) ∨
        ∃ context, o.tlsContext = some context ∧ x.network.custom = true)
      (herror : j.failures.classified? id = some e) :
      Preparing x o (.error id) { x with fields := fields, body := body, journal := j }
  | staged {fields : Fields} (hfields : fields.HoldsWrites o.fields)
      (hcontext : o.tlsContext = none) :
      Preparing x o (.ok ()) { x with fields := fields, body := o.body }
  | reopened {context : String} {m : Network} {fields : Fields}
      (hfields : fields.HoldsWrites o.fields) (hcontext : o.tlsContext = some context)
      (hcustom : x.network.custom = false)
      (hopen : x.network.closeHandle.openHandle (some context) = (.ok (), m)) :
      Preparing x o (.ok ()) { x with
        fields := fields
        body := o.body
        tlsContext := some context
        network := m }
  | reopeningFailed {context : String} {raised : FailureId} {m : Network} (fields : Fields)
      (hcontext : o.tlsContext = some context) (hcustom : x.network.custom = false)
      (hbody : o.body = [] ∨ x.verb.allowsBody = true)
      (hopen : x.network.closeHandle.openHandle (some context) = (.error raised, m)) :
      Preparing x o (.error (recordOpenFailure x.target raised x.journal).1) { x with
        fields := fields
        body := o.body
        tlsContext := some context
        network := m
        journal := (recordOpenFailure x.target raised x.journal).2 }

/-- The body of an order is staged, unless the verb forbids it. -/
theorem writeBody_cases (hphase : x.phase = .configured) (hbody : x.body = []) (body : Octets) :
    (body = [] ∨ x.verb.allowsBody = true) ∧
        x.writeBody body = (.ok (), { x with body := body }) ∨
      ¬ (body = [] ∨ x.verb.allowsBody = true) ∧
        ∃ id j e, x.writeBody body = (.error id, { x with journal := j }) ∧
          j.failures.classified? id = some e := by
  rw [writeBody, whileConfigured_of_configured hphase]
  cases hverb : x.verb.allowsBody with
  | true => exact .inl ⟨.inr rfl, rfl⟩
  | false =>
      cases body with
      | nil => exact .inl ⟨.inl rfl, by simp [← hbody]⟩
      | cons b rest =>
          obtain ⟨id, j, e, hrefused, herror, _⟩ := x.refuse_classified (α := Unit) ..
          exact .inr ⟨by simp, id, j, e, hrefused, herror⟩

theorem setTlsContext_of_custom (hphase : x.phase = .configured)
    (hcustom : x.network.custom = true) (context : String) :
    ∃ id j e, x.setTlsContext (some context) = (.error id, { x with journal := j }) ∧
      j.failures.classified? id = some e := by
  obtain ⟨id, j, e, hrefused, herror, _⟩ := x.refuse_classified (α := Unit) ..
  rw [setTlsContext, whileConfigured_of_configured hphase, if_pos hcustom]
  exact ⟨id, j, e, hrefused, herror⟩

theorem prepare_preparing {outcome : Outcome Unit} (h : Started p n x)
    (hprepared : x.prepare o = (outcome, y)) : Preparing x o outcome y := by
  obtain ⟨rfl, rfl⟩ : (x.prepare o).1 = outcome ∧ (x.prepare o).2 = y := by simp [hprepared]
  obtain ⟨fields, hwrites, hfields⟩ := setFields_eq h.phase (by rw [h.fields]; rfl)
    (by rw [h.fields]; exact Fields.holdsWrites_empty) o.fields
  rcases writeBody_cases (x := { x with fields := fields }) h.phase h.body o.body with
    ⟨hbody, hwrite⟩ | ⟨hbody, id, j, e, hwrite, he⟩
  · let y : Exchange := { x with fields := fields, body := o.body }
    cases hcontext : o.tlsContext with
    | none =>
        have hprepare : x.prepare o = (.ok (), y) := by
          simp only [prepare, hfields, hwrite, hcontext, y]
        rw [hprepare]
        exact .staged hwrites hcontext
    | some context =>
        have hprepare : x.prepare o = y.setTlsContext (some context) := by
          simp only [prepare, hfields, hwrite, hcontext, y]
        rw [hprepare]
        cases hcustom : x.network.custom with
        | true =>
            obtain ⟨id, j, e, hrefuse, he⟩ :=
              setTlsContext_of_custom (x := y) h.phase hcustom context
            rw [hrefuse]
            exact .refused fields o.body (.inr ⟨context, hcontext, hcustom⟩) he
        | false =>
            rw [setTlsContext_of_configured (x := y) h.phase hcustom]
            rcases hopen : x.network.closeHandle.openHandle (some context) with ⟨raised | _, m⟩
            · have hreopen : y.reopen context = (.error (recordOpenFailure x.target raised
                  x.journal).1, { y with
                    tlsContext := some context
                    network := m
                    journal := (recordOpenFailure x.target raised x.journal).2 }) := by
                simp only [reopen, y, hopen]
              rw [hreopen]
              exact .reopeningFailed fields hcontext hcustom hbody hopen
            · have hreopen : y.reopen context
                  = (.ok (), { y with tlsContext := some context, network := m }) := by
                simp only [reopen, y, hopen]
              rw [hreopen]
              exact .reopened hwrites hcontext hcustom hopen
  · have hprepare : x.prepare o = (.error id, { x with fields := fields, journal := j }) := by
      simp only [prepare, hfields, hwrite]
    rw [hprepare]
    exact .refused fields x.body (.inl hbody) he

/-- What is prepared has neither sent nor received anything. -/
structure Prepared (x : Exchange) : Prop where
  phase : x.phase = .configured
  channel : x.channel = none
  isDrained : x.isDrained = false

theorem Preparing.prepared {outcome : Outcome Unit} (h : Preparing x o outcome y)
    (hx : Started p n x) : y.Prepared := by
  cases h <;> exact ⟨hx.phase, hx.channel, hx.isDrained⟩

theorem Prepared.fresh (h : x.Prepared) : x.Fresh := fun _ ↦ h.channel

/-! ### Performing -/

/-- The ways in which performing a prepared order ends: it is not connected, or the reply is read
to its end. -/
inductive Performing (x : Exchange) : Outcome Response → Exchange → Prop
  | notConnected {id : FailureId} {y : Exchange} (h : x.connect = (.error id, y)) :
      Performing x (.error id) y
  | answered {r : Reply} {outcome : Outcome Octets} {y z : Exchange}
      (hconnect : x.connect = (.ok (), y)) (hchannel : y.channel = some ⟨r, false⟩)
      (hdrained : y.isDrained = false) (h : y.drain ⟨r, false⟩ = (outcome, z)) :
      Performing x (outcome.map r.toResponse) z

/-- The content is read in the way that the status asks for. -/
theorem collect_eq {r : Reply} (hchannel : y.channel = some ⟨r, false⟩) :
    y.collect r.status r.groupedFields
      = ((y.drain ⟨r, false⟩).1.map r.toResponse, (y.drain ⟨r, false⟩).2) := by
  cases hstatus : r.isError with
  | true =>
      have hnot : ¬ r.status < Reply.errorStatus := by
        simpa [Reply.isError] using hstatus
      rw [collect, if_neg hnot, readErrorBody_of_error hchannel hstatus]
      rcases hdrain : y.drain ⟨r, false⟩ with ⟨id | content, z⟩ <;>
        simp [Except.map, Reply.toResponse, hstatus]
  | false =>
      have hlt : r.status < Reply.errorStatus := by
        simpa [Reply.isError] using hstatus
      rw [collect, if_pos hlt, readBody_of_plain hchannel hstatus]
      rcases hdrain : y.drain ⟨r, false⟩ with ⟨id | content, z⟩ <;>
        simp [Except.map, Reply.toResponse, hstatus]

theorem perform_of_drain {r : Reply} (hconnect : x.connect = (.ok (), y))
    (hchannel : y.channel = some ⟨r, false⟩) :
    x.perform = ((y.drain ⟨r, false⟩).1.map r.toResponse, (y.drain ⟨r, false⟩).2) := by
  have hstatus : y.status = (.ok r.status, y) := by
    simp [Exchange.status, withReply, hchannel]
  have hfields : y.replyFields = (.ok r.groupedFields, y) := by
    simp [replyFields, withReply, hchannel]
  simp only [perform, hconnect, hstatus, hfields, collect_eq hchannel]

theorem perform_performing {outcome : Outcome Response} (h : x.Prepared)
    (hperformed : x.perform = (outcome, z)) : Performing x outcome z := by
  obtain ⟨rfl, rfl⟩ : x.perform.1 = outcome ∧ x.perform.2 = z := by simp [hperformed]
  obtain ⟨outcome, y, hconnect⟩ : ∃ outcome y, x.connect = (outcome, y) := ⟨_, _, rfl⟩
  cases outcome with
  | error id =>
      have hperform : x.perform = (.error id, y) := by simp only [perform, hconnect]
      rw [hperform]
      exact .notConnected hconnect
  | ok a =>
      obtain ⟨r, hchannel, hdrained⟩ : ∃ r, y.channel = some ⟨r, false⟩ ∧ y.isDrained = false := by
        cases connect_connecting h.fresh h.phase hconnect with
        | connected => exact ⟨_, rfl, h.isDrained⟩
      rw [perform_of_drain hconnect hchannel]
      exact .answered hconnect hchannel hdrained rfl

theorem Performing.streamReleased {outcome : Outcome Response} (h : Performing x outcome z)
    (hx : x.Prepared) : z.StreamReleased := by
  cases h with
  | notConnected h =>
      have hchannel : z.channel = none := by
        cases connect_connecting hx.fresh hx.phase h <;> exact hx.channel
      intro c hc
      simp [hchannel] at hc
  | answered _ hchannel hdrained h =>
      have hdraining := drain_draining hchannel hdrained
      rw [h] at hdraining
      exact hdraining.streamReleased hchannel

/-! ### The whole order -/

/-- A failure of the client is classified, or the address cannot be shown. -/
theorem raiseClassified_eq {α : Type} {id : FailureId} (h : x.isHttpFailure id = true)
    (address : String) :
    ∃ raised j, x.raiseClassified (α := α) address id
        = (.error raised, { x with journal := j }) ∧
      (∀ shown, Redaction.addressText address = .ok shown →
        ∃ e, j.failures.classified? raised = some e ∧ e.wrapped = some id) ∧
      ∀ e, Redaction.addressText address = .error e →
        j.failures.fault? raised = some e.toFault := by
  obtain ⟨f, hf⟩ : ∃ f, x.journal.failures.fault? id = some f := by
    cases hclass : x.journal.failures.class? id with
    | none => simp [isHttpFailure, hclass] at h
    | some c =>
        obtain ⟨f, hf, _⟩ := Graph.fault?_of_class? hclass
        exact ⟨f, hf⟩
  obtain ⟨e, hclassify, hwrapped, _⟩ := Graph.classify_of_fault hf (some id)
  cases hshown : Redaction.addressText address with
  | error fault =>
      refine ⟨_, _, by simp only [raiseClassified, hclassify, hshown]; rfl, by simp, ?_⟩
      rintro _ ⟨⟩
      exact Graph.fault?_record _ _ _
  | ok shown =>
      refine ⟨_, _, by simp only [raiseClassified, hclassify, hshown]; rfl, ?_, by simp⟩
      rintro _ ⟨⟩
      refine ⟨e, ?_, hwrapped⟩
      simp [Graph.classified?, Failure.classified?]

/-- The ways in which an order within a started exchange ends. -/
inductive Fulfilling (x : Exchange) (o : Order) : Outcome Response → Exchange → Prop
  | notPrepared {id : FailureId} {y : Exchange} (hprepare : x.prepare o = (.error id, y)) :
      Fulfilling x o (.error id) y
  | performed {outcome : Outcome Response} {y z : Exchange}
      (hprepare : x.prepare o = (.ok (), y)) (hperform : y.perform = (outcome, z))
      (hother : ∀ id, outcome = .error id → z.isHttpFailure id = false) :
      Fulfilling x o outcome z
  | classified {id raised : FailureId} {y z : Exchange} {j : Journal}
      (hprepare : x.prepare o = (.ok (), y)) (hperform : y.perform = (.error id, z))
      (hfailure : z.isHttpFailure id = true)
      (hshown : ∀ shown, Redaction.addressText o.address = .ok shown →
        ∃ e, j.failures.classified? raised = some e ∧ e.wrapped = some id)
      (hunshown : ∀ e, Redaction.addressText o.address = .error e →
        j.failures.fault? raised = some e.toFault) :
      Fulfilling x o (.error raised) { z with journal := j }

theorem fulfil_fulfilling (x : Exchange) (o : Order) :
    Fulfilling x o (x.fulfil o).1 (x.fulfil o).2 := by
  obtain ⟨prepared, y, hprepare⟩ : ∃ outcome y, x.prepare o = (outcome, y) := ⟨_, _, rfl⟩
  cases prepared with
  | error id =>
      have hfulfil : x.fulfil o = (.error id, y) := by simp only [fulfil, hprepare]
      rw [hfulfil]
      exact .notPrepared hprepare
  | ok a =>
      have hfulfil : x.fulfil o = y.performClassified o.address := by
        simp only [fulfil, hprepare]
      rw [hfulfil]
      obtain ⟨outcome, z, hperform⟩ : ∃ outcome z, y.perform = (outcome, z) := ⟨_, _, rfl⟩
      cases outcome with
      | ok r =>
          simp only [performClassified, hperform]
          exact .performed hprepare hperform (by simp)
      | error id =>
          simp only [performClassified, hperform]
          cases hfailure : z.isHttpFailure id with
          | false => exact .performed hprepare hperform (by simpa using hfailure)
          | true =>
              obtain ⟨raised, j, hraise, hshown, hunshown⟩ :=
                raiseClassified_eq (α := Response) hfailure o.address
              rw [if_pos rfl, hraise]
              exact .classified hprepare hperform hfailure hshown hunshown

theorem released_of_prepared (h : x.Prepared) : x.StreamReleased := by
  intro c hc
  exact absurd (h.channel.symm.trans hc) (by simp)

/-- Whatever an order comes to, no stream is left open. -/
theorem Fulfilling.streamReleased {outcome : Outcome Response} (h : Fulfilling x o outcome z)
    (hx : Started p n x) : z.StreamReleased := by
  have hperformed : ∀ {y z outcome}, x.prepare o = (.ok (), y) → y.perform = (outcome, z) →
      z.StreamReleased := by
    intro y z outcome hprepare hperform
    have hy : y.Prepared := (prepare_preparing hx hprepare).prepared hx
    exact (perform_performing hy hperform).streamReleased hy
  cases h with
  | notPrepared hprepare =>
      exact released_of_prepared ((prepare_preparing hx hprepare).prepared hx)
  | performed hprepare hperform => exact hperformed hprepare hperform
  | classified hprepare hperform =>
      intro c hc
      exact hperformed hprepare hperform c hc

/-! ### The end of an order -/

/-- An exchange with its handle closed. -/
def ended (x : Exchange) : Exchange :=
  { x with network := x.network.closeHandle, phase := .closed }

theorem settle_of_error (h : z.StreamReleased) (address : String) (id : FailureId) :
    settle address (.error id, z) = (.error id, z.ended) := by
  simp only [settle, closeDuring_of_released h]
  rfl

theorem settle_of_shown {address shown : String} (h : z.StreamReleased)
    (hshown : Redaction.addressText address = .ok shown) (r : Response) :
    settle address (.ok r, z) = (.ok r, z.ended.logOrder .debug "devicelink.https.send"
      [("method", .text z.verb.token), ("url", .text shown), ("status", .int r.status)]) := by
  simp only [settle, closeDuring_of_released h, hshown]
  rfl

theorem settle_of_unshown {address : String} {e : Address.Reference.Fault}
    (h : z.StreamReleased) (hshown : Redaction.addressText address = .error e) (r : Response) :
    settle address (.ok r, z) = z.ended.raiseFault e.toFault := by
  simp only [settle, closeDuring_of_released h, hshown]
  rfl

/-- An order ends with its handle closed. -/
theorem settle_eq_ended (h : z.StreamReleased) (address : String) (outcome : Outcome Response) :
    ∃ j, (settle address (outcome, z)).2 = { z.ended with journal := j } := by
  cases outcome with
  | error id =>
      rw [settle_of_error h]
      exact ⟨z.journal, rfl⟩
  | ok r =>
      cases hshown : Redaction.addressText address with
      | error e =>
          rw [settle_of_unshown h hshown]
          exact ⟨_, rfl⟩
      | ok shown =>
          rw [settle_of_shown h hshown]
          exact ⟨_, rfl⟩

theorem send_of_start {j : Journal} {unredacted : Bool}
    (h : start o.proposal n j unredacted = .ok x) :
    o.send n j unredacted = .ok (settle o.address (x.fulfil o)) := by
  simp only [Order.send, h]

/-- A check of the target that is named finds the target. -/
theorem exists_of_any_target {d : Datum} {q : Address.Target → Bool}
    (h : (targetOf d).toOption.any q = true) : ∃ t, targetOf d = .ok t ∧ q t = true := by
  cases htarget : targetOf d with
  | error f => simp [htarget, Except.toOption] at h
  | ok t => exact ⟨t, rfl, by simpa [htarget, Except.toOption] using h⟩

/-- A check that finds an order to fail finds the failure. -/
theorem exists_of_failed_send {n : Network} {j : Journal} {u : Bool}
    {q : FailureId → Exchange → Bool}
    (h : (match o.send n j u with
      | .ok (.error id, y) => q id y
      | _ => false) = true) :
    ∃ x id y, start o.proposal n j u = .ok x ∧ o.send n j u = .ok (.error id, y) ∧
      q id y = true := by
  cases hstart : start o.proposal n j u with
  | error r => simp [Order.send, hstart] at h
  | ok x =>
      rw [send_of_start hstart] at h ⊢
      rcases hend : settle o.address (x.fulfil o) with ⟨id | r, y⟩
      · exact ⟨x, id, y, rfl, rfl, by simpa [hend] using h⟩
      · simp [hend] at h

/-- A check that finds an order to be answered finds the response. -/
theorem exists_of_answered_send {n : Network} {j : Journal} {u : Bool}
    {q : Response → Exchange → Bool}
    (h : (match o.send n j u with
      | .ok (.ok response, y) => q response y
      | _ => false) = true) :
    ∃ response y, o.send n j u = .ok (.ok response, y) ∧ q response y = true := by
  split at h
  · next response y hsend => exact ⟨response, y, hsend, h⟩
  · simp at h

/-- A message to a hub, sent as a whole. -/
def hubOrder : Order := ⟨hubMessage, "https://hub/messages", [], [], none⟩

end Exchange

end SecureExchange
