import SecureExchange.Proofs.Exchange.SingleRequest
import SecureExchange.Proofs.Exchange.Staging

/-!
# What operations leave alone

What a request is made from changes by a setter that succeeds as long as the exchange is configured,
and each setter changes its own part only (`Transition.staging`, `Transition.sets`). After that
the setters and connecting are refused, and a timeout is checked and then ignored: nothing but the
journal changes (`unalterable_of_ne`).
-/

namespace SecureExchange

open Failure

def Operation.isSetter : Operation → Bool
  | .setVerb _ | .setField _ _ | .setReadTimeout _ | .writeBody _ | .setTlsContext _ => true
  | _ => false

/-- Numbers that are taken for a timeout: they are not negative, and not too large. What is no
number at all is not negative either. -/
def Number.IsTimeout : Number → Prop
  | .whole i => 0 ≤ i ∧ (Binary64.ofInt? i).isSome = true
  | .binary x => x.isNegative = false

theorem readTimeoutOf_eq_ok_iff (given : Number) :
    (∃ seconds, readTimeoutOf given = .ok seconds) ↔ given.IsTimeout := by
  cases given with
  | whole i =>
      by_cases hi : i < 0
      · have hi' : ¬ 0 ≤ i := by omega
        simp [readTimeoutOf, Number.IsTimeout, hi, hi']
      · have hi' : 0 ≤ i := by omega
        cases hx : Binary64.ofInt? i <;> simp [readTimeoutOf, Number.IsTimeout, hi, hi', hx]
  | binary x => cases hx : x.isNegative <;> simp [readTimeoutOf, Number.IsTimeout, hx]

theorem Fields.readingCharset_settled (h : Fields) :
    h.settled.readingCharset = h.readingCharset := by
  unfold settled
  split
  · rfl
  · simp [readingCharset]

theorem Fields.texts_settled (h : Fields) : h.settled.texts = h.texts := by
  rw [texts, texts, readingCharset_settled, entries_settled]

namespace Exchange

variable {x y : Exchange} {o : Operation} {r : Outcome Yield}

/-- Nothing that a request is made from has changed, and its fields read as before. -/
structure KeepsRequest (x y : Exchange) : Prop extends KeepsStaging x y where
  entries : y.fields.entries = x.fields.entries
  texts : y.fields.texts = x.fields.texts

theorem KeepsStaging.keepsRequest (h : KeepsStaging x y) : KeepsRequest x y where
  toKeepsStaging := h
  entries := h.entries
  texts := by
    rcases h.fields with hsame | hsettled
    · rw [hsame]
    · rw [hsettled, Fields.texts_settled]

/-- Only what the setter is for has been set. Another context comes with another handle. -/
inductive Sets (x : Exchange) : Operation → Exchange → Prop
  | verb {given : Datum} {verb : Verb} (hverb : Verb.ofDatum? given = some verb) :
      Sets x (.setVerb given) { x with verb := verb }
  | field {name value : String} {fields : Fields} (hset : x.fields.set name value = .ok fields) :
      Sets x (.setField name value) { x with fields := fields }
  | readTimeout {given : Number} {seconds : Binary64} (hgiven : readTimeoutOf given = .ok seconds) :
      Sets x (.setReadTimeout given) { x with readTimeout := seconds }
  | body (body : Octets) : Sets x (.writeBody body) { x with body := body }
  | tlsContext {context : String} {n : Network}
      (hopen : x.network.closeHandle.openHandle (some context) = (.ok (), n)) :
      Sets x (.setTlsContext (some context)) { x with tlsContext := some context, network := n }

/-- A setter of a configured exchange, and it succeeds. -/
structure Accepts (x : Exchange) (o : Operation) : Prop where
  phase : x.phase = .configured
  isSetter : o.isSetter = true
  succeeds : (x.step o).1 = .ok .nothing

theorem Sets.isSetter (h : Sets x o y) : o.isSetter = true := by
  cases h <;> rfl

/-- No setter but that of the context changes anything when it fails, and the context is no part of
the request. -/
theorem Transition.staging (h : Transition x o r y) :
    KeepsStaging x y ∨ x.phase = .configured ∧ r = .ok .nothing ∧ Sets x o y := by
  cases h with
  | verbSet hphase hverb => exact .inr ⟨hphase, rfl, .verb hverb⟩
  | fieldSet hphase hset => exact .inr ⟨hphase, rfl, .field hset⟩
  | timeoutSet hphase hgiven => exact .inr ⟨hphase, rfl, .readTimeout hgiven⟩
  | bodySet body hphase => exact .inr ⟨hphase, rfl, .body body⟩
  | reopened hphase _ hopen => exact .inr ⟨hphase, rfl, .tlsContext hopen⟩
  | connecting _ h => exact .inl h.retains.toKeepsStaging
  | bodyRead _ _ _ h => exact .inl h.retains.toKeepsStaging
  | errorRead _ _ _ h => exact .inl h.retains.toKeepsStaging
  | closing h => exact .inl h.retains.toKeepsStaging
  | fieldsListed => exact .inl ⟨rfl, rfl, rfl, rfl, .inr rfl⟩
  | listingFailed => exact .inl ⟨rfl, rfl, rfl, rfl, .inr rfl⟩
  | _ => exact .inl ⟨rfl, rfl, rfl, rfl, .inl rfl⟩

theorem Transition.keepsRequest (h : Transition x o r y)
    (hfails : ¬ (x.phase = .configured ∧ o.isSetter = true ∧ r = .ok .nothing)) :
    KeepsRequest x y := by
  rcases h.staging with hkeeps | ⟨hphase, hr, hsets⟩
  · exact hkeeps.keepsRequest
  · exact absurd ⟨hphase, hsets.isSetter, hr⟩ hfails

/-- A body is never staged with a verb that forbids it, so to write nothing then stages nothing. -/
theorem Transition.sets (h : Transition x o r y) (hbody : x.BodyAllowed)
    (hphase : x.phase = .configured) (hsetter : o.isSetter = true) (hr : r = .ok .nothing) :
    Sets x o y := by
  cases h with
  | verbSet _ hverb => exact .verb hverb
  | fieldSet _ hset => exact .field hset
  | timeoutSet _ hgiven => exact .readTimeout hgiven
  | timeoutIgnored _ hlate => exact absurd hphase hlate
  | bodySet body => exact .body body
  | nothingWritten _ hverb =>
      have hnone : x.body = [] := hbody.resolve_right (by simp [hverb])
      have hsame : x = { x with body := [] } := by rw [← hnone]
      exact hsame ▸ Sets.body (x := x) []
  | reopened _ _ hopen => exact .tlsContext hopen
  | failed => simp at hr
  | reopeningFailed => simp at hr
  | observed hobserves =>
      cases o <;> simp [Operation.observes, Operation.isSetter] at hobserves hsetter
  | _ => simp [Operation.isSetter] at hsetter

/-! ### After the request was sent -/

/-- The operation is refused as one in a wrong state, and nothing but the journal has changed. -/
def RefusesLate (x : Exchange) (o : Operation) : Prop :=
  ∃ id j e, x.step o = (.error id, { x with journal := j }) ∧
    j.failures.classified? id = some e ∧ e.cls = .invalidState

/-- Whatever is tried to change the request, nothing but the journal changes. -/
structure Unalterable (x : Exchange) : Prop where
  verb : ∀ given, x.RefusesLate (.setVerb given)
  field : ∀ name value, x.RefusesLate (.setField name value)
  body : ∀ body, x.RefusesLate (.writeBody body)
  connect : x.RefusesLate .connect
  tlsContext : ∀ context, x.RefusesLate (.setTlsContext (some context))
  readTimeout : ∀ given, ∃ outcome j,
    x.step (.setReadTimeout given) = (outcome, { x with journal := j }) ∧
      (given.IsTimeout → outcome = .ok .nothing)

theorem refusesLate_of_whileConfigured {α : Type} {f : α → Yield} {operation : String}
    {go : Exchange → Outcome α × Exchange} (hphase : x.phase ≠ .configured)
    (hstep : x.step o = yielding f (x.whileConfigured operation go)) : x.RefusesLate o := by
  obtain ⟨id, j, e, hrefused, herror, hcls⟩ := whileConfigured_refused hphase operation go
  refine ⟨id, j, e, ?_, herror, hcls⟩
  rw [hstep, hrefused]
  rfl

theorem setReadTimeout_of_ne (hphase : x.phase ≠ .configured) (given : Number) :
    ∃ outcome j, x.step (.setReadTimeout given) = (outcome, { x with journal := j }) ∧
      (given.IsTimeout → outcome = .ok .nothing) := by
  cases hgiven : readTimeoutOf given with
  | error f =>
      refine ⟨_, _, by rw [step, setReadTimeout, hgiven]; rfl, fun htimeout ↦ ?_⟩
      obtain ⟨seconds, hok⟩ := (readTimeoutOf_eq_ok_iff given).mpr htimeout
      simp [hok] at hgiven
  | ok seconds =>
      have hstep : x.step (.setReadTimeout given) = (.ok .nothing,
          x.log .debug "devicelink.https.read_timeout_ignored"
            [("state", .text x.phase.name), ("read_timeout", .float seconds)]) := by
        simp [step, setReadTimeout, hgiven, hphase, yielding, Except.map]
      exact ⟨_, _, hstep, fun _ ↦ rfl⟩

theorem unalterable_of_ne (hphase : x.phase ≠ .configured) : x.Unalterable where
  verb _ := refusesLate_of_whileConfigured hphase rfl
  field _ _ := refusesLate_of_whileConfigured hphase rfl
  body _ := refusesLate_of_whileConfigured hphase rfl
  connect := refusesLate_of_whileConfigured hphase rfl
  tlsContext _ := refusesLate_of_whileConfigured hphase rfl
  readTimeout := setReadTimeout_of_ne hphase

/-! ### Every run -/

/-- After every run, target, verb, fields, body and timeout change only by a setter that succeeds
while the exchange is configured, and each setter changes its own part only. Once the exchange is
not configured any more, setters and connecting are refused as operations in a wrong state, and a
timeout is ignored; none of them changes anything but the journal. -/
theorem request_changed_by_accepted_setters_only {p : Proposal} {custom : Bool} {script : Script}
    {openings : List (Option FailureId)} {j : Journal} {unredacted : Bool}
    (hstart : start p (.start custom script openings) j unredacted = .ok x)
    (os : List Operation) :
    (∀ o, ¬ (x.run os).Accepts o → KeepsRequest (x.run os) ((x.run os).step o).2) ∧
    (∀ o, (x.run os).Accepts o → Sets (x.run os) o ((x.run os).step o).2) ∧
    ((x.run os).phase ≠ .configured → (x.run os).Unalterable) := by
  have hstarted := start_started hstart
  have hfresh := run_fresh hstarted.fresh os
  have hbody : (x.run os).BodyAllowed :=
    run_induction (fun _ hx h ↦ h.bodyAllowed hx) hstarted.fresh hstarted.bodyAllowed os
  refine ⟨?_, ?_, unalterable_of_ne⟩
  · intro o hrejects
    apply (step_transition hfresh o).keepsRequest
    rintro ⟨hphase, hsetter, hok⟩
    exact hrejects ⟨hphase, hsetter, hok⟩
  · intro o haccepts
    exact (step_transition hfresh o).sets hbody haccepts.phase haccepts.isSetter haccepts.succeeds

/-- A body is staged, and can no longer be replaced once the request was sent. -/
theorem request_changed_by_accepted_setters_only_of_sent :
    ∃ x, start hubMessage (.start true accepting []) ⟨[], []⟩ false = .ok x ∧
      x.Accepts (.writeBody [0x31]) ∧
      Sets x (.writeBody [0x31]) (x.step (.writeBody [0x31])).2 ∧
      (x.run [.writeBody [0x31], .connect]).phase = .connected ∧
      KeepsRequest (x.run [.writeBody [0x31], .connect])
        ((x.run [.writeBody [0x31], .connect]).step (.writeBody [0x32])).2 ∧
      (x.run [.writeBody [0x31], .connect]).Unalterable := by
  obtain ⟨x, hstart, hx⟩ := exists_of_any_start (p := hubMessage)
    (n := .start true accepting []) (j := ⟨[], []⟩) (u := false)
    (q := fun x ↦ x.verb.allowsBody &&
      decide ((x.run [.writeBody [0x31], .connect]).phase = .connected))
    (by decide +kernel)
  simp only [Bool.and_eq_true, decide_eq_true_eq] at hx
  obtain ⟨hverb, hsent⟩ := hx
  have hphase := (start_started hstart).phase
  have haccepts : x.Accepts (.writeBody [0x31]) :=
    ⟨hphase, rfl, by simp [step, writeBody, hphase, hverb, yielding, Except.map]⟩
  have hlate : (x.run [.writeBody [0x31], .connect]).phase ≠ .configured := by
    rw [hsent]
    simp
  obtain ⟨_, hsets, _⟩ := request_changed_by_accepted_setters_only hstart []
  obtain ⟨hkeeps, _, hunalterable⟩ :=
    request_changed_by_accepted_setters_only hstart [.writeBody [0x31], .connect]
  exact ⟨x, hstart, haccepts, hsets _ haccepts, hsent, hkeeps _ fun h ↦ hlate h.phase,
    hunalterable hlate⟩

end Exchange

end SecureExchange
