import SecureExchange.Exchange.Step
import SecureExchange.Proofs.Exchange.Connecting

/-!
# Operations as transitions

`Transition x o r y` says that the operation `o` on the exchange `x` answers `r` and leaves `y`, and
under which conditions. Every step is a transition (`step_transition`), so that an invariant needs
one look at each constructor, and `run_induction` lifts it to runs of any length.
-/

namespace SecureExchange

open Failure

namespace Network

@[simp] theorem custom_closeHandle (n : Network) : n.closeHandle.custom = n.custom := by
  unfold closeHandle
  split <;> rfl

@[simp] theorem client_closeHandle (n : Network) :
    n.closeHandle.script.client = n.script.client := by
  unfold closeHandle
  split <;> rfl

theorem handles_closeHandle_of_cons {n : Network} {h : Handle} {rest : List Handle}
    (hn : n.handles = h :: rest) : n.closeHandle.handles = h.close :: rest := by
  simp [closeHandle, hn]

@[simp] theorem sent_openHandle (n : Network) (context : Option String) :
    (n.openHandle context).2.sent = n.sent := by
  unfold openHandle
  split
  · rfl
  · dsimp only
    split <;> rfl

@[simp] theorem custom_openHandle (n : Network) (context : Option String) :
    (n.openHandle context).2.custom = n.custom := by
  unfold openHandle
  split
  · rfl
  · dsimp only
    split <;> rfl

@[simp] theorem client_openHandle (n : Network) (context : Option String) :
    (n.openHandle context).2.script.client = n.script.client := by
  unfold openHandle
  split
  · rfl
  · dsimp only
    split <;> rfl

end Network

/-- Operations that leave an exchange as it is when they succeed. -/
def Operation.observes : Operation → Bool
  | .readErrorBody | .status | .replyFields | .address => true
  | _ => false

namespace Exchange

inductive Transition (x : Exchange) : Operation → Outcome Yield → Exchange → Prop
  | failed {o : Operation} {id : FailureId} {j : Journal}
      (hstep : x.step o = (.error id, { x with journal := j }))
      (hconnect : x.phase = .configured → o ≠ .connect) :
      Transition x o (.error id) { x with journal := j }
  | observed {o : Operation} {y : Yield} (hobserves : o.observes = true)
      (hstep : x.step o = (.ok y, x)) : Transition x o (.ok y) x
  | verbSet {given : Datum} {verb : Verb} (hphase : x.phase = .configured)
      (hverb : Verb.ofDatum? given = some verb) (hbody : x.body = [] ∨ verb.allowsBody = true) :
      Transition x (.setVerb given) (.ok .nothing) { x with verb := verb }
  | fieldSet {name value : String} {fields : Fields} (hphase : x.phase = .configured)
      (hset : x.fields.set name value = .ok fields) :
      Transition x (.setField name value) (.ok .nothing) { x with fields := fields }
  | timeoutSet {given : Number} {seconds : Binary64} (hphase : x.phase = .configured)
      (hgiven : readTimeoutOf given = .ok seconds) :
      Transition x (.setReadTimeout given) (.ok .nothing) { x with readTimeout := seconds }
  | timeoutIgnored {given : Number} {seconds : Binary64} (j : Journal)
      (hphase : x.phase ≠ .configured) (hgiven : readTimeoutOf given = .ok seconds) :
      Transition x (.setReadTimeout given) (.ok .nothing) { x with journal := j }
  | bodySet (body : Octets) (hphase : x.phase = .configured) (hverb : x.verb.allowsBody = true) :
      Transition x (.writeBody body) (.ok .nothing) { x with body := body }
  | nothingWritten (hphase : x.phase = .configured) (hverb : x.verb.allowsBody = false) :
      Transition x (.writeBody []) (.ok .nothing) x
  | reopened {context : String} {n : Network} (hphase : x.phase = .configured)
      (hcustom : x.network.custom = false)
      (hopen : x.network.closeHandle.openHandle (some context) = (.ok (), n)) :
      Transition x (.setTlsContext (some context)) (.ok .nothing)
        { x with tlsContext := some context, network := n }
  | reopeningFailed {context : String} {raised id : FailureId} {n : Network} {j : Journal}
      (hphase : x.phase = .configured) (hcustom : x.network.custom = false)
      (hopen : x.network.closeHandle.openHandle (some context) = (.error raised, n)) :
      Transition x (.setTlsContext (some context)) (.error id)
        { x with tlsContext := some context, network := n, journal := j }
  | connecting {r : Outcome Unit} {y : Exchange} (hphase : x.phase = .configured)
      (h : Connecting x r y) : Transition x .connect (r.map fun _ ↦ .nothing) y
  | bodyRead {c : Channel} {r : Outcome Octets} {y : Exchange} (hchannel : x.channel = some c)
      (hstatus : c.reply.isError = false) (hdrained : x.isDrained = false)
      (h : Draining x c r y) : Transition x .readBody (r.map .octets) y
  | errorRead {c : Channel} {r : Outcome Octets} {y : Exchange} (hchannel : x.channel = some c)
      (hstatus : c.reply.isError = true) (hdrained : x.isDrained = false)
      (h : Draining x c r y) : Transition x .readErrorBody (r.map .octets) y
  | closing {r : Outcome Unit} {y : Exchange} (h : Closing x r y) :
      Transition x .close (r.map fun _ ↦ .nothing) y
  | fieldsListed (y : Yield) :
      Transition x .requestFields (.ok y) { x with fields := x.fields.settled }
  | listingFailed (id : FailureId) (j : Journal) :
      Transition x .requestFields (.error id)
        { x with fields := x.fields.settled, journal := j }

variable {x y : Exchange} {o : Operation} {r : Outcome Yield}

/-- A failure of any operation but a connect of a configured exchange is a transition. -/
theorem transition_of_onlyFails (h : OnlyFails x (x.step o))
    (hconnect : x.phase = .configured → o ≠ .connect) :
    Transition x o (x.step o).1 (x.step o).2 := by
  obtain ⟨id, j, hstep⟩ := h
  rw [hstep]
  exact .failed hstep hconnect

theorem onlyFails_yielding {α : Type} {f : α → Yield} {r : Outcome α × Exchange}
    (h : OnlyFails x r) : OnlyFails x (yielding f r) := by
  obtain ⟨id, j, rfl⟩ := h
  exact ⟨id, j, rfl⟩

theorem setVerb_transition (given : Datum) :
    Transition x (.setVerb given) (x.step (.setVerb given)).1 (x.step (.setVerb given)).2 := by
  by_cases hphase : x.phase = .configured
  · have hstep : x.step (.setVerb given) = yielding (fun _ ↦ .nothing)
        (setVerbConfigured given x) := by
      simp [step, setVerb, hphase]
    cases hverb : Verb.ofDatum? given with
    | none =>
        refine transition_of_onlyFails ?_ (by simp)
        rw [hstep]
        apply onlyFails_yielding
        simp only [setVerbConfigured, hverb]
        exact ⟨_, _, rfl⟩
    | some verb =>
        by_cases hbody : x.body = [] ∨ verb.allowsBody = true
        · have hok : setVerbConfigured given x = (.ok (), { x with verb := verb }) := by
            rcases hbody with h | h <;> simp [setVerbConfigured, hverb, h]
          rw [hstep, hok]
          exact .verbSet hphase hverb hbody
        · refine transition_of_onlyFails ?_ (by simp)
          rw [hstep]
          apply onlyFails_yielding
          have hstaged : x.body ≠ [] := fun h ↦ hbody (.inl h)
          have hrefused : verb.allowsBody = false := by
            simpa using fun h ↦ hbody (.inr h)
          simp only [setVerbConfigured, hverb]
          rw [if_pos (by simp [hstaged, hrefused])]
          exact x.refuse_onlyFails ..
  · refine transition_of_onlyFails ?_ (by simp)
    exact onlyFails_yielding (whileConfigured_onlyFails hphase _ _)

theorem setField_transition (name value : String) :
    Transition x (.setField name value) (x.step (.setField name value)).1
      (x.step (.setField name value)).2 := by
  by_cases hphase : x.phase = .configured
  · cases hset : x.fields.set name value with
    | error e =>
        refine transition_of_onlyFails ?_ (by simp)
        apply onlyFails_yielding
        simp only [setField, whileConfigured_of_configured hphase, hset]
        exact x.raiseFault_onlyFails _
    | ok fields =>
        have hstep : x.step (.setField name value)
            = (.ok .nothing, { x with fields := fields }) := by
          simp [step, setField, hphase, hset, yielding, Except.map]
        rw [hstep]
        exact .fieldSet hphase hset
  · refine transition_of_onlyFails ?_ (by simp)
    exact onlyFails_yielding (whileConfigured_onlyFails hphase _ _)

theorem setReadTimeout_transition (given : Number) :
    Transition x (.setReadTimeout given) (x.step (.setReadTimeout given)).1
      (x.step (.setReadTimeout given)).2 := by
  cases hgiven : readTimeoutOf given with
  | error f =>
      refine transition_of_onlyFails ?_ (by simp)
      apply onlyFails_yielding
      simp only [setReadTimeout, hgiven]
      exact x.raise_onlyFails ..
  | ok seconds =>
      by_cases hphase : x.phase = .configured
      · have hstep : x.step (.setReadTimeout given)
            = (.ok .nothing, { x with readTimeout := seconds }) := by
          simp [step, setReadTimeout, hgiven, hphase, yielding, Except.map]
        rw [hstep]
        exact .timeoutSet hphase hgiven
      · have hstep : x.step (.setReadTimeout given) = (.ok .nothing,
            x.log .debug "devicelink.https.read_timeout_ignored"
              [("state", .text x.phase.name), ("read_timeout", .float seconds)]) := by
          simp [step, setReadTimeout, hgiven, hphase, yielding, Except.map]
        rw [hstep]
        exact .timeoutIgnored _ hphase hgiven

theorem writeBody_transition (body : Octets) :
    Transition x (.writeBody body) (x.step (.writeBody body)).1 (x.step (.writeBody body)).2 := by
  by_cases hphase : x.phase = .configured
  · cases hverb : x.verb.allowsBody with
    | true =>
        have hstep : x.step (.writeBody body) = (.ok .nothing, { x with body := body }) := by
          simp [step, writeBody, hphase, hverb, yielding, Except.map]
        rw [hstep]
        exact .bodySet body hphase hverb
    | false =>
        cases body with
        | nil =>
            have hstep : x.step (.writeBody []) = (.ok .nothing, x) := by
              simp [step, writeBody, hphase, hverb, yielding, Except.map]
            rw [hstep]
            exact .nothingWritten hphase hverb
        | cons b rest =>
            refine transition_of_onlyFails ?_ (by simp)
            apply onlyFails_yielding
            rw [writeBody, whileConfigured_of_configured hphase, hverb]
            exact x.refuse_onlyFails ..
  · refine transition_of_onlyFails ?_ (by simp)
    exact onlyFails_yielding (whileConfigured_onlyFails hphase _ _)

theorem setTlsContext_of_configured (hphase : x.phase = .configured)
    (hcustom : x.network.custom = false) (context : String) :
    x.setTlsContext (some context) = x.reopen context := by
  rw [setTlsContext, whileConfigured_of_configured hphase, hcustom]
  rfl

theorem setTlsContext_transition (context : Option String) :
    Transition x (.setTlsContext context) (x.step (.setTlsContext context)).1
      (x.step (.setTlsContext context)).2 := by
  cases context with
  | none => exact transition_of_onlyFails (onlyFails_yielding (x.refuse_onlyFails ..)) (by simp)
  | some context =>
      by_cases hphase : x.phase = .configured
      · cases hcustom : x.network.custom with
        | true =>
            refine transition_of_onlyFails ?_ (by simp)
            apply onlyFails_yielding
            rw [setTlsContext, whileConfigured_of_configured hphase, if_pos hcustom]
            exact x.refuse_onlyFails ..
        | false =>
            rw [step, setTlsContext_of_configured hphase hcustom]
            rcases hopen : x.network.closeHandle.openHandle (some context) with ⟨raised | _, n⟩
            · simp only [reopen, hopen]
              exact .reopeningFailed hphase hcustom hopen
            · simp only [reopen, hopen]
              exact .reopened hphase hcustom hopen
      · refine transition_of_onlyFails ?_ (by simp)
        apply onlyFails_yielding
        rw [setTlsContext]
        exact whileConfigured_onlyFails hphase _ _

theorem withReply_onlyFails {α : Type} (h : x.channel = none)
    (go : Channel → Outcome α × Exchange) : OnlyFails x (x.withReply go) := by
  simp only [withReply, h]
  split <;> exact x.raiseFault_onlyFails _

theorem drain_of_drained (h : x.isDrained = true) (c : Channel) : OnlyFails x (x.drain c) := by
  rw [drain, if_pos h]
  exact x.raiseFault_onlyFails _

theorem refuseError_onlyFails {α : Type} (x : Exchange) (r : Reply) :
    OnlyFails x (x.refuseError (α := α) r) := by
  unfold refuseError
  split <;> exact x.raiseFault_onlyFails _

theorem readBody_of_error {c : Channel} (hc : x.channel = some c) (hs : c.reply.isError = true) :
    x.readBody = x.refuseError c.reply := by
  simp [readBody, withReply, hc, hs]

theorem readBody_of_plain {c : Channel} (hc : x.channel = some c) (hs : c.reply.isError = false) :
    x.readBody = x.drain c := by
  simp [readBody, withReply, hc, hs]

theorem readErrorBody_of_error {c : Channel} (hc : x.channel = some c)
    (hs : c.reply.isError = true) : x.readErrorBody = x.drain c := by
  simp [readErrorBody, hc, hs]

theorem readErrorBody_of_plain {c : Channel} (hc : x.channel = some c)
    (hs : c.reply.isError = false) : x.readErrorBody = (.ok [], x) := by
  simp [readErrorBody, hc, hs]

theorem readBody_transition :
    Transition x .readBody (x.step .readBody).1 (x.step .readBody).2 := by
  cases hchannel : x.channel with
  | none =>
      exact transition_of_onlyFails (onlyFails_yielding (withReply_onlyFails hchannel _)) (by simp)
  | some c =>
      cases hstatus : c.reply.isError with
      | true =>
          refine transition_of_onlyFails ?_ (by simp)
          apply onlyFails_yielding
          rw [readBody_of_error hchannel hstatus]
          exact x.refuseError_onlyFails _
      | false =>
          have hread := readBody_of_plain hchannel hstatus
          cases hdrained : x.isDrained with
          | true =>
              refine transition_of_onlyFails ?_ (by simp)
              apply onlyFails_yielding
              rw [hread]
              exact drain_of_drained hdrained c
          | false =>
              simp only [step, hread]
              exact .bodyRead hchannel hstatus hdrained (drain_draining hchannel hdrained)

theorem readErrorBody_transition :
    Transition x .readErrorBody (x.step .readErrorBody).1 (x.step .readErrorBody).2 := by
  have hempty : x.readErrorBody = (.ok [], x) → x.step .readErrorBody = (.ok (.octets []), x) := by
    intro h
    simp [step, h, yielding, Except.map]
  cases hchannel : x.channel with
  | none =>
      have hstep := hempty (readErrorBody_of_none hchannel)
      rw [hstep]
      exact .observed rfl hstep
  | some c =>
      cases hstatus : c.reply.isError with
      | false =>
          have hstep := hempty (readErrorBody_of_plain hchannel hstatus)
          rw [hstep]
          exact .observed rfl hstep
      | true =>
          have hread := readErrorBody_of_error hchannel hstatus
          cases hdrained : x.isDrained with
          | true =>
              refine transition_of_onlyFails ?_ (by simp)
              apply onlyFails_yielding
              rw [hread]
              exact drain_of_drained hdrained c
          | false =>
              simp only [step, hread]
              exact .errorRead hchannel hstatus hdrained (drain_draining hchannel hdrained)

/-- What the reply is asked for is answered from it, or fails if there is none. -/
theorem withReply_transition {α : Type} {f : α → Yield} {g : Channel → α}
    (hobserves : o.observes = true)
    (hstep : x.step o = yielding f (x.withReply fun c ↦ (.ok (g c), x))) :
    Transition x o (x.step o).1 (x.step o).2 := by
  cases hchannel : x.channel with
  | none =>
      refine transition_of_onlyFails ?_ ?_
      · rw [hstep]
        exact onlyFails_yielding (withReply_onlyFails hchannel _)
      · rintro _ rfl
        exact absurd hobserves (by simp [Operation.observes])
  | some c =>
      have hok : x.step o = (.ok (f (g c)), x) := by
        rw [hstep]
        simp [withReply, hchannel, yielding, Except.map]
      rw [hok]
      exact .observed hobserves hok

theorem requestFields_transition :
    Transition x .requestFields (x.step .requestFields).1 (x.step .requestFields).2 := by
  simp only [step, requestFields]
  split
  · exact .listingFailed _ _
  · exact .fieldsListed _

theorem connect_transition (hchannel : x.phase = .configured → x.channel = none) :
    Transition x .connect (x.step .connect).1 (x.step .connect).2 := by
  by_cases hphase : x.phase = .configured
  · have hstep : x.step .connect = yielding (fun _ ↦ .nothing) x.connectConfigured := by
      simp [step, connect, hphase]
    rw [hstep]
    exact .connecting hphase (connectConfigured_connecting (hchannel hphase))
  · refine transition_of_onlyFails ?_ fun h ↦ absurd h hphase
    exact onlyFails_yielding (whileConfigured_onlyFails hphase _ _)

/-- As long as an exchange is configured it has no reply. -/
def Fresh (x : Exchange) : Prop := x.phase = .configured → x.channel = none

theorem step_transition (hfresh : x.Fresh) (o : Operation) :
    Transition x o (x.step o).1 (x.step o).2 := by
  cases o with
  | setVerb given => exact setVerb_transition given
  | setField name value => exact setField_transition name value
  | setReadTimeout given => exact setReadTimeout_transition given
  | writeBody body => exact writeBody_transition body
  | setTlsContext context => exact setTlsContext_transition context
  | connect => exact connect_transition hfresh
  | readBody => exact readBody_transition
  | readErrorBody => exact readErrorBody_transition
  | status => exact withReply_transition (g := fun c ↦ c.reply.status) rfl rfl
  | replyFields => exact withReply_transition (g := fun c ↦ c.reply.groupedFields) rfl rfl
  | close => exact .closing (closeDuring_closing x none)
  | requestFields => exact requestFields_transition
  | address => exact .observed rfl rfl

end Exchange

end SecureExchange
