import SecureExchange.Proofs.Address.Accepted
import SecureExchange.Proofs.Exchange.Keeping

/-!
# The request that is sent

A request is what the accepted operations of a run have staged by then: the last verb, body and
timeout, and the last value of each field (`requests_are_staged`). Operations that failed leave no
trace in it, but for the cookies that a lapsed connect may bring. The values that are staged are
followed as long as the exchange is configured, since nothing is sent later (`Drafted`).
-/

namespace SecureExchange

open Failure Text Address Request

namespace Operation

/-- The verb that an operation names. -/
def verb? : Operation → Option Verb
  | .setVerb given => Verb.ofDatum? given
  | _ => none

def body? : Operation → Option Octets
  | .writeBody body => some body
  | _ => none

def readTimeout? : Operation → Option Binary64
  | .setReadTimeout given => (readTimeoutOf given).toOption
  | _ => none

def field? : Operation → Option (String × String)
  | .setField name value => some (name, value)
  | _ => none

/-- Operations that stage a value. -/
def stages : Operation → Bool
  | .setVerb _ | .setField _ _ | .setReadTimeout _ | .writeBody _ => true
  | _ => false

end Operation

/-- The last value that operations name, or the initial one. -/
def latest {α : Type} (f : Operation → Option α) (init : α) (ops : List Operation) : α :=
  (ops.filterMap f).getLast?.getD init

@[simp] theorem latest_concat {α : Type} (f : Operation → Option α) (init : α)
    (ops : List Operation) (o : Operation) :
    latest f init (ops ++ [o]) = (f o).getD (latest f init ops) := by
  cases h : f o <;> simp [latest, List.filterMap_append, h]

/-- The fields that operations write, in order. -/
def writesOf (ops : List Operation) : List (String × String) := ops.filterMap Operation.field?

@[simp] theorem writesOf_concat (ops : List Operation) (o : Operation) :
    writesOf (ops ++ [o]) = writesOf ops ++ o.field?.toList := by
  cases h : o.field? <;> simp [writesOf, List.filterMap_append, h]

namespace Exchange

/-- The operation, if it was accepted. -/
def taken (o : Operation) : Outcome Yield → List Operation
  | .ok _ => [o]
  | .error _ => []

/-- The operations of a run that were accepted. -/
def accepted (x : Exchange) : List Operation → List Operation
  | [] => []
  | o :: rest => taken o (x.step o).1 ++ (x.step o).2.accepted rest

/-- The request that is built from what operations stage in an exchange as it was started, and from
the cookies of the client. -/
def draftedRequest (x : Exchange) (ops : List Operation) (cookies : Cookies) :
    Except BuildFault Request :=
  Request.build (latest Operation.verb? x.verb ops) x.target (written (writesOf ops))
    (latest Operation.body? [] ops) (latest Operation.readTimeout? x.readTimeout ops) cookies

/-- The request as it is sent, with the credentials of the target. -/
def stagedRequest (x : Exchange) (ops : List Operation) (cookies : Cookies) :
    Except BuildFault Request :=
  (x.draftedRequest ops cookies).map Request.authorize

/-- The request is exactly what the operations stage in an exchange as it was started, with the
cookies of the client. -/
structure Stages (x : Exchange) (ops : List Operation) (cookies : Cookies) (r : Request) :
    Prop where
  built : x.stagedRequest ops cookies = .ok r
  target : r.target = x.target
  verb : r.verb = latest Operation.verb? x.verb ops
  body : r.body = latest Operation.body? [] ops
  readTimeout : r.readTimeout =
    if (latest Operation.readTimeout? x.readTimeout ops).isZero then none
    else some (latest Operation.readTimeout? x.readTimeout ops)
  field : ∀ name last, allAscii name.toList = true →
    lastWrite? name (writesOf ops) = some last →
    (carriesCredentials x.target = true → sameName name "Authorization" = false) →
    fieldsOf (accessKey name) r.fields = [.ofText last.1 last.2]
  credentials : carriesCredentials x.target = true →
    fieldsOf (accessKey "Authorization") r.fields = [.ofText "Authorization"
      (basicCredentials x.target.userName x.target.password)]
  origin : ∀ f ∈ r.fields, f ∈ written (writesOf ops) ∨ f.key ∈ clientKeys ∨
    (carriesCredentials x.target = true ∧ f.key = accessKey "Authorization") ∨ IsCookie cookies f

/-- A configured exchange holds what the operations staged. -/
structure Drafted (x₀ : Exchange) (ops : List Operation) (x : Exchange) : Prop where
  verb : x.verb = latest Operation.verb? x₀.verb ops
  body : x.body = latest Operation.body? [] ops
  readTimeout : x.readTimeout = latest Operation.readTimeout? x₀.readTimeout ops
  fields : x.fields.HoldsWrites (writesOf ops)

variable {x₀ x y : Exchange} {o : Operation} {r : Outcome Yield} {ops : List Operation}

theorem KeepsStaging.drafted (h : KeepsStaging x y) (hx : Drafted x₀ ops x) :
    Drafted x₀ ops y where
  verb := h.verb.trans hx.verb
  body := h.body.trans hx.body
  readTimeout := h.readTimeout.trans hx.readTimeout
  fields := by
    rcases h.fields with hfields | hfields
    · rw [hfields]
      exact hx.fields
    · rw [hfields]
      exact hx.fields.settled

/-- An accepted operation stages what it names, and keeps the rest. -/
theorem Drafted.take (hx : Drafted x₀ ops x) (hverb : y.verb = o.verb?.getD x.verb)
    (hbody : y.body = o.body?.getD x.body)
    (htimeout : y.readTimeout = o.readTimeout?.getD x.readTimeout)
    (hfields : y.fields.HoldsWrites (writesOf ops ++ o.field?.toList)) :
    Drafted x₀ (ops ++ [o]) y where
  verb := by rw [latest_concat, ← hx.verb, hverb]
  body := by rw [latest_concat, ← hx.body, hbody]
  readTimeout := by rw [latest_concat, ← hx.readTimeout, htimeout]
  fields := by rwa [writesOf_concat]

theorem Drafted.reject (hx : Drafted x₀ ops x) (o : Operation) (id : FailureId) :
    Drafted x₀ (ops ++ taken o (.error id)) x := by
  rw [taken, List.append_nil]
  exact hx

/-- An operation that stages nothing changes nothing, accepted or not. -/
theorem Drafted.skip (hx : Drafted x₀ ops x) (ho : o.stages = false) (r : Outcome Yield) :
    Drafted x₀ (ops ++ taken o r) x := by
  cases r with
  | error id => exact hx.reject o id
  | ok a =>
      have hnothing : o.verb? = none ∧ o.body? = none ∧ o.readTimeout? = none ∧
          o.field? = none := by
        cases o <;> simp [Operation.stages] at ho <;> exact ⟨rfl, rfl, rfl, rfl⟩
      obtain ⟨hverb, hbody, htimeout, hfield⟩ := hnothing
      refine hx.take (by rw [hverb]; rfl) (by rw [hbody]; rfl) (by rw [htimeout]; rfl) ?_
      rw [hfield, Option.toList_none, List.append_nil]
      exact hx.fields

theorem stages_of_observes (h : o.observes = true) : o.stages = false := by
  cases o <;> simp [Operation.observes] at h <;> rfl

theorem Transition.drafted (h : Transition x o r y) (hbody : x.BodyAllowed)
    (hy : y.phase = .configured) (hx : Drafted x₀ ops x) :
    Drafted x₀ (ops ++ taken o r) y := by
  have hkept : ∀ {z : Exchange}, KeepsStaging x z → Drafted x₀ ops z :=
    fun hkeep ↦ hkeep.drafted hx
  have hsame : ∀ {z : Exchange}, KeepsStaging x z → o.stages = false →
      Drafted x₀ (ops ++ taken o r) z := fun hkeep ho ↦ (hkept hkeep).skip ho r
  have hunwritten : x.fields.HoldsWrites (writesOf ops ++ []) := by
    rw [List.append_nil]
    exact hx.fields
  cases h with
  | failed =>
      refine Drafted.reject ?_ o _
      exact hkept ⟨rfl, rfl, rfl, rfl, .inl rfl⟩
  | observed hobserves =>
      exact hsame ⟨rfl, rfl, rfl, rfl, .inl rfl⟩ (stages_of_observes hobserves)
  | verbSet _ hgiven => exact hx.take (by simp [Operation.verb?, hgiven]) rfl rfl hunwritten
  | fieldSet _ hset => exact hx.take rfl rfl rfl (hx.fields.set hset)
  | timeoutSet _ hgiven =>
      exact hx.take rfl rfl (by simp [Operation.readTimeout?, hgiven, Except.toOption]) hunwritten
  | timeoutIgnored _ hphase => exact absurd hy hphase
  | bodySet => exact hx.take rfl rfl rfl hunwritten
  | nothingWritten _ hrefused =>
      -- A verb without bodies has none staged, so that the empty one is staged already.
      have hempty : x.body = [] := hbody.resolve_right (by simp [hrefused])
      exact hx.take rfl hempty rfl hunwritten
  | reopened => exact hsame ⟨rfl, rfl, rfl, rfl, .inl rfl⟩ rfl
  | reopeningFailed => exact hsame ⟨rfl, rfl, rfl, rfl, .inl rfl⟩ rfl
  | connecting _ h => exact hsame h.retains.toKeepsStaging rfl
  | bodyRead _ _ _ h => exact hsame h.retains.toKeepsStaging rfl
  | errorRead _ _ _ h => exact hsame h.retains.toKeepsStaging rfl
  | closing h => exact hsame h.retains.toKeepsStaging rfl
  | fieldsListed => exact hsame ⟨rfl, rfl, rfl, rfl, .inr rfl⟩ rfl
  | listingFailed => exact hsame ⟨rfl, rfl, rfl, rfl, .inr rfl⟩ rfl

theorem Started.drafted {p : Proposal} {n : Network} (h : Started p n x) : Drafted x [] x where
  verb := rfl
  body := h.body
  readTimeout := rfl
  fields := by
    rw [h.fields]
    exact Fields.holdsWrites_empty

/-- A run that ends configured holds what its accepted operations staged. -/
theorem run_drafted (hfresh : x.Fresh) (hbody : x.BodyAllowed)
    (hx : x.phase = .configured → Drafted x₀ ops x) (os : List Operation)
    (hphase : (x.run os).phase = .configured) :
    Drafted x₀ (ops ++ x.accepted os) (x.run os) := by
  induction os generalizing x ops with
  | nil =>
      rw [accepted, List.append_nil]
      exact hx hphase
  | cons o rest ih =>
      have h := step_transition hfresh o
      have hnext : (x.step o).2.phase = .configured →
          Drafted x₀ (ops ++ taken o (x.step o).1) (x.step o).2 := by
        intro hconfigured
        exact h.drafted hbody hconfigured (hx (h.of_configured hfresh hconfigured).1)
      rw [accepted, ← List.append_assoc]
      exact ih (step_fresh hfresh o) (h.bodyAllowed hbody) hnext hphase

/-! ### What is sent -/

variable {cookies : Cookies}

theorem stagedRequest_eq_ok {r : Request} (h : x.stagedRequest ops cookies = .ok r) :
    ∃ b, x.draftedRequest ops cookies = .ok b ∧ r = b.authorize := by
  cases hb : x.draftedRequest ops cookies with
  | error e => simp [stagedRequest, hb, Except.map] at h
  | ok b =>
      rw [stagedRequest, hb] at h
      exact ⟨b, rfl, (Except.ok.inj h).symm⟩

theorem stages_of_staged {r : Request} (h : x.stagedRequest ops cookies = .ok r) :
    Stages x ops cookies r := by
  obtain ⟨b, hbuild, rfl⟩ := stagedRequest_eq_ok h
  obtain ⟨htarget, hverb, hbody, htimeout⟩ : b.target = x.target ∧
      b.verb = latest Operation.verb? x.verb ops ∧ b.body = latest Operation.body? [] ops ∧
      b.readTimeout = if (latest Operation.readTimeout? x.readTimeout ops).isZero then none
        else some (latest Operation.readTimeout? x.readTimeout ops) := by
    obtain ⟨merged, given, host, _, _, _, rfl⟩ := build_eq_ok hbuild
    exact ⟨rfl, rfl, rfl, rfl⟩
  refine ⟨h, ?_, ?_, ?_, ?_, ?_, ?_, ?_⟩
  · rw [target_authorize, htarget]
  · rw [verb_authorize, hverb]
  · rw [body_authorize, hbody]
  · rw [readTimeout_authorize, htimeout]
  · intro name last hname hlast hcredentials
    have hown : fieldsOf (accessKey name) (written (writesOf ops))
        = [.ofText last.1 last.2] := by
      rw [fieldsOf_written, hlast]
      rfl
    rw [fieldsOf_authorize_of_ne (htarget ▸ hcredentials), fieldsOf_build hbuild hname, hown]
    simp [hown]
  · intro hcredentials
    rw [fieldsOf_authorize (htarget ▸ hcredentials), htarget]
  · intro f hf
    rcases mem_authorize hf with hf | hf
    · rcases mem_build hbuild hf with hf | hf | hf
      · exact .inl hf
      · exact .inr (.inl hf)
      · exact .inr (.inr (.inr hf))
    · rw [htarget] at hf
      exact .inr (.inr (.inl hf))

theorem Drafted.build_eq (hx : Drafted x₀ ops x) (htarget : x.target = x₀.target) :
    Request.build x.verb x.target x.fields.entries x.body x.readTimeout
      (x.network.cookies x.target) = x₀.draftedRequest ops (x.network.cookies x₀.target) := by
  rw [draftedRequest, hx.verb, htarget, hx.fields.entries, hx.body, hx.readTimeout]

theorem Drafted.staged {request : Request} {handle : Handle} (hx : Drafted x₀ ops x)
    (htarget : x.target = x₀.target) (h : x.Sends request handle) :
    x₀.stagedRequest ops (x.network.cookies x₀.target) = .ok request.authorize := by
  rw [stagedRequest, ← hx.build_eq htarget, h.build]
  rfl

/-- What is staged is sent by the next connect, over the handle that is open. -/
theorem Drafted.connect_sent {request : Request} {handle : Handle} (hx : Drafted x₀ ops x)
    (hfresh : x.Fresh) (hphase : x.phase = .configured) (htarget : x.target = x₀.target)
    (hshown : ∃ shown, x₀.shownAddress = .ok shown) (husable : x.network.usable? = some handle)
    (hstaged : x₀.stagedRequest ops (x.network.cookies x₀.target) = .ok request) :
    (x.step .connect).2.network.sent = x.network.sent ++ [⟨request, handle.trust⟩] := by
  obtain ⟨b, hbuild, rfl⟩ := stagedRequest_eq_ok hstaged
  have hsends : x.Sends b handle := by
    refine ⟨(hx.build_eq htarget).trans hbuild, ?_, husable⟩
    rw [shownAddress, htarget]
    exact hshown
  exact Exchange.connect_sent hfresh hphase hsends

/-- A target has the secure scheme and a host. -/
theorem targetOf_eq_ok {given : Datum} {t : Target} (h : targetOf given = .ok t) :
    t.scheme = secureScheme.toList ∧ ∃ host, t.readableHost = .ok host ∧ host ≠ [] := by
  cases given with
  | text s => exact (targetOfText_eq_ok h).2
  | _ => simp [targetOf] at h

/-- Nothing is sent but by a connect, and what it sends is what the operations that were accepted
until then have staged, with the target, verb and timeout that the exchange was started with, and
with the cookies of the client. As long as the exchange is configured and a handle is open, a
connect does send it. Cookies come only after a connect that lapsed on a reply that set some. -/
theorem requests_are_staged {p : Proposal} {custom : Bool} {script : Script}
    {openings : List (Option FailureId)} {j : Journal} {unredacted : Bool}
    (hstart : start p (.start custom script openings) j unredacted = .ok x)
    (os : List Operation) :
    (targetOf p.target = .ok x.target ∧ x.target.scheme = secureScheme.toList ∧
      ∃ host, x.target.readableHost = .ok host ∧ host ≠ []) ∧
    (Verb.ofDatum? p.verb = some x.verb ∧ startTimeout p = .ok x.readTimeout ∧
      x.network.sent = []) ∧
    (∀ o, ((x.run os).step o).2.network.sent = (x.run os).network.sent ∨
      ∃ s, o = .connect ∧
        ((x.run os).step o).2.network.sent = (x.run os).network.sent ++ [s] ∧
        Stages x (x.accepted os) ((x.run os).network.cookies x.target) s.request) ∧
    (∀ request handle, (x.run os).phase = .configured →
      (x.run os).network.usable? = some handle → (∃ shown, x.shownAddress = .ok shown) →
      x.stagedRequest (x.accepted os) ((x.run os).network.cookies x.target) = .ok request →
      ((x.run os).step .connect).2.network.sent
        = (x.run os).network.sent ++ [⟨request, handle.trust⟩]) ∧
    ((x.run os).phase = .configured → (x.run os).network.cookies x.target = .empty ∨
      ∃ before after, os = before ++ .connect :: after ∧ x.LapsesKeeping before) := by
  have hstarted := start_started hstart
  have hfresh := run_fresh hstarted.fresh os
  have htarget := run_target hstarted.fresh os
  have hdrafted : (x.run os).phase = .configured → Drafted x (x.accepted os) (x.run os) :=
    run_drafted hstarted.fresh hstarted.bodyAllowed (fun _ ↦ hstarted.drafted) os
  refine ⟨⟨hstarted.target, targetOf_eq_ok hstarted.target⟩,
    ⟨hstarted.verb, hstarted.readTimeout, hstarted.sent⟩, fun o ↦ ?_, ?_, ?_⟩
  · rcases (step_transition hfresh o).sent with hsent | ⟨_, _, rfl, hphase, hsends, hsent⟩
    · exact .inl hsent
    · have hstaged := (hdrafted hphase).staged htarget hsends
      exact .inr ⟨_, rfl, hsent, stages_of_staged hstaged⟩
  · intro request handle hphase husable hshown hstaged
    exact (hdrafted hphase).connect_sent hfresh hphase htarget hshown husable hstaged
  · intro hphase
    exact cookies_of_lapse hstarted.fresh hstarted.deposits os hphase x.target

/-- A field is written twice, and the verb is changed once, after a change that is refused. -/
def revisedMessage : List Operation :=
  [.setField "X-Id" "1", .writeBody [0x31], .setVerb (.text "GET"), .setField "x-id" "2",
   .setReadTimeout (.whole 0), .setVerb (.text "PUT")]

theorem requests_are_staged_of_revised :
    ∃ x s, start hubMessage (.start true accepting []) ⟨[], []⟩ false = .ok x ∧
      ((x.run revisedMessage).step .connect).2.network.sent = [s] ∧
      s.request.target = x.target ∧ s.request.verb = .put ∧ s.request.body = [0x31] ∧
      s.request.readTimeout = none ∧
      fieldsOf (accessKey "X-ID") s.request.fields = [.ofText "x-id" "2"] := by
  obtain ⟨x, hstart, hx⟩ := exists_of_any_start (p := hubMessage)
    (n := .start true accepting []) (j := ⟨[], []⟩) (u := false)
    (q := fun x ↦
      let ops := x.accepted revisedMessage
      (x.run revisedMessage).network.sent.isEmpty &&
        decide (((x.run revisedMessage).step .connect).2.network.sent.length = 1) &&
        decide (latest Operation.verb? x.verb ops = .put) &&
        decide (latest Operation.body? [] ops = [0x31]) &&
        (latest Operation.readTimeout? x.readTimeout ops).isZero &&
        decide (lastWrite? "X-ID" (writesOf ops) = some ("x-id", "2")))
    (by decide +kernel)
  simp only [Bool.and_eq_true, decide_eq_true_eq, List.isEmpty_iff] at hx
  obtain ⟨⟨⟨⟨⟨hempty, hlength⟩, hverb⟩, hbody⟩, hzero⟩, hlast⟩ := hx
  obtain ⟨_, _, hsent, _⟩ := requests_are_staged hstart revisedMessage
  rcases hsent .connect with hsame | ⟨s, _, hsent, hstages⟩
  · rw [hsame, hempty] at hlength
    simp at hlength
  · refine ⟨x, s, hstart, ?_, hstages.target, hstages.verb.trans hverb, hstages.body.trans hbody,
      ?_, ?_⟩
    · rw [hsent, hempty, List.nil_append]
    · rw [hstages.readTimeout, if_pos hzero]
    · exact hstages.field "X-ID" ("x-id", "2") (by decide) hlast fun _ ↦ by decide

/-- A client that has one cookie for every request, once a reply has set any. -/
def keeping : Client where
  cookies deposits _ := if deposits.isEmpty then .empty else .text "a=b"
  decode _ chunks := .ok chunks.flatten

/-- A peer that sets a cookie and asks to go to a place whose host has no name. -/
def straying : Script where
  next := .reply ⟨302, [.ofText "Set-Cookie" "a=b", .ofText "Location" "https://xn--/"], [], none,
    none⟩
  later := []
  client := keeping

/-- No operation is accepted, and yet the second request has a field that the first has not. -/
theorem lapsed_connect_leaves_cookie :
    ∃ x, start hubMessage (.start true straying []) ⟨[], []⟩ false = .ok x ∧
      x.accepted [.connect, .connect] = [] ∧
      (x.run [.connect, .connect]).network.sent.map
          (fun s ↦ fieldsOf (accessKey "Cookie") s.request.fields)
        = [[], [.ofText "Cookie" "a=b"]] := by
  obtain ⟨x, hstart, hx⟩ := exists_of_any_start (p := hubMessage)
    (n := .start true straying []) (j := ⟨[], []⟩) (u := false)
    (q := fun x ↦ (x.accepted [.connect, .connect]).isEmpty &&
      decide ((x.run [.connect, .connect]).network.sent.map
        (fun s ↦ fieldsOf (accessKey "Cookie") s.request.fields)
          = [[], [.ofText "Cookie" "a=b"]]))
    (by decide +kernel)
  rw [Bool.and_eq_true, List.isEmpty_iff, decide_eq_true_eq] at hx
  exact ⟨x, hstart, hx.1, hx.2⟩

end Exchange

end SecureExchange
