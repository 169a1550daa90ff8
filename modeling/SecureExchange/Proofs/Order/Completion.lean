import Mathlib.Data.List.Induction
import SecureExchange.Proofs.Order.Cleanup
import SecureExchange.Proofs.Redaction.Fields

/-!
# Orders that are completed

An order is deliverable if its target, verb, timeout and fields make a request, and its address can
be shown. A deliverable order whose handles open sends one request, and comes to what the peer
answers: a reply becomes the response, with its fields grouped and its content taken for the body or
for the reason of an error, and a documented failure of the client becomes the error that it is
classified as.
-/

namespace SecureExchange

open Failure Text Request

namespace OrderedMap

variable {κ α : Type} [BEq κ] [LawfulBEq κ] {pairs : List (κ × α)} {m : OrderedMap κ (List α)}

/-- The values that come with a key, in order of arrival. -/
def valuesOf (k : κ) (pairs : List (κ × α)) : List α := (pairs.filter (·.1 == k)).map (·.2)

/-- The keys stand in order of their first arrival, each with all of its values. -/
structure Groups (pairs : List (κ × α)) (m : OrderedMap κ (List α)) : Prop where
  keys : m.keys = (pairs.map Prod.fst).eraseDups
  values : ∀ k, (get? k m).getD [] = valuesOf k pairs

theorem keys_insert (k : κ) (a : α) (m : OrderedMap κ α) :
    keys (insert k a m) = if k ∈ keys m then keys m else keys m ++ [k] := by
  induction m with
  | nil => simp [insert, keys]
  | cons p rest ih =>
      obtain ⟨k', a'⟩ := p
      by_cases h : k' = k
      · simp [insert, keys, h]
      · have hne : ¬ k = k' := fun e ↦ h e.symm
        have hb : (k' == k) = false := by simpa using h
        simp only [keys] at ih ⊢
        simp only [insert, hb, Bool.false_eq_true, if_false, List.map_cons, ih, List.mem_cons, hne,
          false_or]
        by_cases hmem : k ∈ rest.map Prod.fst <;> simp [hmem]

theorem Groups.concat (h : Groups pairs m) (p : κ × α) :
    Groups (pairs ++ [p]) (insert p.1 ((get? p.1 m).getD [] ++ [p.2]) m) where
  keys := by
    rw [keys_insert, h.keys, List.map_append, List.eraseDups_append]
    by_cases hmem : p.1 ∈ pairs.map Prod.fst
    · simp [hmem, List.removeAll]
    · simp [hmem, List.removeAll, List.eraseDups_cons]
  values k := by
    rw [valuesOf, List.filter_append, List.map_append]
    by_cases hk : p.1 = k
    · subst hk
      simp [h.values, valuesOf]
    · have hne : ¬ k = p.1 := fun e ↦ hk e.symm
      simp [get?_insert_of_ne hne, h.values, valuesOf, hk]

theorem group_groups (pairs : List (κ × α)) : Groups pairs (group pairs) := by
  induction pairs using List.reverseRecOn with
  | nil => exact ⟨rfl, fun _ ↦ rfl⟩
  | append_singleton pairs p ih =>
      have hgroup : group (pairs ++ [p])
          = insert p.1 ((get? p.1 (group pairs)).getD [] ++ [p.2]) (group pairs) := by
        simp [group]
      rw [hgroup]
      exact ih.concat p

end OrderedMap

/-! ### Handles that open -/

namespace Network

variable {n m : Network} {custom : Bool} {script : Script} {openings : List (Option FailureId)}

/-- No opening to come fails. -/
def Opens (n : Network) : Prop := ∀ f ∈ n.openings, f = none

theorem Opens.openHandle (h : n.Opens) (context : Option String) :
    ∃ m, n.openHandle context = (.ok (), m) ∧ m.Opens := by
  unfold Network.openHandle
  split
  · exact ⟨n, rfl, h⟩
  · dsimp only
    split
    · next id rest hopenings => exact absurd (h (some id) (by simp [hopenings])) (by simp)
    · next rest hopenings =>
        exact ⟨_, rfl, fun f hf ↦ h f (by rw [hopenings]; exact List.mem_cons_of_mem _ hf)⟩
    · exact ⟨_, rfl, h⟩

theorem Opens.closeHandle (h : n.Opens) : n.closeHandle.Opens := by
  obtain ⟨hs, hclose⟩ := n.closeHandle_eq
  rw [hclose]
  exact h

theorem usable?_of_start (h : (start custom script openings).openHandle none = (.ok (), m)) :
    ∃ handle, m.usable? = some handle := by
  cases custom with
  | false => exact ⟨_, usable?_openHandle rfl h⟩
  | true =>
      obtain rfl : start true script openings = m := (Prod.mk.inj h).2
      exact ⟨.opened .custom, rfl⟩

end Network

namespace Exchange

variable {x y z : Exchange} {o : Order} {p : Proposal} {n : Network} {script : Script}

theorem start_of_accepted {t : Address.Target} {verb : Verb} {seconds : Binary64}
    (htarget : targetOf p.target = .ok t) (hverb : Verb.ofDatum? p.verb = some verb)
    (htimeout : startTimeout p = .ok seconds) (hopens : n.Opens) (j : Journal)
    (unredacted : Bool) :
    ∃ x, start p n j unredacted = .ok x ∧ x.target = t ∧ x.verb = verb ∧ x.journal = j ∧
      x.network.Opens := by
  obtain ⟨m, hopen, hm⟩ := hopens.openHandle none
  refine ⟨_, by simp only [start, htarget, hverb, htimeout, hopen]; rfl, rfl, rfl, rfl, hm⟩

/-! ### Deliverable orders -/

/-- What it takes to send an order to a target. -/
structure Deliverable (o : Order) (custom : Bool) (t : Address.Target) (verb : Verb) : Prop where
  given : ∃ shown, Redaction.addressText o.address = .ok shown
  shown : ∃ shown, Redaction.addressText t.text = .ok shown
  body : o.body = [] ∨ verb.allowsBody = true
  named : o.AsciiNamed
  host : (∃ p ∈ o.fields, sameName "host" p.1 = true) ∨ allAscii t.hostPort = true
  trust : o.tlsContext = none ∨ custom = false

/-- An exchange that holds what an order is made of. -/
structure Loaded (o : Order) (script : Script) (x y : Exchange) : Prop extends
    Ready o script y where
  target : y.target = x.target
  journal : y.journal = x.journal
  usable : ∃ handle, y.network.usable? = some handle
  fields : y.fields.entries = written o.fields

theorem hasField_written {name : String} {writes : List (String × String)}
    (h : ∃ w ∈ writes, sameName name w.1 = true) :
    hasField (accessKey name) (written writes) = true := by
  obtain ⟨w, hw, hname⟩ := h
  refine hasField_of_fieldsOf ?_
  rw [fieldsOf_written, lastWrite?]
  simpa using ⟨w.1, ⟨w.2, hw⟩, hname⟩

theorem prepare_loaded {custom : Bool} {openings : List (Option FailureId)}
    (hx : Started p (.start custom script openings) x) (hopens : x.network.Opens)
    (hd : Deliverable o custom x.target x.verb) :
    ∃ y, x.prepare o = (.ok (), y) ∧ Loaded o script x y := by
  obtain ⟨outcome, y, hprepare⟩ : ∃ outcome y, x.prepare o = (outcome, y) := ⟨_, _, rfl⟩
  have hpreparing := prepare_preparing hx hprepare
  have hcustom : x.network.custom = custom := by
    have hopened := Network.custom_openHandle (.start custom script openings) none
    rwa [hx.opened] at hopened
  have hready : ∀ {y}, Preparing x o (.ok ()) y → y.Ready o script :=
    fun h ↦ h.ready hx (Network.idle_of_start hx.opened)
  cases hpreparing with
  | refused _ _ hrefused =>
      rcases hrefused with hbody | ⟨context, hcontext, htrue⟩
      · exact absurd hd.body hbody
      · rcases hd.trust with hnone | hfalse
        · simp [hnone] at hcontext
        · simp [← hcustom, htrue] at hfalse
  | @reopeningFailed context _ _ _ _ _ _ hopen =>
      obtain ⟨m, hok, _⟩ := hopens.closeHandle.openHandle (some context)
      simp [hok] at hopen
  | staged hfields hcontext =>
      exact ⟨_, hprepare, hready (.staged hfields hcontext), rfl, rfl,
        Network.usable?_of_start hx.opened, hfields.entries⟩
  | reopened hfields hcontext hfalse hopen =>
      refine ⟨_, hprepare, hready (.reopened hfields hcontext hfalse hopen), rfl, rfl, ?_,
        hfields.entries⟩
      exact ⟨_, Network.usable?_openHandle (by simpa using hfalse) hopen⟩

/-- A loaded exchange can send the order. -/
theorem Loaded.sends {custom : Bool} (hy : Loaded o script x y)
    (hd : Deliverable o custom x.target x.verb) : ∃ r handle, y.Sends r handle := by
  obtain ⟨handle, husable⟩ := hy.usable
  have hnamed : ∀ f ∈ y.fields.entries, f.AsciiNamed := by
    intro f hf
    rw [hy.fields] at hf
    obtain ⟨w, hw, rfl⟩ := mem_written hf
    exact Field.asciiNamed_ofText (hd.named w hw) w.2
  obtain ⟨r, hbuild⟩ : ∃ r, Request.build y.verb y.target y.fields.entries y.body y.readTimeout
      (y.network.cookies y.target) = .ok r := by
    rw [Network.cookies_of_nil hy.idle.deposits, build_isOk_iff hnamed, hy.fields, hy.target]
    exact hd.host.imp_left hasField_written
  refine ⟨r, handle, hbuild, ?_, husable⟩
  rw [shownAddress, hy.target]
  exact hd.shown

/-! ### What the peer answers -/

/-- A reply that names no location is taken in, and nothing is recorded but events. -/
theorem connect_of_reply {request : Request} {handle : Handle} {r : Reply}
    (hphase : x.phase = .configured) (hsends : x.Sends request handle)
    (hlists : request.authorize.isListable = true) (hnext : x.network.script.next = .reply r)
    (hplace : r.location? = none) :
    ∃ y, x.connect = (.ok (), y) ∧ y.channel = some ⟨r, false⟩ ∧ y.isDrained = x.isDrained ∧
      y.network = (x.network.deliver request.authorize handle.trust).keep request.target r ∧
      y.journal.failures = x.journal.failures := by
  obtain ⟨shown, hshown⟩ := hsends.shown
  let sent : Exchange := { x.logConnect shown with
    network := x.network.deliver request.authorize handle.trust }
  let taken : Exchange := { sent with network := sent.network.keep request.target r }
  have htransmit : (x.logConnect shown).transmit request = (.ok r, taken) := by
    have hreceive : sent.receiveFor request.authorize r = (.ok r, taken) := by
      rw [receiveFor_of_listable hlists, target_authorize, receive, hplace]
    have hnetwork : (x.logConnect shown).network = x.network := rfl
    simp only [transmit, hnetwork, hsends.usable, hnext]
    exact hreceive
  rw [connect, whileConfigured_of_configured hphase]
  simp only [connectConfigured, hsends.build, hshown, htransmit]
  exact ⟨_, rfl, rfl, rfl, rfl, rfl⟩

/-- A documented failure of the client that the peer raises ends the connecting. -/
theorem connect_of_refusal {request : Request} {handle : Handle} {id : FailureId}
    (hphase : x.phase = .configured) (hchannel : x.channel = none)
    (hsends : x.Sends request handle) (hnext : x.network.script.next = .refusal id)
    (hfailure : x.isHttpFailure id = true) :
    ∃ y, x.connect = (.error id, y) ∧ y.channel = none ∧
      y.network = (x.network.deliver request.authorize handle.trust).closeHandle ∧
      y.journal.failures = x.journal.failures := by
  obtain ⟨shown, hshown⟩ := hsends.shown
  let sent : Exchange := { x.logConnect shown with
    network := x.network.deliver request.authorize handle.trust }
  let logged := sent.log .warning "devicelink.https.connect_failed"
    ([("method", .text sent.verb.token), ("url", .text shown)] ++ sent.failureEntries id)
  have htransmit : (x.logConnect shown).transmit request = (.error id, sent) := by
    have hnetwork : (x.logConnect shown).network = x.network := rfl
    simp only [transmit, hnetwork, hsends.usable, hnext]
    rfl
  have hreleased : logged.StreamReleased := by
    intro c hc
    exact absurd (hchannel.symm.trans hc) (by simp)
  have hfinish : finishConnect shown (.error id, sent) = (.error id, logged.ended) := by
    have hsame : sent.isHttpFailure id = true := hfailure
    simp only [finishConnect, hsame, if_true]
    rw [show logged.closeDuring (some id) = _ from closeDuring_of_released hreleased _]
    rfl
  rw [connect, whileConfigured_of_configured hphase]
  simp only [connectConfigured, hsends.build, hshown, htransmit, hfinish]
  exact ⟨_, rfl, hchannel, rfl, rfl⟩

/-- A reply is read to its end, and nothing is recorded. -/
theorem drain_of_content {r : Reply} {content : Octets}
    (hchannel : x.channel = some ⟨r, false⟩) (hdrained : x.isDrained = false)
    (hcontent : x.network.script.client.content r = .ok content) (hread : r.readFailure = none)
    (hclose : r.closeFailure = none) :
    x.drain ⟨r, false⟩ = (.ok content, { x with
      channel := some ⟨r, true⟩
      isDrained := true
      network := x.network.countClose.closeHandle
      phase := .closed }) := by
  have hsound : x.network.script.client.interrupts r = false :=
    interrupts_eq_false_iff.mpr ⟨⟨content, hcontent⟩, hread⟩
  have hdraining := drain_draining hchannel hdrained
  generalize hz : x.drain ⟨r, false⟩ = z at hdraining
  obtain ⟨outcome, z⟩ := z
  cases hdraining with
  | read _ hcontent' =>
      obtain rfl := Except.ok.inj (hcontent.symm.trans hcontent')
      rfl
  | closedBefore _ _ hclosed => simp at hclosed
  | failedOnce _ _ _ hone => simp [hsound, hclose] at hone
  | failedTwice _ _ _ htwice => simp [hsound] at htwice

/-- A documented failure of the client ends the reading. -/
theorem drain_of_failure {r : Reply} {content : Octets} {id : FailureId}
    (hchannel : x.channel = some ⟨r, false⟩) (hdrained : x.isDrained = false)
    (hcontent : x.network.script.client.content r = .ok content) (hread : r.readFailure = some id)
    (hclose : r.closeFailure = none) (hfailure : x.isHttpFailure id = true) :
    x.drain ⟨r, false⟩ = (.error id, { x with
      channel := some ⟨r, true⟩
      isDrained := true
      network := x.network.countClose.closeHandle
      phase := .closed }) := by
  have hraises : x.readChannel ⟨r, false⟩ = (.error id, x) := by
    have hstop : ((x.journal.failures.class? id).map (·.isStop)) ≠ some true := by
      unfold isHttpFailure at hfailure
      cases hclass : x.journal.failures.class? id with
      | none => simp
      | some c => cases c <;> simp [hclass, FaultClass.isHttpError, FaultClass.isStop] at hfailure ⊢
    simp only [readChannel, hcontent, hread, raiseFromStream, if_neg hstop]
    rfl
  exact drain_of_close hdrained hraises (closeDuring_of_ok
    (closeChannel_of_open (x := { x with isDrained := true }) hchannel rfl hclose (some id)))

/-! ### What an order comes to -/

/-- A request was answered, and nothing was recorded but events. -/
structure Answered (x z : Exchange) : Prop where
  released : z.StreamReleased
  failures : z.journal.failures = x.journal.failures
  sent : ∃ s, z.network.sent = [s]

theorem sent_of_deliver (hidle : x.network.Idle script) (request : Request) (t : Trust) :
    (x.network.deliver request t).sent = [⟨request, t⟩] := by
  change x.network.sent ++ [_] = [_]
  rw [hidle.sent, List.nil_append]

theorem perform_of_refusal {custom : Bool} {id : FailureId} (hy : Loaded o script x y)
    (hd : Deliverable o custom x.target x.verb) (hnext : script.next = .refusal id)
    (hfailure : x.isHttpFailure id = true) :
    ∃ z, y.perform = (.error id, z) ∧ Answered x z := by
  obtain ⟨request, handle, hsends⟩ := hy.sends hd
  obtain ⟨z, hconnect, hchannel, hnetwork, hfailures⟩ :=
    connect_of_refusal hy.phase hy.channel hsends (hy.idle.script ▸ hnext)
      (by rwa [isHttpFailure, hy.journal])
  refine ⟨z, by simp only [perform, hconnect], ?_, by rw [hfailures, hy.journal], ?_⟩
  · intro c hc
    simp [hchannel] at hc
  · rw [hnetwork, Network.sent_closeHandle]
    exact ⟨_, sent_of_deliver hy.idle request.authorize handle.trust⟩

theorem perform_of_reply {custom : Bool} {r : Reply} {content : Octets}
    (hy : Loaded o script x y) (hd : Deliverable o custom x.target x.verb)
    (hnext : script.next = .reply r) (hplace : r.location? = none)
    (hdecoded : script.client.content r = .ok content) (hclose : r.closeFailure = none) :
    (r.readFailure = none →
      ∃ z, y.perform = (.ok (r.toResponse content), z) ∧ Answered x z) ∧
    ∀ id, r.readFailure = some id → x.isHttpFailure id = true →
      ∃ z, y.perform = (.error id, z) ∧ Answered x z := by
  obtain ⟨request, handle, hsends⟩ := hy.sends hd
  obtain ⟨z, hconnect, hchannel, hdrained, hnetwork, hfailures⟩ :=
    connect_of_reply hy.phase hsends (hy.listable request handle hsends hd.named)
      (hy.idle.script ▸ hnext) hplace
  have hcontent : z.network.script.client.content r = .ok content := by
    rw [hnetwork, ← hdecoded, ← hy.idle.script, ← y.network.script.client_advance]
    rfl
  rw [hy.isDrained] at hdrained
  rw [hy.journal] at hfailures
  have hperform := perform_of_drain hconnect hchannel
  have hanswered : Answered x { z with
      channel := some ⟨r, true⟩
      isDrained := true
      network := z.network.countClose.closeHandle
      phase := .closed } := by
    refine ⟨released_of_closed rfl rfl, hfailures, ?_⟩
    rw [Network.sent_closeHandle, hnetwork]
    exact ⟨_, sent_of_deliver hy.idle request.authorize handle.trust⟩
  constructor
  · intro hread
    rw [drain_of_content hchannel hdrained hcontent hread hclose] at hperform
    exact ⟨_, hperform, hanswered⟩
  · intro id hread hfailure
    rw [drain_of_failure hchannel hdrained hcontent hread hclose
      (by rwa [isHttpFailure, hfailures])] at hperform
    exact ⟨_, hperform, hanswered⟩

/-- The order is completed with the response. -/
theorem settle_of_response {shown : String} {response : Response}
    (hprepare : x.prepare o = (.ok (), y)) (hperform : y.perform = (.ok response, z))
    (hz : Answered x z) (hshown : Redaction.addressText o.address = .ok shown) :
    ∃ w, settle o.address (x.fulfil o) = (.ok response, w) ∧ ∃ s, w.network.sent = [s] := by
  have hfulfil : x.fulfil o = (.ok response, z) := by
    simp only [fulfil, hprepare, performClassified, hperform]
  obtain ⟨s, hs⟩ := hz.sent
  rw [hfulfil, settle_of_shown hz.released hshown]
  exact ⟨_, rfl, s, (Network.sent_closeHandle _).trans hs⟩

/-- The order ends with the error that the failure is classified as. -/
theorem settle_of_httpFailure {shown : String} {id : FailureId}
    (hprepare : x.prepare o = (.ok (), y)) (hperform : y.perform = (.error id, z))
    (hz : Answered x z) (hshown : Redaction.addressText o.address = .ok shown)
    (hfailure : x.isHttpFailure id = true) :
    ∃ w, settle o.address (x.fulfil o)
        = (.error (x.journal.failures.classify id (some id)).1, w) ∧
      w.journal.failures = (x.journal.failures.classify id (some id)).2 ∧
      ∃ s, w.network.sent = [s] := by
  have hfailure' : z.isHttpFailure id = true := by rwa [isHttpFailure, hz.failures]
  obtain ⟨j, hj, hfulfil⟩ : ∃ j, j.failures = (x.journal.failures.classify id (some id)).2 ∧
      x.fulfil o = (.error (x.journal.failures.classify id (some id)).1,
        { z with journal := j }) := by
    simp only [fulfil, hprepare, performClassified, hperform, hfailure', if_true, raiseClassified,
      hshown, hz.failures]
    exact ⟨_, rfl, rfl⟩
  obtain ⟨s, hs⟩ := hz.sent
  rw [hfulfil, settle_of_error (z := { z with journal := j }) hz.released]
  exact ⟨_, rfl, hj, s, (Network.sent_closeHandle _).trans hs⟩

/-- A deliverable order whose handles open sends one request and comes to what the peer answers. A
reply that names no other location, and whose content can be decoded and is read to its end, becomes
the response. A documented failure of the client, on connecting or while the content is read,
becomes the error that it is classified as, which declares the failure as its cause. -/
theorem orders_come_to_what_the_peer_answers {custom : Bool} {openings : List (Option FailureId)}
    {t : Address.Target} {verb : Verb} {seconds : Binary64}
    (htarget : targetOf o.proposal.target = .ok t)
    (hverb : Verb.ofDatum? o.proposal.verb = some verb)
    (htimeout : startTimeout o.proposal = .ok seconds) (hopenings : ∀ f ∈ openings, f = none)
    (hd : Deliverable o custom t verb) (j : Journal) (unredacted : Bool) :
    (∀ r : Reply, r.codings = [] → script.client.content r = .ok r.chunks.flatten) ∧
    (∀ r content, script.next = .reply r → r.location? = none →
      script.client.content r = .ok content → r.readFailure = none → r.closeFailure = none →
      ∃ response y, o.send (.start custom script openings) j unredacted
          = .ok (.ok response, y) ∧
        (∃ s, y.network.sent = [s]) ∧ response.status = r.status ∧
        OrderedMap.Groups (readFields r.charset r.fields) response.fields ∧
        (r.status < 400 → response.body = content ∧ response.errorReason = []) ∧
        (400 ≤ r.status → response.body = [] ∧ response.errorReason = content)) ∧
    ∀ id c, j.failures.class? id = some c → c.isHttpError = true →
      (script.next = .refusal id ∨ ∃ r content, script.next = .reply r ∧ r.location? = none ∧
        script.client.content r = .ok content ∧ r.readFailure = some id ∧
        r.closeFailure = none) →
      ∃ raised e y, o.send (.start custom script openings) j unredacted
          = .ok (.error raised, y) ∧
        j.failures.classify id (some id) = (raised, y.journal.failures) ∧
        y.journal.failures[raised]? = some ⟨.classified e, some id, some id⟩ ∧
        e.wrapped = some id ∧ ∃ s, y.network.sent = [s] := by
  obtain ⟨x, hstart, rfl, rfl, rfl, hopens⟩ :=
    start_of_accepted (n := .start custom script openings) htarget hverb htimeout hopenings j
      unredacted
  have hsend := send_of_start hstart
  obtain ⟨y, hprepare, hy⟩ := prepare_loaded (start_started hstart) hopens hd
  obtain ⟨shown, hshown⟩ := hd.given
  refine ⟨fun r hr ↦ script.client.content_of_plain hr, ?_, ?_⟩
  · intro r content hnext hplace hcontent hread hclose
    obtain ⟨z, hperform, hz⟩ := (perform_of_reply hy hd hnext hplace hcontent hclose).1 hread
    obtain ⟨w, hsettle, hsent⟩ := settle_of_response hprepare hperform hz hshown
    rw [hsettle] at hsend
    refine ⟨_, w, hsend, hsent, ?_, ?_, fun hplain ↦ ?_, fun herror ↦ ?_⟩
    · unfold Reply.toResponse
      split <;> rfl
    · have hgroups := OrderedMap.group_groups (readFields r.charset r.fields)
      unfold Reply.toResponse
      split <;> exact hgroups
    · have hstatus : r.isError = false := decide_eq_false (Int.not_le.mpr hplain)
      simp [Reply.toResponse, hstatus]
    · have hstatus : r.isError = true := decide_eq_true herror
      simp [Reply.toResponse, hstatus]
  · intro id c hclass hhttp hanswer
    have hfailure : x.isHttpFailure id = true := by simpa only [isHttpFailure, hclass] using hhttp
    obtain ⟨z, hperform, hz⟩ : ∃ z, y.perform = (.error id, z) ∧ Answered x z := by
      rcases hanswer with hnext | ⟨r, content, hnext, hplace, hcontent, hread, hclose⟩
      · exact perform_of_refusal hy hd hnext hfailure
      · exact (perform_of_reply hy hd hnext hplace hcontent hclose).2 id hread hfailure
    obtain ⟨w, hsettle, hfailures, hsent⟩ :=
      settle_of_httpFailure hprepare hperform hz hshown hfailure
    obtain ⟨f, hf, _⟩ := Graph.fault?_of_class? hclass
    obtain ⟨e, hclassify, hwrapped, _⟩ := Graph.classify_of_fault hf (some id)
    rw [hsettle] at hsend
    refine ⟨_, e, w, hsend, by rw [hfailures], ?_, hwrapped, hsent⟩
    rw [hfailures, hclassify]
    simp

/-- A reply that is not found, in two chunks. -/
def notFound : Script :=
  ⟨.reply ⟨404, [.ofText "X-Note" "a", .ofText "x-note" "b"], [[0x6e], [0x6f]], none, none⟩, [],
    .plain⟩

/-- A reply whose content breaks off. -/
def cutShort : Script := ⟨.reply ⟨200, [], [[0x6f, 0x6b]], some 0, none⟩, [], .plain⟩

/-- A posted body, with a field of the host's own. -/
def noteOrder : Order := { hubOrder with body := [0x31], fields := [("X-Note", "1")] }

theorem exists_shown_of_isSome {address : String}
    (h : (Redaction.addressText address).toOption.isSome = true) :
    ∃ shown, Redaction.addressText address = .ok shown := by
  cases hshown : Redaction.addressText address with
  | error e => simp [hshown, Except.toOption] at h
  | ok shown => exact ⟨shown, rfl⟩

theorem orders_come_to_what_the_peer_answers_of_note :
    (∃ response y, noteOrder.send (.start true notFound []) ⟨[], []⟩ false
        = .ok (.ok response, y) ∧
      (∃ s, y.network.sent = [s]) ∧ response.status = 404 ∧
      OrderedMap.keys response.fields = ["x-note"] ∧
      response.body = [] ∧ response.errorReason = [0x6e, 0x6f]) ∧
    ∃ raised e y, noteOrder.send (.start true cutShort []) breakingJournal false
        = .ok (.error raised, y) ∧
      y.journal.failures[raised]? = some ⟨.classified e, some 0, some 0⟩ ∧
      e.wrapped = some 0 ∧ ∃ s, y.network.sent = [s] := by
  obtain ⟨t, htarget, ht⟩ := exists_of_any_target (d := noteOrder.proposal.target)
    (q := fun t ↦ (Redaction.addressText noteOrder.address).toOption.isSome &&
      (Redaction.addressText t.text).toOption.isSome && allAscii t.hostPort) (by decide +kernel)
  simp only [Bool.and_eq_true] at ht
  obtain ⟨⟨hgiven, hshown⟩, hhost⟩ := ht
  have hnamed : noteOrder.AsciiNamed := by
    unfold Order.AsciiNamed
    decide
  have hd : Deliverable noteOrder true t .post :=
    ⟨exists_shown_of_isSome hgiven, exists_shown_of_isSome hshown, .inr rfl, hnamed,
      .inr hhost, .inl rfl⟩
  constructor
  · obtain ⟨hplain, hreplied, _⟩ := @orders_come_to_what_the_peer_answers noteOrder notFound
      true [] t .post _ htarget rfl rfl (by simp) hd ⟨[], []⟩ false
    obtain ⟨response, y, hsend, hsent, hstatus, hfields, _, hcontent⟩ :=
      hreplied _ _ rfl (by decide +kernel) (hplain _ (by decide +kernel)) rfl rfl
    refine ⟨response, y, hsend, hsent, hstatus, hfields.keys.trans (by decide +kernel), ?_⟩
    exact hcontent (by decide)
  · obtain ⟨hplain, _, hfailed⟩ := @orders_come_to_what_the_peer_answers noteOrder cutShort
      true [] t .post _ htarget rfl rfl (by simp) hd breakingJournal false
    obtain ⟨raised, e, y, hsend, _, hraised, hwrapped, hsent⟩ := hfailed 0 (.http .read) rfl
      rfl (.inr ⟨_, _, rfl, by decide +kernel, hplain _ (by decide +kernel), rfl, rfl⟩)
    exact ⟨raised, e, y, hsend, hraised, hwrapped, hsent⟩

/-- A verb that is none. -/
def unknownVerb : Order :=
  { hubOrder with proposal := ⟨.text "https://hub/messages", .text "FOO", none⟩ }

/-- A wait of negative length. -/
def negativeWait : Order :=
  { hubOrder with proposal := ⟨.text "https://hub/messages", .text "GET", some (.whole (-1))⟩ }

/-- A host that ASCII cannot write. -/
def unwritableHost : Order :=
  ⟨⟨.text "https://[fe80::1%é]/", .text "GET", none⟩, "https://[fe80::1%é]/", [], [], none⟩

/-- An order for nothing but its target is refused or fails, and nothing is sent, though target and
address can be shown. -/
structure Undelivered (o : Order) : Prop where
  bare : o.body = [] ∧ o.fields = [] ∧ o.tlsContext = none
  target : ∃ t shown, targetOf o.proposal.target = .ok t ∧
    Redaction.addressText t.text = .ok shown
  address : ∃ shown, Redaction.addressText o.address = .ok shown
  unsent : (∃ refusal, o.send (.start true accepting []) ⟨[], []⟩ false = .error refusal) ∨
    ∃ id y, o.send (.start true accepting []) ⟨[], []⟩ false = .ok (.error id, y) ∧
      y.network.sent = []

theorem undelivered_of_check (h : (o.body.isEmpty && o.fields.isEmpty && o.tlsContext.isNone &&
    (targetOf o.proposal.target).toOption.any
      (fun t ↦ (Redaction.addressText t.text).toOption.isSome) &&
    (Redaction.addressText o.address).toOption.isSome &&
    match o.send (.start true accepting []) ⟨[], []⟩ false with
      | .error _ => true
      | .ok (.error _, y) => y.network.sent.isEmpty
      | .ok (.ok _, _) => false) = true) : Undelivered o := by
  simp only [Bool.and_eq_true, List.isEmpty_iff, Option.isNone_iff_eq_none] at h
  obtain ⟨⟨⟨⟨⟨hbody, hfields⟩, hcontext⟩, htarget⟩, hgiven⟩, hsend⟩ := h
  obtain ⟨t, htarget, hshown⟩ := exists_of_any_target htarget
  obtain ⟨shown, hshown⟩ := exists_shown_of_isSome hshown
  refine ⟨⟨hbody, hfields, hcontext⟩, ⟨t, shown, htarget, hshown⟩,
    exists_shown_of_isSome hgiven, ?_⟩
  split at hsend
  · next refusal hrefused => exact .inl ⟨refusal, hrefused⟩
  · next id y hfailed => exact .inr ⟨id, y, hfailed, by simpa using hsend⟩
  · simp at hsend

/-- That target and address can be shown does not make an order deliverable, and what it is answered
need not be what the stream of the reply yields. -/
theorem shown_orders_unsent_or_unpacked :
    Undelivered unknownVerb ∧ Undelivered negativeWait ∧ Undelivered unwritableHost ∧
    ∃ response y, hubOrder.send (.start true packing []) ⟨[], []⟩ false = .ok (.ok response, y) ∧
      response.body = [] ∧
      y.channel.any (fun c : Channel ↦ decide (c.reply.chunks.flatten = [0x1f])) = true := by
  refine ⟨?_, ?_, ?_, ?_⟩
  · exact undelivered_of_check (by decide +kernel)
  · exact undelivered_of_check (by decide +kernel)
  · exact undelivered_of_check (by decide +kernel)
  · obtain ⟨response, y, hsend, hy⟩ := exists_of_answered_send (o := hubOrder)
      (n := .start true packing []) (j := ⟨[], []⟩) (u := false)
      (q := fun response y ↦ decide (response.body = []) &&
        y.channel.any fun c : Channel ↦ decide (c.reply.chunks.flatten = [0x1f]))
      (by decide +kernel)
    simp only [Bool.and_eq_true, decide_eq_true_eq] at hy
    exact ⟨response, y, hsend, hy.1, hy.2⟩

end Exchange

end SecureExchange
