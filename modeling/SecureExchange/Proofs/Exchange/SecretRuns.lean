import SecureExchange.Proofs.Address.Locations
import SecureExchange.Proofs.Exchange.Secrets

/-!
# Runs with different secrets

Reading, connecting and every other operation take alike exchanges to alike ones, and so do whole
runs (`run_alike`). Connecting is where secrets meet the log: it builds the request from them, shows
the address and the fields, and hands what the peer answers to the target for resolving.
-/

namespace SecureExchange

open Failure Text Address

namespace Exchange

variable {α β : Type} {x x' y y' : Exchange} {s : Secrets} {id : FailureId} {c : Channel}

theorem Alike.channel (h : x.Alike x') : x'.channel = x.channel := by
  obtain ⟨s, _, rfl⟩ := h
  rfl

theorem Alike.shownAddress (h : x.Alike x') : x'.shownAddress = x.shownAddress := by
  obtain ⟨s, hs, rfl⟩ := h
  exact hs.shown

/-! ### Reading -/

theorem raiseFromStream_alike (h : x.Alike x') (id : FailureId) :
    EndAlike (x.raiseFromStream (α := α) id) (x'.raiseFromStream id) := by
  obtain ⟨s, hs, rfl⟩ := h
  have hstop := hs.failures.class?_map (p := FaultClass.isStop)
    (fun c hc ↦ (FaultClass.isUnlogged_iff.mp hc).2.2) id
  refine endAlike_ite (by rw [← hstop]; rfl) ?_ (hs.alike.ends _)
  obtain ⟨hid, hrecord⟩ := hs.failures.record (.same (.fault .streamStopped)) (some id)
  let stopped : FailureId × Graph := s.failures.record (.fault .streamStopped) (some id)
  refine ⟨congrArg Except.error hid,
    { s with failures := stopped.2.declareCause stopped.1 id }, ?_, rfl⟩
  refine hs.of_kept rfl rfl rfl rfl hs.kept hs.fields ?_
  dsimp only
  rw [hid]
  exact hrecord.declareCause _ id

theorem raiseUndecodable_alike (h : x.Alike x') (text : String) :
    EndAlike (x.raiseUndecodable (α := α) text) (x'.raiseUndecodable text) := by
  obtain ⟨s, hs, rfl⟩ := h
  let f : Failure := .fault ⟨.other "error", text⟩
  let f' : Failure := .fault (.http .decoding text)
  let cause : FailureId := (x.journal.failures.record f none).1
  obtain ⟨hcause, hcaused⟩ := hs.failures.record (.same f) none
  obtain ⟨hid, hrecord⟩ := hcaused.record (.same f') (some cause)
  have hcause' : ((x.withSecrets s).journal.record f none).1 = (x.journal.record f none).1 :=
    hcause
  let raised : FailureId × Graph := (s.failures.record f none).2.record f' (some cause)
  unfold raiseUndecodable
  dsimp only
  rw [hcause']
  refine ⟨congrArg Except.error hid,
    { s with failures := raised.2.declareCause raised.1 cause }, ?_, rfl⟩
  refine hs.of_kept rfl rfl rfl rfl hs.kept hs.fields ?_
  dsimp only [raised]
  rw [hid]
  exact hrecord.declareCause _ cause

theorem readChannel_alike (h : x.Alike x') (c : Channel) :
    EndAlike (x.readChannel c) (x'.readChannel c) := by
  refine endAlike_ite Iff.rfl (h.raiseFault _) ?_
  have hclient : x'.network.script.client = x.network.script.client := by
    obtain ⟨s, _, rfl⟩ := h
    rfl
  rw [hclient]
  cases x.network.script.client.content c.reply with
  | error text => exact raiseUndecodable_alike h text
  | ok content =>
      cases c.reply.readFailure with
      | some id => exact raiseFromStream_alike h id
      | none =>
          dsimp only
          rcases (closeChannel_alike h none).cases with
            ⟨id, y, y', hx, hx', hy⟩ | ⟨a, y, y', hx, hx', hy⟩
          · rw [hx, hx']
            exact raiseFromStream_alike hy id
          · rw [hx, hx']
            exact hy.ends _

theorem drain_alike (h : x.Alike x') (c : Channel) : EndAlike (x.drain c) (x'.drain c) := by
  have hdrained : x'.isDrained = x.isDrained := by
    obtain ⟨s, _, rfl⟩ := h
    rfl
  refine endAlike_ite (by rw [hdrained]) (h.raiseFault _) ?_
  obtain ⟨outcome, y, hx⟩ : ∃ outcome y, x.readChannel c = (outcome, y) := ⟨_, _, rfl⟩
  obtain ⟨outcome', y', hx'⟩ : ∃ outcome y, x'.readChannel c = (outcome, y) := ⟨_, _, rfl⟩
  have hread := readChannel_alike h c
  rw [hx, hx'] at hread ⊢
  obtain ⟨houtcome, s, hs, hy⟩ := hread
  obtain rfl : outcome' = outcome := houtcome
  obtain rfl : y' = y.withSecrets s := hy
  have hmarked : Alike { y with isDrained := true } { y.withSecrets s with isDrained := true } :=
    ⟨s, hs.of_kept rfl rfl rfl rfl hs.kept hs.fields hs.failures, rfl⟩
  rcases (closeDuring_alike hmarked (failure? outcome')).cases with
    ⟨id, z, z', hy, hy', hz⟩ | ⟨a, z, z', hy, hy', hz⟩
  · simp only [hy, hy']
    exact hz.ends _
  · simp only [hy, hy']
    exact hz.ends _

theorem withReply_alike (h : x.Alike x') {go go' : Channel → Outcome α × Exchange}
    (hgo : ∀ c, EndAlike (go c) (go' c)) : EndAlike (x.withReply go) (x'.withReply go') := by
  unfold withReply
  rw [h.channel, h.shownAddress]
  cases x.channel with
  | some c => exact hgo c
  | none =>
      cases x.shownAddress with
      | error e => exact h.raiseFault _
      | ok shown => exact h.raiseFault _

theorem refuseError_alike (h : x.Alike x') (r : Reply) :
    EndAlike (x.refuseError (α := α) r) (x'.refuseError r) := by
  unfold refuseError
  rw [h.shownAddress, h.verb]
  cases x.shownAddress with
  | error e => exact h.raiseFault _
  | ok shown => exact h.raiseFault _

theorem readBody_alike (h : x.Alike x') : EndAlike x.readBody x'.readBody :=
  withReply_alike h fun c ↦ endAlike_ite Iff.rfl (refuseError_alike h c.reply) (drain_alike h c)

theorem readErrorBody_alike (h : x.Alike x') : EndAlike x.readErrorBody x'.readErrorBody := by
  unfold readErrorBody
  rw [h.channel]
  cases x.channel with
  | none => exact h.ends _
  | some c => exact endAlike_ite Iff.rfl (drain_alike h c) (h.ends _)

theorem status_alike (h : x.Alike x') : EndAlike x.status x'.status :=
  withReply_alike h fun _ ↦ h.ends _

theorem replyFields_alike (h : x.Alike x') : EndAlike x.replyFields x'.replyFields :=
  withReply_alike h fun _ ↦ h.ends _

/-! ### Connecting -/

/-- Records why what a reply asks for is refused, and closes the stream of the reply. -/
def refuseFor (x : Exchange) (r : Reply) (f : Failure) (handling : Option FailureId) :
    Outcome α × Exchange :=
  let (id, j) := x.journal.record f handling
  let x := { x with journal := j, network := x.network.countClose }
  match r.closeFailure with
  | none => (.error id, x)
  | some closing => x.raiseAgain closing (some id)

theorem refuseMove_of_single {f : MoveFault} {g : Fault} (h : f.toFaults = (g, none))
    (r : Reply) : x.refuseMove (α := α) r f = x.refuseFor r (.fault g) none := by
  unfold refuseMove
  rw [h]
  rfl

theorem refuseMove_of_handled {f : MoveFault} {g handled : Fault}
    (h : f.toFaults = (g, some handled)) (r : Reply) :
    x.refuseMove (α := α) r f = refuseFor { x with
      journal := (x.journal.record (.fault handled) none).2 } r (.fault g)
        (some (x.journal.record (.fault handled) none).1) := by
  unfold refuseMove
  rw [h]
  rfl

theorem refuseFor_alike (h : x.Alike x') {f f' : Failure} (hf : LooksLike f f') (r : Reply)
    (handling : Option FailureId) :
    EndAlike (x.refuseFor (α := α) r f handling) (x'.refuseFor r f' handling) := by
  obtain ⟨s, hs, rfl⟩ := h
  obtain ⟨hid, hfailures⟩ := hs.failures.record hf handling
  have hclosed : Alike
      { x with
        journal := (x.journal.record f handling).2
        network := x.network.countClose }
      { x.withSecrets s with
        journal := ((x.withSecrets s).journal.record f' handling).2
        network := (x.withSecrets s).network.countClose } := by
    refine ⟨{ s with failures := (s.failures.record f' handling).2 }, ?_, rfl⟩
    exact hs.of_kept rfl rfl rfl rfl hs.kept hs.fields hfailures
  have hid' : ((x.withSecrets s).journal.record f' handling).1 = (x.journal.record f handling).1 :=
    hid
  unfold refuseFor
  dsimp only
  rw [hid']
  cases r.closeFailure with
  | none => exact hclosed.ends _
  | some closing => exact hclosed.raiseAgain closing _

/-- The replies to two requests are refused alike if the same location is at fault, or if no log
shows what is. -/
theorem refuseMove_alike (h : x.Alike x') {f f' : Redirect.Fault} (r : Reply)
    (hf : f' = f ∨ f.isLocation = false ∧ f'.isLocation = false) :
    EndAlike (x.refuseMove (α := α) r (.location f)) (x'.refuseMove r (.location f')) := by
  rcases hf with rfl | ⟨hf, hf'⟩
  · rcases hfaults : MoveFault.toFaults (.location f') with ⟨g, _ | handled⟩
    · rw [refuseMove_of_single hfaults, refuseMove_of_single hfaults]
      exact refuseFor_alike h (.same _) r none
    · obtain ⟨hid, hrecorded⟩ := h.raise (α := α) (.same (.fault handled)) none
      have hid' : (x'.journal.record (.fault handled) none).1
          = (x.journal.record (.fault handled) none).1 := Except.error.inj hid
      rw [refuseMove_of_handled hfaults, refuseMove_of_handled hfaults, hid']
      exact refuseFor_alike hrecorded (.same _) r _
  · obtain ⟨g, hg, hunlogged⟩ := Redirect.unlogged_of_not_isLocation hf
    obtain ⟨g', hg', hunlogged'⟩ := Redirect.unlogged_of_not_isLocation hf'
    rw [refuseMove_of_single (f := .location f) hg, refuseMove_of_single (f := .location f') hg']
    exact refuseFor_alike h (.unlogged hunlogged hunlogged') r none

/-- Two requests are handed over alike: both fail alike, or both receive the reply and are alike
once they are connected. -/
inductive TransmitAlike : Outcome Reply × Exchange → Outcome Reply × Exchange → Prop
  | failed {y y' : Exchange} (id : FailureId) (h : y.Alike y') :
      TransmitAlike (.error id, y) (.error id, y')
  | received {y y' : Exchange} (r : Reply)
      (h : Alike { y with phase := .connected } { y' with phase := .connected }) :
      TransmitAlike (.ok r, y) (.ok r, y')

theorem EndAlike.transmit {r r' : Outcome Reply × Exchange} (h : EndAlike r r')
    (hr : ∃ id, r.1 = .error id) : TransmitAlike r r' := by
  obtain ⟨id, hid⟩ := hr
  rcases h.cases with ⟨id', y, y', rfl, rfl, hy⟩ | ⟨reply, y, y', rfl, rfl, hy⟩
  · exact .failed id' hy
  · cases hid

theorem refuseMove_error (x : Exchange) (r : Reply) (f : MoveFault) :
    ∃ id, (x.refuseMove (α := α) r f).1 = .error id := by
  obtain ⟨id, j, h⟩ := x.refuseMove_eq (α := α) r f
  exact ⟨id, by rw [h]⟩

/-- A client that was asked to keep nothing has no cookies for another place. -/
theorem checkMove_of_keepless (hkept : x.network.deposits = []) (sent : Request) (r : Reply)
    (location : String) : x.checkMove sent r location =
      match Redirect.resolve x.target location.toList with
      | .error f => .error (.location f)
      | .ok _ => .ok () := by
  unfold checkMove
  cases Redirect.resolve x.target location.toList with
  | error f => rfl
  | ok there => simp only [Network.cookies_of_nil hkept, Request.addCookies]

/-- What is received alike is alike once it is connected, whatever the client was asked to keep. -/
theorem Conceals.received (hs : x.Conceals s) (asked asked' : Target) (r : Reply) :
    Alike { x with network := x.network.keep asked r, phase := .connected }
      { x.withSecrets s with
        network := (x.withSecrets s).network.keep asked' r, phase := .connected } := by
  refine ⟨{ s with deposits := s.deposits ++ r.deposits asked' }, ?_, rfl⟩
  exact hs.of_kept rfl rfl rfl rfl nofun hs.fields hs.failures

theorem receive_alike (h : x.Alike x') (hphase : x.phase = .configured) {r : Reply}
    (hr : ∀ location, r.location? = some location → r.setsCookies = false ∧
      ((∃ u, Redirect.resolve x.target location.toList = .ok u) ↔
        ∃ u, Redirect.resolve x'.target location.toList = .ok u)) (sent sent' : Request) :
    TransmitAlike ({ x with network := x.network.keep sent.target r }.receive sent r)
      ({ x' with network := x'.network.keep sent'.target r }.receive sent' r) := by
  obtain ⟨s, hs, rfl⟩ := h
  unfold receive
  cases hlocation : r.location? with
  | none => exact .received r (hs.received _ _ r)
  | some location =>
      obtain ⟨hsets, hresolves⟩ := hr location hlocation
      obtain ⟨hnone, hnone'⟩ := hs.kept hphase
      have htarget : (x.withSecrets s).target = s.target := rfl
      rw [htarget] at hresolves
      simp only [Network.keep_of_not_setsCookies hsets]
      rw [checkMove_of_keepless (x := x) hnone,
        checkMove_of_keepless (x := x.withSecrets s) hnone', htarget]
      cases hparse : Target.parse location.toList with
      | error e =>
          -- the fault is logged, but it is in the location and not in the target
          have hrefused : ∀ t, Redirect.resolve t location.toList = .error (.location e) := by
            intro t
            simp only [Redirect.resolve, hparse]
          rw [hrefused, hrefused]
          exact (refuseMove_alike hs.alike r (.inl rfl)).transmit (x.refuseMove_error r _)
      | ok u =>
          cases hx : Redirect.resolve x.target location.toList with
          | ok v =>
              obtain ⟨v', hx'⟩ := hresolves.mp ⟨v, hx⟩
              rw [hx']
              have hreceived := hs.received sent.target sent'.target r
              simp only [Network.keep_of_not_setsCookies hsets] at hreceived
              exact .received r hreceived
          | error f =>
              cases hx' : Redirect.resolve s.target location.toList with
              | ok v' =>
                  obtain ⟨v, hv⟩ := hresolves.mpr ⟨v', hx'⟩
                  rw [hx] at hv
                  cases hv
              | error f' =>
                  -- the faults may differ, but no log shows them
                  have hf := Redirect.isLocation_of_resolve hparse hx
                  have hf' := Redirect.isLocation_of_resolve hparse hx'
                  have hrefused := refuseMove_alike (α := Reply) hs.alike r (.inr ⟨hf, hf'⟩)
                  exact hrefused.transmit (x.refuseMove_error r _)

theorem transmit_alike (h : x.Alike x') (hphase : x.phase = .configured) {r r' : Request}
    (hr : r.authorize.isListable = true) (hr' : r'.authorize.isListable = true) :
    TransmitAlike (x.transmit r) (x'.transmit r') := by
  obtain ⟨s, hs, rfl⟩ := h
  have husable : (x.withSecrets s).network.usable? = x.network.usable? := rfl
  have hscript : (x.withSecrets s).network.script = x.network.script := rfl
  unfold transmit
  rw [husable]
  cases x.network.usable? with
  | none => exact (hs.alike.raiseFault _).transmit ⟨_, rfl⟩
  | some handle =>
      have hdelivered : Alike { x with network := x.network.deliver r.authorize handle.trust }
          { x.withSecrets s with
            network := (x.withSecrets s).network.deliver r'.authorize handle.trust } :=
        ⟨{ s with sent := s.sent ++ [⟨r'.authorize, handle.trust⟩] },
          ⟨hs.redacted, hs.shown, hs.host, hs.moves.advance, hs.kept, hs.fields, hs.failures⟩, rfl⟩
      dsimp only
      rw [hscript]
      cases hnext : x.network.script.next with
      | refusal id => exact .failed id hdelivered
      | reply reply =>
          dsimp only
          rw [receiveFor_of_listable hr, receiveFor_of_listable hr']
          exact receive_alike hdelivered hphase (hs.moves reply (.inl hnext.symm)) _ _

theorem logged_of_isHttpFailure (h : x.isHttpFailure id = true) :
    ∃ c, x.journal.failures.class? id = some c ∧ c.isUnlogged = false := by
  cases hc : x.journal.failures.class? id with
  | none => simp [isHttpFailure, hc] at h
  | some c =>
      have hhttp : c.isHttpError = true := by simpa [isHttpFailure, hc] using h
      exact ⟨c, rfl, by simp [FaultClass.isUnlogged, hhttp]⟩

theorem failureEntries_alike (h : x.Alike x') (hid : x.isHttpFailure id = true) :
    x'.failureEntries id = x.failureEntries id := by
  obtain ⟨c, hc, hlogged⟩ := logged_of_isHttpFailure hid
  obtain ⟨s, hs, rfl⟩ := h
  obtain ⟨hclass, hwrapping⟩ := hs.failures.of_logged hc hlogged
  have hc' : (x.withSecrets s).journal.failures.class? id = some c := hclass
  have htext : (x.withSecrets s).journal.failures.text id = x.journal.failures.text id :=
    congrArg Classified.Wrapping.text hwrapping
  simp only [failureEntries, hc, hc', htext]

theorem finishConnect_alike {r r' : Outcome Reply × Exchange} (h : TransmitAlike r r')
    (shown : String) : EndAlike (finishConnect shown r) (finishConnect shown r') := by
  cases h with
  | @failed y y' id hy =>
      unfold finishConnect
      dsimp only
      rw [hy.isHttpFailure]
      cases hhttp : y.isHttpFailure id with
      | false => exact hy.ends _
      | true =>
          have hlogged := hy.log .warning "devicelink.https.connect_failed"
            ([("method", .text y.verb.token), ("url", .text shown)] ++ y.failureEntries id)
          rw [hy.verb, failureEntries_alike hy hhttp]
          rcases (closeDuring_alike hlogged (some id)).cases with
            ⟨closing, z, z', hz, hz', hclosed⟩ | ⟨a, z, z', hz, hz', hclosed⟩
          · simp only [hz, hz', if_true]
            exact hclosed.ends _
          · simp only [hz, hz', if_true]
            exact hclosed.ends _
  | @received y y' reply hy =>
      have htaken : Alike { y with phase := .connected, channel := some ⟨reply, false⟩ }
          { y' with phase := .connected, channel := some ⟨reply, false⟩ } := by
        obtain ⟨s, hs, hy'⟩ := hy
        refine ⟨s, hs.of_kept rfl rfl rfl rfl hs.kept hs.fields hs.failures, ?_⟩
        exact congrArg (fun z : Exchange ↦ { z with channel := some ⟨reply, false⟩ }) hy'
      have htoken : y'.verb.token = y.verb.token := congrArg Verb.token htaken.verb
      unfold finishConnect
      dsimp only
      rw [htoken]
      exact (htaken.log ..).ends _

theorem logConnect_alike (h : x.Alike x') (shown : String) :
    (x.logConnect shown).Alike (x'.logConnect shown) := by
  obtain ⟨s, hs, rfl⟩ := h
  refine ⟨{ s with fields := s.fields.settled }, ?_, ?_⟩
  · exact hs.of_kept rfl rfl rfl rfl hs.kept hs.fields.settled hs.failures
  · have hredacted := hs.fields.redacted
    have hunredacted : (x.withSecrets s).unredacted = false := hs.redacted
    have hfields : (x.withSecrets s).fields = s.fields := rfl
    unfold logConnect
    rw [hunredacted, hfields, hredacted, hs.redacted]
    rfl

/-- No log shows why a request cannot be built. -/
theorem isUnlogged_buildFault (f : BuildFault) : f.toFault.cls.isUnlogged = true := by
  rcases f with e | f | f
  · rfl
  · cases f <;> rfl
  · rfl

theorem connectConfigured_alike (h : x.Alike x') (hphase : x.phase = .configured) :
    EndAlike x.connectConfigured x'.connectConfigured := by
  obtain ⟨s, hs, rfl⟩ := h
  obtain ⟨hnone, hnone'⟩ := hs.kept hphase
  have hnamed := hs.fields.asciiNamed.1
  have hnamed' : ∀ e ∈ (x.withSecrets s).fields.entries, e.AsciiNamed := hs.fields.asciiNamed.2
  have hshown : (x.withSecrets s).shownAddress = x.shownAddress := hs.shown
  unfold connectConfigured
  rw [hshown, Network.cookies_of_nil hnone,
    Network.cookies_of_nil (n := (x.withSecrets s).network) hnone']
  generalize hbuild : Request.build x.verb x.target x.fields.entries x.body x.readTimeout .empty
    = build
  generalize hbuild' : Request.build (x.withSecrets s).verb (x.withSecrets s).target
    (x.withSecrets s).fields.entries (x.withSecrets s).body (x.withSecrets s).readTimeout .empty
    = build'
  cases haddress : x.shownAddress with
  | error e =>
      cases build <;> cases build' <;> refine hs.alike.raiseUnlogged ?_ ?_ <;>
        first | rfl | exact isUnlogged_buildFault _
  | ok shown =>
      -- the requests carry different secrets, so only that there is one can be compared
      have hbuilt : (∃ r, build = .ok r) ↔ ∃ r, build' = .ok r := by
        rw [← hbuild, ← hbuild', Request.build_isOk_iff hnamed, Request.build_isOk_iff hnamed']
        change _ ↔ hasField _ s.fields.entries = true ∨ allAscii s.target.hostPort = true
        rw [hs.fields.hasField, hs.host shown haddress]
      cases build with
      | error e =>
          cases build' with
          | error e' =>
              exact hs.alike.raiseUnlogged (isUnlogged_buildFault e) (isUnlogged_buildFault e')
          | ok r' =>
              obtain ⟨r, hok⟩ := hbuilt.mpr ⟨r', rfl⟩
              cases hok
      | ok r =>
          obtain ⟨r', rfl⟩ := hbuilt.mp ⟨r, rfl⟩
          refine finishConnect_alike
            (transmit_alike (logConnect_alike hs.alike shown) hphase ?_ ?_) shown
          · exact Request.isListable_of_build hbuild hnamed
          · exact Request.isListable_of_build hbuild' hnamed'

theorem connect_alike (h : x.Alike x') : EndAlike x.connect x'.connect :=
  whileConfigured_alike h _ (connectConfigured_alike h)

/-! ### Runs -/

/-- Fields with ASCII names are always listed. -/
theorem requestFields_of_asciiNamed (h : ∀ e ∈ x.fields.entries, e.AsciiNamed) :
    x.requestFields.2 = { x with fields := x.fields.settled } := by
  obtain ⟨listed, hlisted⟩ := listFields_of_asciiNamed h x.fields.readingCharset
  simp only [requestFields, Fields.entries_settled, hlisted]

theorem requestFields_alike (h : x.Alike x') : x.requestFields.2.Alike x'.requestFields.2 := by
  obtain ⟨s, hs, rfl⟩ := h
  obtain ⟨hnamed, hnamed'⟩ := hs.fields.asciiNamed
  rw [requestFields_of_asciiNamed hnamed,
    requestFields_of_asciiNamed (x := x.withSecrets s) hnamed']
  refine ⟨{ s with fields := s.fields.settled }, ?_, rfl⟩
  exact hs.of_kept rfl rfl rfl rfl hs.kept hs.fields.settled hs.failures

end Exchange

/-- The same operation, but for the values of sensitive fields. Names and values of fields are ASCII
texts. -/
inductive Operation.Alike : Operation → Operation → Prop
  | same {o : Operation} (h : ∀ name value, o ≠ .setField name value) : Alike o o
  | setField {name value value' : String} (hname : allAscii name.toList = true)
      (hvalue : allAscii value.toList = true) (hvalue' : allAscii value'.toList = true)
      (hshown : Redaction.isSensitiveKey name = false → value' = value) :
      Alike (.setField name value) (.setField name value')

namespace Exchange

variable {x x' : Exchange} {o o' : Operation}

theorem step_alike (h : x.Alike x') (ho : o.Alike o') : (x.step o).2.Alike (x'.step o').2 := by
  cases ho with
  | setField hname hvalue hvalue' hshown =>
      exact (setField_alike h hname hvalue hvalue' hshown).2
  | same hother =>
      cases o with
      | setVerb given => exact (setVerb_alike h given).2
      | setField name value => exact absurd rfl (hother name value)
      | setReadTimeout given => exact (setReadTimeout_alike h given).2
      | writeBody body => exact (writeBody_alike h body).2
      | setTlsContext context => exact (setTlsContext_alike h context).2
      | connect => exact (connect_alike h).2
      | readBody => exact (readBody_alike h).2
      | readErrorBody => exact (readErrorBody_alike h).2
      | status => exact (status_alike h).2
      | replyFields => exact (replyFields_alike h).2
      | close => exact (closeDuring_alike h none).2
      | requestFields => exact requestFields_alike h
      | address => exact h

/-- Runs of the same steps with different secrets stay alike to their ends. -/
theorem run_alike (h : x.Alike x') {os os' : List Operation}
    (hos : List.Forall₂ Operation.Alike os os') : (x.run os).Alike (x'.run os') := by
  induction hos generalizing x x' with
  | nil => exact h
  | cons ho _ ih => exact ih (step_alike h ho)

end Exchange

end SecureExchange
