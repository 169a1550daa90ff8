import SecureExchange.Proofs.Exchange.Parallel

/-!
# Operations side by side

Closing, reading and connecting take parallel exchanges to parallel ones, and so does every step
(`step_parallel`). Failures that the peer raises have the same place on both sides, but what is
recorded on the way does not, so what occurs while a failure is being handled is linked to paired
places.
-/

namespace SecureExchange

open Failure Text Address

/-- The operation sets a field, and not to ASCII texts. -/
def Operation.exceedsAscii : Operation → Bool
  | .setField name value => !(allAscii name.toList && allAscii value.toList)
  | _ => false

namespace Exchange

variable {α : Type} {strict : Prop} {M M' : Pairing} {x x' y y' : Exchange} {fields : Fields}
  {g : Graph} {id id' : FailureId} {handling handling' : Option FailureId}
  {r r' : Outcome α × Exchange}

/-! ### Closing and reading -/

theorem closeChannel_parallel (h : x.Parallel strict M x')
    (hh : Option.Rel M handling handling') :
    EndParallel strict M (x.closeChannel handling) (x'.closeChannel handling') := by
  obtain ⟨fields, g, hb, rfl⟩ := h
  have hchannel : (x.beside fields g).channel = x.channel := rfl
  unfold closeChannel
  rw [hchannel]
  cases hc : x.channel with
  | none => exact hb.parallel.returns ()
  | some c =>
      dsimp only
      split
      · exact hb.parallel.returns ()
      · have hclosed : Parallel strict M
            { x with channel := some { c with isClosed := true }, network := x.network.countClose }
            { x.beside fields g with
              channel := some { c with isClosed := true }
              network := (x.beside fields g).network.countClose } := by
          refine hb.kept rfl rfl fun id hid ↦ hid.imp_right ?_
          rintro ⟨c', hc', hreply⟩
          obtain rfl := Option.some.inj hc'
          exact ⟨c, hc, hreply⟩
        cases hclose : c.reply.closeFailure with
        | none => exact hclosed.returns ()
        | some id =>
            have hid := hb.raises id (.inr ⟨c, hc, by simp [Answer.failures, hclose]⟩)
            exact hclosed.raiseAgain hid hh

theorem closeDuring_parallel (h : x.Parallel strict M x')
    (hh : Option.Rel M handling handling') :
    EndParallel strict M (x.closeDuring handling) (x'.closeDuring handling') := by
  unfold closeDuring
  obtain ⟨M', hM, ⟨id, id', y, y', hx, hx', hid, hy⟩ | ⟨a, y, y', hx, hx', hy⟩⟩ :=
    (closeChannel_parallel h hh).cases
  · rw [hx, hx']
    exact .of_le hM (hy.fails hid)
  · rw [hx, hx']
    obtain ⟨fields, g, hb, rfl⟩ := hy
    refine ⟨M', hM, .ok (), hb.kept rfl rfl fun id hid ↦ ?_⟩
    exact hid.imp_left Network.raises_of_closeHandle

theorem raiseFromStream_parallel (h : x.Parallel strict M x') (hid : M id id') :
    EndParallel (α := α) strict M (x.raiseFromStream id) (x'.raiseFromStream id') := by
  obtain ⟨fields, g, hb, rfl⟩ := h
  have hclass : (x.beside fields g).journal.failures.class? id' = x.journal.failures.class? id :=
    hb.failures.class? hid
  unfold raiseFromStream
  rw [hclass]
  refine endParallel_ite ?_ (hb.parallel.fails hid)
  have hrecorded := hb.failures.record (.fault .streamStopped) (.some hid)
  refine ⟨_, Pairing.le_extend, .error Pairing.extend_self, fields, _, ?_, rfl⟩
  exact hb.of_kept Pairing.le_extend hb.fields
    (hrecorded.declareCause Pairing.extend_self (Pairing.le_extend _ _ hid)) fun _ hid ↦ hid

theorem Parallel.declareCause (h : x.Parallel strict M x') {cause cause' : FailureId}
    (hid : M id id') (hcause : M cause cause') :
    Parallel strict M
      { x with journal :=
        { x.journal with failures := x.journal.failures.declareCause id cause } }
      { x' with journal :=
        { x'.journal with failures := x'.journal.failures.declareCause id' cause' } } := by
  obtain ⟨fields, g, hb, rfl⟩ := h
  refine ⟨fields, g.declareCause id' cause', ?_, rfl⟩
  exact hb.of_kept le_rfl hb.fields (hb.failures.declareCause hid hcause) fun _ hid ↦ hid

theorem raiseUndecodable_parallel (h : x.Parallel strict M x') (text : String) :
    EndParallel (α := α) strict M (x.raiseUndecodable text) (x'.raiseUndecodable text) := by
  obtain ⟨M₁, hM₁, hcause, hy⟩ := h.record (.fault ⟨.other "error", text⟩) .none
  obtain ⟨M₂, hM₂, hid, hz⟩ := hy.record (.fault (.http .decoding text)) (.some hcause)
  exact ⟨M₂, le_trans hM₁ hM₂, .error hid, hz.declareCause hid (hM₂ _ _ hcause)⟩

theorem readChannel_parallel (h : x.Parallel strict M x') {c : Channel} (hc : x.channel = some c) :
    EndParallel strict M (x.readChannel c) (x'.readChannel c) := by
  have hid : ∀ id ∈ (Answer.reply c.reply).failures, M id id :=
    fun id hid ↦ h.raises (.inr ⟨c, hc, hid⟩)
  refine endParallel_ite (h.raiseFault _) ?_
  rw [h.network]
  cases x.network.script.client.content c.reply with
  | error text => exact raiseUndecodable_parallel h text
  | ok content =>
      cases hread : c.reply.readFailure with
      | some id => exact raiseFromStream_parallel h (hid id (by simp [Answer.failures, hread]))
      | none =>
          obtain ⟨M', hM, ⟨id, id', y, y', hx, hx', hid, hy⟩ | ⟨a, y, y', hx, hx', hy⟩⟩ :=
            (closeChannel_parallel h .none).cases
          · simp only [hx, hx']
            exact .of_le hM (raiseFromStream_parallel hy hid)
          · simp only [hx, hx']
            exact .of_le hM (hy.returns content)

theorem drain_parallel (h : x.Parallel strict M x') {c : Channel} (hc : x.channel = some c) :
    EndParallel strict M (x.drain c) (x'.drain c) := by
  unfold drain
  rw [h.isDrained]
  refine endParallel_ite (h.raiseFault _) ?_
  obtain ⟨M', hM, houtcome, hy⟩ := readChannel_parallel h hc
  generalize x.readChannel c = r at houtcome hy
  generalize x'.readChannel c = r' at houtcome hy
  obtain ⟨outcome, y⟩ := r
  obtain ⟨outcome', y'⟩ := r'
  have hread : Parallel strict M' { y with isDrained := true } { y' with isDrained := true } := by
    obtain ⟨fields, g, hb, rfl⟩ := hy
    exact hb.kept rfl rfl fun _ hid ↦ hid
  refine .of_le hM ?_
  obtain ⟨M'', hM', ⟨id, id', z, z', hz, hz', hid, hclosed⟩ | ⟨a, z, z', hz, hz', hclosed⟩⟩ :=
    (closeDuring_parallel hread houtcome.failure?).cases
  · simp only [hz, hz']
    exact .of_le hM' (hclosed.fails hid)
  · simp only [hz, hz']
    exact ⟨M'', hM', houtcome.of_le hM', hclosed⟩

theorem withReply_parallel (h : x.Parallel strict M x')
    {go go' : Channel → Outcome α × Exchange}
    (hgo : ∀ c, x.channel = some c → EndParallel strict M (go c) (go' c)) :
    EndParallel strict M (x.withReply go) (x'.withReply go') := by
  unfold withReply
  rw [h.channel, h.shownAddress]
  cases hc : x.channel with
  | some c => exact hgo c hc
  | none =>
      cases x.shownAddress with
      | error e => exact h.raiseFault _
      | ok shown => exact h.raiseFault _

theorem refuseError_parallel (h : x.Parallel strict M x') (reply : Reply) :
    EndParallel (α := α) strict M (x.refuseError reply) (x'.refuseError reply) := by
  unfold refuseError
  rw [h.shownAddress, h.verb]
  cases x.shownAddress with
  | error e => exact h.raiseFault _
  | ok shown => exact h.raiseFault _

theorem readBody_parallel (h : x.Parallel strict M x') :
    EndParallel strict M x.readBody x'.readBody :=
  withReply_parallel h fun c hc ↦
    endParallel_ite (refuseError_parallel h c.reply) (drain_parallel h hc)

theorem readErrorBody_parallel (h : x.Parallel strict M x') :
    EndParallel strict M x.readErrorBody x'.readErrorBody := by
  unfold readErrorBody
  rw [h.channel]
  cases hc : x.channel with
  | none => exact h.returns []
  | some c => exact endParallel_ite (drain_parallel h hc) (h.returns [])

/-! ### Connecting -/

theorem Parallel.countClose (h : x.Parallel strict M x') :
    Parallel strict M { x with network := x.network.countClose }
      { x' with network := x'.network.countClose } := by
  obtain ⟨fields, g, hb, rfl⟩ := h
  exact hb.kept rfl rfl fun _ hid ↦ hid

theorem Parallel.keep (h : x.Parallel strict M x') (asked : Target) (reply : Reply) :
    Parallel strict M { x with network := x.network.keep asked reply }
      { x' with network := x'.network.keep asked reply } := by
  obtain ⟨fields, g, hb, rfl⟩ := h
  exact hb.kept rfl rfl fun _ hid ↦ hid

theorem refuseFor_parallel (h : x.Parallel strict M x') {f f' : Failure} (hf : SameUpTo M f f')
    (hh : Option.Rel M handling handling') {reply : Reply}
    (hreply : ∀ id ∈ (Answer.reply reply).failures, M id id) :
    EndParallel (α := α) strict M (x.refuseFor reply f handling)
      (x'.refuseFor reply f' handling') := by
  obtain ⟨M', hM, hid, hrecorded⟩ := h.record hf hh
  have hclosed := hrecorded.countClose
  refine .of_le hM ?_
  unfold refuseFor
  dsimp only
  cases hclose : reply.closeFailure with
  | none => exact hclosed.fails hid
  | some closing =>
      have hclosing := hreply closing (by simp [Answer.failures, hclose])
      exact hclosed.raiseAgain (hM _ _ hclosing) (.some hid)

theorem refuseMove_parallel (h : x.Parallel strict M x') (f : MoveFault) {reply : Reply}
    (hreply : ∀ id ∈ (Answer.reply reply).failures, M id id) :
    EndParallel (α := α) strict M (x.refuseMove reply f) (x'.refuseMove reply f) := by
  rcases hfaults : f.toFaults with ⟨fault, _ | handled⟩
  · rw [refuseMove_of_single hfaults, refuseMove_of_single hfaults]
    exact refuseFor_parallel h (.fault fault) .none hreply
  · rw [refuseMove_of_handled hfaults, refuseMove_of_handled hfaults]
    obtain ⟨M', hM, hid, hrecorded⟩ := h.record (.fault handled) .none
    refine .of_le hM (refuseFor_parallel hrecorded (.fault fault) (.some hid) ?_)
    exact fun id hreplied ↦ hM _ _ (hreply id hreplied)

theorem receive_parallel (h : x.Parallel strict M x') (sent : Request) {reply : Reply}
    (hreply : ∀ id ∈ (Answer.reply reply).failures, M id id) :
    EndParallel strict M (x.receive sent reply) (x'.receive sent reply) := by
  have hmove : ∀ location, x'.checkMove sent reply location = x.checkMove sent reply location := by
    intro location
    rw [checkMove, checkMove, h.target, h.network]
  unfold receive
  cases reply.location? with
  | none => exact h.returns reply
  | some location =>
      dsimp only
      rw [hmove]
      cases x.checkMove sent reply location with
      | ok _ => exact h.returns reply
      | error f => exact refuseMove_parallel h f hreply

theorem receiveFor_parallel (h : x.Parallel strict M x') (sent : Request) {reply : Reply}
    (hreply : ∀ id ∈ (Answer.reply reply).failures, M id id) :
    EndParallel strict M (x.receiveFor sent reply) (x'.receiveFor sent reply) := by
  unfold receiveFor
  cases listFields (charsetOf sent.fields) sent.fields with
  | error f => exact h.raiseFault f.toFault
  | ok _ => exact receive_parallel (h.keep sent.target reply) sent hreply

theorem transmit_parallel (h : x.Parallel strict M x') (r : Request) :
    EndParallel strict M (x.transmit r) (x'.transmit r) := by
  obtain ⟨fields, g, hb, rfl⟩ := h
  have hnetwork : (x.beside fields g).network = x.network := rfl
  unfold transmit
  rw [hnetwork]
  cases x.network.usable? with
  | none => exact hb.parallel.raiseFault _
  | some handle =>
      have hdelivered : Parallel strict M
          { x with network := x.network.deliver r.authorize handle.trust }
          { x.beside fields g with network := x.network.deliver r.authorize handle.trust } :=
        hb.kept rfl rfl fun id hid ↦ hid.imp_left Network.raises_of_deliver
      have hanswer : ∀ id ∈ x.network.script.next.failures, M id id :=
        fun id hid ↦ hb.raises id (.inl (.inl ⟨_, .inl rfl, hid⟩))
      dsimp only
      cases hnext : x.network.script.next with
      | refusal id => exact hdelivered.fails (hanswer id (by simp [hnext, Answer.failures]))
      | reply reply =>
          rw [hnext] at hanswer
          exact receiveFor_parallel hdelivered r.authorize hanswer

theorem finishConnect_parallel {r r' : Outcome Reply × Exchange} (h : EndParallel strict M r r')
    (shown : String) (hreply : ∀ reply, r.1 = .ok reply →
      ∀ id ∈ (Answer.reply reply).failures, M id id) :
    EndParallel strict M (finishConnect shown r) (finishConnect shown r') := by
  obtain ⟨M', hM, ⟨id, id', y, y', rfl, rfl, hid, hy⟩ | ⟨reply, y, y', rfl, rfl, hy⟩⟩ := h.cases
  · refine .of_le hM ?_
    unfold finishConnect
    dsimp only
    rw [hy.isHttpFailure hid, hy.failureEntries hid, hy.verb]
    refine endParallel_ite ?_ (hy.fails hid)
    have hlogged := hy.log .warning "devicelink.https.connect_failed"
      ([("method", .text y.verb.token), ("url", .text shown)] ++ y.failureEntries id)
    obtain ⟨M'', hM', ⟨closing, closing', z, z', hz, hz', hclosing, hclosed⟩ |
      ⟨a, z, z', hz, hz', hclosed⟩⟩ := (closeDuring_parallel hlogged (.some hid)).cases
    · simp only [hz, hz']
      exact .of_le hM' (hclosed.fails hclosing)
    · simp only [hz, hz']
      exact .of_le hM' (hclosed.fails (hM' _ _ hid))
  · obtain ⟨fields, g, hb, rfl⟩ := hy
    refine ⟨M', hM, .ok (), fields, g, ?_, rfl⟩
    refine ⟨hb.fields, hb.failures, fun id hid ↦ ?_⟩
    rcases hid with hnetwork | ⟨c, hc, hid⟩
    · exact hb.raises id (.inl hnetwork)
    · obtain rfl := Option.some.inj hc
      exact hM _ _ (hreply reply rfl id hid)

theorem logConnect_parallel (h : x.Parallel strict M x') (shown : String) :
    (x.logConnect shown).Parallel strict M (x'.logConnect shown) := by
  obtain ⟨fields, g, hb, rfl⟩ := h
  have hfields : (x.beside fields g).fields = fields := rfl
  refine ⟨fields.settled, g, ?_, ?_⟩
  · exact hb.of_kept le_rfl hb.fields.settled hb.failures fun _ hid ↦ hid
  · unfold logConnect
    rw [hfields, hb.fields.texts]
    rfl

theorem connect_parallel (h : x.Parallel strict M x') :
    EndParallel strict M x.connect x'.connect := by
  refine whileConfigured_parallel h _ fun _ ↦ ?_
  obtain ⟨fields, g, hb, rfl⟩ := h
  have hentries : (x.beside fields g).fields.entries = x.fields.entries := hb.fields.entries
  have hverb : (x.beside fields g).verb = x.verb := rfl
  have htarget : (x.beside fields g).target = x.target := rfl
  have hbody : (x.beside fields g).body = x.body := rfl
  have htimeout : (x.beside fields g).readTimeout = x.readTimeout := rfl
  have hnetwork : (x.beside fields g).network = x.network := rfl
  unfold connectConfigured
  rw [hentries, hverb, htarget, hbody, htimeout, hnetwork, hb.parallel.shownAddress]
  cases Request.build x.verb x.target x.fields.entries x.body x.readTimeout
    (x.network.cookies x.target) with
  | error e => exact hb.parallel.raiseFault _
  | ok request =>
      dsimp only
      cases x.shownAddress with
      | error e => exact hb.parallel.raiseFault _
      | ok shown =>
          have hlogged := logConnect_parallel hb.parallel shown
          refine finishConnect_parallel (transmit_parallel hlogged request) shown ?_
          intro reply hok id hid
          have hnext : x.network.script.next = .reply reply := by
            have hends := (x.logConnect shown).transmit_transmitting request
            rw [hok] at hends
            generalize ((x.logConnect shown).transmit request).2 = y at hends
            cases hends with
            | replied _ hnext => exact hnext
          exact hb.raises id (.inl (.inl ⟨_, .inl rfl, hnext ▸ hid⟩))

/-! ### Steps -/

theorem requestFields_parallel (h : x.Parallel strict M x') :
    EndParallel strict M x.requestFields x'.requestFields := by
  obtain ⟨fields, g, hb, rfl⟩ := h
  have hsettled : Parallel strict M { x with fields := x.fields.settled }
      { x.beside fields g with fields := fields.settled } :=
    ⟨fields.settled, g, hb.of_kept le_rfl hb.fields.settled hb.failures fun _ hid ↦ hid, rfl⟩
  have hfields : (x.beside fields g).fields = fields := rfl
  have hlisted := hb.fields.listed
  unfold requestFields
  dsimp only
  rw [hfields, Fields.entries_settled, Fields.entries_settled, hlisted]
  cases listFields x.fields.readingCharset x.fields.entries with
  | error f => exact hsettled.raiseFault f.toFault
  | ok listed => exact hsettled.returns listed

/-- Every operation ends in the same way on both sides, if a text beyond ASCII is refused on both of
them or on neither. -/
theorem step_parallel (h : x.Parallel strict M x') (o : Operation)
    (hnarrow : o.exceedsAscii = true → x'.isNarrow = x.isNarrow) :
    EndParallel strict M (x.step o) (x'.step o) := by
  cases o with
  | setVerb given => exact (setVerb_parallel h given).yielding _
  | setField name value =>
      refine EndParallel.yielding (setField_parallel h ?_) _
      cases hascii : allAscii name.toList && allAscii value.toList with
      | true => exact .inl rfl
      | false => exact .inr (hnarrow (by simp [Operation.exceedsAscii, hascii]))
  | setReadTimeout given => exact (setReadTimeout_parallel h given).yielding _
  | writeBody body => exact (writeBody_parallel h body).yielding _
  | setTlsContext context => exact (setTlsContext_parallel h context).yielding _
  | connect => exact (connect_parallel h).yielding _
  | readBody => exact (readBody_parallel h).yielding _
  | readErrorBody => exact (readErrorBody_parallel h).yielding _
  | status => exact (withReply_parallel h fun c _ ↦ h.returns c.reply.status).yielding _
  | replyFields => exact (withReply_parallel h fun c _ ↦ h.returns c.reply.groupedFields).yielding _
  | close => exact (closeDuring_parallel h .none).yielding _
  | requestFields => exact (requestFields_parallel h).yielding _
  | address =>
      obtain ⟨fields, g, hb, rfl⟩ := h
      exact hb.parallel.returns _

end Exchange

end SecureExchange
