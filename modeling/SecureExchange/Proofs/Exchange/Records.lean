import SecureExchange.Proofs.Exchange.SecretRuns

/-!
# Failures stay recorded

Failures are recorded one after the other, and what is recorded is never taken back: a later
operation may link it to other failures, but its place and its content stay. So a failure that the
peer may cause keeps its class throughout a run.
-/

namespace SecureExchange

open Failure

namespace Failure.Graph

/-- Every failure is still recorded, at the same place. -/
structure Grows (g g' : Graph) : Prop where
  recorded : ∀ (id : FailureId) (n : Incident), g[id]? = some n →
    ∃ n' : Incident, g'[id]? = some n' ∧ n'.failure = n.failure

variable {g g' g'' : Graph} {id : FailureId}

theorem Grows.refl (g : Graph) : g.Grows g := ⟨fun _ n h ↦ ⟨n, h, rfl⟩⟩

theorem Grows.trans (h : g.Grows g') (h' : g'.Grows g'') : g.Grows g'' := by
  refine ⟨fun id n hn ↦ ?_⟩
  obtain ⟨n', hn', hfailure⟩ := h.recorded id n hn
  obtain ⟨n'', hn'', hfailure'⟩ := h'.recorded id n' hn'
  exact ⟨n'', hn'', hfailure'.trans hfailure⟩

theorem grows_record (g : Graph) (f : Failure) (handling : Option FailureId) :
    g.Grows (g.record f handling).2 := by
  refine ⟨fun id n hn ↦ ?_⟩
  obtain ⟨hid, _⟩ := List.getElem?_eq_some_iff.mp hn
  exact ⟨n, (getElem?_record_of_lt hid f handling).trans hn, rfl⟩

theorem grows_modify (g : Graph) {f : Incident → Incident} (hf : ∀ n, (f n).failure = n.failure)
    (id : FailureId) : Grows g (List.modify g id f) := by
  refine ⟨fun id' n hn ↦ ?_⟩
  rw [List.getElem?_modify]
  by_cases h : id = id'
  · exact ⟨f n, by simp [h, hn], hf n⟩
  · exact ⟨n, by simp [h, hn], rfl⟩

theorem grows_handleDuring (g : Graph) (id : FailureId) (handling : Option FailureId) :
    g.Grows (g.handleDuring id handling) := by
  unfold handleDuring
  split
  · exact .refl g
  · split
    · exact .refl g
    · exact grows_modify g (fun n ↦ by rfl) id

theorem grows_declareCause (g : Graph) (id cause : FailureId) :
    g.Grows (g.declareCause id cause) :=
  grows_modify g (fun n ↦ by rfl) id

theorem Grows.class? (h : g.Grows g') {c : FaultClass} (hc : g.class? id = some c) :
    g'.class? id = some c := by
  unfold Graph.class? fault? at hc ⊢
  cases hn : g[id]? with
  | none => simp [hn] at hc
  | some n =>
      obtain ⟨n', hn', hfailure⟩ := h.recorded id n hn
      rw [hn']
      simpa [hn, hfailure] using hc

end Failure.Graph

namespace Exchange

/-- What was recorded before an operation is recorded after it. -/
def KeepsRecord {α : Type} (x : Exchange) (r : Outcome α × Exchange) : Prop :=
  x.journal.failures.Grows r.2.journal.failures

section Operations

variable {α β : Type} {x y : Exchange} {r : Outcome α × Exchange}

theorem keepsRecord_of_journal (outcome : Outcome α) (h : y.journal = x.journal) :
    KeepsRecord x (outcome, y) := by
  unfold KeepsRecord
  rw [h]
  exact .refl _

theorem keepsRecord_ite {c : Prop} [Decidable c] {r' : Outcome α × Exchange}
    (h : KeepsRecord x r) (h' : KeepsRecord x r') : KeepsRecord x (if c then r else r') := by
  split
  · exact h
  · exact h'

theorem keepsRecord_raise (x : Exchange) (f : Failure) (handling : Option FailureId) :
    KeepsRecord x (x.raise (α := α) f handling) :=
  Graph.grows_record _ f handling

theorem keepsRecord_raiseFault (x : Exchange) (f : Fault) :
    KeepsRecord x (x.raiseFault (α := α) f) :=
  x.keepsRecord_raise _ none

theorem keepsRecord_refuse (x : Exchange) (cls : ErrorClass) (message : String)
    (details : OrderedMap String Datum) :
    KeepsRecord x (x.refuse (α := α) cls message details) :=
  x.keepsRecord_raise _ none

theorem keepsRecord_raiseAgain (x : Exchange) (id : FailureId) (handling : Option FailureId) :
    KeepsRecord x (x.raiseAgain (α := α) id handling) :=
  Graph.grows_handleDuring _ id handling

theorem keepsRecord_whileConfigured (operation : String) {go : Exchange → Outcome α × Exchange}
    (hgo : KeepsRecord x (go x)) : KeepsRecord x (x.whileConfigured operation go) :=
  keepsRecord_ite hgo (x.keepsRecord_refuse ..)

/-! ### Setters -/

theorem keepsRecord_setVerb (x : Exchange) (given : Datum) : KeepsRecord x (x.setVerb given) := by
  refine keepsRecord_whileConfigured _ ?_
  cases hverb : Verb.ofDatum? given with
  | none =>
      obtain ⟨f, e, e', heq⟩ := setVerbConfigured_of_none hverb
      rw [heq x]
      let n := x.journal.failures.length
      let bare := x.raise (α := Unit) (.fault f) none
      let wrapped := bare.2.raise (α := Unit) (.classified (e n)) (some n)
      have hbare : KeepsRecord x bare := x.keepsRecord_raise ..
      have hwrapped : KeepsRecord bare.2 wrapped := bare.2.keepsRecord_raise ..
      exact (Graph.Grows.trans hbare hwrapped).trans (wrapped.2.keepsRecord_raise ..)
  | some verb =>
      simp only [setVerbConfigured, hverb]
      exact keepsRecord_ite (x.keepsRecord_refuse ..) (keepsRecord_of_journal _ rfl)

theorem keepsRecord_setField (x : Exchange) (name value : String) :
    KeepsRecord x (x.setField name value) := by
  refine keepsRecord_whileConfigured _ ?_
  cases x.fields.set name value with
  | error e => exact x.keepsRecord_raiseFault _
  | ok fields => exact keepsRecord_of_journal _ rfl

theorem keepsRecord_setReadTimeout (x : Exchange) (given : Number) :
    KeepsRecord x (x.setReadTimeout given) := by
  unfold setReadTimeout
  cases readTimeoutOf given with
  | error f => exact x.keepsRecord_raise _ none
  | ok seconds =>
      exact keepsRecord_ite (keepsRecord_of_journal _ rfl) (.refl x.journal.failures)

theorem keepsRecord_writeBody (x : Exchange) (body : Octets) :
    KeepsRecord x (x.writeBody body) := by
  refine keepsRecord_whileConfigured _ (keepsRecord_ite (keepsRecord_of_journal _ rfl) ?_)
  exact keepsRecord_ite (keepsRecord_of_journal _ rfl) (x.keepsRecord_refuse ..)

theorem grows_recordOpenFailure (target : Address.Target) (id : FailureId) (j : Journal) :
    j.failures.Grows (recordOpenFailure target id j).2.failures := by
  unfold recordOpenFailure
  split
  · split
    · split <;> exact Graph.grows_record ..
    · exact .refl _
  · exact .refl _

theorem keepsRecord_setTlsContext (x : Exchange) (context : Option String) :
    KeepsRecord x (x.setTlsContext context) := by
  cases context with
  | none => exact x.keepsRecord_refuse ..
  | some context =>
      refine keepsRecord_whileConfigured _ (keepsRecord_ite (x.keepsRecord_refuse ..) ?_)
      unfold reopen
      split
      · exact keepsRecord_of_journal _ rfl
      · exact grows_recordOpenFailure ..

/-! ### Closing and reading -/

theorem keepsRecord_closeChannel (x : Exchange) (handling : Option FailureId) :
    KeepsRecord x (x.closeChannel handling) := by
  unfold closeChannel
  cases x.channel with
  | none => exact keepsRecord_of_journal _ rfl
  | some c =>
      refine keepsRecord_ite (keepsRecord_of_journal _ rfl) ?_
      cases c.reply.closeFailure with
      | none => exact keepsRecord_of_journal _ rfl
      | some id => exact keepsRecord_raiseAgain (α := Unit) _ id handling

theorem keepsRecord_closeDuring (x : Exchange) (handling : Option FailureId) :
    KeepsRecord x (x.closeDuring handling) := by
  have hchannel := x.keepsRecord_closeChannel handling
  unfold closeDuring
  split
  · next heq => rwa [heq] at hchannel
  · next heq =>
      rw [heq] at hchannel
      exact hchannel

theorem keepsRecord_raiseFromStream (x : Exchange) (id : FailureId) :
    KeepsRecord x (x.raiseFromStream (α := α) id) :=
  keepsRecord_ite ((Graph.grows_record ..).trans (Graph.grows_declareCause ..))
    (keepsRecord_of_journal _ rfl)

theorem keepsRecord_raiseUndecodable (x : Exchange) (text : String) :
    KeepsRecord x (x.raiseUndecodable (α := α) text) :=
  ((Graph.grows_record ..).trans (Graph.grows_record ..)).trans (Graph.grows_declareCause ..)

theorem keepsRecord_readChannel (x : Exchange) (c : Channel) :
    KeepsRecord x (x.readChannel c) := by
  refine keepsRecord_ite (x.keepsRecord_raiseFault _) ?_
  have hclose := x.keepsRecord_closeChannel none
  split
  · exact x.keepsRecord_raiseUndecodable _
  · split
    · exact x.keepsRecord_raiseFromStream _
    · split
      · next heq =>
          rw [heq] at hclose
          exact Graph.Grows.trans hclose (keepsRecord_raiseFromStream ..)
      · next heq => rwa [heq] at hclose

theorem keepsRecord_drain (x : Exchange) (c : Channel) : KeepsRecord x (x.drain c) := by
  refine keepsRecord_ite (x.keepsRecord_raiseFault _) ?_
  have hread := x.keepsRecord_readChannel c
  generalize x.readChannel c = z at hread
  obtain ⟨outcome, y⟩ := z
  have hclose := keepsRecord_closeDuring { y with isDrained := true } (failure? outcome)
  dsimp only
  split
  · next heq =>
      rw [heq] at hclose
      exact Graph.Grows.trans hread hclose
  · next heq =>
      rw [heq] at hclose
      exact Graph.Grows.trans hread hclose

theorem keepsRecord_withReply {go : Channel → Outcome α × Exchange}
    (hgo : ∀ c, KeepsRecord x (go c)) : KeepsRecord x (x.withReply go) := by
  unfold withReply
  split
  · exact hgo _
  · split <;> exact x.keepsRecord_raiseFault _

theorem keepsRecord_refuseError (x : Exchange) (r : Reply) :
    KeepsRecord x (x.refuseError (α := α) r) := by
  unfold refuseError
  split <;> exact x.keepsRecord_raiseFault _

theorem keepsRecord_readBody (x : Exchange) : KeepsRecord x x.readBody :=
  keepsRecord_withReply fun c ↦
    keepsRecord_ite (x.keepsRecord_refuseError c.reply) (x.keepsRecord_drain c)

theorem keepsRecord_readErrorBody (x : Exchange) : KeepsRecord x x.readErrorBody := by
  unfold readErrorBody
  split
  · exact keepsRecord_of_journal _ rfl
  · exact keepsRecord_ite (x.keepsRecord_drain _) (keepsRecord_of_journal _ rfl)

/-! ### Connecting -/

theorem keepsRecord_refuseFor (x : Exchange) (r : Reply) (f : Failure)
    (handling : Option FailureId) : KeepsRecord x (x.refuseFor (α := α) r f handling) := by
  let recorded := x.journal.failures.record f handling
  have hrecord : x.journal.failures.Grows recorded.2 := Graph.grows_record ..
  unfold refuseFor
  cases r.closeFailure with
  | none => exact hrecord
  | some closing =>
      exact hrecord.trans (Graph.grows_handleDuring recorded.2 closing (some recorded.1))

theorem keepsRecord_refuseMove (x : Exchange) (r : Reply) (f : MoveFault) :
    KeepsRecord x (x.refuseMove (α := α) r f) := by
  rcases hfaults : f.toFaults with ⟨g, _ | handled⟩
  · rw [refuseMove_of_single hfaults]
    exact x.keepsRecord_refuseFor ..
  · rw [refuseMove_of_handled hfaults]
    have hhandled := x.keepsRecord_raise (α := α) (.fault handled) none
    exact Graph.Grows.trans hhandled (keepsRecord_refuseFor (α := α) _ r (.fault g) _)

theorem keepsRecord_receive (x : Exchange) (sent : Request) (r : Reply) :
    KeepsRecord x (x.receive sent r) := by
  unfold receive
  split
  · exact keepsRecord_of_journal _ rfl
  · split
    · exact keepsRecord_of_journal _ rfl
    · exact x.keepsRecord_refuseMove ..

theorem keepsRecord_receiveFor (x : Exchange) (sent : Request) (r : Reply) :
    KeepsRecord x (x.receiveFor sent r) := by
  unfold receiveFor
  split
  · exact x.keepsRecord_raiseFault _
  · exact keepsRecord_receive { x with network := x.network.keep sent.target r } sent r

theorem keepsRecord_transmit (x : Exchange) (r : Request) : KeepsRecord x (x.transmit r) := by
  unfold transmit
  split
  · exact x.keepsRecord_raiseFault _
  · dsimp only
    split
    · exact keepsRecord_of_journal _ rfl
    · next handle _ _ reply _ =>
        exact keepsRecord_receiveFor
          { x with network := x.network.deliver r.authorize handle.trust } r.authorize reply

theorem grows_of_closeDuring {handling : Option FailureId} {outcome : Outcome Unit}
    (h : x.closeDuring handling = (outcome, y)) :
    x.journal.failures.Grows y.journal.failures := by
  have hkept := x.keepsRecord_closeDuring handling
  rw [h] at hkept
  exact hkept

theorem keepsRecord_finishConnect {r : Outcome Reply × Exchange} (h : KeepsRecord x r)
    (shown : String) : KeepsRecord x (finishConnect shown r) := by
  obtain ⟨outcome, y⟩ := r
  cases outcome with
  | ok reply => exact h
  | error id =>
      unfold finishConnect
      refine keepsRecord_ite ?_ h
      dsimp only
      split
      · next hclose =>
          have hgrows := grows_of_closeDuring hclose
          exact Graph.Grows.trans h hgrows
      · next hclose =>
          have hgrows := grows_of_closeDuring hclose
          exact Graph.Grows.trans h hgrows

theorem keepsRecord_connect (x : Exchange) : KeepsRecord x x.connect := by
  refine keepsRecord_whileConfigured _ ?_
  unfold connectConfigured
  split
  · exact x.keepsRecord_raiseFault _
  · split
    · exact x.keepsRecord_raiseFault _
    · exact keepsRecord_finishConnect (keepsRecord_transmit (x.logConnect _) _) _

theorem keepsRecord_requestFields (x : Exchange) : KeepsRecord x x.requestFields := by
  unfold requestFields
  dsimp only
  split
  · exact keepsRecord_raiseFault (α := List (String × String)) ..
  · exact keepsRecord_of_journal _ rfl

end Operations

/-! ### Runs -/

variable {x : Exchange}

/-- A start that succeeds records nothing. -/
theorem start_journal {p : Proposal} {n : Network} {j : Journal} {unredacted : Bool}
    (h : start p n j unredacted = .ok x) : x.journal = j := by
  have hstarted := start_started h
  simp only [start, hstarted.target, hstarted.verb, hstarted.readTimeout, hstarted.opened,
    Except.ok.injEq] at h
  rw [← h]

theorem step_keepsRecord (x : Exchange) (o : Operation) : KeepsRecord x (x.step o) := by
  cases o with
  | setVerb given => exact x.keepsRecord_setVerb given
  | setField name value => exact x.keepsRecord_setField name value
  | setReadTimeout given => exact x.keepsRecord_setReadTimeout given
  | writeBody body => exact x.keepsRecord_writeBody body
  | setTlsContext context => exact x.keepsRecord_setTlsContext context
  | connect => exact x.keepsRecord_connect
  | readBody => exact x.keepsRecord_readBody
  | readErrorBody => exact x.keepsRecord_readErrorBody
  | status => exact keepsRecord_withReply (α := Int) fun _ ↦ keepsRecord_of_journal _ rfl
  | replyFields =>
      exact keepsRecord_withReply (α := OrderedMap String (List String)) fun _ ↦
        keepsRecord_of_journal _ rfl
  | close => exact x.keepsRecord_closeDuring none
  | requestFields => exact x.keepsRecord_requestFields
  | address => exact keepsRecord_of_journal _ rfl

theorem run_grows (x : Exchange) (os : List Operation) :
    x.journal.failures.Grows (x.run os).journal.failures := by
  induction os generalizing x with
  | nil => exact .refl _
  | cons o rest ih => exact Graph.Grows.trans (x.step_keepsRecord o) (ih _)

end Exchange

end SecureExchange
