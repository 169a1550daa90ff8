import SecureExchange.Exchange.Connect
import SecureExchange.Proofs.Exchange.Closing

/-!
# What connecting does

`Connecting` names the ways in which a connect of a configured exchange ends, with the exchange that
each of them leaves. A request reaches the peer in three of them: the exchange is connected
afterwards, or it is closed by a documented failure of the client, or it lapses, which leaves it
configured with its handle open.
-/

namespace SecureExchange

open Failure

theorem Failure.Graph.class?_record_fault (g : Graph) (f : Fault) (h : Option FailureId) :
    (g.record (.fault f) h).2.class? (g.record (.fault f) h).1 = some f.cls := by
  simp [Graph.record, Graph.class?, Graph.fault?, Failure.fault?]

/-- A request that cannot be built is no documented failure of the client. -/
theorem BuildFault.isHttpError_toFault (f : BuildFault) : f.toFault.cls.isHttpError = false := by
  rcases f with e | f | f
  · rfl
  · cases f <;> rfl
  · rfl

/-- A network after a request was handed over. Nothing of a reply may have been used, or the client
has kept what the reply asks for and its stream was released. -/
inductive Network.Delivered (n : Network) (r : Request) (h : Handle) : Network → Prop
  | unread : Delivered n r h (n.deliver r.authorize h.trust)
  | released {reply : Reply} (hnext : n.script.next = .reply reply) : Delivered n r h
      ((n.deliver r.authorize h.trust).keep r.target reply).countClose

namespace Exchange

variable {x : Exchange}

theorem raiseFault_class {α : Type} (x : Exchange) (f : Fault) :
    ∃ id j, x.raiseFault (α := α) f = (.error id, { x with journal := j }) ∧
      j.failures.class? id = some f.cls :=
  ⟨_, _, rfl, Graph.class?_record_fault x.journal.failures f none⟩

theorem raiseFault_eq {α : Type} (x : Exchange) {f : Fault} (hf : f.cls.isHttpError = false) :
    ∃ id j, isHttpFailure { x with journal := j } id = false ∧
      x.raiseFault (α := α) f = (.error id, { x with journal := j }) := by
  obtain ⟨id, j, hraise, hclass⟩ := x.raiseFault_class (α := α) f
  refine ⟨id, j, ?_, hraise⟩
  simp only [isHttpFailure, hclass, hf]

theorem refuseMove_eq {α : Type} (x : Exchange) (r : Reply) (f : MoveFault) :
    ∃ id j, x.refuseMove (α := α) r f
      = (.error id, { x with journal := j, network := x.network.countClose }) := by
  unfold refuseMove
  cases hclose : r.closeFailure with
  | none => exact ⟨_, _, rfl⟩
  | some closing => exact ⟨closing, _, rfl⟩

/-- A reply is taken in as it is, or refused; a refusal releases its stream. -/
theorem receive_eq (x : Exchange) (sent : Request) (r : Reply) :
    x.receive sent r = (.ok r, x) ∨
      ∃ id j, x.receive sent r
        = (.error id, { x with journal := j, network := x.network.countClose }) := by
  unfold receive
  split
  · exact .inl rfl
  · split
    · exact .inl rfl
    · exact .inr (x.refuseMove_eq r _)

/-- The client keeps what a reply asks for, unless the fields of the request cannot be listed. -/
theorem receiveFor_eq (x : Exchange) (sent : Request) (r : Reply) :
    (∃ id j, x.receiveFor sent r = (.error id, { x with journal := j })) ∨
      x.receiveFor sent r = { x with network := x.network.keep sent.target r }.receive sent r := by
  unfold receiveFor
  split
  · exact .inl ⟨_, _, rfl⟩
  · exact .inr rfl

/-- The ways in which handing a request to the current handle ends. -/
inductive Transmitting (x : Exchange) (r : Request) : Outcome Reply → Exchange → Prop
  | noHandle (id : FailureId) (j : Journal) (husable : x.network.usable? = none)
      (hfault : isHttpFailure { x with journal := j } id = false) :
      Transmitting x r (.error id) { x with journal := j }
  | failed {h : Handle} {n : Network} (id : FailureId) (j : Journal)
      (husable : x.network.usable? = some h) (hn : x.network.Delivered r h n) :
      Transmitting x r (.error id) { x with journal := j, network := n }
  | replied {h : Handle} {reply : Reply} (husable : x.network.usable? = some h)
      (hnext : x.network.script.next = .reply reply) :
      Transmitting x r (.ok reply) { x with
        network := (x.network.deliver r.authorize h.trust).keep r.target reply }

theorem transmit_transmitting (x : Exchange) (r : Request) :
    Transmitting x r (x.transmit r).1 (x.transmit r).2 := by
  cases hu : x.network.usable? with
  | none =>
      obtain ⟨id, j, hfault, h⟩ :=
        x.raiseFault_eq (α := Reply) (f := .closedClient) rfl
      rw [show x.transmit r = _ by simp only [transmit, hu]; exact h]
      exact .noHandle id j hu hfault
  | some handle =>
      cases hnext : x.network.script.next with
      | refusal id =>
          rw [show x.transmit r = _ by simp only [transmit, hu, hnext]; rfl]
          exact .failed id x.journal hu .unread
      | reply reply =>
          let y : Exchange := { x with network := x.network.deliver r.authorize handle.trust }
          have htransmit : x.transmit r = y.receiveFor r.authorize reply := by
            simp only [transmit, hu, hnext, y]
          rw [htransmit]
          rcases y.receiveFor_eq r.authorize reply with ⟨id, j, h⟩ | hlisted
          · rw [h]
            exact .failed id j hu .unread
          · rw [hlisted, Request.target_authorize]
            rcases receive_eq { y with network := y.network.keep r.target reply } r.authorize reply
              with h | ⟨id, j, h⟩
            · rw [h]
              exact .replied hu hnext
            · rw [h]
              exact .failed id j hu (.released hnext)

/-- What a configured exchange hands to the network, and over which handle. -/
structure Sends (x : Exchange) (r : Request) (h : Handle) : Prop where
  build : Request.build x.verb x.target x.fields.entries x.body x.readTimeout
    (x.network.cookies x.target) = .ok r
  shown : ∃ shown, x.shownAddress = .ok shown
  usable : x.network.usable? = some h

/-- The ways in which a connect of a configured exchange ends. -/
inductive Connecting (x : Exchange) : Outcome Unit → Exchange → Prop
  | notBuilt (id : FailureId) (j : Journal) (hsends : ∀ r h, ¬ x.Sends r h)
      (hfault : isHttpFailure { x with journal := j } id = false) :
      Connecting x (.error id) { x with journal := j }
  | noHandle (id : FailureId) (j : Journal) (husable : x.network.usable? = none)
      (hfault : isHttpFailure { x with journal := j } id = false) :
      Connecting x (.error id) { x with fields := x.fields.settled, journal := j }
  | lapsed {r : Request} {h : Handle} {n : Network} (id : FailureId) (j : Journal)
      (hsends : x.Sends r h) (hn : x.network.Delivered r h n)
      (hfault : isHttpFailure { x with journal := j } id = false) :
      Connecting x (.error id) { x with
        fields := x.fields.settled
        network := n
        journal := j }
  | failed {r : Request} {h : Handle} {n : Network} (id : FailureId) (j : Journal)
      (hsends : x.Sends r h) (hn : x.network.Delivered r h n)
      (hfault : isHttpFailure { x with journal := j } id = true) :
      Connecting x (.error id) { x with
        fields := x.fields.settled
        network := n.closeHandle
        phase := .closed
        journal := j }
  | connected {r : Request} {h : Handle} {reply : Reply} (j : Journal) (hsends : x.Sends r h)
      (hnext : x.network.script.next = .reply reply) :
      Connecting x (.ok ()) { x with
        fields := x.fields.settled
        network := (x.network.deliver r.authorize h.trust).keep r.target reply
        phase := .connected
        channel := some ⟨reply, false⟩
        journal := j }

/-- A documented failure of the client closes the exchange. -/
theorem finishConnect_of_httpFailure {id : FailureId} (hchannel : x.channel = none)
    (hfault : x.isHttpFailure id = true) (shown : String) :
    ∃ j, isHttpFailure { x with journal := j } id = true ∧
      finishConnect shown (.error id, x) = (.error id, { x with
        network := x.network.closeHandle, phase := .closed, journal := j }) := by
  let y := x.log .warning "devicelink.https.connect_failed"
    ([("method", .text x.verb.token), ("url", .text shown)] ++ x.failureEntries id)
  have hreleased : y.StreamReleased := by
    intro c hc
    exact absurd (hchannel.symm.trans hc) (by simp)
  refine ⟨y.journal, hfault, ?_⟩
  simp only [finishConnect, hfault, if_true]
  rw [show y.closeDuring (some id) = _ from closeDuring_of_released hreleased _]
  rfl

theorem finishConnect_of_otherFailure {id : FailureId} (hfault : x.isHttpFailure id = false)
    (shown : String) : finishConnect shown (.error id, x) = (.error id, x) := by
  simp [finishConnect, hfault]

theorem connectConfigured_connecting (hchannel : x.channel = none) :
    Connecting x x.connectConfigured.1 x.connectConfigured.2 := by
  cases hbuild : Request.build x.verb x.target x.fields.entries x.body x.readTimeout
      (x.network.cookies x.target) with
  | error f =>
      obtain ⟨id, j, hfault, h⟩ := x.raiseFault_eq (α := Unit) f.isHttpError_toFault
      rw [show x.connectConfigured = _ by simp only [connectConfigured, hbuild]; exact h]
      refine .notBuilt id j (fun r handle hsends ↦ ?_) hfault
      simpa [hbuild] using hsends.build
  | ok r =>
      cases hshown : x.shownAddress with
      | error e =>
          obtain ⟨id, j, hfault, h⟩ := x.raiseFault_eq (α := Unit) (f := e.toFault) rfl
          rw [show x.connectConfigured = _ by
            simp only [connectConfigured, hbuild, hshown]; exact h]
          refine .notBuilt id j (fun r handle hsends ↦ ?_) hfault
          obtain ⟨shown, hok⟩ := hsends.shown
          simp [hshown] at hok
      | ok shown =>
          have hconnect : x.connectConfigured
              = finishConnect shown ((x.logConnect shown).transmit r) := by
            simp only [connectConfigured, hbuild, hshown]
          have htransmit := transmit_transmitting (x.logConnect shown) r
          generalize hz : (x.logConnect shown).transmit r = z at htransmit hconnect
          obtain ⟨outcome, z⟩ := z
          rw [hconnect]
          cases htransmit with
          | noHandle id j husable hfault =>
              rw [finishConnect_of_otherFailure
                (x := { x.logConnect shown with journal := j }) hfault]
              exact .noHandle id j husable hfault
          | @failed h n id j husable hn =>
              cases hfault : isHttpFailure { x with journal := j } id with
              | false =>
                  rw [finishConnect_of_otherFailure
                    (x := { x.logConnect shown with journal := j, network := n }) hfault]
                  exact .lapsed id j ⟨hbuild, ⟨shown, hshown⟩, husable⟩ hn hfault
              | true =>
                  obtain ⟨j', hfault', h⟩ := finishConnect_of_httpFailure
                    (x := { x.logConnect shown with journal := j, network := n }) hchannel
                    hfault shown
                  rw [h]
                  exact .failed id j' ⟨hbuild, ⟨shown, hshown⟩, husable⟩ hn hfault'
          | replied husable hnext => exact .connected _ ⟨hbuild, ⟨shown, hshown⟩, husable⟩ hnext

end Exchange

end SecureExchange
