import SecureExchange.Exchange.Channel

/-!
# What closing and reading do

Closing releases the stream and then the handle. `Closing` and `Draining` name every way in which
`closeDuring` and a first `drain` can end, with the exchange that each of them leaves.
-/

namespace SecureExchange

open Failure

/-- The reading of the reply ends before its stream is closed. -/
def Client.interrupts (k : Client) (r : Reply) : Bool :=
  !(k.content r).isOk || r.readFailure.isSome

namespace Exchange

variable {α : Type} {x : Exchange}

/-- The outcome is a failure, and nothing but the journal has changed. -/
def OnlyFails (x : Exchange) (r : Outcome α × Exchange) : Prop :=
  ∃ id j, r = (.error id, { x with journal := j })

theorem raise_onlyFails (x : Exchange) (f : Failure) (h : Option FailureId) :
    OnlyFails x (x.raise (α := α) f h) := ⟨_, _, rfl⟩

theorem raiseFault_onlyFails (x : Exchange) (f : Fault) :
    OnlyFails x (x.raiseFault (α := α) f) := ⟨_, _, rfl⟩

theorem refuse_onlyFails (x : Exchange) (cls : ErrorClass) (message : String)
    (details : OrderedMap String Datum) :
    OnlyFails x (x.refuse (α := α) cls message details) := ⟨_, _, rfl⟩

theorem raiseFromStream_onlyFails (x : Exchange) (id : FailureId) :
    OnlyFails x (x.raiseFromStream (α := α) id) := by
  unfold raiseFromStream
  split
  · exact ⟨_, _, rfl⟩
  · exact ⟨id, x.journal, rfl⟩

theorem raiseUndecodable_onlyFails (x : Exchange) (text : String) :
    OnlyFails x (x.raiseUndecodable (α := α) text) := ⟨_, _, rfl⟩

theorem whileConfigured_onlyFails (h : x.phase ≠ .configured) (operation : String)
    (go : Exchange → Outcome α × Exchange) : OnlyFails x (x.whileConfigured operation go) := by
  rw [whileConfigured, if_neg h]
  exact x.refuse_onlyFails ..

/-- There is no stream that could be released. -/
def StreamReleased (x : Exchange) : Prop := ∀ c, x.channel = some c → c.isClosed = true

theorem closeChannel_of_released (h : x.StreamReleased) (handling : Option FailureId) :
    x.closeChannel handling = (.ok (), x) := by
  cases hc : x.channel with
  | none => exact closeChannel_of_none hc handling
  | some c => simp [closeChannel, hc, h c hc]

theorem closeChannel_of_open {c : Channel} (hc : x.channel = some c) (ho : c.isClosed = false)
    (hf : c.reply.closeFailure = none) (handling : Option FailureId) :
    x.closeChannel handling = (.ok (), { x with
      channel := some { c with isClosed := true }
      network := x.network.countClose }) := by
  simp [closeChannel, hc, ho, hf]

theorem closeChannel_of_failing {c : Channel} {id : FailureId} (hc : x.channel = some c)
    (ho : c.isClosed = false) (hf : c.reply.closeFailure = some id)
    (handling : Option FailureId) :
    ∃ j, x.closeChannel handling = (.error id, { x with
      channel := some { c with isClosed := true }
      network := x.network.countClose
      journal := j }) := by
  refine ⟨{ x.journal with failures := x.journal.failures.handleDuring id handling }, ?_⟩
  simp [closeChannel, hc, ho, hf, raiseAgain]

theorem closeDuring_of_ok {y : Exchange} {handling : Option FailureId}
    (h : x.closeChannel handling = (.ok (), y)) :
    x.closeDuring handling
      = (.ok (), { y with network := y.network.closeHandle, phase := .closed }) := by
  simp [closeDuring, h]

theorem closeDuring_of_error {y : Exchange} {handling : Option FailureId} {id : FailureId}
    (h : x.closeChannel handling = (.error id, y)) :
    x.closeDuring handling = (.error id, y) := by
  simp [closeDuring, h]

theorem closeDuring_of_released (h : x.StreamReleased) (handling : Option FailureId) :
    x.closeDuring handling
      = (.ok (), { x with network := x.network.closeHandle, phase := .closed }) :=
  closeDuring_of_ok (closeChannel_of_released h handling)

/-- The ways in which closing ends. A stream that fails to close keeps handle and phase. -/
inductive Closing (x : Exchange) : Outcome Unit → Exchange → Prop
  | handleClosed (hstream : x.StreamReleased) :
      Closing x (.ok ()) { x with network := x.network.closeHandle, phase := .closed }
  | bothClosed {c : Channel} (hchannel : x.channel = some c) (hopen : c.isClosed = false)
      (hfailure : c.reply.closeFailure = none) :
      Closing x (.ok ()) { x with
        channel := some { c with isClosed := true }
        network := x.network.countClose.closeHandle
        phase := .closed }
  | streamFailed {c : Channel} {id : FailureId} (j : Journal) (hchannel : x.channel = some c)
      (hopen : c.isClosed = false) (hfailure : c.reply.closeFailure = some id) :
      Closing x (.error id) { x with
        channel := some { c with isClosed := true }
        network := x.network.countClose
        journal := j }

theorem closeDuring_closing (x : Exchange) (handling : Option FailureId) :
    Closing x (x.closeDuring handling).1 (x.closeDuring handling).2 := by
  by_cases hreleased : x.StreamReleased
  · rw [closeDuring_of_released hreleased]
    exact .handleClosed hreleased
  · obtain ⟨c, hc, ho⟩ : ∃ c, x.channel = some c ∧ c.isClosed = false := by
      simpa [StreamReleased] using hreleased
    cases hf : c.reply.closeFailure with
    | none =>
        rw [closeDuring_of_ok (closeChannel_of_open hc ho hf handling)]
        exact .bothClosed hc ho hf
    | some id =>
        obtain ⟨j, hclose⟩ := closeChannel_of_failing hc ho hf handling
        rw [closeDuring_of_error hclose]
        exact .streamFailed j hc ho hf

/-- The ways in which the first attempt to read the stream `c` ends. Only if reading and then
closing the stream both fail do handle and phase stay as they are. -/
inductive Draining (x : Exchange) (c : Channel) : Outcome Octets → Exchange → Prop
  | read {content : Octets} (hopen : c.isClosed = false)
      (hcontent : x.network.script.client.content c.reply = .ok content)
      (hread : c.reply.readFailure = none) (hclose : c.reply.closeFailure = none) :
      Draining x c (.ok content) { x with
        channel := some { c with isClosed := true }
        isDrained := true
        network := x.network.countClose.closeHandle
        phase := .closed }
  | closedBefore (id : FailureId) (j : Journal) (hclosed : c.isClosed = true) :
      Draining x c (.error id) { x with
        isDrained := true
        network := x.network.closeHandle
        phase := .closed
        journal := j }
  | failedOnce (id : FailureId) (j : Journal) (hopen : c.isClosed = false)
      (hone : x.network.script.client.interrupts c.reply = !c.reply.closeFailure.isSome) :
      Draining x c (.error id) { x with
        channel := some { c with isClosed := true }
        isDrained := true
        network := x.network.countClose.closeHandle
        phase := .closed
        journal := j }
  | failedTwice (id : FailureId) (j : Journal) (hopen : c.isClosed = false)
      (hread : x.network.script.client.interrupts c.reply = true)
      (hclose : c.reply.closeFailure.isSome = true) :
      Draining x c (.error id) { x with
        channel := some { c with isClosed := true }
        isDrained := true
        network := x.network.countClose
        journal := j }

theorem released_of_closed {c : Channel} (hc : x.channel = some c) (ho : c.isClosed = true) :
    x.StreamReleased := by
  intro c' hc'
  obtain rfl : c = c' := Option.some.inj (hc.symm.trans hc')
  exact ho

theorem drain_of_close {c : Channel} {outcome : Outcome Octets} {y z : Exchange}
    (hd : x.isDrained = false) (hread : x.readChannel c = (outcome, y))
    (hclose : { y with isDrained := true }.closeDuring (failure? outcome) = (.ok (), z)) :
    x.drain c = (outcome, z) := by
  simp [drain, hd, hread, hclose]

theorem drain_of_close_error {c : Channel} {outcome : Outcome Octets} {y z : Exchange}
    {id : FailureId} (hd : x.isDrained = false) (hread : x.readChannel c = (outcome, y))
    (hclose : { y with isDrained := true }.closeDuring (failure? outcome) = (.error id, z)) :
    x.drain c = (.error id, z) := by
  simp [drain, hd, hread, hclose]

theorem readChannel_of_closed {c : Channel} (ho : c.isClosed = true) :
    OnlyFails x (x.readChannel c) := by
  rw [readChannel, if_pos ho]
  exact x.raiseFault_onlyFails .streamClosed

theorem interrupts_eq_false_iff {k : Client} {r : Reply} :
    k.interrupts r = false ↔ (∃ content, k.content r = .ok content) ∧ r.readFailure = none := by
  cases hcontent : k.content r <;> simp [Client.interrupts, hcontent, Except.isOk, Except.toBool]

theorem readChannel_of_interrupted {c : Channel} (ho : c.isClosed = false)
    (hr : x.network.script.client.interrupts c.reply = true) : OnlyFails x (x.readChannel c) := by
  cases hcontent : x.network.script.client.content c.reply with
  | error text => simpa [readChannel, ho, hcontent] using x.raiseUndecodable_onlyFails text
  | ok content =>
      obtain ⟨failure, hfailure⟩ : ∃ failure, c.reply.readFailure = some failure := by
        simpa [Client.interrupts, hcontent, Except.isOk, Except.toBool,
          Option.isSome_iff_exists] using hr
      simpa [readChannel, ho, hcontent, hfailure] using x.raiseFromStream_onlyFails failure

/-- After the last chunk the stream is closed, and a failure to close it ends the reading. -/
theorem readChannel_of_chunks {c : Channel} {content : Octets} (hc : x.channel = some c)
    (ho : c.isClosed = false) (hcontent : x.network.script.client.content c.reply = .ok content)
    (hr : c.reply.readFailure = none) :
    ∃ outcome j, (c.reply.closeFailure = none → outcome = .ok content ∧ j = x.journal) ∧
      (c.reply.closeFailure.isSome = true → ∃ id, outcome = .error id) ∧
      x.readChannel c = (outcome, { x with
        channel := some { c with isClosed := true }
        network := x.network.countClose
        journal := j }) := by
  cases hf : c.reply.closeFailure with
  | none =>
      refine ⟨.ok content, x.journal, by simp, by simp, ?_⟩
      simp [readChannel, ho, hcontent, hr, closeChannel_of_open hc ho hf]
  | some failure =>
      obtain ⟨j, hclose⟩ := closeChannel_of_failing hc ho hf none
      obtain ⟨id, j', hfail⟩ := raiseFromStream_onlyFails (α := Octets) { x with
        channel := some { c with isClosed := true }
        network := x.network.countClose
        journal := j } failure
      refine ⟨.error id, j', by simp, by simp, ?_⟩
      simp [readChannel, ho, hcontent, hr, hclose, hfail]

theorem drain_draining {c : Channel} (hc : x.channel = some c) (hd : x.isDrained = false) :
    Draining x c (x.drain c).1 (x.drain c).2 := by
  cases ho : c.isClosed with
  | true =>
      obtain ⟨id, j, hread⟩ := readChannel_of_closed (x := x) ho
      have hreleased : StreamReleased { x with journal := j, isDrained := true } :=
        released_of_closed (x := { x with journal := j, isDrained := true }) hc ho
      rw [drain_of_close hd hread (closeDuring_of_released hreleased _)]
      exact .closedBefore id j ho
  | false =>
      cases hinterrupts : x.network.script.client.interrupts c.reply with
      | false =>
          obtain ⟨⟨content, hcontent⟩, hr⟩ := interrupts_eq_false_iff.mp hinterrupts
          obtain ⟨outcome, j, hok, herror, hread⟩ := readChannel_of_chunks hc ho hcontent hr
          rw [drain_of_close hd hread
            (closeDuring_of_released (released_of_closed rfl rfl) _)]
          cases hf : c.reply.closeFailure with
          | none =>
              obtain ⟨rfl, rfl⟩ := hok hf
              exact .read ho hcontent hr hf
          | some failure =>
              obtain ⟨id, rfl⟩ := herror (by simp [hf])
              exact .failedOnce id j ho (by simp [hinterrupts, hf])
      | true =>
          obtain ⟨id, j, hread⟩ := readChannel_of_interrupted (x := x) ho hinterrupts
          have hclosing := closeDuring_closing { x with journal := j, isDrained := true } (some id)
          generalize hz : Exchange.closeDuring { x with journal := j, isDrained := true } (some id)
            = z at hclosing
          obtain ⟨closing, z⟩ := z
          cases hclosing with
          | handleClosed hstream => exact absurd (hstream c hc) (by simp [ho])
          | bothClosed hchannel hopen hf =>
              obtain rfl := Option.some.inj (hc.symm.trans hchannel)
              rw [drain_of_close hd hread hz]
              exact .failedOnce id j ho (by simp [hinterrupts, hf])
          | streamFailed j' hchannel hopen hf =>
              obtain rfl := Option.some.inj (hc.symm.trans hchannel)
              rw [drain_of_close_error hd hread hz]
              exact .failedTwice _ j' ho hinterrupts (by simp [hf])

end Exchange

end SecureExchange
