import Mathlib.Data.List.Induction
import SecureExchange.Proofs.Exchange.Reading
import SecureExchange.Proofs.Exchange.Records

/-!
# How readings fail

A peer whose own failures are all documented makes readings fail as documented, with one exception:
a reply that was closed before it was read is read from a closed stream. Whether a run ends so can
be told from its operations (`ClosedUnread`).
-/

namespace SecureExchange

open Failure

def Answer.failures : Answer → List FailureId
  | .refusal id => [id]
  | .reply r => r.readFailure.toList ++ r.closeFailure.toList

/-- The failure is recorded, and is one that the HTTP client documents. -/
def Failure.Graph.Documents (g : Graph) (id : FailureId) : Prop :=
  ∃ c, g.class? id = some c ∧ c.isHttpError = true

/-- All failures of the peer are documented ones. -/
def Script.FailsDocumented (s : Script) (g : Graph) : Prop :=
  ∀ a, s.Gives a → ∀ id ∈ a.failures, g.Documents id

theorem Failure.Graph.Documents.grows {g g' : Graph} {id : FailureId} (h : g.Documents id)
    (hg : g.Grows g') : g'.Documents id := by
  obtain ⟨c, hc, hhttp⟩ := h
  exact ⟨c, hg.class? hc, hhttp⟩

theorem Failure.FaultClass.isStop_of_isHttpError {c : FaultClass} (h : c.isHttpError = true) :
    c.isStop = false := by
  cases c with
  | http f => rfl
  | _ => simp [isHttpError] at h

namespace Exchange

variable {x y : Exchange} {o : Operation} {r : Outcome Yield} {c : Channel} {s : Script}
  {id : FailureId}

/-! ### One reading -/

theorem raiseFromStream_of_documents {α : Type} (h : x.journal.failures.Documents id) :
    x.raiseFromStream (α := α) id = (.error id, x) := by
  obtain ⟨c, hc, hhttp⟩ := h
  simp [raiseFromStream, hc, FaultClass.isStop_of_isHttpError hhttp]

/-- A closed stream is not read, and there is nothing left to close. -/
theorem drain_of_closed (hc : x.channel = some c) (hd : x.isDrained = false)
    (hclosed : c.isClosed = true) : ∃ id y, x.drain c = (.error id, y) ∧
      y.journal.failures.class? id = some (.http .streamClosed) := by
  obtain ⟨id, j, hraise, hclass⟩ := x.raiseFault_class (α := Octets) .streamClosed
  have hread : x.readChannel c = (.error id, { x with journal := j }) := by
    rw [readChannel, if_pos hclosed, hraise]
  have hreleased : StreamReleased { x with journal := j, isDrained := true } :=
    released_of_closed (x := { x with journal := j, isDrained := true }) hc hclosed
  exact ⟨id, _, drain_of_close hd hread (closeDuring_of_released hreleased _), hclass⟩

/-- Content that cannot be decoded makes for a documented failure. -/
theorem raiseUndecodable_documents {α : Type} (x : Exchange) (text : String) :
    ∃ id j, x.raiseUndecodable (α := α) text = (.error id, { x with journal := j }) ∧
      j.failures.Documents id ∧ x.journal.failures.Grows j.failures := by
  refine ⟨_, _, rfl, ⟨.http .decoding, ?_, rfl⟩, x.keepsRecord_raiseUndecodable (α := α) text⟩
  exact (Graph.grows_declareCause ..).class? (Graph.class?_record_fault _ _ _)

/-- A reading that was interrupted leaves an open stream behind, whose closing may fail instead. -/
theorem drain_of_interrupted {outcome : Outcome Octets} {j : Journal} (hc : x.channel = some c)
    (hd : x.isDrained = false) (hopen : c.isClosed = false)
    (hread : x.readChannel c = (.error id, { x with journal := j }))
    (hfailure : j.failures.Documents id)
    (hclose : ∀ failure, c.reply.closeFailure = some failure → j.failures.Documents failure)
    (h : x.drain c = (outcome, y)) :
    ∀ raised, outcome = .error raised → y.journal.failures.Documents raised := by
  have hclosing := closeDuring_closing { x with journal := j, isDrained := true } (some id)
  generalize hz : Exchange.closeDuring { x with journal := j, isDrained := true } (some id) = z
    at hclosing
  obtain ⟨closing, z⟩ := z
  cases hclosing with
  | handleClosed hstream => exact absurd (hstream c hc) (by simp [hopen])
  | bothClosed =>
      rw [drain_of_close hd hread hz] at h
      obtain ⟨rfl, rfl⟩ := Prod.mk.inj h
      rintro raised hraised
      obtain rfl := Except.error.inj hraised
      exact hfailure
  | streamFailed j' hchannel _ hfails =>
      obtain rfl := Option.some.inj (hc.symm.trans hchannel)
      rw [drain_of_close_error hd hread hz] at h
      obtain ⟨rfl, rfl⟩ := Prod.mk.inj h
      rintro raised hraised
      obtain rfl := Except.error.inj hraised
      exact (hclose _ hfails).grows (grows_of_closeDuring hz)

/-- A stream that fails to close at its end is closed all the same. -/
theorem drain_of_unclosed {content : Octets} {outcome : Outcome Octets} (hc : x.channel = some c)
    (hd : x.isDrained = false) (hopen : c.isClosed = false)
    (hcontent : x.network.script.client.content c.reply = .ok content)
    (hread : c.reply.readFailure = none) (hclose : c.reply.closeFailure = some id)
    (hfailure : x.journal.failures.Documents id) (h : x.drain c = (outcome, y)) :
    ∀ raised, outcome = .error raised → y.journal.failures.Documents raised := by
  have hgrows := x.keepsRecord_closeChannel none
  obtain ⟨j, hchannel⟩ := closeChannel_of_failing hc hopen hclose none
  rw [hchannel] at hgrows
  have hdocuments := hfailure.grows hgrows
  have hfailed : x.readChannel c = (.error id, { x with
      channel := some { c with isClosed := true }
      network := x.network.countClose
      journal := j }) := by
    simp only [readChannel, hopen, hcontent, hread, hchannel]
    exact raiseFromStream_of_documents hdocuments
  rw [drain_of_close hd hfailed (closeDuring_of_released (released_of_closed rfl rfl) _)] at h
  obtain ⟨rfl, rfl⟩ := Prod.mk.inj h
  rintro raised hraised
  obtain rfl := Except.error.inj hraised
  exact hdocuments

/-- An open stream fails as documented, with one of its own failures or for what it holds. -/
theorem drain_of_open {outcome : Outcome Octets} (hc : x.channel = some c)
    (hd : x.isDrained = false) (hopen : c.isClosed = false)
    (hpeer : ∀ id ∈ (Answer.reply c.reply).failures, x.journal.failures.Documents id)
    (h : x.drain c = (outcome, y)) :
    ∀ id, outcome = .error id → y.journal.failures.Documents id := by
  have hclose : ∀ failure, c.reply.closeFailure = some failure →
      x.journal.failures.Documents failure := by
    intro failure hfailure
    exact hpeer failure (by simp [Answer.failures, hfailure])
  cases hcontent : x.network.script.client.content c.reply with
  | error text =>
      obtain ⟨id, j, hraise, hdocuments, hgrows⟩ :=
        x.raiseUndecodable_documents (α := Octets) text
      have hfailed : x.readChannel c = (.error id, { x with journal := j }) := by
        simp only [readChannel, hopen, hcontent]
        exact hraise
      exact drain_of_interrupted hc hd hopen hfailed hdocuments
        (fun failure hfailure ↦ (hclose failure hfailure).grows hgrows) h
  | ok content =>
      cases hread : c.reply.readFailure with
      | some failure =>
          have hdocuments := hpeer failure (by simp [Answer.failures, hread])
          have hfailed : x.readChannel c = (.error failure, x) := by
            simp only [readChannel, hopen, hcontent, hread]
            exact raiseFromStream_of_documents hdocuments
          exact drain_of_interrupted hc hd hopen hfailed hdocuments hclose h
      | none =>
          -- the stream closes itself at its end, so closing finds nothing left to do
          cases hfails : c.reply.closeFailure with
          | none =>
              obtain ⟨outcome', j, hok, _, hread'⟩ := readChannel_of_chunks hc hopen hcontent hread
              obtain ⟨rfl, rfl⟩ := hok hfails
              rw [drain_of_close hd hread'
                (closeDuring_of_released (released_of_closed rfl rfl) _)] at h
              rintro id rfl
              simp at h
          | some failure =>
              exact drain_of_unclosed hc hd hopen hcontent hread hfails (hclose failure hfails) h

/-- The operation reads a reply whose stream was closed unread. -/
def ReadsClosed (x : Exchange) (o : Operation) : Prop :=
  ∃ c, x.channel = some c ∧ o = c.reply.reader ∧ x.isDrained = false ∧ c.isClosed = true

theorem ReadsClosed.fails (h : x.ReadsClosed o) : ∃ id y, x.step o = (.error id, y) ∧
    y.journal.failures.class? id = some (.http .streamClosed) := by
  obtain ⟨c, hc, rfl, hd, hclosed⟩ := h
  obtain ⟨id, y, hdrain, hclass⟩ := drain_of_closed hc hd hclosed
  refine ⟨id, y, ?_, hclass⟩
  rw [step_reader hc, hdrain]
  rfl

theorem reader_fails_documented (hc : x.channel = some c)
    (hpeer : ∀ id ∈ (Answer.reply c.reply).failures, x.journal.failures.Documents id)
    (h : x.step c.reply.reader = (.error id, y)) :
    y.journal.failures.Documents id ∨ x.ReadsClosed c.reply.reader := by
  cases hd : x.isDrained with
  | true =>
      obtain ⟨id', j, hstep, hclass⟩ := step_reader_of_drained hc hd
      obtain ⟨hid, rfl⟩ := Prod.mk.inj (h.symm.trans hstep)
      obtain rfl := Except.error.inj hid
      exact .inl ⟨_, hclass, rfl⟩
  | false =>
      cases hclosed : c.isClosed with
      | true => exact .inr ⟨c, hc, rfl, hd, hclosed⟩
      | false =>
          rw [step_reader hc] at h
          generalize hdrain : x.drain c = z at h
          obtain ⟨outcome, z⟩ := z
          cases outcome with
          | ok content => simp [yielding, Except.map] at h
          | error failure =>
              obtain rfl : failure = id := by simpa [yielding, Except.map] using (Prod.mk.inj h).1
              obtain rfl : z = y := (Prod.mk.inj h).2
              exact .inl (drain_of_open hc hd hclosed hpeer hdrain _ rfl)

/-- Where the address can be shown, every failure to read is documented, or the stream of the reply
was closed unread. -/
theorem read_fails_documented {shown : String} (hshown : x.shownAddress = .ok shown)
    (hpeer : ∀ c, x.channel = some c → ∀ id ∈ (Answer.reply c.reply).failures,
      x.journal.failures.Documents id)
    (ho : o = .readBody ∨ o = .readErrorBody) (h : x.step o = (.error id, y)) :
    y.journal.failures.Documents id ∨ x.ReadsClosed o := by
  cases hc : x.channel with
  | none =>
      rcases ho with rfl | rfl
      · obtain ⟨id', j, hraise, hclass⟩ := x.raiseFault_class (α := Octets)
          (.http .read ("No response received from " ++ shown))
        have hstep : x.step .readBody = (.error id', { x with journal := j }) := by
          simp only [step, readBody, withReply, hc, hshown, hraise]
          rfl
        obtain ⟨hid, rfl⟩ := Prod.mk.inj (h.symm.trans hstep)
        obtain rfl := Except.error.inj hid
        exact .inl ⟨_, hclass, rfl⟩
      · simp [step, readErrorBody_of_none hc, yielding, Except.map] at h
  | some c =>
      by_cases hreader : o = c.reply.reader
      · rw [hreader] at h ⊢
        exact reader_fails_documented hc (hpeer c hc) h
      · cases hs : c.reply.isError with
        | true =>
            have hbody : o = .readBody :=
              ho.resolve_right (by simpa [Reply.reader, hs] using hreader)
            obtain ⟨id', j, hstep, hclass⟩ := step_readBody_of_error hc hs hshown
            rw [hbody] at h
            obtain ⟨hid, rfl⟩ := Prod.mk.inj (h.symm.trans hstep)
            obtain rfl := Except.error.inj hid
            exact .inl ⟨_, hclass, rfl⟩
        | false =>
            have herror : o = .readErrorBody :=
              ho.resolve_left (by simpa [Reply.reader, hs] using hreader)
            simp [herror, step, readErrorBody_of_plain hc hs, yielding, Except.map] at h

/-! ### Replies closed unread -/

/-- A run closes a reply without reading it, before or after: the operation is the one that the
status of the reply selects. -/
def ClosedUnread (x : Exchange) (os : List Operation) (o : Operation) : Prop :=
  ∃ before after c, os = before ++ .close :: after ∧ (x.run before).channel = some c ∧
    o = c.reply.reader ∧ (x.run before).isDrained = false ∧ o ∉ after

/-- The stream of a reply, closed and not read before. -/
def HoldsUnread (x : Exchange) (r : Reply) : Prop :=
  ∃ c, x.channel = some c ∧ c.reply = r ∧ c.isClosed = true ∧ x.isDrained = false

theorem readsClosed_iff : x.ReadsClosed o ↔ ∃ r : Reply, o = r.reader ∧ x.HoldsUnread r := by
  constructor
  · rintro ⟨c, hc, ho, hd, hclosed⟩
    exact ⟨c.reply, ho, c, hc, rfl, hclosed, hd⟩
  · rintro ⟨r, ho, c, hc, rfl, hclosed, hd⟩
    exact ⟨c, hc, ho, hd, hclosed⟩

theorem holdsUnread_of_close (hc : x.channel = some c) (hd : x.isDrained = false) :
    (x.step .close).2.HoldsUnread c.reply := by
  have h := closeDuring_closing x none
  change (x.closeDuring none).2.HoldsUnread c.reply
  generalize x.closeDuring none = z at h
  obtain ⟨outcome, z⟩ := z
  cases h with
  | handleClosed hstream => exact ⟨c, hc, rfl, hstream c hc, hd⟩
  | bothClosed hchannel =>
      obtain rfl := Option.some.inj (hchannel.symm.trans hc)
      exact ⟨_, rfl, rfl, rfl, hd⟩
  | streamFailed j hchannel =>
      obtain rfl := Option.some.inj (hchannel.symm.trans hc)
      exact ⟨_, rfl, rfl, rfl, hd⟩

/-- Nothing but closing or reading changes the stream. -/
theorem Transition.keepsChannel (h : Transition x o r y) (hfresh : x.Fresh)
    (hc : x.channel = some c) (ho : o ≠ .close) (hd : y.isDrained = false) :
    y.channel = some c := by
  cases h with
  | connecting hphase => exact absurd (hfresh hphase) (by simp [hc])
  | bodyRead _ _ _ h => simp [h.isDrained] at hd
  | errorRead _ _ _ h => simp [h.isDrained] at hd
  | closing => exact absurd rfl ho
  | _ => exact hc

theorem HoldsUnread.step {reply : Reply} (h : x.HoldsUnread reply) (hfresh : x.Fresh)
    (ho : o ≠ reply.reader) : (x.step o).2.HoldsUnread reply := by
  obtain ⟨c, hc, rfl, hclosed, hd⟩ := h
  by_cases hclose : o = .close
  · rw [hclose]
    exact holdsUnread_of_close hc hd
  · have hstep := step_transition hfresh o
    have hd' : (x.step o).2.isDrained = false := by
      by_contra hdrained
      obtain ⟨c₀, hc₀, rfl⟩ := hstep.drawn hd (by simpa using hdrained)
      obtain rfl := Option.some.inj (hc₀.symm.trans hc)
      exact ho rfl
    exact ⟨c, hstep.keepsChannel hfresh hc hclose hd', rfl, hclosed, hd'⟩

theorem HoldsUnread.run {reply : Reply} (h : x.HoldsUnread reply) (hfresh : x.Fresh)
    {os : List Operation} (hos : reply.reader ∉ os) : (x.run os).HoldsUnread reply := by
  induction os generalizing x with
  | nil => exact h
  | cons o rest ih =>
      have ho : o ≠ reply.reader := fun heq ↦ hos (heq ▸ List.mem_cons_self)
      exact ih (h.step hfresh ho) (step_fresh hfresh o) fun hrest ↦
        hos (List.mem_cons_of_mem o hrest)

/-- A stream is found closed unread if it was before, or if the operation closes it. -/
theorem holdsUnread_of_step {reply : Reply} (hfresh : x.Fresh)
    (h : (x.step o).2.HoldsUnread reply) :
    x.isDrained = false ∧ ∃ c, x.channel = some c ∧ c.reply = reply ∧
      (o = .close ∨ c.isClosed = true ∧ o ≠ reply.reader) := by
  obtain ⟨c', hc', rfl, hclosed, hd'⟩ := h
  have hstep := step_transition hfresh o
  have hd : x.isDrained = false := by
    cases hx : x.isDrained with
    | false => rfl
    | true => simp [hstep.staysDrained hx] at hd'
  refine ⟨hd, ?_⟩
  cases hc : x.channel with
  | none =>
      rcases hstep.channel_of_none hc with hnone | ⟨reply, htakes⟩
      · simp [hnone] at hc'
      · obtain rfl := Option.some.inj (htakes.channel.symm.trans hc')
        simp at hclosed
  | some c =>
      obtain ⟨c₁, hc₁, hreply⟩ := hstep.keepsReply hfresh hc
      obtain rfl := Option.some.inj (hc₁.symm.trans hc')
      refine ⟨c, rfl, hreply.symm, ?_⟩
      by_cases hclose : o = .close
      · exact .inl hclose
      · obtain rfl := Option.some.inj ((hstep.keepsChannel hfresh hc hclose hd').symm.trans hc')
        refine .inr ⟨hclosed, fun hreader ↦ ?_⟩
        rw [hreader, isDrained_step_reader hc] at hd'
        cases hd'

theorem holdsUnread_run_iff {reply : Reply} (hfresh : x.Fresh) (hc : x.channel = none)
    (os : List Operation) : (x.run os).HoldsUnread reply ↔
      ∃ before after c, os = before ++ .close :: after ∧ (x.run before).channel = some c ∧
        c.reply = reply ∧ (x.run before).isDrained = false ∧ reply.reader ∉ after := by
  constructor
  · -- Back from the end of the run, to the last time that the stream was closed.
    induction os using List.reverseRecOn with
    | nil =>
        rintro ⟨c, hc', _⟩
        simp [hc] at hc'
    | append_singleton os o ih =>
        intro h
        rw [run_append] at h
        obtain ⟨hd, c, hc', hreply, hclose | ⟨hclosed, hreader⟩⟩ :=
          holdsUnread_of_step (run_fresh hfresh os) h
        · exact ⟨os, [], c, by rw [hclose], hc', hreply, hd, List.not_mem_nil⟩
        · obtain ⟨before, after, c', rfl, hc', hreply', hd', hafter⟩ :=
            ih ⟨c, hc', hreply, hclosed, hd⟩
          refine ⟨before, after ++ [o], c', by simp, hc', hreply', hd', ?_⟩
          simpa [hafter] using hreader.symm
  · rintro ⟨before, after, c, rfl, hc', rfl, hd, hafter⟩
    rw [run_append, run_cons]
    have hbefore := run_fresh hfresh before
    exact (holdsUnread_of_close hc' hd).run (step_fresh hbefore _) hafter

/-! ### Every run -/

/-- Answers and replies are those of the peer. -/
structure AnsweredBy (s : Script) (x : Exchange) : Prop where
  script : ∀ a, x.network.script.Gives a → s.Gives a
  reply : ∀ c, x.channel = some c → s.Gives (.reply c.reply)

theorem Closing.script {outcome : Outcome Unit} (h : Closing x outcome y) :
    y.network.script = x.network.script := by
  cases h with
  | handleClosed => exact Network.script_closeHandle _
  | bothClosed => exact Network.script_closeHandle _
  | streamFailed => rfl

theorem Draining.script {outcome : Outcome Octets} (h : Draining x c outcome y) :
    y.network.script = x.network.script := by
  cases h with
  | failedTwice => rfl
  | _ => exact Network.script_closeHandle _

theorem Transition.gives (h : Transition x o r y) {a : Answer}
    (ha : y.network.script.Gives a) : x.network.script.Gives a := by
  have hreopened : ∀ {context : String} {outcome : Except FailureId Unit} {n : Network},
      x.network.closeHandle.openHandle (some context) = (outcome, n) →
        n.script = x.network.script := by
    intro context outcome n hopen
    have hscript := x.network.closeHandle.script_openHandle (some context)
    rwa [hopen, Network.script_closeHandle] at hscript
  have hdelivered : ∀ {request : Request} {handle : Handle} {n : Network},
      x.network.Delivered request handle n → n.script.Gives a → x.network.script.Gives a := by
    intro request handle n hn hgives
    cases hn <;> exact Script.gives_of_advance hgives
  cases h with
  | reopened _ _ hopen => rwa [hreopened hopen] at ha
  | reopeningFailed _ _ hopen => rwa [hreopened hopen] at ha
  | connecting _ h =>
      cases h with
      | lapsed _ _ _ hn => exact hdelivered hn ha
      | failed _ _ _ hn =>
          rw [Network.script_closeHandle] at ha
          exact hdelivered hn ha
      | connected => exact Script.gives_of_advance ha
      | _ => exact ha
  | bodyRead _ _ _ h => rwa [h.script] at ha
  | errorRead _ _ _ h => rwa [h.script] at ha
  | closing h => rwa [h.script] at ha
  | _ => exact ha

theorem Transition.answeredBy (h : Transition x o r y) (hfresh : x.Fresh)
    (hx : AnsweredBy s x) : AnsweredBy s y where
  script a ha := hx.script a (h.gives ha)
  reply c hc := by
    cases hchannel : x.channel with
    | none =>
        rcases h.channel_of_none hchannel with hnone | ⟨reply, htakes⟩
        · simp [hnone] at hc
        · obtain rfl := Option.some.inj (htakes.channel.symm.trans hc)
          exact hx.script _ (.inl htakes.next.symm)
    | some c' =>
        obtain ⟨c₁, hc₁, hreply⟩ := h.keepsReply hfresh hchannel
        obtain rfl := Option.some.inj (hc₁.symm.trans hc)
        rw [hreply]
        exact hx.reply c' hchannel

theorem Started.answeredBy {p : Proposal} {n : Network} (h : Started p n x) :
    AnsweredBy n.script x where
  script a ha := by
    rwa [← Network.script_openHandle n none, h.opened]
  reply c hc := by simp [h.channel] at hc

/-- If the peer fails as documented and the address can be shown, a reading of any run that fails
raises a documented failure, unless the run has closed the reply unread. Then a reading does fail,
and raises the failure of a closed stream, which is none of them. -/
theorem read_failures_documented_unless_closed_unread {p : Proposal} {custom : Bool}
    {script : Script} {openings : List (Option FailureId)} {j : Journal} {unredacted : Bool}
    {shown : String}
    (hstart : start p (.start custom script openings) j unredacted = .ok x)
    (hpeer : script.FailsDocumented j.failures) (hshown : x.shownAddress = .ok shown)
    (os : List Operation) (o : Operation) :
    (o = .readBody ∨ o = .readErrorBody → ∀ id y, (x.run os).step o = (.error id, y) →
      y.journal.failures.Documents id ∨ x.ClosedUnread os o) ∧
    (x.ClosedUnread os o → ∃ id y, (x.run os).step o = (.error id, y) ∧
      y.journal.failures.class? id = some (.http .streamClosed)) := by
  have hstarted := start_started hstart
  have hfresh := hstarted.fresh
  have hclosed : (x.run os).ReadsClosed o ↔ x.ClosedUnread os o := by
    rw [readsClosed_iff]
    constructor
    · rintro ⟨reply, rfl, h⟩
      obtain ⟨before, after, c, hos, hc, rfl, hd, hafter⟩ :=
        (holdsUnread_run_iff hfresh hstarted.channel os).mp h
      exact ⟨before, after, c, hos, hc, rfl, hd, hafter⟩
    · rintro ⟨before, after, c, hos, hc, rfl, hd, hafter⟩
      exact ⟨c.reply, rfl, (holdsUnread_run_iff hfresh hstarted.channel os).mpr
        ⟨before, after, c, hos, hc, rfl, hd, hafter⟩⟩
  constructor
  · intro ho id y hstep
    rw [← hclosed]
    have hanswered : AnsweredBy script (x.run os) :=
      run_induction (fun hx h h' ↦ h'.answeredBy hx h) hfresh hstarted.answeredBy os
    have hshown' : (x.run os).shownAddress = .ok shown := by
      rw [shownAddress, run_target hfresh]
      exact hshown
    refine read_fails_documented hshown' (fun c hc id hid ↦ ?_) ho hstep
    have hdocuments := hpeer _ (hanswered.reply c hc) id hid
    rw [← start_journal hstart] at hdocuments
    exact hdocuments.grows (x.run_grows os)
  · rw [← hclosed]
    exact ReadsClosed.fails

/-- A peer whose reply breaks off. -/
def breakingOff : Script := ⟨.reply ⟨200, [], [[0x6f]], some 0, none⟩, [], .plain⟩

def brokenOff : Journal := ⟨[⟨.fault ⟨.http .read, "connection lost"⟩, none, none⟩], []⟩

/-- The same reply fails as documented when it is read, and otherwise when it was closed. -/
theorem read_failures_documented_unless_closed_unread_of_breakingOff :
    ∃ x, start hubMessage (.start true breakingOff []) brokenOff false = .ok x ∧
      (∃ id y, (x.run [.connect]).step .readBody = (.error id, y) ∧
        y.journal.failures.Documents id) ∧
      ∃ id y, (x.run [.connect, .close]).step .readBody = (.error id, y) ∧
        y.journal.failures.class? id = some (.http .streamClosed) := by
  obtain ⟨x, hstart, hx⟩ := exists_of_any_start (p := hubMessage)
    (n := .start true breakingOff []) (j := brokenOff) (u := false)
    (q := fun x ↦ x.shownAddress.toOption.isSome &&
      (failure? ((x.run [.connect]).step .readBody).1).isSome && !(x.run [.connect]).isDrained &&
      (x.run [.connect]).channel.any fun (c : Channel) ↦ !c.reply.isError)
    (by decide +kernel)
  simp only [Bool.and_eq_true, Bool.not_eq_true', Option.any_eq_true] at hx
  obtain ⟨⟨⟨hshown, hfails⟩, hd⟩, c, hc, hs⟩ := hx
  obtain ⟨id, hid⟩ := Option.isSome_iff_exists.mp hfails
  have hstep : (x.run [.connect]).step .readBody
      = (.error id, ((x.run [.connect]).step .readBody).2) :=
    Prod.ext (eq_error_of_failure? hid) rfl
  have hpeer : breakingOff.FailsDocumented brokenOff.failures := by
    rintro a (rfl | ha) id hid
    · obtain rfl : id = 0 := by simpa [breakingOff, Answer.failures] using hid
      exact ⟨.http .read, rfl, rfl⟩
    · simp [breakingOff] at ha
  cases haddress : x.shownAddress with
  | error e => simp [haddress, Except.toOption] at hshown
  | ok shown =>
      refine ⟨x, hstart, ?_, ?_⟩
      · obtain ⟨hread, _⟩ := read_failures_documented_unless_closed_unread hstart hpeer haddress
          [.connect] .readBody
        rcases hread (.inl rfl) id _ hstep with hdocuments | ⟨before, after, _, hos, _⟩
        · exact ⟨id, _, hstep, hdocuments⟩
        · have hclose : Operation.close ∈ [Operation.connect] := by simp [hos]
          simp at hclose
      · obtain ⟨_, hclosed⟩ := read_failures_documented_unless_closed_unread hstart hpeer
          haddress [.connect, .close] .readBody
        have hreader : Operation.readBody = c.reply.reader := by rw [Reply.reader, hs]; rfl
        exact hclosed ⟨[.connect], [], c, rfl, hc, hreader, hd, by simp⟩

/-- A peer that never fails answers, and its reply is closed before it is read. -/
theorem closed_reply_read_undocumented :
    ∃ x id y, start hubMessage (.start true accepting []) ⟨[], []⟩ false = .ok x ∧
      (x.run [.connect, .close]).step .readBody = (.error id, y) ∧
      y.journal.failures.class? id = some (.http .streamClosed) ∧
      (FaultClass.http .streamClosed).isHttpError = false := by
  obtain ⟨x, hstart, hx⟩ := exists_of_any_start (p := hubMessage)
    (n := .start true accepting []) (j := ⟨[], []⟩) (u := false)
    (q := fun x ↦
      let read := (x.run [.connect, .close]).step .readBody
      (failure? read.1).any fun id ↦
        decide (read.2.journal.failures.class? id = some (.http .streamClosed)))
    (by decide +kernel)
  simp only [Option.any_eq_true, decide_eq_true_eq] at hx
  obtain ⟨id, hid, hclass⟩ := hx
  refine ⟨x, id, _, hstart, ?_, hclass, rfl⟩
  exact Prod.ext (eq_error_of_failure? hid) rfl

end Exchange

end SecureExchange
