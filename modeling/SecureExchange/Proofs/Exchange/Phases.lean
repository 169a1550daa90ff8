import SecureExchange.Proofs.Exchange.Reading

/-!
# Phases and what a reply answers

An exchange takes in a reply by the one connect that succeeds, and keeps it. Until then whoever asks
for status, fields or content is told that there is no reply (`Unanswered`). From then on status and
fields are those of this reply (`Answers`), in whatever way its stream and the exchange end.
-/

namespace SecureExchange

open Failure

namespace Exchange

variable {x y : Exchange} {o : Operation} {r : Outcome Yield} {c : Channel}

/-- The operation is a connect that succeeds. -/
def connects (x : Exchange) (o : Operation) : Bool :=
  match o with
  | .connect => (x.step .connect).1.isOk
  | _ => false

/-- How many connects of a run succeed. -/
def countConnects (x : Exchange) : List Operation → Nat
  | [] => 0
  | o :: rest => (x.connects o).toNat + (x.step o).2.countConnects rest

/-- There is no reply to read from, which changes nothing but the journal. -/
structure Unanswered (x : Exchange) : Prop where
  status : x.FailsToRead .status
  fields : x.FailsToRead .replyFields
  body : x.FailsToRead .readBody
  errorBody : x.step .readErrorBody = (.ok (.octets []), x)

/-- Status and fields are those of the reply, and to ask for them changes nothing. -/
structure Answers (x : Exchange) (reply : Reply) : Prop where
  status : x.step .status = (.ok (.status reply.status), x)
  fields : x.step .replyFields = (.ok (.grouped reply.groupedFields), x)

/-! ### Without a reply, and with one -/

theorem failsToRead_of_withReply {α : Type} {f : α → Yield} {go : Channel → Outcome α × Exchange}
    {shown : String} (hc : x.channel = none) (hshown : x.shownAddress = .ok shown)
    (hstep : x.step o = yielding f (x.withReply go)) : x.FailsToRead o := by
  obtain ⟨id, j, hraise, hclass⟩ :=
    x.raiseFault_class (α := α) (.http .read ("No response received from " ++ shown))
  refine ⟨id, j, ?_, hclass⟩
  simp only [hstep, withReply, hc, hshown, hraise]
  rfl

theorem unanswered_of_none {shown : String} (hc : x.channel = none)
    (hshown : x.shownAddress = .ok shown) : x.Unanswered where
  status := failsToRead_of_withReply hc hshown rfl
  fields := failsToRead_of_withReply hc hshown rfl
  body := failsToRead_of_withReply hc hshown rfl
  errorBody := step_readErrorBody_of_plain (by simp [hc])

theorem answers_of_some (hc : x.channel = some c) : x.Answers c.reply where
  status := by simp [step, status, withReply, hc, yielding, Except.map]
  fields := by simp [step, replyFields, withReply, hc, yielding, Except.map]

/-! ### Connects that succeed -/

theorem connects_iff : x.connects o = true ↔ o = .connect ∧ ∃ v, (x.step o).1 = .ok v := by
  cases o with
  | connect => cases hr : (x.step .connect).1 <;> simp [connects, hr, Except.isOk, Except.toBool]
  | _ => simp [connects]

theorem takesIn_of_connects (hfresh : x.Fresh) (h : x.connects o = true) :
    ∃ reply, TakesIn x o (x.step o).1 (x.step o).2 reply := by
  obtain ⟨rfl, v, hv⟩ := connects_iff.mp h
  have hstep := step_transition hfresh .connect
  generalize (x.step .connect).1 = r at hstep hv
  generalize (x.step .connect).2 = y at hstep
  cases hstep with
  | failed => simp at hv
  | observed hobserves => simp [Operation.observes] at hobserves
  | @connecting outcome _ hphase h =>
      cases outcome with
      | ok => exact h.takesIn hphase
      | error => simp [Except.map] at hv

/-- Once the exchange is not configured any more, it does not become so, and no connect succeeds. -/
theorem countConnects_of_ne (hfresh : x.Fresh) (hphase : x.phase ≠ .configured)
    (os : List Operation) : x.countConnects os = 0 := by
  induction os generalizing x with
  | nil => rfl
  | cons o rest ih =>
      have hnone : x.connects o = false := by
        rw [Bool.eq_false_iff]
        intro h
        obtain ⟨_, htakes⟩ := takesIn_of_connects hfresh h
        exact hphase htakes.configured
      have hnext : (x.step o).2.phase ≠ .configured := fun hy ↦
        hphase ((step_transition hfresh o).of_configured hfresh hy).1
      rw [countConnects, hnone, ih (step_fresh hfresh o) hnext]
      rfl

theorem countConnects_le_one (hfresh : x.Fresh) (os : List Operation) :
    x.countConnects os ≤ 1 := by
  induction os generalizing x with
  | nil => exact Nat.zero_le 1
  | cons o rest ih =>
      cases hconnects : x.connects o with
      | false =>
          rw [countConnects, hconnects, Bool.toNat_false, Nat.zero_add]
          exact ih (step_fresh hfresh o)
      | true =>
          obtain ⟨_, htakes⟩ := takesIn_of_connects hfresh hconnects
          have hrest := countConnects_of_ne (step_fresh hfresh o) (by simp [htakes.connected]) rest
          simp [countConnects, hconnects, hrest]

/-- Without a connect that succeeds there is no reply. -/
theorem run_channel_of_none (hfresh : x.Fresh) (hc : x.channel = none) {os : List Operation}
    (hnone : x.countConnects os = 0) : (x.run os).channel = none := by
  induction os generalizing x with
  | nil => exact hc
  | cons o rest ih =>
      rw [countConnects, Nat.add_eq_zero_iff] at hnone
      obtain ⟨hfirst, hrest⟩ := hnone
      refine ih (step_fresh hfresh o) ?_ hrest
      rcases (step_transition hfresh o).channel_of_none hc with hnext | ⟨_, htakes⟩
      · exact hnext
      · have hconnects := connects_iff.mpr ⟨htakes.operation, _, htakes.succeeds⟩
        simp [hconnects] at hfirst

/-- From the connect that succeeds on, the exchange answers from the reply that it took in. -/
theorem answers_of_connects (hfresh : x.Fresh) (h : x.connects .connect = true) :
    ∃ reply, x.network.script.next = .reply reply ∧
      ∀ later, (x.run (.connect :: later)).Answers reply := by
  obtain ⟨reply, htakes⟩ := takesIn_of_connects hfresh h
  refine ⟨reply, htakes.next, fun later ↦ ?_⟩
  obtain ⟨c, hc, rfl⟩ := run_keepsReply (step_fresh hfresh .connect) htakes.channel later
  exact answers_of_some hc

/-! ### Every run -/

/-- If the address can be shown, the phase never goes back and at most one connect of a run
succeeds. Without one there is no reply to read from; after it, status and fields are those of the
reply that it received, in every later state. -/
theorem reply_answered_from_single_connect {p : Proposal} {custom : Bool} {script : Script}
    {openings : List (Option FailureId)} {j : Journal} {unredacted : Bool} {shown : String}
    (hstart : start p (.start custom script openings) j unredacted = .ok x)
    (hshown : x.shownAddress = .ok shown) (os : List Operation) :
    (∀ later, (x.run os).phase.rank ≤ (x.run (os ++ later)).phase.rank) ∧
    x.countConnects os ≤ 1 ∧
    (x.countConnects os = 0 → (x.run os).Unanswered) ∧
    ((x.run os).connects .connect = true →
      ∃ reply, (x.run os).network.script.next = .reply reply ∧
        ∀ later, (x.run (os ++ .connect :: later)).Answers reply) := by
  have hstarted := start_started hstart
  have hfresh := run_fresh hstarted.fresh os
  refine ⟨?_, countConnects_le_one hstarted.fresh os, ?_, ?_⟩
  · intro later
    rw [run_append]
    exact run_phase_le hfresh later
  · intro hnone
    have hsame : (x.run os).shownAddress = .ok shown := by
      rw [shownAddress, run_target hstarted.fresh]
      exact hshown
    exact unanswered_of_none (run_channel_of_none hstarted.fresh hstarted.channel hnone) hsame
  · intro hconnects
    obtain ⟨reply, hnext, hanswers⟩ := answers_of_connects hfresh hconnects
    refine ⟨reply, hnext, ?_⟩
    intro later
    rw [run_append]
    exact hanswers later

/-- A reply that knows nothing of what was asked for is remembered after its content was read. -/
theorem reply_answered_from_single_connect_of_unknowing :
    ∃ x shown reply, start hubMessage (.start true unknowing []) ⟨[], []⟩ false = .ok x ∧
      x.shownAddress = .ok shown ∧ (x.run [.status]).Unanswered ∧
      (x.run [.status]).connects .connect = true ∧
      (x.run [.status]).network.script.next = .reply reply ∧
      (x.run [.status, .connect, .readErrorBody, .close, .connect]).Answers reply ∧
      x.countConnects [.status, .connect, .readErrorBody, .close, .connect] ≤ 1 := by
  obtain ⟨x, hstart, hx⟩ := exists_of_any_start (p := hubMessage)
    (n := .start true unknowing []) (j := ⟨[], []⟩) (u := false)
    (q := fun x ↦ x.shownAddress.isOk && (x.run [.status]).connects .connect)
    (by decide +kernel)
  simp only [Bool.and_eq_true] at hx
  obtain ⟨hshown, hconnects⟩ := hx
  cases haddress : x.shownAddress with
  | error e => simp [haddress, Except.isOk, Except.toBool] at hshown
  | ok shown =>
      obtain ⟨_, _, hunanswered, hanswers⟩ :=
        reply_answered_from_single_connect hstart haddress [.status]
      obtain ⟨reply, hnext, hlater⟩ := hanswers hconnects
      obtain ⟨_, hone, _⟩ := reply_answered_from_single_connect hstart haddress
        [.status, .connect, .readErrorBody, .close, .connect]
      exact ⟨x, shown, reply, hstart, haddress, hunanswered rfl, hconnects, hnext,
        hlater [.readErrorBody, .close, .connect], hone⟩

end Exchange

end SecureExchange
