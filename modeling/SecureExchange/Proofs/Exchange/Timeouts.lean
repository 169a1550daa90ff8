import SecureExchange.Proofs.Exchange.Frame
import SecureExchange.Proofs.Exchange.Opening
import SecureExchange.Proofs.Number.Range

/-!
# Timeouts

A time to wait is a number of seconds that is not negative and, if it is whole, in the range of
binary numbers. Whatever else is given for one is refused, with two exceptions: what is no number at
all is taken as it is, and some refusals are raised as faults of their own (`RefusesSeconds`).
-/

namespace SecureExchange

open Failure

/-- Zero of either sign, and everything above. -/
def Binary64.IsNonNegative : Binary64 → Prop
  | .nan => False
  | .infinity negative => negative = false
  | .finite negative units => negative = false ∨ units = 0

namespace Number

/-- A number that can be waited for, in seconds. -/
def IsSeconds : Number → Prop
  | .whole i => 0 ≤ i ∧ i.natAbs < Binary64.wholeBound
  | .binary x => x.IsNonNegative

def IsNegative : Number → Prop
  | .whole i => i < 0
  | .binary x => x.isNegative = true

/-- What is written like a number but is none. -/
def nan : Number := .binary .nan

variable {given : Number} {seconds : Binary64}

theorem isNegative_eq_false_iff (x : Binary64) :
    x.isNegative = false ↔ x.IsNonNegative ∨ x = .nan := by
  cases x with
  | nan => simp [Binary64.isNegative]
  | infinity negative => simp [Binary64.isNegative, Binary64.IsNonNegative]
  | finite negative units =>
      cases negative <;> simp [Binary64.isNegative, Binary64.IsNonNegative]

/-- What is taken for a timeout can be waited for, or it is no number. -/
theorem isTimeout_iff (given : Number) : given.IsTimeout ↔ given.IsSeconds ∨ given = nan := by
  cases given with
  | whole i => simp [IsTimeout, IsSeconds, nan, Binary64.ofInt?_isSome_iff]
  | binary x => simp [IsTimeout, IsSeconds, nan, isNegative_eq_false_iff]

theorem isNonNegative_of_ofInt? {i : Int} (hi : 0 ≤ i) (h : Binary64.ofInt? i = some seconds) :
    seconds.IsNonNegative := by
  have hsign : decide (i < 0) = false := decide_eq_false (Int.not_lt.mpr hi)
  rw [Binary64.ofInt?, hsign, Binary64.finite?_ofRatio] at h
  obtain ⟨_, hx⟩ := Option.ite_none_right_eq_some.mp h
  obtain rfl := Option.some.inj hx
  exact .inl rfl

theorem isNonNegative_of_readTimeoutOf (h : readTimeoutOf given = .ok seconds) :
    seconds.IsNonNegative ∨ given = nan ∧ seconds = .nan := by
  cases given with
  | whole i =>
      by_cases hi : i < 0
      · simp [readTimeoutOf, hi] at h
      · cases hx : Binary64.ofInt? i with
        | none => simp [readTimeoutOf, hi, hx] at h
        | some x =>
            obtain rfl : x = seconds := by simpa [readTimeoutOf, hi, hx] using h
            exact .inl (isNonNegative_of_ofInt? (Int.not_lt.mp hi) hx)
  | binary x =>
      cases hnegative : x.isNegative with
      | true => simp [readTimeoutOf, hnegative] at h
      | false =>
          obtain rfl : x = seconds := by simpa [readTimeoutOf, hnegative] using h
          rw [isNegative_eq_false_iff] at hnegative
          exact hnegative.imp_right fun hnan ↦ ⟨by rw [hnan, nan], hnan⟩

theorem readTimeoutOf_cases (given : Number) :
    ((given.IsSeconds ∨ given = nan) ∧ ∃ seconds, readTimeoutOf given = .ok seconds) ∨
      ¬ (given.IsSeconds ∨ given = nan) ∧ ∃ f, readTimeoutOf given = .error f := by
  rw [← isTimeout_iff, ← readTimeoutOf_eq_ok_iff]
  cases readTimeoutOf given with
  | ok seconds => exact .inl ⟨⟨seconds, rfl⟩, seconds, rfl⟩
  | error f => exact .inr ⟨by simp, f, rfl⟩

/-- A recorded failure is what a number is refused with. A negative number is an invalid argument
if it can be written out in the error. -/
structure RefusedBy (given : Number) (g : Graph) (id : FailureId) : Prop where
  negative : given.IsNegative → given.hasText = true →
    ∃ e, g.classified? id = some e ∧ e.cls = .invalidArgument ∧
      e.details = [("read_timeout", .ofNumber given)]
  unwritable : given.IsNegative → given.hasText = false → g.fault? id = some unwritableNumber
  tooLarge : ¬ given.IsNegative →
    g.fault? id = some (.overflow "int too large to convert to float")

theorem refusedBy_of_readTimeoutOf {f : TimeoutFault} (h : readTimeoutOf given = .error f)
    (g : Graph) (handling : Option FailureId) :
    given.RefusedBy (g.record f.failure handling).2 (g.record f.failure handling).1 := by
  have hcases : given.IsNegative ∧ f = .negative given ∨ ¬ given.IsNegative ∧ f = .tooLarge := by
    cases given with
    | whole i =>
        by_cases hi : i < 0
        · exact .inl ⟨hi, by simpa [readTimeoutOf, hi, eq_comm] using h⟩
        · cases hx : Binary64.ofInt? i with
          | none => exact .inr ⟨hi, by simpa [readTimeoutOf, hi, hx, eq_comm] using h⟩
          | some x => simp [readTimeoutOf, hi, hx] at h
    | binary x =>
        cases hnegative : x.isNegative with
        | true => exact .inl ⟨hnegative, by simpa [readTimeoutOf, hnegative, eq_comm] using h⟩
        | false => simp [readTimeoutOf, hnegative] at h
  rcases hcases with ⟨hnegative, rfl⟩ | ⟨hpos, rfl⟩
  · cases htext : given.hasText with
    | true =>
        refine ⟨fun _ _ ↦ ?_, fun _ hno ↦ ?_, fun hpos ↦ absurd hnegative hpos⟩
        · rw [TimeoutFault.failure, if_pos htext]
          exact ⟨_, Graph.classified?_record .., rfl, rfl⟩
        · simp [htext] at hno
    | false =>
        refine ⟨fun _ hyes ↦ by simp [htext] at hyes, fun _ _ ↦ ?_,
          fun hpos ↦ absurd hnegative hpos⟩
        rw [TimeoutFault.failure, if_neg (by simp [htext])]
        exact Graph.fault?_record ..
  · exact ⟨fun h ↦ absurd h hpos, fun h ↦ absurd h hpos, fun _ ↦ Graph.fault?_record ..⟩

end Number

namespace Exchange

variable {x y : Exchange} {o : Operation} {r : Outcome Yield} {p : Proposal} {n : Network}
  {j : Journal}

/-- The timeout of an exchange is a time to wait, or what was given for it was no number. -/
def Waits (x : Exchange) (givenNan : Prop) : Prop :=
  x.readTimeout.IsNonNegative ∨ x.readTimeout = .nan ∧ givenNan

theorem Waits.imp {a b : Prop} (h : x.Waits a) (hab : a → b) : x.Waits b :=
  Or.imp_right (And.imp_right hab) h

theorem Transition.readTimeout (h : Transition x o r y) :
    y.readTimeout = x.readTimeout ∨
      ∃ given, o = .setReadTimeout given ∧ readTimeoutOf given = .ok y.readTimeout := by
  rcases h.staging with hkeeps | ⟨_, _, hsets⟩
  · exact .inl hkeeps.readTimeout
  · cases hsets with
    | readTimeout hgiven => exact .inr ⟨_, rfl, hgiven⟩
    | _ => exact .inl rfl

theorem Transition.waits {a : Prop} (h : Transition x o r y) (hx : x.Waits a) :
    y.Waits (a ∨ o = .setReadTimeout .nan) := by
  rcases h.readTimeout with hsame | ⟨given, rfl, hgiven⟩
  · rw [Waits, hsame]
    exact hx.imp .inl
  · rcases Number.isNonNegative_of_readTimeoutOf hgiven with hseconds | ⟨rfl, hnan⟩
    · exact .inl hseconds
    · exact .inr ⟨hnan, .inr rfl⟩

theorem run_waits {a : Prop} (hfresh : x.Fresh) (hx : x.Waits a) (os : List Operation) :
    (x.run os).Waits (a ∨ .setReadTimeout .nan ∈ os) := by
  induction os generalizing x a with
  | nil => exact hx.imp .inl
  | cons o rest ih =>
      have hnext := (step_transition hfresh o).waits hx
      refine (ih (step_fresh hfresh o) hnext).imp ?_
      rintro ((ha | rfl) | hrest)
      · exact .inl ha
      · exact .inr List.mem_cons_self
      · exact .inr (List.mem_cons_of_mem o hrest)

theorem Started.waits (h : Started p n x) : x.Waits (p.readTimeout = some .nan) := by
  have htimeout := h.readTimeout
  cases hgiven : p.readTimeout with
  | none =>
      simp only [startTimeout, hgiven] at htimeout
      rw [Waits, ← Except.ok.inj htimeout]
      exact .inl (.inl rfl)
  | some given =>
      simp only [startTimeout, hgiven] at htimeout
      rcases Number.isNonNegative_of_readTimeoutOf htimeout with hseconds | ⟨rfl, hnan⟩
      · exact .inl hseconds
      · exact .inr ⟨hnan, rfl⟩

/-- How an exchange answers what is given for its timeout. A number that is refused changes nothing
but the journal, where the failure is recorded. -/
structure ChecksTimeouts (x : Exchange) : Prop where
  taken : ∀ given : Number, given.IsSeconds ∨ given = .nan →
    ∃ y, x.step (.setReadTimeout given) = (.ok .nothing, y) ∧
      (x.phase = .configured → readTimeoutOf given = .ok y.readTimeout)
  refused : ∀ given : Number, ¬ (given.IsSeconds ∨ given = .nan) →
    ∃ id j, x.step (.setReadTimeout given) = (.error id, { x with journal := j }) ∧
      given.RefusedBy j.failures id

theorem checksTimeouts (x : Exchange) : x.ChecksTimeouts where
  taken given htaken := by
    rcases given.readTimeoutOf_cases with ⟨_, seconds, hgiven⟩ | ⟨hrefused, _⟩
    · by_cases hphase : x.phase = .configured
      · refine ⟨{ x with readTimeout := seconds }, ?_, fun _ ↦ hgiven⟩
        simp [step, setReadTimeout, hgiven, hphase, yielding, Except.map]
      · refine ⟨(x.setReadTimeout given).2, ?_, fun h ↦ absurd h hphase⟩
        simp [step, setReadTimeout, hgiven, hphase, yielding, Except.map]
    · exact absurd htaken hrefused
  refused given hrefused := by
    rcases given.readTimeoutOf_cases with ⟨htaken, _⟩ | ⟨_, f, hgiven⟩
    · exact absurd htaken hrefused
    · refine ⟨_, (x.journal.record f.failure none).2, ?_,
        Number.refusedBy_of_readTimeoutOf hgiven x.journal.failures none⟩
      simp [step, setReadTimeout, hgiven, raise, yielding, Except.map, Journal.record]

/-- How a start whose target and verb are accepted answers what is given for the timeout. -/
theorem start_of_readTimeout {given : Number} {target : Address.Target} {verb : Verb}
    (htarget : targetOf p.target = .ok target) (hverb : Verb.ofDatum? p.verb = some verb)
    (hgiven : p.readTimeout = some given) (j : Journal) (unredacted : Bool) :
    (given.IsSeconds ∨ given = .nan → ∀ m, n.openHandle none = (.ok (), m) →
      ∃ x, start p n j unredacted = .ok x) ∧
    (¬ (given.IsSeconds ∨ given = .nan) →
      ∃ r, start p n j unredacted = .error r ∧ r.network = n ∧
        given.RefusedBy r.journal.failures r.failure) := by
  rcases given.readTimeoutOf_cases with ⟨htaken, seconds, hseconds⟩ | ⟨hrefused, f, hf⟩
  · refine ⟨fun _ m hopen ↦ ?_, fun hrefused ↦ absurd htaken hrefused⟩
    simp only [start, htarget, hverb, startTimeout, hgiven, hseconds, hopen, Except.ok.injEq,
      exists_eq']
  · refine ⟨fun htaken ↦ absurd htaken hrefused, fun _ ↦ ?_⟩
    refine ⟨⟨(j.record f.failure none).1, n, (j.record f.failure none).2⟩, ?_, rfl,
      Number.refusedBy_of_readTimeoutOf hf j.failures none⟩
    simp only [start, htarget, hverb, startTimeout, hgiven, hf]

/-- After every run, the timeout is a time to wait, or no number, and only if that was given for it.
A start and a setter take all times to wait and what is no number. They refuse all else, which
changes nothing: a negative number that can be written out as an invalid argument, other negative
numbers and those beyond all floating-point numbers with faults of their own. -/
theorem timeouts_not_negative (p : Proposal) (n : Network) (j : Journal) (unredacted : Bool) :
    (∀ x, start p n j unredacted = .ok x → ∀ os : List Operation,
      (x.run os).Waits (p.readTimeout = some .nan ∨ .setReadTimeout .nan ∈ os) ∧
        (x.run os).ChecksTimeouts) ∧
    ∀ given target verb, p.readTimeout = some given → targetOf p.target = .ok target →
      Verb.ofDatum? p.verb = some verb →
      (given.IsSeconds ∨ given = .nan → ∀ m, n.openHandle none = (.ok (), m) →
        ∃ x, start p n j unredacted = .ok x) ∧
      (¬ (given.IsSeconds ∨ given = .nan) →
        ∃ r, start p n j unredacted = .error r ∧ r.network = n ∧
          given.RefusedBy r.journal.failures r.failure) := by
  refine ⟨fun x hstart os ↦ ⟨?_, checksTimeouts _⟩, ?_⟩
  · have hstarted := start_started hstart
    exact run_waits hstarted.fresh hstarted.waits os
  · intro given target verb hgiven htarget hverb
    exact start_of_readTimeout htarget hverb hgiven j unredacted

/-- A message to a hub that is to wait for what is no number. -/
def nanMessage : Proposal := { hubMessage with readTimeout := some .nan }

/-- A timeout that is no number is replaced by an endless one, and a negative one is refused. -/
theorem timeouts_not_negative_of_corrected :
    ∃ x id j e, start nanMessage (.start true accepting []) ⟨[], []⟩ false = .ok x ∧
      (x.run [.setReadTimeout (.binary (.infinity false))]).readTimeout.IsNonNegative ∧
      (x.run [.setReadTimeout (.binary (.infinity false))]).step (.setReadTimeout (.whole (-1))) =
        (.error id, { x.run [.setReadTimeout (.binary (.infinity false))] with journal := j }) ∧
      j.failures.classified? id = some e ∧ e.cls = .invalidArgument := by
  obtain ⟨x, hstart, htimeout⟩ := exists_of_any_start (p := nanMessage)
    (n := .start true accepting []) (j := ⟨[], []⟩) (u := false)
    (q := fun x ↦ decide ((x.run [.setReadTimeout (.binary (.infinity false))]).readTimeout =
      .infinity false))
    (by decide +kernel)
  obtain ⟨hwaits, hchecks⟩ := (timeouts_not_negative nanMessage (.start true accepting []) ⟨[], []⟩
    false).1 x hstart [.setReadTimeout (.binary (.infinity false))]
  have hwait : (x.run [.setReadTimeout (.binary (.infinity false))]).readTimeout.IsNonNegative := by
    rcases hwaits with hwait | ⟨hnan, _⟩
    · exact hwait
    · rw [of_decide_eq_true htimeout] at hnan
      simp at hnan
  have hbad : ¬ ((Number.whole (-1)).IsSeconds ∨ Number.whole (-1) = .nan) := by
    simp [Number.IsSeconds, Number.nan]
  obtain ⟨id, j, hstep, hrefused⟩ := hchecks.refused (.whole (-1)) hbad
  obtain ⟨e, he, hcls, _⟩ := hrefused.negative (by simp [Number.IsNegative])
    (by decide +kernel)
  exact ⟨x, id, j, e, hstart, hwait, hstep, he, hcls⟩

/-- What is no number is taken for a timeout. -/
theorem nan_taken_for_timeout :
    ∃ x, start nanMessage (.start true accepting []) ⟨[], []⟩ false = .ok x ∧
      x.readTimeout = .nan ∧ ¬ x.readTimeout.IsNonNegative := by
  obtain ⟨x, hstart, htimeout⟩ := exists_of_any_start (p := nanMessage)
    (n := .start true accepting []) (j := ⟨[], []⟩) (u := false)
    (q := fun x ↦ decide (x.readTimeout = .nan)) (by decide +kernel)
  have hnan := of_decide_eq_true htimeout
  exact ⟨x, hstart, hnan, by simp [hnan, Binary64.IsNonNegative]⟩

end Exchange

end SecureExchange
