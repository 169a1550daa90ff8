import SecureExchange.Proofs.Exchange.FailedReopening
import SecureExchange.Proofs.Exchange.Opening
import SecureExchange.Proofs.Exchange.StagedRequest

/-!
# What a start is refused for

Target, verb, timeout and handle are checked in this order, and the first check that fails decides
how a start is refused. Each has a class of errors to report itself with. Four values in a target
and two in a timeout are not turned into such an error but raised as they are met (`Unguarded`).
-/

namespace SecureExchange

open Failure Address

namespace Exchange

/-- What is checked before an exchange starts. -/
inductive Check
  | target
  | verb
  | timeout
  | handle
  deriving DecidableEq, Repr

namespace Check

/-- In the order in which they are made. -/
def all : List Check := [.target, .verb, .timeout, .handle]

/-- The class of errors that a check reports itself with. -/
def errorClass : Check → ErrorClass
  | .target => .invalidTarget
  | .verb | .timeout => .invalidArgument
  | .handle => .retryableConnection

def fails (p : Proposal) (n : Network) : Check → Bool
  | .target => (targetOf p.target).toOption.isNone
  | .verb => (Verb.ofDatum? p.verb).isNone
  | .timeout => (startTimeout p).toOption.isNone
  | .handle => (n.openHandle none).1.toOption.isNone

end Check

def firstFailing? (p : Proposal) (n : Network) : Option Check := Check.all.find? (·.fails p n)

/-- Faults that a failing check raises as they are. -/
inductive Unguarded (p : Proposal) : Check → Fault → Prop
  /-- The ASCII form of the host cannot be read back. -/
  | unreadableHost {s : String} {t : Target} {e : HostName.Fault} (htext : p.target = .text s)
      (hparse : Target.parse s.toList = .ok t) (hscheme : t.scheme = secureScheme.toList)
      (hhost : t.readableHost = .error e) : Unguarded p .target e.toFault
  /-- A text without a host cannot be shown in the error that says so. -/
  | unshownText {s : String} {t : Target} {e : Reference.Fault} (htext : p.target = .text s)
      (hparse : Target.parse s.toList = .ok t) (hscheme : t.scheme = secureScheme.toList)
      (hhost : t.readableHost = .ok []) (hshown : Redaction.addressText s = .error e) :
      Unguarded p .target e.toFault
  /-- A negative timeout cannot be written out in the error that says so. -/
  | unwritable {i : Int} (hgiven : p.readTimeout = some (.whole i)) (hnegative : i < 0)
      (hdigits : Nat.pow 10 Number.maxDigits ≤ i.natAbs) : Unguarded p .timeout unwritableNumber
  /-- A timeout is beyond all floating-point numbers. -/
  | oversized {i : Int} (hgiven : p.readTimeout = some (.whole i)) (hpositive : 0 ≤ i)
      (hlarge : Binary64.ofInt? i = none) :
      Unguarded p .timeout (.overflow "int too large to convert to float")
  /-- The target cannot be shown in the error of its handle. -/
  | unshownTarget {t : Target} {e : Reference.Fault} (htarget : targetOf p.target = .ok t)
      (hshown : Redaction.addressText t.text = .error e) : Unguarded p .handle e.toFault

/-- A refusal reports a check: by an error of its class, unless the fault is unguarded. -/
structure Refusal.Reports (r : Refusal) (p : Proposal) (check : Check) : Prop where
  raw : ∀ f, Unguarded p check f → r.journal.failures.fault? r.failure = some f
  classified : (∀ f, ¬ Unguarded p check f) →
    ∃ e, r.journal.failures.classified? r.failure = some e ∧ e.cls = check.errorClass

variable {p : Proposal} {n : Network} {j : Journal} {check : Check}

/-! ### Unguarded faults, check by check -/

theorem unguarded_target_iff {f : Fault} :
    Unguarded p .target f ↔ targetOf p.target = .error (.raw f) := by
  constructor
  · rintro (⟨htext, hparse, hscheme, hhost⟩ | ⟨htext, hparse, hscheme, hhost, hshown⟩)
    · simp [targetOf, targetOfText, htext, hparse, hscheme, hhost]
    · simp [targetOf, targetOfText, htext, hparse, hscheme, hhost, hshown]
  · intro h
    cases htext : p.target with
    | text s =>
        rw [htext, targetOf, targetOfText] at h
        cases hparse : Target.parse s.toList with
        | error e => simp [hparse] at h
        | ok t =>
            by_cases hscheme : t.scheme = secureScheme.toList
            · cases hhost : t.readableHost with
              | error e =>
                  obtain rfl : e.toFault = f := by simpa [hparse, hscheme, hhost] using h
                  exact .unreadableHost htext hparse hscheme hhost
              | ok host =>
                  cases host with
                  | cons c rest => simp [hparse, hscheme, hhost] at h
                  | nil =>
                      cases hshown : Redaction.addressText s with
                      | ok shown => simp [hparse, hscheme, hhost, hshown] at h
                      | error e =>
                          obtain rfl : e.toFault = f := by
                            simpa [hparse, hscheme, hhost, hshown] using h
                          exact .unshownText htext hparse hscheme hhost hshown
            · simp [hparse, hscheme] at h
    | _ => simp [htext, targetOf] at h

theorem not_unguarded_verb (f : Fault) : ¬ Unguarded p .verb f := by
  rintro ⟨⟩

theorem hasText_whole {i : Int} :
    Number.hasText (.whole i) = true ↔ i.natAbs < Nat.pow 10 Number.maxDigits := by
  rw [Number.hasText, decide_eq_true_eq]

theorem unguarded_timeout_iff {f : Fault} :
    Unguarded p .timeout f ↔ ∃ e, startTimeout p = .error e ∧ e.failure = .fault f := by
  constructor
  · rintro (_ | _ | @⟨i, hgiven, hnegative, hdigits⟩ | ⟨hgiven, hpositive, hlarge⟩)
    · refine ⟨.negative (.whole i), ?_, ?_⟩
      · simp only [startTimeout, hgiven, readTimeoutOf, hnegative, if_true]
      · rw [TimeoutFault.failure, if_neg (hasText_whole.not.mpr (Nat.not_lt.mpr hdigits))]
    · have hnegative := Int.not_lt.mpr hpositive
      exact ⟨.tooLarge, by simp [startTimeout, hgiven, readTimeoutOf, hnegative, hlarge], rfl⟩
  · rintro ⟨e, he, hf⟩
    cases hgiven : p.readTimeout with
    | none => simp [startTimeout, hgiven] at he
    | some given =>
        cases given with
        | binary x =>
            by_cases hnegative : x.isNegative = true
            · obtain rfl : .negative (.binary x) = e := by
                simpa [startTimeout, hgiven, readTimeoutOf, hnegative] using he
              simp [TimeoutFault.failure, Number.hasText] at hf
            · simp [startTimeout, hgiven, readTimeoutOf, hnegative] at he
        | whole i =>
            by_cases hnegative : i < 0
            · obtain rfl : .negative (.whole i) = e := by
                simpa [startTimeout, hgiven, readTimeoutOf, hnegative] using he
              cases htext : Number.hasText (.whole i) with
              | true => simp [TimeoutFault.failure, htext] at hf
              | false =>
                  obtain rfl : unwritableNumber = f := by
                    simpa [TimeoutFault.failure, htext] using hf
                  refine .unwritable hgiven hnegative (Nat.not_lt.mp fun hshort ↦ ?_)
                  simp [hasText_whole.mpr hshort] at htext
            · cases hlarge : Binary64.ofInt? i with
              | some x => simp [startTimeout, hgiven, readTimeoutOf, hnegative, hlarge] at he
              | none =>
                  obtain rfl : .tooLarge = e := by
                    simpa [startTimeout, hgiven, readTimeoutOf, hnegative, hlarge] using he
                  obtain rfl := Failure.fault.inj hf
                  exact .oversized hgiven (Int.not_lt.mp hnegative) hlarge

theorem unguarded_handle_iff {t : Target} (htarget : targetOf p.target = .ok t) {f : Fault} :
    Unguarded p .handle f ↔ ∃ e, Redaction.addressText t.text = .error e ∧ e.toFault = f := by
  constructor
  · rintro (_ | _ | _ | _ | ⟨htarget', hshown⟩)
    obtain rfl := Except.ok.inj (htarget.symm.trans htarget')
    exact ⟨_, hshown, rfl⟩
  · rintro ⟨e, hshown, rfl⟩
    exact .unshownTarget htarget hshown

/-! ### Refusals, check by check -/

theorem reports_target {f : TargetFault} (hf : targetOf p.target = .error f) :
    Refusal.Reports ⟨(recordTargetFault f j).1, n, (recordTargetFault f j).2⟩ p .target where
  raw g hg := by
    obtain rfl := Except.error.inj (hf.symm.trans (unguarded_target_iff.mp hg))
    exact Graph.fault?_record ..
  classified hguarded := by
    cases f with
    | raw g => exact absurd (unguarded_target_iff.mpr hf) (hguarded g)
    | _ => exact ⟨_, Graph.classified?_record .., rfl⟩

theorem reports_verb :
    Refusal.Reports ⟨(Verb.refuse p.verb j.failures).1, n,
      { j with failures := (Verb.refuse p.verb j.failures).2 }⟩ p .verb where
  raw f hf := absurd hf (not_unguarded_verb f)
  classified _ := ⟨_, Graph.classified?_record .., rfl⟩

theorem reports_timeout {f : TimeoutFault} (hf : startTimeout p = .error f) :
    Refusal.Reports ⟨(j.record f.failure none).1, n, (j.record f.failure none).2⟩ p .timeout where
  raw g hg := by
    obtain ⟨f', hf', hraw⟩ := unguarded_timeout_iff.mp hg
    obtain rfl := Except.error.inj (hf.symm.trans hf')
    rw [hraw]
    exact Graph.fault?_record ..
  classified hguarded := by
    cases hfailure : f.failure with
    | fault g => exact absurd (unguarded_timeout_iff.mpr ⟨f, hf, hfailure⟩) (hguarded g)
    | classified e =>
        refine ⟨e, Graph.classified?_record .., ?_⟩
        cases f with
        | tooLarge => simp [TimeoutFault.failure] at hfailure
        | negative given =>
            rw [TimeoutFault.failure] at hfailure
            split at hfailure
            · obtain rfl := Failure.classified.inj hfailure
              rfl
            · simp at hfailure

theorem reports_handle {t : Target} {id : FailureId} {m : Network} {c : FaultClass}
    (htarget : targetOf p.target = .ok t) (hclass : j.failures.class? id = some c)
    (hio : c.isSystem = true ∨ c.Carries) :
    Refusal.Reports ⟨(recordOpenFailure t id j).1, m, (recordOpenFailure t id j).2⟩ p .handle where
  raw f hf := by
    obtain ⟨e, hshown, rfl⟩ := (unguarded_handle_iff htarget).mp hf
    exact (recordOpenFailure_failsToOpen t hclass hio).unshown e hshown
  classified hguarded := by
    cases hshown : Redaction.addressText t.text with
    | error e => exact absurd ((unguarded_handle_iff htarget).mpr ⟨e, hshown, rfl⟩) (hguarded _)
    | ok shown =>
        obtain ⟨e, he, hcls, _⟩ := (recordOpenFailure_failsToOpen t hclass hio).wrapped shown hshown
        exact ⟨e, he, hcls⟩

/-! ### The first failing check -/

/-- A refused start leaves handles and peer as they were, and reports one check. -/
structure Refused (p : Proposal) (n : Network) (check : Check) (r : Refusal) : Prop where
  reports : r.Reports p check
  handles : r.network.handles = n.handles
  sent : r.network.sent = n.sent

/-- If handles fail to open for failures of input or output only, an exchange starts exactly if no
check fails, with a target of the secure scheme that has a host. Otherwise the first check that
fails is reported, with an error of its class unless it met an unguarded fault. -/
theorem start_decided_by_first_failing_check (unredacted : Bool)
    (hopenings : ∀ id, (n.openHandle none).1 = .error id →
      ∃ c, j.failures.class? id = some c ∧ (c.isSystem = true ∨ c.Carries)) :
    (firstFailing? p n = none → ∃ x host, start p n j unredacted = .ok x ∧ Started p n x ∧
      x.target.scheme = secureScheme.toList ∧ x.target.readableHost = .ok host ∧ host ≠ []) ∧
    ∀ check, firstFailing? p n = some check →
      ∃ r, start p n j unredacted = .error r ∧ Refused p n check r := by
  -- The cases follow the order of the checks: each one is reached only if those before it passed.
  cases htarget : targetOf p.target with
  | error f =>
      have hfirst : firstFailing? p n = some .target := by
        simp [firstFailing?, Check.all, Check.fails, htarget, Except.toOption]
      refine ⟨by simp [hfirst], fun check hcheck ↦ ?_⟩
      obtain rfl := Option.some.inj (hfirst.symm.trans hcheck)
      refine ⟨⟨(recordTargetFault f j).1, n, (recordTargetFault f j).2⟩, ?_,
        reports_target htarget, rfl, rfl⟩
      simp only [start, htarget]
  | ok t =>
  cases hverb : Verb.ofDatum? p.verb with
  | none =>
      have hfirst : firstFailing? p n = some .verb := by
        simp [firstFailing?, Check.all, Check.fails, htarget, hverb, Except.toOption]
      refine ⟨by simp [hfirst], fun check hcheck ↦ ?_⟩
      obtain rfl := Option.some.inj (hfirst.symm.trans hcheck)
      refine ⟨⟨(Verb.refuse p.verb j.failures).1, n,
        { j with failures := (Verb.refuse p.verb j.failures).2 }⟩, ?_, reports_verb, rfl, rfl⟩
      simp only [start, htarget, hverb]
  | some verb =>
  cases htimeout : startTimeout p with
  | error f =>
      have hfirst : firstFailing? p n = some .timeout := by
        simp [firstFailing?, Check.all, Check.fails, htarget, hverb, htimeout, Except.toOption]
      refine ⟨by simp [hfirst], fun check hcheck ↦ ?_⟩
      obtain rfl := Option.some.inj (hfirst.symm.trans hcheck)
      refine ⟨⟨(j.record f.failure none).1, n, (j.record f.failure none).2⟩, ?_,
        reports_timeout htimeout, rfl, rfl⟩
      simp only [start, htarget, hverb, htimeout]
  | ok seconds =>
  rcases hopen : n.openHandle none with ⟨id | _, m⟩
  · have hfirst : firstFailing? p n = some .handle := by
      simp [firstFailing?, Check.all, Check.fails, htarget, hverb, htimeout, hopen, Except.toOption]
    refine ⟨by simp [hfirst], fun check hcheck ↦ ?_⟩
    obtain rfl := Option.some.inj (hfirst.symm.trans hcheck)
    obtain ⟨c, hclass, hio⟩ := hopenings id (by rw [hopen])
    obtain ⟨rest, _, rfl⟩ := Network.openHandle_error hopen
    refine ⟨⟨(recordOpenFailure t id j).1, { n with openings := rest },
      (recordOpenFailure t id j).2⟩, ?_, reports_handle htarget hclass hio, rfl, rfl⟩
    simp only [start, htarget, hverb, htimeout, hopen]
  · have hfirst : firstFailing? p n = none := by
      simp [firstFailing?, Check.all, Check.fails, htarget, hverb, htimeout, hopen, Except.toOption]
    refine ⟨fun _ ↦ ?_, by simp [hfirst]⟩
    obtain ⟨x, hstart⟩ : ∃ x, start p n j unredacted = .ok x := by
      simp only [start, htarget, hverb, htimeout, hopen, Except.ok.injEq, exists_eq']
    have hstarted := start_started hstart
    obtain ⟨hscheme, host, hhost, hne⟩ := targetOf_eq_ok hstarted.target
    exact ⟨x, host, hstart, hstarted, hscheme, hhost, hne⟩

/-- Only the last check fails, and the target can be shown in the error that says so. -/
theorem start_decided_by_first_failing_check_of_handle :
    ∃ r e, firstFailing? queryHub (.start false accepting [some 0]) = some .handle ∧
      start queryHub (.start false accepting [some 0]) hubJournal false = .error r ∧
      r.network.handles = [] ∧ r.network.sent = [] ∧
      r.journal.failures.classified? r.failure = some e ∧ e.cls = .retryableConnection := by
  have hfirst : firstFailing? queryHub (.start false accepting [some 0]) = some .handle := by
    decide +kernel
  have hshown : (targetOf queryHub.target).toOption.all
      (fun t ↦ (Redaction.addressText t.text).toOption.isSome) = true := by
    decide +kernel
  obtain ⟨_, hrefused⟩ := start_decided_by_first_failing_check (p := queryHub)
    (n := .start false accepting [some 0]) (j := hubJournal) false (by
      intro id hid
      obtain rfl : 0 = id := by simpa [Network.openHandle, Network.start] using hid
      exact ⟨.system .any, rfl, .inl rfl⟩)
  obtain ⟨r, hstart, hr⟩ := hrefused .handle hfirst
  obtain ⟨e, he, hcls⟩ := hr.reports.classified (by
    rintro _ (_ | _ | _ | _ | ⟨htarget, herror⟩)
    simp [htarget, herror, Except.toOption] at hshown)
  exact ⟨r, e, hfirst, hstart, hr.handles, hr.sent, he, hcls⟩

/-- The host looks like an ASCII form, but there is nothing to read back. -/
theorem unreadable_host_raised_raw :
    ∃ r, start ⟨.text "https://xn--/twin", .text "GET", none⟩ (.start true accepting [])
        ⟨[], []⟩ false = .error r ∧
      r.journal.failures.classified? r.failure = none ∧
      r.journal.failures.class? r.failure = some (.other "IDNAError") := by
  obtain ⟨r, hstart, hraw⟩ := exists_of_refusal
    (p := ⟨.text "https://xn--/twin", .text "GET", none⟩) (n := .start true accepting [])
    (j := ⟨[], []⟩) (u := false)
    (q := fun r ↦ (r.journal.failures.classified? r.failure).isNone &&
      decide (r.journal.failures.class? r.failure = some (.other "IDNAError")))
    (by decide +kernel)
  simp only [Bool.and_eq_true, Option.isNone_iff_eq_none, decide_eq_true_eq] at hraw
  exact ⟨r, hstart, hraw⟩

end Exchange

end SecureExchange
