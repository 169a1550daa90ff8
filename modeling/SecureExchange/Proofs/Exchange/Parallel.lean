import SecureExchange.Proofs.Exchange.FieldReading
import SecureExchange.Proofs.Exchange.ReadFailures
import SecureExchange.Proofs.Failure.Matching

/-!
# Exchanges side by side

Two exchanges run in parallel if they differ only in the character set that was settled for their
fields, and in that one of them has recorded more failures. Every operation but a write of a text
beyond ASCII takes parallel exchanges to parallel ones, and ends in the same way on both of them
(`EndParallel`): with the same value, or with failures that are the same but for their places.
-/

namespace SecureExchange

open Failure Text Address

/-- The failure may be raised by an answer of the peer, or when a handle is opened. -/
def Network.Raises (n : Network) (id : FailureId) : Prop :=
  (∃ a, n.script.Gives a ∧ id ∈ a.failures) ∨ some id ∈ n.openings

namespace Network

variable {n : Network} {id : FailureId}

theorem raises_of_deliver {r : Request} {t : Trust} (h : (n.deliver r t).Raises id) :
    n.Raises id := by
  refine h.imp_left ?_
  rintro ⟨a, ha, hid⟩
  exact ⟨a, Script.gives_of_advance ha, hid⟩

theorem raises_of_closeHandle (h : n.closeHandle.Raises id) : n.Raises id := by
  obtain ⟨_, hclose⟩ := n.closeHandle_eq
  rwa [hclose] at h

theorem raises_of_openHandle {context : Option String} (h : (n.openHandle context).2.Raises id) :
    n.Raises id := by
  unfold openHandle at h
  split at h
  · exact h
  · dsimp only at h
    split at h
    · next hopenings => exact h.imp_right fun hrest ↦ by rw [hopenings]; exact .tail _ hrest
    · next hopenings => exact h.imp_right fun hrest ↦ by rw [hopenings]; exact .tail _ hrest
    · exact h

/-- What fails when a handle is opened was among the openings. -/
theorem raises_of_openHandle_error {m : Network} {context : Option String}
    (h : n.openHandle context = (.error id, m)) : n.Raises id := by
  unfold openHandle at h
  split at h
  · simp at h
  · dsimp only at h
    split at h
    · next hopenings =>
        obtain rfl := Except.error.inj (Prod.mk.inj h).1
        exact .inr (by rw [hopenings]; exact .head _)
    · simp at h
    · simp at h

end Network

namespace Exchange

/-- The exchange does not record the failure itself: it is one of the network or of the reply. -/
def Raises (x : Exchange) (id : FailureId) : Prop :=
  x.network.Raises id ∨ ∃ c, x.channel = some c ∧ id ∈ (Answer.reply c.reply).failures

def beside (x : Exchange) (fields : Fields) (failures : Graph) : Exchange :=
  { x with fields := fields, journal := { x.journal with failures := failures } }

/-- Fields and failures that go with those of `x`. -/
structure Beside (strict : Prop) (M : Pairing) (x : Exchange) (fields : Fields)
    (failures : Graph) : Prop where
  fields : x.fields.ReadAlike strict fields
  failures : x.journal.failures.Matching M failures
  raises : ∀ id, x.Raises id → M id id

def Parallel (strict : Prop) (M : Pairing) (x x' : Exchange) : Prop :=
  ∃ fields failures, x.Beside strict M fields failures ∧ x' = x.beside fields failures

/-- The same value, or failures at paired places. -/
inductive SameOutcome {α : Type} (M : Pairing) : Outcome α → Outcome α → Prop
  | ok (a : α) : SameOutcome M (.ok a) (.ok a)
  | error {id id' : FailureId} (h : M id id') : SameOutcome M (.error id) (.error id')

/-- Fields can be set, but only to ASCII texts. -/
def isNarrow (x : Exchange) : Bool := decide (x.phase = .configured) && x.fields.isNarrow

/-- Two operations end with the same outcome and with parallel exchanges. They may have recorded
failures that are paired now. -/
def EndParallel {α : Type} (strict : Prop) (M : Pairing) (r r' : Outcome α × Exchange) : Prop :=
  ∃ M', M ≤ M' ∧ SameOutcome M' r.1 r'.1 ∧ Parallel strict M' r.2 r'.2

variable {α β : Type} {strict : Prop} {M M' : Pairing} {x x' y y' : Exchange}
  {fields fields' : Fields} {g g' : Graph} {id id' : FailureId}
  {handling handling' : Option FailureId} {r r' : Outcome α × Exchange}

theorem Beside.of_kept (hb : x.Beside strict M fields g) (hM : M ≤ M')
    (hfields : y.fields.ReadAlike strict fields') (hfailures : y.journal.failures.Matching M' g')
    (hraises : ∀ id, y.Raises id → x.Raises id) : y.Beside strict M' fields' g' :=
  ⟨hfields, hfailures, fun id hid ↦ hM _ _ (hb.raises id (hraises id hid))⟩

theorem Beside.parallel (hb : x.Beside strict M fields g) :
    x.Parallel strict M (x.beside fields g) := ⟨fields, g, hb, rfl⟩

/-- What is changed on both sides, but for fields and failures. -/
theorem Beside.kept (hb : x.Beside strict M fields g) (hfields : y.fields = x.fields)
    (hfailures : y.journal.failures = x.journal.failures)
    (hraises : ∀ id, y.Raises id → x.Raises id) : y.Parallel strict M (y.beside fields g) := by
  refine (hb.of_kept le_rfl ?_ ?_ hraises).parallel
  · rw [hfields]
    exact hb.fields
  · rw [hfailures]
    exact hb.failures

section Parallel

variable (h : x.Parallel strict M x')
include h

theorem Parallel.target : x'.target = x.target := by
  obtain ⟨fields, g, hb, rfl⟩ := h
  rfl

theorem Parallel.verb : x'.verb = x.verb := by
  obtain ⟨fields, g, hb, rfl⟩ := h
  rfl

theorem Parallel.phase : x'.phase = x.phase := by
  obtain ⟨fields, g, hb, rfl⟩ := h
  rfl

theorem Parallel.channel : x'.channel = x.channel := by
  obtain ⟨fields, g, hb, rfl⟩ := h
  rfl

theorem Parallel.isDrained : x'.isDrained = x.isDrained := by
  obtain ⟨fields, g, hb, rfl⟩ := h
  rfl

theorem Parallel.network : x'.network = x.network := by
  obtain ⟨fields, g, hb, rfl⟩ := h
  rfl

theorem Parallel.events : x'.journal.events = x.journal.events := by
  obtain ⟨fields, g, hb, rfl⟩ := h
  rfl

theorem Parallel.failures : x.journal.failures.Matching M x'.journal.failures := by
  obtain ⟨fields, g, hb, rfl⟩ := h
  exact hb.failures

theorem Parallel.raises (hid : x.Raises id) : M id id := by
  obtain ⟨fields, g, hb, rfl⟩ := h
  exact hb.raises id hid

theorem Parallel.shownAddress : x'.shownAddress = x.shownAddress := by
  rw [Exchange.shownAddress, Exchange.shownAddress, h.target]

end Parallel

theorem SameOutcome.of_le {outcome outcome' : Outcome α} (hM : M ≤ M')
    (h : SameOutcome M outcome outcome') : SameOutcome M' outcome outcome' := by
  cases h with
  | ok a => exact .ok a
  | error hid => exact .error (hM _ _ hid)

theorem SameOutcome.failure? {outcome outcome' : Outcome α} (h : SameOutcome M outcome outcome') :
    Option.Rel M (failure? outcome) (failure? outcome') := by
  cases h with
  | ok a => exact .none
  | error hid => exact .some hid

theorem SameOutcome.map {outcome outcome' : Outcome α} (h : SameOutcome M outcome outcome')
    (f : α → β) : SameOutcome M (outcome.map f) (outcome'.map f) := by
  cases h with
  | ok a => exact .ok (f a)
  | error hid => exact .error hid

theorem Parallel.returns (h : x.Parallel strict M x') (a : α) :
    EndParallel strict M (.ok a, x) (.ok a, x') := ⟨M, le_rfl, .ok a, h⟩

theorem Parallel.fails (h : x.Parallel strict M x') (hid : M id id') :
    EndParallel (α := α) strict M (.error id, x) (.error id', x') := ⟨M, le_rfl, .error hid, h⟩

theorem EndParallel.of_le (hM : M ≤ M') (h : EndParallel strict M' r r') :
    EndParallel strict M r r' := by
  obtain ⟨M'', hM', h⟩ := h
  exact ⟨M'', le_trans hM hM', h⟩

theorem EndParallel.yielding (h : EndParallel strict M r r') (f : α → Yield) :
    EndParallel strict M (yielding f r) (yielding f r') := by
  obtain ⟨M', hM, hsame, hp⟩ := h
  exact ⟨M', hM, hsame.map f, hp⟩

/-- The rest of an operation, whose first part has ended on both sides. -/
theorem EndParallel.cases (h : EndParallel strict M r r') : ∃ M', M ≤ M' ∧
    ((∃ id id' y y', r = (.error id, y) ∧ r' = (.error id', y') ∧ M' id id' ∧
        y.Parallel strict M' y') ∨
      ∃ a y y', r = (.ok a, y) ∧ r' = (.ok a, y') ∧ y.Parallel strict M' y') := by
  obtain ⟨outcome, y⟩ := r
  obtain ⟨outcome', y'⟩ := r'
  obtain ⟨M', hM, hsame, hy⟩ := h
  refine ⟨M', hM, ?_⟩
  cases hsame with
  | error hid => exact .inl ⟨_, _, y, y', rfl, rfl, hid, hy⟩
  | ok a => exact .inr ⟨a, y, y', rfl, rfl, hy⟩

theorem endParallel_ite {c : Prop} [Decidable c] {q q' : Outcome α × Exchange}
    (hr : EndParallel strict M r r') (hq : EndParallel strict M q q') :
    EndParallel strict M (if c then r else q) (if c then r' else q') := by
  split
  · exact hr
  · exact hq

/-! ### Failures and events -/

theorem Parallel.record {f f' : Failure} (h : x.Parallel strict M x') (hf : SameUpTo M f f')
    (hh : Option.Rel M handling handling') : ∃ M', M ≤ M' ∧
      M' (x.journal.record f handling).1 (x'.journal.record f' handling').1 ∧
      Parallel strict M' { x with journal := (x.journal.record f handling).2 }
        { x' with journal := (x'.journal.record f' handling').2 } := by
  obtain ⟨fields, g, hb, rfl⟩ := h
  refine ⟨_, Pairing.le_extend, Pairing.extend_self, fields, (g.record f' handling').2, ?_, rfl⟩
  exact hb.of_kept Pairing.le_extend hb.fields (hb.failures.record hf hh) fun _ hid ↦ hid

theorem Parallel.raise {f f' : Failure} (h : x.Parallel strict M x') (hf : SameUpTo M f f')
    (hh : Option.Rel M handling handling') :
    EndParallel (α := α) strict M (x.raise f handling) (x'.raise f' handling') := by
  obtain ⟨M', hM, hid, hrecorded⟩ := h.record hf hh
  exact ⟨M', hM, .error hid, hrecorded⟩

theorem Parallel.raiseFault (h : x.Parallel strict M x') (f : Fault) :
    EndParallel (α := α) strict M (x.raiseFault f) (x'.raiseFault f) :=
  h.raise (.fault f) .none

theorem Parallel.refuse (h : x.Parallel strict M x') (cls : ErrorClass) (message : String)
    (details : OrderedMap String Datum) :
    EndParallel (α := α) strict M (x.refuse cls message details)
      (x'.refuse cls message details) :=
  h.raise (.ofClass M cls (some message) details) .none

theorem Parallel.raiseAgain (h : x.Parallel strict M x') (hid : M id id')
    (hh : Option.Rel M handling handling') :
    EndParallel (α := α) strict M (x.raiseAgain id handling) (x'.raiseAgain id' handling') := by
  obtain ⟨fields, g, hb, rfl⟩ := h
  refine ⟨M, le_rfl, .error hid, fields, g.handleDuring id' handling', ?_, rfl⟩
  exact hb.of_kept le_rfl hb.fields (hb.failures.handleDuring hid hh) fun _ hid ↦ hid

theorem Parallel.log (h : x.Parallel strict M x') (level : EventLog.Level) (name : String)
    (entries : OrderedMap String Datum) :
    (x.log level name entries).Parallel strict M (x'.log level name entries) := by
  obtain ⟨fields, g, hb, rfl⟩ := h
  exact hb.kept rfl rfl fun _ hid ↦ hid

theorem Parallel.isHttpFailure (h : x.Parallel strict M x') (hid : M id id') :
    x'.isHttpFailure id' = x.isHttpFailure id := by
  rw [Exchange.isHttpFailure, Exchange.isHttpFailure, h.failures.class? hid]

theorem Parallel.failureEntries (h : x.Parallel strict M x') (hid : M id id') :
    x'.failureEntries id' = x.failureEntries id := by
  rw [Exchange.failureEntries, Exchange.failureEntries, h.failures.class? hid,
    h.failures.text hid]

theorem whileConfigured_parallel (h : x.Parallel strict M x') (operation : String)
    {go go' : Exchange → Outcome α × Exchange}
    (hgo : x.phase = .configured → EndParallel strict M (go x) (go' x')) :
    EndParallel strict M (x.whileConfigured operation go) (x'.whileConfigured operation go') := by
  unfold whileConfigured
  rw [h.phase]
  by_cases hx : x.phase = .configured
  · rw [if_pos hx, if_pos hx]
    exact hgo hx
  · rw [if_neg hx, if_neg hx]
    exact h.refuse _ _ _

/-! ### Setters -/

/-- A value that names no verb is refused by the same two failures. -/
theorem refuseVerb_matching (hg : g.Matching M g') (given : Datum) : ∃ M', M ≤ M' ∧
    M' (Verb.refuse given g).1 (Verb.refuse given g').1 ∧
    (Verb.refuse given g).2.Matching M' (Verb.refuse given g').2 := by
  have hbare := hg.record
    (.fault (.invalidValue (given.literal ++ " is not a valid HttpsMethod"))) .none
  have hid : M.extend g.length g'.length g.length g'.length := Pairing.extend_self
  have hwrapped := hbare.record (hbare.ofClass hid .invalidArgument
    (some ("Unsupported HTTPS method " ++ given.literal)) [("method", .text given.display)])
    (.some hid)
  exact ⟨_, le_trans Pairing.le_extend Pairing.le_extend, Pairing.extend_self, hwrapped⟩

theorem setVerb_parallel (h : x.Parallel strict M x') (given : Datum) :
    EndParallel strict M (x.setVerb given) (x'.setVerb given) := by
  refine whileConfigured_parallel h _ fun _ ↦ ?_
  obtain ⟨fields, g, hb, rfl⟩ := h
  cases hverb : Verb.ofDatum? given with
  | some verb =>
      simp only [setVerbConfigured, hverb]
      refine endParallel_ite (hb.parallel.refuse _ _ _) ?_
      exact ⟨M, le_rfl, .ok (), hb.kept rfl rfl fun _ hid ↦ hid⟩
  | none =>
      obtain ⟨M', hM, hid, hmatching⟩ := refuseVerb_matching hb.failures given
      have hrefused : Parallel strict M'
          { x with journal := { x.journal with
            failures := (Verb.refuse given x.journal.failures).2 } }
          { x.beside fields g with journal := { x.journal with
            failures := (Verb.refuse given g).2 } } :=
        ⟨fields, _, hb.of_kept hM hb.fields hmatching fun _ hid ↦ hid, rfl⟩
      have hg : (x.beside fields g).journal.failures = g := rfl
      have htext := hmatching.text hid
      have hdetails := hmatching.details hid
      simp only [setVerbConfigured, hverb, hg, htext]
      generalize Verb.refuse given x.journal.failures = refusal at *
      generalize Verb.refuse given g = refusal' at *
      have hraised := fun details ↦ hrefused.raise (α := Unit)
        (hmatching.ofClass hid .invalidState (some (refusal.2.text refusal.1)) details) (.some hid)
      refine .of_le hM ?_
      cases hclassified : refusal.2.classified? refusal.1 with
      | none =>
          have hclassified' : refusal'.2.classified? refusal'.1 = none := by
            simpa [hclassified] using hdetails
          rw [hclassified']
          exact hraised []
      | some e =>
          obtain ⟨e', he', hsame⟩ : ∃ e', refusal'.2.classified? refusal'.1 = some e' ∧
              e'.details = e.details := by
            simpa [hclassified, Option.map_eq_some_iff] using hdetails
          rw [he']
          dsimp only
          rw [hsame]
          exact hraised e.details

/-- Setting a field is the same on both sides if the text is ASCII, or if other texts are refused on
both sides or on neither. -/
theorem setField_parallel (h : x.Parallel strict M x') {name value : String}
    (hnarrow : (allAscii name.toList && allAscii value.toList) = true ∨
      x'.isNarrow = x.isNarrow) :
    EndParallel strict M (x.setField name value) (x'.setField name value) := by
  refine whileConfigured_parallel h _ fun hphase ↦ ?_
  have hphase' := h.phase.trans hphase
  obtain ⟨fields, g, hb, rfl⟩ := h
  have hfields : (x.beside fields g).fields = fields := rfl
  simp only [isNarrow, hphase, hphase', hfields, decide_true, Bool.true_and] at hnarrow
  rw [hfields]
  rcases hb.fields.set hnarrow with ⟨e, hset, hset'⟩ | ⟨f, f', hset, hset', hread⟩
  · rw [hset, hset']
    exact hb.parallel.raiseFault _
  · rw [hset, hset']
    exact ⟨M, le_rfl, .ok (), f', g, hb.of_kept le_rfl hread hb.failures fun _ hid ↦ hid, rfl⟩

/-- What is wrong with a timeout wraps nothing. -/
theorem sameUpTo_timeout (M : Pairing) (f : TimeoutFault) : SameUpTo M f.failure f.failure := by
  cases f with
  | tooLarge => exact .fault _
  | negative given =>
      unfold TimeoutFault.failure
      dsimp only
      split
      · exact .ofClass M _ _ _
      · exact .fault _

theorem setReadTimeout_parallel (h : x.Parallel strict M x') (given : Number) :
    EndParallel strict M (x.setReadTimeout given) (x'.setReadTimeout given) := by
  unfold setReadTimeout
  cases readTimeoutOf given with
  | error f => exact h.raise (sameUpTo_timeout M f) .none
  | ok seconds =>
      obtain ⟨fields, g, hb, rfl⟩ := h
      refine endParallel_ite ?_ ((hb.parallel.log ..).returns ())
      exact ⟨M, le_rfl, .ok (), hb.kept rfl rfl fun _ hid ↦ hid⟩

theorem writeBody_parallel (h : x.Parallel strict M x') (body : Octets) :
    EndParallel strict M (x.writeBody body) (x'.writeBody body) := by
  refine whileConfigured_parallel h _ fun _ ↦ ?_
  obtain ⟨fields, g, hb, rfl⟩ := h
  refine endParallel_ite ?_ (endParallel_ite (hb.parallel.returns ()) (hb.parallel.refuse _ _ _))
  exact ⟨M, le_rfl, .ok (), hb.kept rfl rfl fun _ hid ↦ hid⟩

theorem recordOpenFailure_parallel (h : x.Parallel strict M x') (hid : M id id) :
    EndParallel (α := α) strict M
      (.error (recordOpenFailure x.target id x.journal).1,
        { x with journal := (recordOpenFailure x.target id x.journal).2 })
      (.error (recordOpenFailure x'.target id x'.journal).1,
        { x' with journal := (recordOpenFailure x'.target id x'.journal).2 }) := by
  obtain ⟨fields, g, hb, rfl⟩ := h
  have hclass : (x.beside fields g).journal.failures.class? id = x.journal.failures.class? id :=
    hb.failures.class? hid
  have htarget : (x.beside fields g).target = x.target := rfl
  unfold recordOpenFailure
  rw [hclass, htarget]
  cases x.journal.failures.class? id with
  | none => exact hb.parallel.fails hid
  | some c =>
      dsimp only
      cases c.isInputOutput with
      | false => exact hb.parallel.fails hid
      | true =>
          cases Redaction.addressText x.target.text with
          | error e => exact hb.parallel.raise (.fault e.toFault) (.some hid)
          | ok shown => exact hb.parallel.raise (hb.failures.ofClass hid _ _ _) (.some hid)

theorem reopen_parallel (h : x.Parallel strict M x') (context : String) :
    EndParallel strict M (x.reopen context) (x'.reopen context) := by
  obtain ⟨fields, g, hb, rfl⟩ := h
  have hnetwork : (x.beside fields g).network = x.network := rfl
  unfold reopen
  rw [hnetwork]
  have hraises : ∀ id, (x.network.closeHandle.openHandle (some context)).2.Raises id →
      x.network.Raises id :=
    fun id hid ↦ Network.raises_of_closeHandle (Network.raises_of_openHandle hid)
  rcases hopen : x.network.closeHandle.openHandle (some context) with ⟨id | _, n⟩
  · rw [hopen] at hraises
    have hid := hb.raises id
      (.inl (Network.raises_of_closeHandle (Network.raises_of_openHandle_error hopen)))
    have hreopened : Parallel strict M { x with tlsContext := some context, network := n }
        { x.beside fields g with tlsContext := some context, network := n } :=
      hb.kept rfl rfl fun id hid ↦ hid.imp_left (hraises id)
    exact recordOpenFailure_parallel hreopened hid
  · rw [hopen] at hraises
    exact ⟨M, le_rfl, .ok (), hb.kept rfl rfl fun id hid ↦ hid.imp_left (hraises id)⟩

theorem setTlsContext_parallel (h : x.Parallel strict M x') (context : Option String) :
    EndParallel strict M (x.setTlsContext context) (x'.setTlsContext context) := by
  cases context with
  | none => exact h.refuse _ _ _
  | some context =>
      refine whileConfigured_parallel h _ fun _ ↦ ?_
      obtain ⟨fields, g, hb, rfl⟩ := h
      exact endParallel_ite (hb.parallel.refuse _ _ _) (reopen_parallel hb.parallel context)

end Exchange

end SecureExchange
