import SecureExchange.Proofs.Exchange.ParallelSteps

/-!
# Observers

Callers read an exchange by looking at it, or by operations that are meant to change nothing. Most
of these are never noticed: whatever else a run does ends in the same way with them and without
them. Reading the fields of the request can be noticed, but only by writes of texts beyond ASCII,
which are refused once the fields have been read in ASCII.
-/

namespace SecureExchange

open Failure Text

/-- What callers look at without asking for an operation. -/
structure View where
  verb : Verb
  body : Octets
  readTimeout : Binary64
  tlsContext : Option String
  phase : Phase

inductive Act
  | perform (o : Operation)
  | look

namespace Act

/-- Meant to change nothing. -/
def isObserver : Act → Bool
  | .look | .perform .address | .perform .status | .perform .replyFields
  | .perform .requestFields => true
  | _ => false

def readsFields : Act → Bool
  | .perform .requestFields => true
  | _ => false

def exceedsAscii : Act → Bool
  | .perform o => o.exceedsAscii
  | .look => false

end Act

/-- One act of a run, which may have been inserted. -/
structure Turn where
  act : Act
  isInserted : Bool

/-- The run without what was inserted. -/
def uninserted (turns : List Turn) : List Turn := turns.filter fun t ↦ !t.isInserted

namespace Exchange

def view (x : Exchange) : View := ⟨x.verb, x.body, x.readTimeout, x.tlsContext, x.phase⟩

def act (x : Exchange) : Act → Outcome (Yield ⊕ View) × Exchange
  | .perform o => ((x.step o).1.map .inl, (x.step o).2)
  | .look => (.ok (.inr x.view), x)

def after (x : Exchange) (turns : List Turn) : Exchange :=
  turns.foldl (fun x t ↦ (x.act t.act).2) x

/-- The answers to what was not inserted, each with the failures that were recorded by then. -/
def answers (x : Exchange) : List Turn → List (Outcome (Yield ⊕ View) × Graph)
  | [] => []
  | t :: rest =>
    let (outcome, y) := x.act t.act
    if t.isInserted then y.answers rest else (outcome, y.journal.failures) :: y.answers rest

/-- The same value, or the same failure with the same failures behind it. -/
structure SameAnswer (a a' : Outcome (Yield ⊕ View) × Graph) : Prop where
  matched : ∃ M, a.2.Matching M a'.2 ∧ SameOutcome M a.1 a'.1

/-- Nothing tells whether the inserted turns have taken place. -/
structure Unnoticed (x : Exchange) (turns : List Turn) : Prop where
  answers : List.Forall₂ SameAnswer (x.answers (uninserted turns)) (x.answers turns)
  sent : (x.after turns).network.sent = (x.after (uninserted turns)).network.sent
  events : (x.after turns).journal.events = (x.after (uninserted turns)).journal.events

/-- Of each write beyond ASCII, whether it meets fields that have been read in ASCII. -/
def narrowWrites (x : Exchange) : List Turn → List Bool
  | [] => []
  | t :: rest =>
    let later := (x.act t.act).2.narrowWrites rest
    if t.act.exceedsAscii then x.isNarrow :: later else later

variable {α : Type} {strict : Prop} {M : Pairing} {x x' : Exchange} {a : Act} {turns : List Turn}

/-! ### One turn -/

theorem Parallel.view (h : x.Parallel strict M x') : x'.view = x.view := by
  obtain ⟨fields, g, hb, rfl⟩ := h
  rfl

theorem act_parallel (h : x.Parallel strict M x')
    (hnarrow : a.exceedsAscii = true → x'.isNarrow = x.isNarrow) :
    EndParallel strict M (x.act a) (x'.act a) := by
  cases a with
  | look =>
      unfold act
      rw [h.view]
      exact h.returns _
  | perform o =>
      obtain ⟨M', hM, hsame, hparallel⟩ := step_parallel h o hnarrow
      exact ⟨M', hM, hsame.map _, hparallel⟩

theorem Parallel.raiseFault_right (h : x.Parallel strict M x') (f : Fault) :
    x.Parallel strict M (x'.raiseFault (α := α) f).2 := by
  obtain ⟨fields, g, hb, rfl⟩ := h
  exact ⟨fields, (g.record (.fault f) none).2,
    ⟨hb.fields, hb.failures.record_right _ _, hb.raises⟩, rfl⟩

theorem Parallel.withReply_right (h : x.Parallel strict M x')
    {go : Channel → Outcome α × Exchange} (hgo : ∀ c, (go c).2 = x') :
    x.Parallel strict M (x'.withReply go).2 := by
  unfold withReply
  split
  · next c _ =>
      rw [hgo c]
      exact h
  · split
    · exact h.raiseFault_right _
    · exact h.raiseFault_right _

theorem Parallel.requestFields_right (h : x.Parallel strict M x') (hstrict : ¬ strict) :
    x.Parallel strict M x'.requestFields.2 := by
  obtain ⟨fields, g, hb, rfl⟩ := h
  have hsettled : x.Parallel strict M { x.beside fields g with fields := fields.settled } :=
    ⟨fields.settled, g, ⟨hb.fields.settled_right hstrict, hb.failures, hb.raises⟩, rfl⟩
  unfold requestFields
  dsimp only
  split
  · exact hsettled.raiseFault_right _
  · exact hsettled

/-- What only observes changes nothing that the other side could tell. -/
theorem Parallel.act_right (h : x.Parallel strict M x') (ha : a.isObserver = true)
    (hstrict : strict → a.readsFields = false) : x.Parallel strict M (x'.act a).2 := by
  cases a with
  | look => exact h
  | perform o =>
      cases o with
      | address => exact h
      | status =>
          change x.Parallel strict M (x'.withReply fun c ↦ (.ok c.reply.status, x')).2
          exact h.withReply_right fun _ ↦ rfl
      | replyFields =>
          change x.Parallel strict M (x'.withReply fun c ↦ (.ok c.reply.groupedFields, x')).2
          exact h.withReply_right fun _ ↦ rfl
      | requestFields =>
          refine h.requestFields_right fun hs ↦ ?_
          simpa [Act.readsFields] using hstrict hs
      | _ => simp [Act.isObserver] at ha

theorem Parallel.isNarrow (h : x.Parallel strict M x') (hstrict : strict) :
    x'.isNarrow = x.isNarrow := by
  obtain ⟨fields, g, hb, rfl⟩ := h
  have hcharset := hb.fields.charset hstrict
  have hfields : (x.beside fields g).fields = fields := rfl
  have hphase : (x.beside fields g).phase = x.phase := rfl
  rw [Exchange.isNarrow, Exchange.isNarrow, Fields.isNarrow, Fields.isNarrow, hfields, hphase,
    hcharset]

/-- Whether a write beyond ASCII is accepted tells whether the fields have been read in ASCII. -/
theorem accepts_iff (hkept : x.fields.Kept) (ha : a.exceedsAscii = true) :
    failure? (x.act a).1 = none ↔ x.phase = .configured ∧ x.isNarrow = false := by
  cases a with
  | look => simp [Act.exceedsAscii] at ha
  | perform o =>
      cases o with
      | setField name value =>
          have hbeyond : (allAscii name.toList && allAscii value.toList) = false := by
            simpa only [Act.exceedsAscii, Operation.exceedsAscii, Bool.not_eq_true'] using ha
          have hset := hkept.set_isOk_iff hbeyond
          by_cases hphase : x.phase = .configured
          · simp only [act, step, setField, whileConfigured_of_configured hphase, isNarrow, hphase,
              decide_true, Bool.true_and, ← hset, true_and]
            cases x.fields.set name value with
            | error e => simp [raiseFault, raise, yielding, failure?, Except.map]
            | ok fields => simp [yielding, failure?, Except.map]
          · simp [act, step, setField, whileConfigured, hphase, refuse, raise, yielding, failure?,
              Except.map]
      | _ => simp [Act.exceedsAscii, Operation.exceedsAscii] at ha

theorem isNarrow_of_sameAnswer (h : x.Parallel strict M x') (ha : a.exceedsAscii = true)
    (hsame : SameAnswer ((x.act a).1, (x.act a).2.journal.failures)
      ((x'.act a).1, (x'.act a).2.journal.failures)) : x'.isNarrow = x.isNarrow := by
  obtain ⟨M', _, houtcome⟩ := hsame.matched
  have hphase := h.phase
  obtain ⟨fields, g, hb, rfl⟩ := h
  have hx := accepts_iff hb.fields.left ha
  have hx' := accepts_iff (x := x.beside fields g) hb.fields.right ha
  have hboth : failure? (x.act a).1 = none ↔ failure? ((x.beside fields g).act a).1 = none := by
    have hrel := houtcome.failure?
    dsimp only at hrel
    generalize failure? (x.act a).1 = failed at hrel
    generalize failure? ((x.beside fields g).act a).1 = failed' at hrel
    cases hrel <;> simp
  rw [hx, hx', hphase] at hboth
  by_cases hconfigured : x.phase = .configured
  · rw [Bool.eq_iff_iff, ← not_iff_not]
    simpa [hconfigured] using hboth.symm
  · simp [isNarrow, hphase, hconfigured]

/-! ### Runs -/

theorem answers_cons (x : Exchange) (t : Turn) (rest : List Turn) :
    x.answers (t :: rest) = if t.isInserted then (x.act t.act).2.answers rest
      else ((x.act t.act).1, (x.act t.act).2.journal.failures) :: (x.act t.act).2.answers rest :=
  rfl

theorem after_cons (x : Exchange) (t : Turn) (rest : List Turn) :
    x.after (t :: rest) = (x.act t.act).2.after rest := rfl

theorem narrowWrites_cons (x : Exchange) (t : Turn) (rest : List Turn) :
    x.narrowWrites (t :: rest) = if t.act.exceedsAscii
      then x.isNarrow :: (x.act t.act).2.narrowWrites rest
      else (x.act t.act).2.narrowWrites rest := rfl

theorem exceedsAscii_of_isObserver (ha : a.isObserver = true) : a.exceedsAscii = false := by
  cases a with
  | look => rfl
  | perform o => cases o <;> first | rfl | simp [Act.isObserver] at ha

theorem uninserted_cons_of_inserted {t : Turn} (ht : t.isInserted = true) (rest : List Turn) :
    uninserted (t :: rest) = uninserted rest := by
  simp [uninserted, ht]

theorem uninserted_cons_of_not {t : Turn} (ht : t.isInserted = false) (rest : List Turn) :
    uninserted (t :: rest) = t :: uninserted rest := by
  simp [uninserted, ht]

/-- What is inserted only observes, and reads no fields of `strict` runs. -/
def InsertsObservers (strict : Prop) (turns : List Turn) : Prop :=
  ∀ t ∈ turns, t.isInserted = true →
    t.act.isObserver = true ∧ (strict → t.act.readsFields = false)

theorem InsertsObservers.tail {t : Turn} {rest : List Turn}
    (h : InsertsObservers strict (t :: rest)) : InsertsObservers strict rest :=
  fun t' ht' ↦ h t' (List.mem_cons_of_mem t ht')

/-- Runs stay parallel, and answer the same, if texts beyond ASCII are accepted by both of them or
by neither. -/
theorem answers_parallel (h : x.Parallel strict M x') (hinserts : InsertsObservers strict turns)
    (hnarrow : strict ∨ x.narrowWrites (uninserted turns) = x'.narrowWrites turns) :
    List.Forall₂ SameAnswer (x.answers (uninserted turns)) (x'.answers turns) ∧
      ∃ M', (x.after (uninserted turns)).Parallel strict M' (x'.after turns) := by
  -- An inserted turn moves the right side only, any other turn moves both: the exchanges stay
  -- parallel, under a pairing that grows.
  induction turns generalizing x x' M with
  | nil => exact ⟨.nil, M, h⟩
  | cons t rest ih =>
      cases ht : t.isInserted with
      | true =>
          obtain ⟨hobserver, hquiet⟩ := hinserts t List.mem_cons_self ht
          rw [uninserted_cons_of_inserted ht] at hnarrow ⊢
          rw [narrowWrites_cons, exceedsAscii_of_isObserver hobserver] at hnarrow
          rw [answers_cons x', ht, after_cons x']
          exact ih (h.act_right hobserver hquiet) hinserts.tail hnarrow
      | false =>
          rw [uninserted_cons_of_not ht] at hnarrow ⊢
          rw [narrowWrites_cons, narrowWrites_cons] at hnarrow
          have hsame : t.act.exceedsAscii = true → x'.isNarrow = x.isNarrow := by
            intro ha
            rcases hnarrow with hstrict | hnarrow
            · exact h.isNarrow hstrict
            · rw [ha] at hnarrow
              exact (List.cons.inj hnarrow).1.symm
          have hlater : strict ∨ (x.act t.act).2.narrowWrites (uninserted rest)
              = (x'.act t.act).2.narrowWrites rest := by
            refine hnarrow.imp_right fun hnarrow ↦ ?_
            split at hnarrow
            · exact (List.cons.inj hnarrow).2
            · exact hnarrow
          obtain ⟨M', _, houtcome, hparallel⟩ := act_parallel h hsame
          obtain ⟨hanswers, hafter⟩ := ih hparallel hinserts.tail hlater
          rw [answers_cons, answers_cons, ht, after_cons, after_cons]
          exact ⟨.cons ⟨M', hparallel.failures, houtcome⟩ hanswers, hafter⟩

/-- Runs that answer the same accept the same texts beyond ASCII. -/
theorem narrowWrites_of_answers (h : x.Parallel strict M x')
    (hinserts : InsertsObservers strict turns)
    (hanswers : List.Forall₂ SameAnswer (x.answers (uninserted turns)) (x'.answers turns)) :
    x.narrowWrites (uninserted turns) = x'.narrowWrites turns := by
  induction turns generalizing x x' M with
  | nil => rfl
  | cons t rest ih =>
      cases ht : t.isInserted with
      | true =>
          obtain ⟨hobserver, hquiet⟩ := hinserts t List.mem_cons_self ht
          rw [uninserted_cons_of_inserted ht] at hanswers ⊢
          rw [answers_cons x', ht] at hanswers
          rw [narrowWrites_cons, exceedsAscii_of_isObserver hobserver]
          exact ih (h.act_right hobserver hquiet) hinserts.tail hanswers
      | false =>
          rw [uninserted_cons_of_not ht] at hanswers ⊢
          rw [answers_cons, answers_cons, ht] at hanswers
          obtain ⟨hanswer, hlater⟩ := List.forall₂_cons.mp hanswers
          -- here the answer itself tells what the fields were read in
          have hsame : t.act.exceedsAscii = true → x'.isNarrow = x.isNarrow :=
            fun ha ↦ isNarrow_of_sameAnswer h ha hanswer
          obtain ⟨M', _, _, hparallel⟩ := act_parallel h hsame
          rw [narrowWrites_cons, narrowWrites_cons, ih hparallel hinserts.tail hlater]
          split
          · next ha => rw [hsame ha]
          · rfl

/-- An exchange that was just started runs in parallel with itself. -/
theorem start_parallel {p : Proposal} {n : Network} {j : Journal} {unredacted : Bool}
    (hstart : start p n j unredacted = .ok x) (hclosed : j.failures.IsClosed)
    (hraised : ∀ id, n.Raises id → id < j.failures.length) (strict : Prop) :
    x.Parallel strict j.failures.places x := by
  have hstarted := start_started hstart
  have hkept : x.fields.Kept := by
    rw [hstarted.fields]
    exact Fields.kept_empty
  refine ⟨x.fields, x.journal.failures, ⟨⟨hkept, hkept, rfl, fun _ ↦ rfl⟩, ?_, ?_⟩, rfl⟩
  · rw [start_journal hstart]
    exact hclosed.matching
  · rintro id (hnetwork | ⟨c, hc, _⟩)
    · have hopened : (n.openHandle none).2.Raises id := by rwa [hstarted.opened]
      exact ⟨rfl, hraised id (Network.raises_of_openHandle hopened)⟩
    · simp [hstarted.channel] at hc

/-- Looking at an exchange, and reading its address or what its reply says, is never noticed.
Reading the fields of the request is noticed exactly if it changes, for some later write of a text
beyond ASCII, whether the fields have been read in ASCII by then. -/
theorem observers_unnoticed_iff {p : Proposal} {custom : Bool} {script : Script}
    {openings : List (Option FailureId)} {j : Journal} {unredacted : Bool}
    (hstart : start p (.start custom script openings) j unredacted = .ok x)
    (hclosed : j.failures.IsClosed)
    (hraised : ∀ id, (Network.start custom script openings).Raises id → id < j.failures.length)
    (turns : List Turn) (hinserted : ∀ t ∈ turns, t.isInserted = true → t.act.isObserver = true) :
    ((∀ t ∈ turns, t.isInserted = true → t.act.readsFields = false) → x.Unnoticed turns) ∧
    (x.Unnoticed turns ↔ x.narrowWrites (uninserted turns) = x.narrowWrites turns) := by
  have hunnoticed : ∀ {strict : Prop}, InsertsObservers strict turns →
      strict ∨ x.narrowWrites (uninserted turns) = x.narrowWrites turns → x.Unnoticed turns := by
    intro strict hinserts hnarrow
    obtain ⟨hanswers, M, hafter⟩ :=
      answers_parallel (start_parallel hstart hclosed hraised strict) hinserts hnarrow
    exact ⟨hanswers, congrArg Network.sent hafter.network, hafter.events⟩
  refine ⟨fun hquiet ↦ ?_, fun h ↦ ?_, fun hnarrow ↦ ?_⟩
  · -- no fields are read on one side only, so both sides have the same charset all along
    have hinserts : InsertsObservers True turns :=
      fun t ht hkind ↦ ⟨hinserted t ht hkind, fun _ ↦ hquiet t ht hkind⟩
    exact hunnoticed hinserts (.inl trivial)
  · have hinserts : InsertsObservers False turns :=
      fun t ht hkind ↦ ⟨hinserted t ht hkind, False.elim⟩
    exact narrowWrites_of_answers (start_parallel hstart hclosed hraised False) hinserts h.answers
  · have hinserts : InsertsObservers False turns :=
      fun t ht hkind ↦ ⟨hinserted t ht hkind, False.elim⟩
    exact hunnoticed hinserts (.inr hnarrow)

/-- The peer's reply breaks off. The fields are read before they hold anything, and once they hold
more than ASCII. -/
def readBeyondAscii : List Turn :=
  [⟨.perform .status, true⟩, ⟨.perform .requestFields, true⟩,
   ⟨.perform (.setField "Name" "é"), false⟩, ⟨.perform .requestFields, true⟩, ⟨.look, false⟩,
   ⟨.perform (.setField "Place" "ü"), false⟩, ⟨.perform .replyFields, true⟩,
   ⟨.perform .connect, false⟩, ⟨.perform .requestFields, false⟩, ⟨.perform .address, true⟩,
   ⟨.perform .readBody, false⟩, ⟨.look, true⟩, ⟨.perform .connect, false⟩]

theorem observers_unnoticed_iff_of_breakingOff :
    ∃ x, start hubMessage (.start true breakingOff []) brokenOff false = .ok x ∧
      x.Unnoticed readBeyondAscii := by
  obtain ⟨x, hstart, hx⟩ := exists_of_any_start (p := hubMessage)
    (n := .start true breakingOff []) (j := brokenOff) (u := false)
    (q := fun x ↦ decide
      (x.narrowWrites (uninserted readBeyondAscii) = x.narrowWrites readBeyondAscii))
    (by decide +kernel)
  have hclosed : brokenOff.failures.IsClosed := by
    refine ⟨fun n hn id hid ↦ ?_⟩
    obtain rfl := List.mem_singleton.mp hn
    simp [Graph.declared] at hid
  have hraised : ∀ id, (Network.start true breakingOff []).Raises id →
      id < brokenOff.failures.length := by
    rintro id (⟨a, rfl | ha, hid⟩ | hid)
    · obtain rfl : id = 0 := by simpa [Network.start, breakingOff, Answer.failures] using hid
      decide
    · simp [Network.start, breakingOff] at ha
    · simp [Network.start] at hid
  have hinserted : ∀ t ∈ readBeyondAscii, t.isInserted = true → t.act.isObserver = true := by
    decide
  obtain ⟨_, hiff⟩ := observers_unnoticed_iff hstart hclosed hraised readBeyondAscii hinserted
  exact ⟨x, hstart, hiff.mpr (of_decide_eq_true hx)⟩

/-- The fields are read in ASCII before a text beyond it is written. -/
def readInAscii : List Turn :=
  [⟨.perform (.setField "A" "1"), false⟩, ⟨.perform .requestFields, true⟩,
   ⟨.perform (.setField "B" "é"), false⟩]

/-- The same write is accepted, or refused if the fields are read before. -/
theorem reading_fields_noticed :
    ∃ x, start hubMessage (.start true accepting []) ⟨[], []⟩ false = .ok x ∧
      (∀ t ∈ readInAscii, t.isInserted = true → t.act.isObserver = true) ∧
      ¬ x.Unnoticed readInAscii ∧
      failure? ((x.run [.setField "A" "1"]).step (.setField "B" "é")).1 = none ∧
      failure? ((x.run [.setField "A" "1", .requestFields]).step (.setField "B" "é")).1
        = some 0 := by
  obtain ⟨x, hstart, hx⟩ := exists_of_any_start (p := hubMessage)
    (n := .start true accepting []) (j := ⟨[], []⟩) (u := false)
    (q := fun x ↦
      decide (failure? ((x.run [.setField "A" "1"]).step (.setField "B" "é")).1 = none) &&
      decide (failure? ((x.run [.setField "A" "1", .requestFields]).step (.setField "B" "é")).1
        = some 0) &&
      decide (x.narrowWrites (uninserted readInAscii) = [false]) &&
      decide (x.narrowWrites readInAscii = [true]))
    (by decide +kernel)
  simp only [Bool.and_eq_true, decide_eq_true_eq] at hx
  obtain ⟨⟨⟨haccepted, hrefused⟩, hnarrow⟩, hnarrow'⟩ := hx
  have hobservers : ∀ t ∈ readInAscii, t.isInserted = true → t.act.isObserver = true := by decide
  have hinserts : InsertsObservers False readInAscii :=
    fun t ht hkind ↦ ⟨hobservers t ht hkind, False.elim⟩
  have hclosed : Graph.IsClosed [] := ⟨by simp⟩
  have hraised : ∀ id, (Network.start true accepting []).Raises id → id < 0 := by
    rintro id (⟨a, rfl | ha, hid⟩ | hid)
    · simp [Network.start, accepting, Answer.failures] at hid
    · simp [Network.start, accepting] at ha
    · simp [Network.start] at hid
  have hparallel := start_parallel hstart hclosed hraised False
  refine ⟨x, hstart, hobservers, fun h ↦ ?_, haccepted, hrefused⟩
  have hsame := narrowWrites_of_answers hparallel hinserts h.answers
  rw [hnarrow, hnarrow'] at hsame
  simp at hsame

end Exchange

end SecureExchange
