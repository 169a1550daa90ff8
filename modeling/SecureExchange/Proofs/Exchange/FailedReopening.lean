import SecureExchange.Proofs.Exchange.HandleTrust

/-!
# Reopenings that fail

An exchange whose handle could not be reopened is stranded: it reports the context that was asked
for, and its handle is closed. It fails closed, since no request may go out over the handle that was
there before. Nothing else is lost. An exchange that is stranded is configured like any other, and
with the next reopening it becomes what it would be if the one that failed had not been tried.
-/

namespace SecureExchange

open Failure

/-- The operation uses the handle, closes it, or replaces it. -/
def Operation.usesHandle : Operation → Bool
  | .connect | .close | .setTlsContext (some _) => true
  | _ => false

namespace Network

theorem closeHandle_closeHandle (n : Network) : n.closeHandle.closeHandle = n.closeHandle := by
  cases hhandles : n.handles <;> simp [closeHandle, hhandles]

/-- An opening that fails is taken from the openings to come, and changes nothing else. -/
theorem openHandle_error {n m : Network} {context : Option String} {raised : FailureId}
    (h : n.openHandle context = (.error raised, m)) :
    ∃ rest, n.openings = some raised :: rest ∧ m = { n with openings := rest } := by
  unfold openHandle at h
  split at h
  · simp at h
  · dsimp only at h
    split at h
    · next id rest hopenings =>
        obtain ⟨hraised, rfl⟩ := Prod.mk.inj h
        exact ⟨rest, by rw [hopenings, Except.error.inj hraised], rfl⟩
    · simp at h
    · simp at h

@[simp] theorem openings_closeHandle (n : Network) : n.closeHandle.openings = n.openings := by
  unfold closeHandle
  split <;> rfl

end Network

namespace Exchange

variable {x y : Exchange} {o : Operation}

/-- Another context is reported, and the handle is closed. -/
def stranded (context : String) (x : Exchange) : Exchange :=
  { x with tlsContext := some context, network := x.network.closeHandle }

/-- One opening less is to come, and its failure is recorded. -/
def spent (j : Journal) (x : Exchange) : Exchange :=
  { x with
    network := { x.network with openings := x.network.openings.tail }
    journal := j }

theorem stranded_spent_eq (x : Exchange) (context : String) (j : Journal) :
    (x.spent j).stranded context = { x with
      tlsContext := some context
      network := { x.network.closeHandle with openings := x.network.openings.tail }
      journal := j } := by
  cases hhandles : x.network.handles <;> simp [stranded, spent, Network.closeHandle, hhandles]

theorem reopen_of_failed {context : String} {raised : FailureId} {n : Network}
    (hopen : x.network.closeHandle.openHandle (some context) = (.error raised, n)) :
    x.reopen context = (.error (recordOpenFailure x.target raised x.journal).1,
      (x.spent (recordOpenFailure x.target raised x.journal).2).stranded context) := by
  obtain ⟨rest, hopenings, rfl⟩ := Network.openHandle_error hopen
  rw [Network.openings_closeHandle] at hopenings
  rw [stranded_spent_eq, hopenings]
  simp only [reopen, hopen, List.tail_cons]

/-- A reopening that fails leaves the exchange stranded. -/
theorem stranded_of_failed {context : String} {id : FailureId}
    (hphase : x.phase = .configured) (hcustom : x.network.custom = false)
    (h : x.step (.setTlsContext (some context)) = (.error id, y)) :
    ∃ raised rest, x.network.openings = some raised :: rest ∧
      id = (recordOpenFailure x.target raised x.journal).1 ∧
      y = (x.spent (recordOpenFailure x.target raised x.journal).2).stranded context := by
  rw [step, setTlsContext_of_configured hphase hcustom] at h
  rcases hopen : x.network.closeHandle.openHandle (some context) with ⟨raised | _, n⟩
  · rw [reopen_of_failed hopen] at h
    obtain ⟨rest, hopenings, _⟩ := Network.openHandle_error hopen
    rw [Network.openings_closeHandle] at hopenings
    obtain ⟨hid, rfl⟩ := Prod.mk.inj h
    exact ⟨raised, rest, hopenings, (Except.error.inj hid).symm, rfl⟩
  · simp [reopen, hopen, yielding, Except.map] at h

/-! ### Operations of a stranded exchange -/

/-- What a stranded exchange answers, if it answers like the exchange that it was. -/
def strandedResult {α : Type} (context : String) (r : Outcome α × Exchange) :
    Outcome α × Exchange :=
  (r.1, r.2.stranded context)

theorem whileConfigured_stranded {α : Type} {context : String}
    {go : Exchange → Outcome α × Exchange}
    (h : go (x.stranded context) = strandedResult context (go x)) (operation : String) :
    (x.stranded context).whileConfigured operation go
      = strandedResult context (x.whileConfigured operation go) := by
  unfold whileConfigured
  rw [show (x.stranded context).phase = x.phase from rfl, h]
  split <;> rfl

theorem setVerb_stranded (x : Exchange) (context : String) (given : Datum) :
    (x.stranded context).setVerb given = strandedResult context (x.setVerb given) := by
  refine whileConfigured_stranded ?_ _
  unfold setVerbConfigured
  cases Verb.ofDatum? given with
  | none => rfl
  | some verb =>
      rw [show (x.stranded context).body = x.body from rfl]
      dsimp only
      split <;> rfl

theorem setField_stranded (x : Exchange) (context name value : String) :
    (x.stranded context).setField name value
      = strandedResult context (x.setField name value) := by
  refine whileConfigured_stranded ?_ _
  rw [show (x.stranded context).fields = x.fields from rfl]
  cases x.fields.set name value <;> rfl

theorem setReadTimeout_stranded (x : Exchange) (context : String) (given : Number) :
    (x.stranded context).setReadTimeout given
      = strandedResult context (x.setReadTimeout given) := by
  unfold setReadTimeout
  rw [show (x.stranded context).phase = x.phase from rfl]
  cases readTimeoutOf given with
  | error f => rfl
  | ok seconds =>
      dsimp only
      split <;> rfl

theorem writeBody_stranded (x : Exchange) (context : String) (body : Octets) :
    (x.stranded context).writeBody body = strandedResult context (x.writeBody body) := by
  refine whileConfigured_stranded ?_ _
  rw [show (x.stranded context).verb = x.verb from rfl]
  split
  · rfl
  · split <;> rfl

/-- Without a reply, whatever is asked of it fails in the same way. -/
theorem withReply_stranded {α : Type} (hchannel : x.channel = none) (context : String)
    (go go' : Channel → Outcome α × Exchange) :
    (x.stranded context).withReply go' = strandedResult context (x.withReply go) := by
  unfold withReply
  rw [show (x.stranded context).channel = x.channel from rfl, hchannel,
    show (x.stranded context).shownAddress = x.shownAddress from rfl]
  cases x.shownAddress <;> rfl

theorem readErrorBody_stranded (hchannel : x.channel = none) (context : String) :
    (x.stranded context).readErrorBody = strandedResult context x.readErrorBody := by
  rw [readErrorBody_of_none hchannel,
    readErrorBody_of_none (show (x.stranded context).channel = none from hchannel)]
  rfl

theorem requestFields_stranded (x : Exchange) (context : String) :
    (x.stranded context).requestFields = strandedResult context x.requestFields := by
  unfold requestFields
  rw [show (x.stranded context).fields = x.fields from rfl]
  dsimp only
  cases listFields x.fields.readingCharset x.fields.settled.entries <;> rfl

theorem yielding_stranded {α : Type} {f : α → Yield} {r s : Outcome α × Exchange}
    {context : String} (h : r = strandedResult context s) :
    yielding f r = strandedResult context (yielding f s) := by
  rw [h]
  rfl

/-- What does not use the handle answers the same, and leaves the exchange stranded. -/
theorem step_stranded (hchannel : x.channel = none) (ho : o.usesHandle = false)
    (context : String) : (x.stranded context).step o = strandedResult context (x.step o) := by
  cases o with
  | setVerb given => exact yielding_stranded (x.setVerb_stranded context given)
  | setField name value => exact yielding_stranded (x.setField_stranded context name value)
  | setReadTimeout given => exact yielding_stranded (x.setReadTimeout_stranded context given)
  | writeBody body => exact yielding_stranded (x.writeBody_stranded context body)
  | setTlsContext given =>
      cases given with
      | none => rfl
      | some name => simp [Operation.usesHandle] at ho
  | connect | close => simp [Operation.usesHandle] at ho
  | readBody | status | replyFields =>
      exact yielding_stranded (withReply_stranded hchannel context _ _)
  | readErrorBody => exact yielding_stranded (readErrorBody_stranded hchannel context)
  | requestFields => exact yielding_stranded (x.requestFields_stranded context)
  | address => rfl

/-- Reopening makes up for it, whether the opening succeeds or not. -/
theorem setTlsContext_stranded (x : Exchange) (context name : String)
    (hphase : x.phase = .configured) (hcustom : x.network.custom = false) :
    (x.stranded context).step (.setTlsContext (some name))
      = x.step (.setTlsContext (some name)) := by
  have hcustom' : (x.stranded context).network.custom = false := by
    rw [show (x.stranded context).network = x.network.closeHandle from rfl,
      Network.custom_closeHandle, hcustom]
  rw [step, step, setTlsContext_of_configured hphase hcustom,
    setTlsContext_of_configured (show (x.stranded context).phase = .configured from hphase)
      hcustom']
  unfold reopen
  rw [show (x.stranded context).network = x.network.closeHandle from rfl,
    Network.closeHandle_closeHandle]
  rcases x.network.closeHandle.openHandle (some name) with ⟨raised | _, n⟩ <;> rfl

/-! ### Runs -/

theorem Transition.kept_of_handle {r : Outcome Yield} (h : Transition x o r y)
    (ho : o.usesHandle = false) (hphase : x.phase = .configured) (hfresh : x.Fresh) :
    y.phase = .configured ∧ y.network = x.network := by
  have hchannel := hfresh hphase
  cases h with
  | reopened | reopeningFailed | connecting | closing => simp [Operation.usesHandle] at ho
  | bodyRead hc | errorRead hc => simp [hchannel] at hc
  | _ => exact ⟨hphase, rfl⟩

/-- As long as the handle is not needed, a stranded exchange answers like the one that it was. -/
theorem run_stranded {os : List Operation} (hphase : x.phase = .configured) (hfresh : x.Fresh)
    (hos : ∀ o ∈ os, o.usesHandle = false) (context : String) :
    (x.stranded context).run os = (x.run os).stranded context ∧
      ((x.stranded context).trace os).map (·.1) = (x.trace os).map (·.1) ∧
      (x.run os).phase = .configured ∧ (x.run os).network = x.network := by
  induction os generalizing x with
  | nil => exact ⟨rfl, rfl, hphase, rfl⟩
  | cons o rest ih =>
      have ho := hos o List.mem_cons_self
      have hstep := step_stranded (hfresh hphase) ho context
      obtain ⟨hphase', hnetwork⟩ :=
        (step_transition hfresh o).kept_of_handle ho hphase hfresh
      obtain ⟨hrun, htrace, hrest, hsame⟩ := ih hphase' (step_fresh hfresh o)
        fun o' ho' ↦ hos o' (List.mem_cons_of_mem o ho')
      refine ⟨?_, ?_, hrest, hsame.trans hnetwork⟩
      · rw [run_cons, hstep]
        exact hrun
      · rw [trace, trace, hstep, List.map_cons, List.map_cons]
        exact congrArg _ htrace

theorem run_usable?_none {os : List Operation} (hfresh : x.Fresh)
    (hx : x.network.usable? = none) (hos : ∀ o ∈ os, o.setsContext = false) :
    (x.run os).network.usable? = none := by
  induction os generalizing x with
  | nil => exact hx
  | cons o rest ih =>
      obtain ⟨hnone, _⟩ :=
        (step_transition hfresh o).usable?_none (hos o List.mem_cons_self) hx
      exact ih (step_fresh hfresh o) hnone fun o' ho' ↦ hos o' (List.mem_cons_of_mem o ho')

/-- Without a usable handle connecting fails, and whatever the phase is stays. -/
theorem connect_of_usable?_none (hfresh : x.Fresh) (husable : x.network.usable? = none) :
    ∃ id, (x.step .connect).1 = .error id ∧ (x.step .connect).2.phase = x.phase := by
  have hsends : ∀ {request : Request} {handle : Handle}, ¬ x.Sends request handle :=
    fun hsends ↦ by simpa [husable] using hsends.usable
  by_cases hphase : x.phase = .configured
  · obtain ⟨outcome, z, hz⟩ : ∃ outcome z, x.connect = (outcome, z) := ⟨_, _, rfl⟩
    rw [step, hz]
    cases connect_connecting hfresh hphase hz with
    | notBuilt id => exact ⟨id, rfl, rfl⟩
    | noHandle id => exact ⟨id, rfl, rfl⟩
    | lapsed _ _ h | failed _ _ h | connected _ h => exact absurd h hsends
  · obtain ⟨id, j, h⟩ := onlyFails_yielding (f := fun _ ↦ Yield.nothing)
      (whileConfigured_onlyFails hphase "connect" connectConfigured)
    exact ⟨id, by rw [step, connect, h], by rw [step, connect, h]⟩

theorem run_custom {p : Proposal} {custom : Bool} {script : Script}
    {openings : List (Option FailureId)} (h : Started p (.start custom script openings) x)
    (os : List Operation) : (x.run os).network.custom = custom := by
  refine run_induction (P := fun y ↦ y.network.custom = custom)
    (fun _ hx h ↦ h.custom.trans hx) h.fresh ?_ os
  have hopened := Network.custom_openHandle (.start custom script openings) none
  rw [h.opened] at hopened
  exact hopened

/-- If the handle of a configured exchange cannot be reopened, the context that was asked for is
reported, the handle is closed and nothing else is changed. Then connecting fails and nothing is
sent until a context is set anew. Operations that do not need the handle answer as they would
without the call, and so does the next call that sets a context, which leaves the same exchange. -/
theorem failed_reopening_strands_until_reopened {p : Proposal} {script : Script}
    {openings : List (Option FailureId)} {j : Journal} {unredacted : Bool}
    (hstart : start p (.start false script openings) j unredacted = .ok x)
    (os : List Operation) {context : String} {id : FailureId}
    (hphase : (x.run os).phase = .configured)
    (h : (x.run os).step (.setTlsContext (some context)) = (.error id, y)) :
    y = { x.run os with
      tlsContext := some context
      network := { (x.run os).network.closeHandle with
        openings := (x.run os).network.openings.tail }
      journal := y.journal } ∧
    (∀ later, (∀ o ∈ later, o.setsContext = false) →
      (y.run later).network.sent = (x.run os).network.sent ∧
      ∃ e, ((y.run later).step .connect).1 = .error e ∧
        ((y.run later).step .connect).2.phase = (y.run later).phase) ∧
    ∀ later, (∀ o ∈ later, o.usesHandle = false) →
      (y.trace later).map (·.1) = (((x.run os).spent y.journal).trace later).map (·.1) ∧
      ∀ name, (y.run later).step (.setTlsContext (some name))
        = (((x.run os).spent y.journal).run later).step (.setTlsContext (some name)) := by
  have hstarted := start_started hstart
  have hfresh := run_fresh hstarted.fresh os
  have hcustom := run_custom hstarted os
  obtain ⟨raised, _, _, _, hy⟩ := stranded_of_failed hphase hcustom h
  have hjournal : y.journal = (recordOpenFailure (x.run os).target raised (x.run os).journal).2 :=
    by rw [hy]; rfl
  rw [← hjournal] at hy
  have hnone : y.network.usable? = none := by
    rw [hy]
    exact Network.usable?_closeHandle _
  have hsent : y.network.sent = (x.run os).network.sent := by
    rw [hy]
    exact Network.sent_closeHandle _
  have hfresh' : y.Fresh := by
    rw [hy]
    exact hfresh
  refine ⟨hy.trans (stranded_spent_eq ..), fun later hlater ↦ ⟨?_, ?_⟩, fun later hlater ↦ ?_⟩
  · exact (run_sent_of_usable?_none hfresh' hnone hlater).trans hsent
  · exact connect_of_usable?_none (run_fresh hfresh' later)
      (run_usable?_none hfresh' hnone hlater)
  · obtain ⟨hrun, htrace, hkept, hnetwork⟩ :=
      run_stranded (x := (x.run os).spent y.journal) hphase hfresh hlater context
    rw [← hy] at hrun htrace
    refine ⟨htrace, fun name ↦ ?_⟩
    rw [hrun]
    exact setTlsContext_stranded _ context name hkept ((congrArg _ hnetwork).trans hcustom)

/-- A context is staged when the handle cannot be reopened; the next reopening makes up for it. -/
theorem failed_reopening_strands_until_retried :
    ∃ x y id, start queryHub (.start false accepting [none, some 0]) hubJournal false = .ok x ∧
      (x.run []).phase = .configured ∧
      (x.run []).step (.setTlsContext (some "device")) = (.error id, y) ∧
      y.tlsContext = some "device" ∧
      (y.run [.writeBody []]).network.sent = [] ∧
      (∃ e, ((y.run [.writeBody []]).step .connect).1 = .error e) ∧
      (y.run [.writeBody []]).step (.setTlsContext (some "fleet"))
        = (((x.run []).spent y.journal).run [.writeBody []]).step (.setTlsContext (some "fleet")) ∧
      (y.run [.writeBody [], .setTlsContext (some "fleet"), .connect]).phase = .connected := by
  obtain ⟨x, hstart, hx⟩ := exists_of_any_start (p := queryHub)
    (n := .start false accepting [none, some 0]) (j := hubJournal) (u := false)
    (q := fun x ↦ decide (x.phase = .configured) && x.network.sent.isEmpty &&
      (x.step (.setTlsContext (some "device"))).1.toOption.isNone &&
      decide (((x.step (.setTlsContext (some "device"))).2.run
        [.writeBody [], .setTlsContext (some "fleet"), .connect]).phase = .connected))
    (by decide +kernel)
  simp only [Bool.and_eq_true, decide_eq_true_eq, List.isEmpty_iff] at hx
  obtain ⟨⟨⟨hphase, hnothing⟩, hfailed⟩, hconnected⟩ := hx
  rcases hstep : x.step (.setTlsContext (some "device")) with ⟨id | _, y⟩
  · rw [hstep] at hconnected
    obtain ⟨hy, hsent, hretried⟩ := failed_reopening_strands_until_reopened hstart [] hphase hstep
    obtain ⟨hsame, e, he, _⟩ := hsent [.writeBody []] (by simp [Operation.setsContext])
    exact ⟨x, y, id, hstart, hphase, hstep, by rw [hy], hsame.trans hnothing, ⟨e, he⟩,
      (hretried [.writeBody []] (by simp [Operation.usesHandle])).2 "fleet", hconnected⟩
  · simp [hstep, Except.toOption] at hfailed

/-- A reopening that fails is not undone: another context is reported, and a connect that would
have succeeded fails. -/
theorem failed_reopening_changes_context_and_connect :
    ∃ x y id e, start queryHub (.start false accepting [none, some 0]) hubJournal false = .ok x ∧
      x.phase = .configured ∧
      x.step (.setTlsContext (some "device")) = (.error id, y) ∧
      x.tlsContext = none ∧ y.tlsContext = some "device" ∧
      x.connect.1 = .ok () ∧ x.connect.2.network.sent.length = 1 ∧
      y.connect.1 = .error e ∧ y.connect.2.network.sent = [] := by
  obtain ⟨x, hstart, hx⟩ := exists_of_any_start (p := queryHub)
    (n := .start false accepting [none, some 0]) (j := hubJournal) (u := false)
    (q := fun x ↦
      let failing := x.step (.setTlsContext (some "device"))
      decide (x.phase = .configured) && decide (x.tlsContext = none) &&
        failing.1.toOption.isNone && decide (failing.2.tlsContext = some "device") &&
        x.connect.1.toOption.isSome && decide (x.connect.2.network.sent.length = 1) &&
        failing.2.connect.1.toOption.isNone && failing.2.connect.2.network.sent.isEmpty)
    (by decide +kernel)
  simp only [Bool.and_eq_true, decide_eq_true_eq, List.isEmpty_iff] at hx
  obtain ⟨⟨⟨⟨⟨⟨⟨hphase, hnone⟩, hfailed⟩, hcontext⟩, hconnected⟩, hsent⟩, hrefused⟩, hnothing⟩ := hx
  have hok : x.connect.1 = .ok () := by
    cases hconnect : x.connect.1 with
    | error e => simp [hconnect, Except.toOption] at hconnected
    | ok _ => rfl
  rcases hstep : x.step (.setTlsContext (some "device")) with ⟨id | _, y⟩
  · rw [hstep] at hcontext hrefused hnothing
    cases hconnect : y.connect.1 with
    | error e =>
        exact ⟨x, y, id, e, hstart, hphase, hstep, hnone, hcontext, hok, hsent, hconnect,
          hnothing⟩
    | ok _ => simp [hconnect, Except.toOption] at hrefused
  · simp [hstep, Except.toOption] at hfailed

end Exchange

end SecureExchange
