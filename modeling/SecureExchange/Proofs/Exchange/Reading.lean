import SecureExchange.Proofs.Exchange.Staging

/-!
# Reading the content of a reply

The status of a reply selects the operation that reads its content. A run takes the content from the
stream at most once, and then the whole of it. After an attempt to read it, every later one fails;
the operation that is not selected changes nothing.
-/

namespace SecureExchange

open Failure

theorem Reply.isError_eq_true_iff (r : Reply) : r.isError = true ↔ 400 ≤ r.status := by
  rw [isError, decide_eq_true_eq, errorStatus]

theorem Reply.isError_eq_false_iff (r : Reply) : r.isError = false ↔ r.status < 400 := by
  rw [isError, decide_eq_false_iff_not, errorStatus, Int.not_le]

/-- The operation that reads the content of a reply. -/
def Reply.reader (r : Reply) : Operation := if r.isError then .readErrorBody else .readBody

namespace Exchange

variable {x y : Exchange} {o : Operation} {r : Outcome Yield} {c : Channel}

/-- The octets that an operation takes from the stream of the reply. -/
def drawn? (x : Exchange) (o : Operation) : Option Octets :=
  match x.step o with
  | (.ok (.octets b), y) => if y.isDrained && !x.isDrained then some b else none
  | _ => none

/-- Everything that the operations of a run take from the stream. -/
def draws (x : Exchange) : List Operation → List Octets
  | [] => []
  | o :: rest => (x.drawn? o).toList ++ (x.step o).2.draws rest

/-- The operation fails as a reading does, and nothing but the journal has changed. -/
def FailsToRead (x : Exchange) (o : Operation) : Prop :=
  ∃ id j, x.step o = (.error id, { x with journal := j }) ∧
    j.failures.class? id = some (.http .read)

/-! ### One reading -/

theorem step_readBody_of_plain (hc : x.channel = some c) (hs : c.reply.isError = false) :
    x.step .readBody = yielding .octets (x.drain c) := by
  rw [step, readBody_of_plain hc hs]

theorem step_readErrorBody_of_error (hc : x.channel = some c) (hs : c.reply.isError = true) :
    x.step .readErrorBody = yielding .octets (x.drain c) := by
  rw [step, readErrorBody_of_error hc hs]

theorem step_reader (hc : x.channel = some c) :
    x.step c.reply.reader = yielding .octets (x.drain c) := by
  cases hs : c.reply.isError with
  | false =>
      rw [Reply.reader, hs]
      exact step_readBody_of_plain hc hs
  | true =>
      rw [Reply.reader, hs]
      exact step_readErrorBody_of_error hc hs

theorem step_reader_of_drained (hc : x.channel = some c) (hd : x.isDrained = true) :
    x.FailsToRead c.reply.reader := by
  obtain ⟨id, j, hraise, hclass⟩ := x.raiseFault_class (α := Octets)
    (.http .read "Response channel was already read and closed")
  refine ⟨id, j, ?_, hclass⟩
  rw [step_reader hc, drain, if_pos hd, hraise]
  rfl

theorem step_readBody_of_error {shown : String} (hc : x.channel = some c)
    (hs : c.reply.isError = true) (hshown : x.shownAddress = .ok shown) :
    ∃ id j, x.step .readBody = (.error id, { x with journal := j }) ∧
      j.failures.class? id = some (.http (.status c.reply.status)) := by
  obtain ⟨id, j, hraise, hclass⟩ := x.raiseFault_class (α := Octets) (.http (.status c.reply.status)
    ("Server returned HTTP status " ++ toString c.reply.status ++ " for " ++ x.verb.token ++ " "
      ++ shown))
  refine ⟨id, j, ?_, hclass⟩
  simp only [step, readBody_of_error hc hs, refuseError, hshown, hraise]
  rfl

theorem step_readErrorBody_of_plain (h : ∀ c, x.channel = some c → c.reply.isError = false) :
    x.step .readErrorBody = (.ok (.octets []), x) := by
  have hempty : x.readErrorBody = (.ok [], x) := by
    cases hc : x.channel with
    | none => exact readErrorBody_of_none hc
    | some c => exact readErrorBody_of_plain hc (h c hc)
  rw [step, hempty]
  rfl

/-- A stream is drained by the first attempt to read it, whatever comes of it. -/
theorem Draining.isDrained {outcome : Outcome Octets} (h : Draining x c outcome y) :
    y.isDrained = true := by
  cases h <;> rfl

theorem isDrained_step_reader (hc : x.channel = some c) :
    (x.step c.reply.reader).2.isDrained = true := by
  cases hd : x.isDrained with
  | true =>
      obtain ⟨id, j, hstep, _⟩ := step_reader_of_drained hc hd
      rw [hstep]
      exact hd
  | false =>
      rw [step_reader hc]
      exact (drain_draining hc hd).isDrained

/-- What is read is the whole content, and it was not read before. -/
theorem step_reader_eq_ok {v : Yield} (hc : x.channel = some c)
    (h : x.step c.reply.reader = (.ok v, y)) :
    (∃ b, x.network.script.client.content c.reply = .ok b ∧ v = .octets b) ∧
      x.isDrained = false ∧ y.isDrained = true := by
  cases hd : x.isDrained with
  | true =>
      obtain ⟨id, j, hstep, _⟩ := step_reader_of_drained hc hd
      rw [hstep] at h
      simp at h
  | false =>
      rw [step_reader hc] at h
      have hdraining := drain_draining hc hd
      generalize x.drain c = z at h hdraining
      obtain ⟨outcome, z⟩ := z
      obtain ⟨houtcome, rfl⟩ := Prod.mk.inj h
      refine ⟨?_, rfl, hdraining.isDrained⟩
      cases hdraining with
      | read _ hcontent => exact ⟨_, hcontent, (Except.ok.inj houtcome).symm⟩
      | _ => simp [Except.map] at houtcome

/-- A stream that does not fail is read, if its content can be decoded. -/
theorem step_reader_of_sound {b : Octets} (hc : x.channel = some c) (hd : x.isDrained = false)
    (ho : c.isClosed = false) (hb : x.network.script.client.content c.reply = .ok b)
    (hr : c.reply.readFailure = none) (hf : c.reply.closeFailure = none) :
    ∃ y, x.step c.reply.reader = (.ok (.octets b), y) := by
  have hsound : x.network.script.client.interrupts c.reply = false :=
    interrupts_eq_false_iff.mpr ⟨⟨b, hb⟩, hr⟩
  rw [step_reader hc]
  have hdraining := drain_draining hc hd
  generalize x.drain c = z at hdraining
  obtain ⟨outcome, z⟩ := z
  cases hdraining with
  | read _ hcontent =>
      obtain rfl := Except.ok.inj (hcontent.symm.trans hb)
      exact ⟨_, rfl⟩
  | closedBefore id j hclosed => simp [ho] at hclosed
  | failedOnce id j _ hone => simp [hsound, hf] at hone
  | failedTwice id j _ hread => simp [hsound] at hread

theorem drawn?_of_step {b : Octets} (h : x.step o = (.ok (.octets b), y))
    (hx : x.isDrained = false) (hy : y.isDrained = true) : x.drawn? o = some b := by
  simp [drawn?, h, hx, hy]

theorem drawn?_eq_some {b : Octets} (h : x.drawn? o = some b) :
    x.step o = (.ok (.octets b), (x.step o).2) ∧ x.isDrained = false ∧
      (x.step o).2.isDrained = true := by
  unfold drawn? at h
  split at h
  · next b' y hstep =>
      obtain ⟨hd, hb⟩ := Option.ite_none_right_eq_some.mp h
      obtain rfl := Option.some.inj hb
      simp only [Bool.and_eq_true, Bool.not_eq_true'] at hd
      rw [hstep]
      exact ⟨rfl, hd.2, hd.1⟩
  · simp at h

/-! ### Replies during a run -/

/-- An operation on the reply keeps it, and so do all others. -/
theorem Transition.keepsReply (h : Transition x o r y) (hfresh : x.Fresh)
    (hc : x.channel = some c) : ∃ c', y.channel = some c' ∧ c'.reply = c.reply := by
  have hdraining : ∀ {c' : Channel} {outcome : Outcome Octets}, x.channel = some c' →
      Draining x c' outcome y → ∃ c', y.channel = some c' ∧ c'.reply = c.reply := by
    intro c' outcome hc' h
    obtain rfl := Option.some.inj (hc'.symm.trans hc)
    cases h with
    | closedBefore => exact ⟨_, hc, rfl⟩
    | _ => exact ⟨_, rfl, rfl⟩
  cases h with
  | connecting hphase => exact absurd (hfresh hphase) (by simp [hc])
  | bodyRead hc' _ _ h => exact hdraining hc' h
  | errorRead hc' _ _ h => exact hdraining hc' h
  | closing h =>
      cases h with
      | handleClosed => exact ⟨c, hc, rfl⟩
      | bothClosed hc' =>
          obtain rfl := Option.some.inj (hc'.symm.trans hc)
          exact ⟨_, rfl, rfl⟩
      | streamFailed j hc' =>
          obtain rfl := Option.some.inj (hc'.symm.trans hc)
          exact ⟨_, rfl, rfl⟩
  | _ => exact ⟨c, hc, rfl⟩

theorem Transition.staysDrained (h : Transition x o r y) (hd : x.isDrained = true) :
    y.isDrained = true := by
  cases h with
  | connecting _ h => cases h <;> exact hd
  | bodyRead _ _ _ h => exact h.isDrained
  | errorRead _ _ _ h => exact h.isDrained
  | closing h => cases h <;> exact hd
  | _ => exact hd

/-- A reply was received only if the address could be shown. -/
def ReplyShown (x : Exchange) : Prop := x.channel ≠ none → ∃ shown, x.shownAddress = .ok shown

/-- The operation is a connect that succeeds, and takes in the reply that comes next. -/
structure TakesIn (x : Exchange) (o : Operation) (r : Outcome Yield) (y : Exchange)
    (reply : Reply) : Prop where
  operation : o = .connect
  succeeds : r = .ok .nothing
  configured : x.phase = .configured
  connected : y.phase = .connected
  shown : ∃ shown, x.shownAddress = .ok shown
  next : x.network.script.next = .reply reply
  channel : y.channel = some ⟨reply, false⟩

theorem Connecting.takesIn (h : Connecting x (.ok ()) y) (hphase : x.phase = .configured) :
    ∃ reply, TakesIn x .connect (.ok .nothing) y reply := by
  cases h with
  | connected _ hsends hnext => exact ⟨_, rfl, rfl, hphase, rfl, hsends.shown, hnext, rfl⟩

/-- There is no other way to receive a reply. -/
theorem Transition.channel_of_none (h : Transition x o r y) (hc : x.channel = none) :
    y.channel = none ∨ ∃ reply, TakesIn x o r y reply := by
  cases h with
  | @connecting outcome _ hphase h =>
      cases outcome with
      | ok => exact .inr (h.takesIn hphase)
      | error => cases h <;> exact .inl hc
  | bodyRead hc' => simp [hc] at hc'
  | errorRead hc' => simp [hc] at hc'
  | closing h =>
      cases h with
      | handleClosed => exact .inl hc
      | bothClosed hc' => simp [hc] at hc'
      | streamFailed _ hc' => simp [hc] at hc'
  | _ => exact .inl hc

theorem Transition.replyShown (h : Transition x o r y) (hx : x.ReplyShown) : y.ReplyShown := by
  intro hy
  have hsame : y.shownAddress = x.shownAddress := by
    rw [shownAddress, shownAddress, h.target]
  rw [hsame]
  by_cases hc : x.channel = none
  · obtain ⟨_, htakes⟩ := (h.channel_of_none hc).resolve_left hy
    exact htakes.shown
  · exact hx hc

theorem run_keepsReply (hfresh : x.Fresh) (hc : x.channel = some c) (os : List Operation) :
    ∃ c', (x.run os).channel = some c' ∧ c'.reply = c.reply := by
  refine run_induction (P := fun y ↦ ∃ c', y.channel = some c' ∧ c'.reply = c.reply) ?_ hfresh
    ⟨c, hc, rfl⟩ os
  rintro y o r z hy ⟨c', hc', hreply⟩ h
  obtain ⟨c'', hc'', hreply'⟩ := h.keepsReply hy hc'
  exact ⟨c'', hc'', hreply'.trans hreply⟩

theorem run_isDrained (hfresh : x.Fresh) (hd : x.isDrained = true) (os : List Operation) :
    (x.run os).isDrained = true :=
  run_induction (P := fun y ↦ y.isDrained = true) (fun _ hy h ↦ h.staysDrained hy) hfresh hd os

/-- After an attempt to read, every later one fails. -/
theorem step_reader_after (hfresh : x.Fresh) (hc : x.channel = some c) (later : List Operation) :
    ((x.step c.reply.reader).2.run later).FailsToRead c.reply.reader := by
  have hstep := step_transition hfresh c.reply.reader
  obtain ⟨c₁, hc₁, hreply₁⟩ := hstep.keepsReply hfresh hc
  obtain ⟨c₂, hc₂, hreply₂⟩ := run_keepsReply (hstep.fresh hfresh) hc₁ later
  have hd := run_isDrained (hstep.fresh hfresh) (isDrained_step_reader hc) later
  have hfails := step_reader_of_drained hc₂ hd
  rwa [hreply₂, hreply₁] at hfails

/-! ### What a run takes from the stream -/

theorem Transition.drawn (h : Transition x o r y) (hx : x.isDrained = false)
    (hy : y.isDrained = true) : ∃ c, x.channel = some c ∧ o = c.reply.reader := by
  have hsame : y.isDrained = x.isDrained → ∃ c, x.channel = some c ∧ o = c.reply.reader := by
    intro heq
    simp [heq, hx] at hy
  cases h with
  | connecting _ h => cases h <;> exact hsame rfl
  | bodyRead hc hs => exact ⟨_, hc, by simp [Reply.reader, hs]⟩
  | errorRead hc hs => exact ⟨_, hc, by simp [Reply.reader, hs]⟩
  | closing h => cases h <;> exact hsame rfl
  | _ => exact hsame rfl

/-- Only the operation that the status selects takes anything, and it takes the whole content. -/
theorem content_of_drawn? {b : Octets} (hfresh : x.Fresh) (h : x.drawn? o = some b) :
    ∃ c, x.channel = some c ∧ o = c.reply.reader ∧
      x.network.script.client.content c.reply = .ok b := by
  obtain ⟨hstep, hx, hy⟩ := drawn?_eq_some h
  obtain ⟨c, hc, rfl⟩ := (step_transition hfresh o).drawn hx hy
  obtain ⟨⟨content, hcontent, hb⟩, _, _⟩ := step_reader_eq_ok hc hstep
  obtain rfl := Yield.octets.inj hb
  exact ⟨c, hc, rfl, hcontent⟩

theorem draws_of_drained (hfresh : x.Fresh) (hd : x.isDrained = true) (os : List Operation) :
    x.draws os = [] := by
  induction os generalizing x with
  | nil => rfl
  | cons o rest ih =>
      have h := step_transition hfresh o
      have hnone : x.drawn? o = none := by
        cases hdrawn : x.drawn? o with
        | none => rfl
        | some b => exact absurd (drawn?_eq_some hdrawn).2.1 (by simp [hd])
      rw [draws, hnone, ih (h.fresh hfresh) (h.staysDrained hd)]
      rfl

theorem draws_cases (hfresh : x.Fresh) (os : List Operation) :
    x.draws os = [] ∨ ∃ c b, (x.run os).channel = some c ∧
      x.network.script.client.content c.reply = .ok b ∧ x.draws os = [b] := by
  induction os generalizing x with
  | nil => exact .inl rfl
  | cons o rest ih =>
      have h := step_transition hfresh o
      cases hdrawn : x.drawn? o with
      | none =>
          rw [draws, hdrawn, ← h.client]
          exact ih (h.fresh hfresh)
      | some b =>
          obtain ⟨c, hc, _, hb⟩ := content_of_drawn? hfresh hdrawn
          have hrest := draws_of_drained (h.fresh hfresh) (drawn?_eq_some hdrawn).2.2 rest
          obtain ⟨c₁, hc₁, hreply₁⟩ := h.keepsReply hfresh hc
          obtain ⟨c₂, hc₂, hreply₂⟩ := run_keepsReply (h.fresh hfresh) hc₁ rest
          refine .inr ⟨c₂, b, hc₂, ?_, ?_⟩
          · rw [hreply₂, hreply₁, hb]
          · rw [draws, hdrawn, hrest]
            rfl

/-! ### Every run -/

/-- Octets are answered by taking the content of the reply, as the client reads it, or none are
answered where a reply has no error content, which changes nothing. -/
structure AnswersContent (k : Client) (x : Exchange) : Prop where
  body : ∀ v y, x.step .readBody = (.ok v, y) →
    ∃ c b, x.channel = some c ∧ c.reply.status < 400 ∧ k.content c.reply = .ok b ∧
      v = .octets b ∧ x.drawn? .readBody = some b
  errorBody : ∀ v y, x.step .readErrorBody = (.ok v, y) →
    (v = .octets [] ∧ y = x ∧ ∀ c, x.channel = some c → c.reply.status < 400) ∨
    ∃ c b, x.channel = some c ∧ 400 ≤ c.reply.status ∧ k.content c.reply = .ok b ∧
      v = .octets b ∧ x.drawn? .readErrorBody = some b

theorem answersContent (x : Exchange) : AnswersContent x.network.script.client x := by
  have htaken : ∀ {c : Channel} {v : Yield} {y : Exchange}, x.channel = some c →
      x.step c.reply.reader = (.ok v, y) →
      ∃ b, x.network.script.client.content c.reply = .ok b ∧ v = .octets b ∧
        x.drawn? c.reply.reader = some b := by
    intro c v y hc hstep
    obtain ⟨⟨b, hb, rfl⟩, hx, hy⟩ := step_reader_eq_ok hc hstep
    exact ⟨b, hb, rfl, drawn?_of_step hstep hx hy⟩
  constructor
  · intro v y hstep
    have hfails : ¬ OnlyFails x (x.step .readBody) := by
      rintro ⟨id, j, heq⟩
      simp [hstep] at heq
    cases hc : x.channel with
    | none => exact absurd (onlyFails_yielding (withReply_onlyFails hc _)) hfails
    | some c =>
        cases hs : c.reply.isError with
        | true =>
            refine absurd (onlyFails_yielding ?_) hfails
            rw [readBody_of_error hc hs]
            exact x.refuseError_onlyFails _
        | false =>
            have hreader : c.reply.reader = .readBody := by simp [Reply.reader, hs]
            obtain ⟨b, hb, hv, hdrawn⟩ := htaken hc (hreader ▸ hstep)
            exact ⟨c, b, rfl, c.reply.isError_eq_false_iff.mp hs, hb, hv, hreader ▸ hdrawn⟩
  · intro v y hstep
    by_cases hplain : ∀ c, x.channel = some c → c.reply.isError = false
    · rw [step_readErrorBody_of_plain hplain] at hstep
      obtain ⟨hv, rfl⟩ := Prod.mk.inj hstep
      refine .inl ⟨(Except.ok.inj hv).symm, rfl, fun c hc ↦ ?_⟩
      exact c.reply.isError_eq_false_iff.mp (hplain c hc)
    · obtain ⟨c, hc, hs⟩ : ∃ c, x.channel = some c ∧ c.reply.isError = true := by
        simpa using hplain
      have hreader : c.reply.reader = .readErrorBody := by simp [Reply.reader, hs]
      obtain ⟨b, hb, hv, hdrawn⟩ := htaken hc (hreader ▸ hstep)
      exact .inr ⟨c, b, hc, c.reply.isError_eq_true_iff.mp hs, hb, hv, hreader ▸ hdrawn⟩

/-- How an exchange with a reply answers to reading. The operation that the status does not select
changes nothing; the one that it selects reads a sound stream, and fails ever after. -/
structure ServesOnce (k : Client) (x : Exchange) (c : Channel) : Prop where
  refused : 400 ≤ c.reply.status →
    ∃ id j, x.step .readBody = (.error id, { x with journal := j }) ∧
      j.failures.class? id = some (.http (.status c.reply.status))
  nothing : c.reply.status < 400 → x.step .readErrorBody = (.ok (.octets []), x)
  sound : ∀ b, k.content c.reply = .ok b → x.isDrained = false → c.isClosed = false →
    c.reply.readFailure = none → c.reply.closeFailure = none →
    x.drawn? c.reply.reader = some b
  exhausted : ∀ later, ((x.step c.reply.reader).2.run later).FailsToRead c.reply.reader

theorem servesOnce (hfresh : x.Fresh) (hshown : x.ReplyShown) (hc : x.channel = some c) :
    ServesOnce x.network.script.client x c where
  refused := by
    intro hs
    obtain ⟨shown, hshown⟩ := hshown (by simp [hc])
    exact step_readBody_of_error hc (c.reply.isError_eq_true_iff.mpr hs) hshown
  nothing := by
    intro hs
    refine step_readErrorBody_of_plain fun c' hc' ↦ ?_
    obtain rfl := Option.some.inj (hc'.symm.trans hc)
    exact c'.reply.isError_eq_false_iff.mpr hs
  sound := by
    intro b hb hd ho hr hf
    obtain ⟨y, hstep⟩ := step_reader_of_sound hc hd ho hb hr hf
    obtain ⟨_, hx, hy⟩ := step_reader_eq_ok hc hstep
    exact drawn?_of_step hstep hx hy
  exhausted := step_reader_after hfresh hc

/-- A run takes the content of the reply from its stream at most once, and then as a whole: all
chunks as they are, unless their coding is one that the client undoes. Only the operation that the
status selects answers it, and fails after the first attempt; the other one answers the same at any
time and changes nothing. -/
theorem content_read_at_most_once {p : Proposal} {custom : Bool} {script : Script}
    {openings : List (Option FailureId)} {j : Journal} {unredacted : Bool}
    (hstart : start p (.start custom script openings) j unredacted = .ok x)
    (os : List Operation) :
    ((x.draws os).length ≤ 1 ∧
      ∀ b ∈ x.draws os, ∃ c, (x.run os).channel = some c ∧
        script.client.content c.reply = .ok b) ∧
    (∀ r : Reply, r.codings = [] → script.client.content r = .ok r.chunks.flatten) ∧
    AnswersContent script.client (x.run os) ∧
    ∀ c, (x.run os).channel = some c → ServesOnce script.client (x.run os) c := by
  have hstarted := start_started hstart
  have hfresh := run_fresh hstarted.fresh os
  have hclient := hstarted.run_client os
  have hshown : (x.run os).ReplyShown := by
    refine run_induction (fun _ hx h ↦ h.replyShown hx) hstarted.fresh ?_ os
    exact fun h ↦ absurd hstarted.channel h
  refine ⟨?_, fun r hr ↦ script.client.content_of_plain hr, hclient ▸ answersContent _,
    fun c hc ↦ hclient ▸ servesOnce hfresh hshown hc⟩
  rcases draws_cases hstarted.fresh os with hnone | ⟨c, b, hc, hb, hone⟩
  · rw [hnone]
    exact ⟨Nat.zero_le 1, by simp⟩
  · rw [hone]
    refine ⟨Nat.le_refl 1, fun b' hb' ↦ ⟨c, hc, ?_⟩⟩
    rw [List.mem_singleton.mp hb', ← hb, hstarted.client]

/-- A peer that knows nothing of what is asked for, and says so in two chunks. -/
def unknowing : Script := ⟨.reply ⟨404, [], [[0x6e], [0x6f, 0x6e, 0x65]], none, none⟩, [], .plain⟩

/-- The content of an error is read once, after the other operation was refused. -/
theorem content_read_at_most_once_of_unknowing :
    ∃ x c, start hubMessage (.start true unknowing []) ⟨[], []⟩ false = .ok x ∧
      (x.run [.connect, .readBody]).channel = some c ∧
      (x.draws [.connect, .readBody]).length ≤ 1 ∧
      (∃ id j, (x.run [.connect, .readBody]).step .readBody
          = (.error id, { x.run [.connect, .readBody] with journal := j }) ∧
        j.failures.class? id = some (.http (.status 404))) ∧
      (x.run [.connect, .readBody]).drawn? .readErrorBody = some [0x6e, 0x6f, 0x6e, 0x65] ∧
      (((x.run [.connect, .readBody]).step .readErrorBody).2.run [.close]).FailsToRead
        .readErrorBody := by
  obtain ⟨x, hstart, hx⟩ := exists_of_any_start (p := hubMessage)
    (n := .start true unknowing []) (j := ⟨[], []⟩) (u := false)
    (q := fun x ↦ !(x.run [.connect, .readBody]).isDrained &&
      (x.run [.connect, .readBody]).channel.any fun (c : Channel) ↦
        !c.isClosed && decide (c.reply.status = 404) && c.reply.readFailure.isNone &&
          c.reply.closeFailure.isNone && c.reply.codings.isEmpty &&
          decide (c.reply.chunks.flatten = [0x6e, 0x6f, 0x6e, 0x65]))
    (by decide +kernel)
  simp only [Bool.and_eq_true, Bool.not_eq_true', Option.any_eq_true, decide_eq_true_eq,
    Option.isNone_iff_eq_none, List.isEmpty_iff] at hx
  obtain ⟨hdrained, c, hc, ⟨⟨⟨⟨hopen, hstatus⟩, hread⟩, hclose⟩, hcodings⟩, hchunks⟩ := hx
  obtain ⟨⟨hlength, _⟩, hplain, _, hserves⟩ :=
    content_read_at_most_once hstart [.connect, .readBody]
  have honce := hserves c hc
  have hreader : c.reply.reader = .readErrorBody := by
    rw [Reply.reader, c.reply.isError_eq_true_iff.mpr (by omega), if_pos rfl]
  obtain ⟨id, j, hrefused, hclass⟩ := honce.refused (by omega)
  have hsound := honce.sound _ (hplain _ hcodings) hdrained hopen hread hclose
  have hexhausted := honce.exhausted [.close]
  rw [hreader] at hsound hexhausted
  exact ⟨x, c, hstart, hc, hlength, ⟨id, j, hrefused, hstatus ▸ hclass⟩, hchunks ▸ hsound,
    hexhausted⟩

/-- A peer that breaks off after the first octet of packed content, in which a client finds nothing
yet. -/
def packing : Script where
  next := .reply ⟨200, [.ofText "Content-Encoding" "gzip"], [[0x1f]], none, none⟩
  later := []
  client := ⟨fun _ _ ↦ .empty, fun _ _ ↦ .ok []⟩

/-- Packed content is not answered as it comes from the stream. -/
theorem packed_content_not_answered_in_chunks :
    ∃ x c, start hubMessage (.start true packing []) ⟨[], []⟩ false = .ok x ∧
      (x.run [.connect]).channel = some c ∧ c.reply.chunks.flatten = [0x1f] ∧
      x.draws [.connect, .readBody] = [[]] := by
  obtain ⟨x, hstart, hx⟩ := exists_of_any_start (p := hubMessage)
    (n := .start true packing []) (j := ⟨[], []⟩) (u := false)
    (q := fun x ↦ ((x.run [.connect]).channel.any fun (c : Channel) ↦
        decide (c.reply.chunks.flatten = [0x1f])) &&
      decide (x.draws [.connect, .readBody] = [[]]))
    (by decide +kernel)
  simp only [Bool.and_eq_true, Option.any_eq_true, decide_eq_true_eq] at hx
  obtain ⟨⟨c, hc, hchunks⟩, hdraws⟩ := hx
  exact ⟨x, c, hstart, hc, hchunks, hdraws⟩

end Exchange

end SecureExchange
