import SecureExchange.Proofs.Exchange.Runs

/-!
# How often a request is sent

A connect that fails with a documented failure of the client seals the exchange: it is closed, its
handle is closed, and no later connect sends anything. Any other failure leaves the exchange
configured and its handle open. If the request had been sent by then, the connect has lapsed, and
the next connect sends the same request again, with the cookies that the client has by then.
-/

namespace SecureExchange

open Failure

theorem Failure.Graph.classified?_record (g : Graph) (e : Classified) (h : Option FailureId) :
    (g.record (.classified e) h).2.classified? (g.record (.classified e) h).1 = some e := by
  simp [Graph.record, Graph.classified?, Failure.classified?]

theorem Network.handles_closeHandle {n : Network} {h : Handle} (hu : n.usable? = some h) :
    ∃ rest, n.closeHandle.handles = h.close :: rest := by
  cases hn : n.handles with
  | nil => simp [usable?, hn] at hu
  | cons h' rest =>
      have hh : h' = h := by
        have hu' : (if h'.isOpen = true then some h' else none) = some h := by
          simpa [usable?, hn] using hu
        exact Option.some.inj (Option.ite_none_right_eq_some.mp hu').2
      exact ⟨rest, handles_closeHandle_of_cons (hh ▸ hn)⟩

namespace Exchange

variable {x y z : Exchange} {o : Operation} {r : Outcome Yield}

/-- An operation put a request on the wire and failed, but not with a documented failure of the
client. -/
def lapsed (x : Exchange) (r : Outcome Yield) (y : Exchange) : Bool :=
  match r with
  | .error id => decide (x.network.sent.length < y.network.sent.length) && !y.isHttpFailure id
  | .ok _ => false

/-- How many connects of a run lapse. -/
def countLapses (x : Exchange) : List Operation → Nat
  | [] => 0
  | o :: rest =>
    (x.lapsed (x.step o).1 (x.step o).2).toNat + (x.step o).2.countLapses rest

/-- A connect is refused as an operation in a wrong state, and sends nothing. -/
def RefusesConnect (x : Exchange) : Prop :=
  ∃ id e, x.connect.1 = .error id ∧ x.connect.2.network = x.network ∧
    x.connect.2.journal.failures.classified? id = some e ∧ e.cls = .invalidState

/-- The exchange is over, and stays so whatever is done with it. -/
structure Sealed (x : Exchange) : Prop where
  phase : x.phase = .closed
  handle : ∃ h rest, x.network.handles = h :: rest ∧ h.isOpen = false
  refuses : ∀ os, (x.run os).RefusesConnect
  silent : ∀ os, (x.run os).network.sent = x.network.sent

theorem refuse_classified {α : Type} (x : Exchange) (cls : ErrorClass) (message : String)
    (details : OrderedMap String Datum) :
    ∃ id j e, x.refuse (α := α) cls message details = (.error id, { x with journal := j }) ∧
      j.failures.classified? id = some e ∧ e.cls = cls :=
  ⟨_, _, _, rfl, Graph.classified?_record _ _ _, rfl⟩

theorem whileConfigured_refused {α : Type} (h : x.phase ≠ .configured) (operation : String)
    (go : Exchange → Outcome α × Exchange) :
    ∃ id j e, x.whileConfigured operation go = (.error id, { x with journal := j }) ∧
      j.failures.classified? id = some e ∧ e.cls = .invalidState := by
  rw [whileConfigured, if_neg h]
  exact x.refuse_classified ..

theorem refusesConnect_of_ne (h : x.phase ≠ .configured) : x.RefusesConnect := by
  obtain ⟨id, j, e, hconnect, herror, hcls⟩ :=
    whileConfigured_refused h "connect" connectConfigured
  refine ⟨id, e, ?_, ?_, ?_, hcls⟩
  · rw [connect, hconnect]
  · rw [connect, hconnect]
  · rw [connect, hconnect]
    exact herror

theorem Transition.sent_of_ne (h : Transition x o r y) (hphase : x.phase ≠ .configured) :
    y.network.sent = x.network.sent := by
  rcases h.sent with hsent | ⟨_, _, _, hx, _⟩
  · exact hsent
  · exact absurd hx hphase

theorem run_sent_of_closed (hfresh : x.Fresh) (hclosed : x.phase = .closed)
    (os : List Operation) : (x.run os).network.sent = x.network.sent := by
  have hrun : (x.run os).phase = .closed ∧ (x.run os).network.sent = x.network.sent := by
    refine run_induction (P := fun y ↦ y.phase = .closed ∧ y.network.sent = x.network.sent)
      ?_ hfresh ⟨hclosed, rfl⟩ os
    rintro y o r z hy ⟨hphase, hsent⟩ h
    have hle := h.phase_le
    rw [hphase] at hle
    refine ⟨?_, ?_⟩
    · cases hz : z.phase <;> simp [hz, Phase.rank] at hle ⊢
    · rw [h.sent_of_ne (by simp [hphase]), hsent]
  exact hrun.2

theorem sealed_of_closed (hfresh : x.Fresh) (hclosed : x.phase = .closed)
    (hhandle : ∃ h rest, x.network.handles = h :: rest ∧ h.isOpen = false) : x.Sealed where
  phase := hclosed
  handle := hhandle
  refuses := fun os ↦ refusesConnect_of_ne (by simp [run_of_closed hfresh hclosed os])
  silent := run_sent_of_closed hfresh hclosed

/-! ### The number of requests -/

/-- What may still be sent without a lapse. -/
def allowance (x : Exchange) : Nat := if x.phase = .configured then 1 else 0

theorem allowance_le_one (x : Exchange) : x.allowance ≤ 1 := by
  unfold allowance
  split <;> omega

theorem Transition.allowance_le (h : Transition x o r y) (hfresh : x.Fresh) :
    y.allowance ≤ x.allowance := by
  unfold allowance
  by_cases hy : y.phase = .configured
  · simp [hy, (h.of_configured hfresh hy).1]
  · simp [hy]

theorem lapsed_error_iff {id : FailureId} : x.lapsed (.error id) y = true ↔
    x.network.sent.length < y.network.sent.length ∧ y.isHttpFailure id = false := by
  simp [lapsed]

theorem Transition.lapsed_le (h : Transition x o r y) :
    x.network.sent.length + (x.lapsed r y).toNat ≤ y.network.sent.length := by
  have hle : x.network.sent.length ≤ y.network.sent.length := by
    rcases h.sent with hsent | ⟨_, _, _, _, _, hsent⟩ <;> simp [hsent]
  cases hl : x.lapsed r y with
  | false => simpa using hle
  | true =>
      cases r with
      | ok a => simp [lapsed] at hl
      | error id =>
          have hlt := (lapsed_error_iff.mp hl).1
          simp only [Bool.toNat_true]
          omega

/-- A lapse pays for the request that it sends, and any other request uses up the allowance. -/
theorem Transition.sent_le (h : Transition x o r y) (hfresh : x.Fresh) :
    y.network.sent.length + y.allowance
      ≤ x.network.sent.length + x.allowance + (x.lapsed r y).toNat := by
  rcases h.sent with hsent | ⟨request, handle, rfl, hphase, _, hsent⟩
  · have hle := h.allowance_le hfresh
    rw [hsent]
    omega
  · have hx : x.allowance = 1 := by simp [allowance, hphase]
    have hlength : y.network.sent.length = x.network.sent.length + 1 := by simp [hsent]
    have hover : y.phase ≠ .configured → y.network.sent.length + y.allowance
        ≤ x.network.sent.length + x.allowance + (x.lapsed r y).toNat := by
      intro hy
      have hzero : y.allowance = 0 := by simp [allowance, hy]
      omega
    cases h with
    | failed hstep hconnect => exact absurd rfl (hconnect hphase)
    | observed hobserves => simp [Operation.observes] at hobserves
    | connecting _ h =>
        cases h with
        | notBuilt => simp at hsent
        | noHandle => simp at hsent
        | @lapsed _ _ n id j hsends hn hfault =>
            have hone := allowance_le_one { x with
              fields := x.fields.settled, network := n, journal := j }
            have hlapsed : x.lapsed (.error id) { x with
                fields := x.fields.settled, network := n, journal := j } = true :=
              lapsed_error_iff.mpr ⟨Nat.lt_of_succ_le (Nat.le_of_eq hlength.symm), hfault⟩
            simp only [Except.map, hlapsed, Bool.toNat_true]
            simp only at hlength
            omega
        | failed => exact hover (by simp)
        | connected => exact hover (by simp)

theorem run_sent_bounds (hfresh : x.Fresh) (os : List Operation) :
    x.network.sent.length + x.countLapses os ≤ (x.run os).network.sent.length ∧
      (x.run os).network.sent.length
        ≤ x.network.sent.length + x.allowance + x.countLapses os := by
  induction os generalizing x with
  | nil => simp [countLapses]
  | cons o rest ih =>
      have h := step_transition hfresh o
      have hlower := h.lapsed_le
      have hupper := h.sent_le hfresh
      obtain ⟨hrest, hrest'⟩ := ih (step_fresh hfresh o)
      simp only [run_cons, countLapses]
      omega

/-! ### The end of a connect -/

theorem sealed_iff_of_configured {id : FailureId} (hfault : y.isHttpFailure id = false)
    (hy : y.phase = .configured) : y.isHttpFailure id = true ↔ y.Sealed := by
  constructor
  · intro htrue
    simp [hfault] at htrue
  · intro hsealed
    have hclosed := hsealed.phase
    simp [hy] at hclosed

/-- A documented failure of the client seals the exchange, and no other failure does. -/
theorem connect_sealed_iff {id : FailureId} (hfresh : x.Fresh) (hphase : x.phase = .configured)
    (h : x.connect = (.error id, y)) : y.isHttpFailure id = true ↔ y.Sealed := by
  have hconnecting := connect_connecting hfresh hphase h
  have hy : y.Fresh := (Transition.connecting hphase hconnecting).fresh hfresh
  cases hconnecting with
  | notBuilt _ _ _ hfault => exact sealed_iff_of_configured hfault hphase
  | noHandle _ _ _ hfault => exact sealed_iff_of_configured hfault hphase
  | lapsed _ _ _ _ hfault => exact sealed_iff_of_configured hfault hphase
  | @failed request handle n _ j hsends hn hfault =>
      refine ⟨fun _ ↦ sealed_of_closed hy rfl ?_, fun _ ↦ hfault⟩
      have husable : n.usable? = some handle := by
        rw [Network.usable?, hn.handles]
        exact hsends.usable
      obtain ⟨rest, hhandles⟩ := Network.handles_closeHandle husable
      exact ⟨handle.close, rest, hhandles, Handle.isOpen_close handle⟩

/-- Any other failure leaves the exchange configured and its handle as it was, so that a request
that was sent is sent again by the next connect, unless the client has got other cookies. -/
theorem connect_again {id : FailureId} (hfresh : x.Fresh) (hphase : x.phase = .configured)
    (h : x.connect = (.error id, y)) (hfault : y.isHttpFailure id = false) :
    y.phase = .configured ∧ y.network.handles = x.network.handles ∧
      ∀ s, y.network.sent = x.network.sent ++ [s] →
        y.network.cookies y.target = x.network.cookies x.target →
        y.connect.2.network.sent = y.network.sent ++ [s] := by
  have hconnecting := connect_connecting hfresh hphase h
  have hy : y.Fresh := (Transition.connecting hphase hconnecting).fresh hfresh
  have hquiet : y.network.sent = x.network.sent → ∀ s, y.network.sent = x.network.sent ++ [s] →
      y.network.cookies y.target = x.network.cookies x.target →
      y.connect.2.network.sent = y.network.sent ++ [s] := by
    intro hsame s hs
    simp [hsame] at hs
  cases hconnecting with
  | notBuilt => exact ⟨hphase, rfl, hquiet rfl⟩
  | noHandle => exact ⟨hphase, rfl, hquiet rfl⟩
  | failed _ _ _ _ hfault' => exact absurd (hfault.symm.trans hfault') (by simp)
  | @lapsed request handle n _ j hsends hn =>
      refine ⟨hphase, hn.handles, fun s hs hcookies ↦ ?_⟩
      have hagain : Sends { x with fields := x.fields.settled, network := n, journal := j }
          request handle := by
        refine ⟨?_, hsends.shown, ?_⟩
        · rw [hcookies, Fields.entries_settled]
          exact hsends.build
        · rw [Network.usable?, hn.handles]
          exact hsends.usable
      have hsame : [s] = [⟨request.authorize, handle.trust⟩] :=
        List.append_cancel_left (hs.symm.trans hn.sent)
      rw [connect_sent hy hphase hagain, ← hsame]

/-! ### Every run -/

/-- A run sends one request for each lapse, and at most one more. A connect that fails seals the
exchange exactly if it fails with a documented failure of the client; otherwise the exchange stays
configured, its handle stays as it was, and what was sent is sent again by the next connect if the
client has the cookies that it had before. -/
theorem requests_bounded_and_failures_seal {p : Proposal} {custom : Bool} {script : Script}
    {openings : List (Option FailureId)} {j : Journal} {unredacted : Bool}
    (hstart : start p (.start custom script openings) j unredacted = .ok x)
    (os : List Operation) :
    (x.countLapses os ≤ (x.run os).network.sent.length ∧
      (x.run os).network.sent.length ≤ x.countLapses os + 1) ∧
    ∀ id z, (x.run os).phase = .configured → (x.run os).connect = (.error id, z) →
      (z.isHttpFailure id = true ↔ z.Sealed) ∧
      (z.isHttpFailure id = false →
        z.phase = .configured ∧ z.network.handles = (x.run os).network.handles ∧
        ∀ s, z.network.sent = (x.run os).network.sent ++ [s] →
          z.network.cookies z.target = (x.run os).network.cookies (x.run os).target →
          z.connect.2.network.sent = z.network.sent ++ [s]) := by
  have hstarted := start_started hstart
  have hfresh := run_fresh hstarted.fresh os
  obtain ⟨hlower, hupper⟩ := run_sent_bounds hstarted.fresh os
  have hone := allowance_le_one x
  simp only [hstarted.sent, List.length_nil] at hlower hupper
  refine ⟨⟨by omega, by omega⟩, ?_⟩
  intro id z hphase hconnect
  exact ⟨connect_sealed_iff hfresh hphase hconnect, connect_again hfresh hphase hconnect⟩

/-- A peer that first answers with a failure unknown to the client and then refuses to connect. -/
def wavering : Script := ⟨.refusal 0, [.refusal 1], .plain⟩

def waveringJournal : Journal where
  failures := [⟨.fault (.invalidValue "no answer"), none, none⟩,
    ⟨.fault (.http .connect "refused"), none, none⟩]
  events := []

theorem requests_bounded_of_wavering :
    ∃ x z, start hubMessage (.start true wavering []) waveringJournal false = .ok x ∧
      (x.run [.connect]).phase = .configured ∧
      (x.run [.connect]).connect = (.error 1, z) ∧
      x.countLapses [.connect] = 1 ∧ (x.run [.connect]).network.sent.length ≤ 2 ∧
      z.isHttpFailure 1 = true ∧ z.Sealed := by
  obtain ⟨x, hstart, hx⟩ := exists_of_any_start (p := hubMessage)
    (n := .start true wavering []) (j := waveringJournal) (u := false)
    (q := fun x ↦ decide ((x.run [.connect]).phase = .configured) &&
      decide (failure? (x.run [.connect]).connect.1 = some 1) &&
      decide (x.countLapses [.connect] = 1) && (x.run [.connect]).connect.2.isHttpFailure 1)
    (by decide +kernel)
  simp only [Bool.and_eq_true, decide_eq_true_eq] at hx
  obtain ⟨⟨⟨hphase, houtcome⟩, hlapses⟩, hfault⟩ := hx
  have hconnect : (x.run [.connect]).connect = (.error 1, (x.run [.connect]).connect.2) :=
    Prod.ext (eq_error_of_failure? houtcome) rfl
  obtain ⟨hbounds, hends⟩ := requests_bounded_and_failures_seal hstart [.connect]
  refine ⟨x, _, hstart, hphase, hconnect, hlapses, ?_, hfault, ?_⟩
  · rw [hlapses] at hbounds
    exact hbounds.2
  · exact (hends 1 _ hphase hconnect).1.mp hfault

/-- After a failure unknown to the client the exchange is not closed, and a second connect sends a
second request. -/
theorem lapsed_connect_sends_twice :
    ∃ x, start hubMessage (.start true wavering []) waveringJournal false = .ok x ∧
      failure? x.connect.1 = some 0 ∧ x.connect.2.phase = .configured ∧
      (x.run [.connect, .connect]).network.sent.length = 2 := by
  obtain ⟨x, hstart, hx⟩ := exists_of_any_start (p := hubMessage)
    (n := .start true wavering []) (j := waveringJournal) (u := false)
    (q := fun x ↦ decide (failure? x.connect.1 = some 0) &&
      decide (x.connect.2.phase = .configured) &&
      decide ((x.run [.connect, .connect]).network.sent.length = 2))
    (by decide +kernel)
  simp only [Bool.and_eq_true, decide_eq_true_eq] at hx
  exact ⟨x, hstart, hx.1.1, hx.1.2, hx.2⟩

end Exchange

end SecureExchange
