import SecureExchange.Proofs.Exchange.Transition

/-!
# Runs of an exchange

What every transition keeps, and hence every run: a configured exchange has no reply, the phase
never goes back, and requests are sent by connects of configured exchanges only. Connecting, reading
and closing retain whatever was configured (`Retains`).
-/

namespace SecureExchange

open Failure

namespace Network

theorem sent_closeHandle_openHandle {n m : Network} {context : Option String}
    {outcome : Except FailureId Unit} (h : n.closeHandle.openHandle context = (outcome, m)) :
    m.sent = n.sent := by
  have hm : m = (n.closeHandle.openHandle context).2 := by rw [h]
  rw [hm, sent_openHandle, sent_closeHandle]

theorem client_reopen {n m : Network} {context : Option String}
    {outcome : Except FailureId Unit} (h : n.closeHandle.openHandle context = (outcome, m)) :
    m.script.client = n.script.client := by
  have hm : m = (n.closeHandle.openHandle context).2 := by rw [h]
  rw [hm, client_openHandle, client_closeHandle]

variable {n m : Network} {request : Request} {handle : Handle}

theorem Delivered.sent (h : n.Delivered request handle m) :
    m.sent = n.sent ++ [⟨request.authorize, handle.trust⟩] := by
  cases h <;> rfl

theorem Delivered.handles (h : n.Delivered request handle m) : m.handles = n.handles := by
  cases h <;> rfl

theorem Delivered.custom (h : n.Delivered request handle m) : m.custom = n.custom := by
  cases h <;> rfl

theorem Delivered.client (h : n.Delivered request handle m) :
    m.script.client = n.script.client := by
  cases h <;> exact Script.client_advance _

end Network

namespace Exchange

variable {x y : Exchange} {o : Operation} {r : Outcome Yield}

theorem Closing.phase {outcome : Outcome Unit} (h : Closing x outcome y) :
    y.phase = .closed ∨ y.phase = x.phase ∧ x.channel ≠ none := by
  cases h with
  | handleClosed => exact .inl rfl
  | bothClosed => exact .inl rfl
  | streamFailed j hchannel => exact .inr ⟨rfl, by simp [hchannel]⟩

theorem Closing.sent {outcome : Outcome Unit} (h : Closing x outcome y) :
    y.network.sent = x.network.sent := by
  cases h with
  | handleClosed => exact Network.sent_closeHandle _
  | bothClosed => exact Network.sent_closeHandle _
  | streamFailed => rfl

theorem Draining.phase {c : Channel} {outcome : Outcome Octets} (h : Draining x c outcome y) :
    y.phase = .closed ∨ y.phase = x.phase := by
  cases h with
  | failedTwice => exact .inr rfl
  | _ => exact .inl rfl

theorem Draining.sent {c : Channel} {outcome : Outcome Octets} (h : Draining x c outcome y) :
    y.network.sent = x.network.sent := by
  cases h with
  | failedTwice => rfl
  | _ => exact Network.sent_closeHandle _

/-- What was staged is still staged. The character set of the fields may have been settled. -/
structure KeepsStaging (x y : Exchange) : Prop where
  target : y.target = x.target
  verb : y.verb = x.verb
  body : y.body = x.body
  readTimeout : y.readTimeout = x.readTimeout
  fields : y.fields = x.fields ∨ y.fields = x.fields.settled

/-- What connecting, reading and closing leave as it is. The handle may have been closed. -/
structure Retains (x y : Exchange) : Prop extends KeepsStaging x y where
  tlsContext : y.tlsContext = x.tlsContext
  custom : y.network.custom = x.network.custom
  client : y.network.script.client = x.network.script.client
  usable : y.network.usable? = none ∨ y.network.usable? = x.network.usable?

theorem Closing.retains {outcome : Outcome Unit} (h : Closing x outcome y) : Retains x y := by
  cases h with
  | streamFailed => exact ⟨⟨rfl, rfl, rfl, rfl, .inl rfl⟩, rfl, rfl, rfl, .inr rfl⟩
  | _ =>
      exact ⟨⟨rfl, rfl, rfl, rfl, .inl rfl⟩, rfl, Network.custom_closeHandle _,
        Network.client_closeHandle _, .inl (Network.usable?_closeHandle _)⟩

theorem Draining.retains {c : Channel} {outcome : Outcome Octets} (h : Draining x c outcome y) :
    Retains x y := by
  cases h with
  | failedTwice => exact ⟨⟨rfl, rfl, rfl, rfl, .inl rfl⟩, rfl, rfl, rfl, .inr rfl⟩
  | _ =>
      exact ⟨⟨rfl, rfl, rfl, rfl, .inl rfl⟩, rfl, Network.custom_closeHandle _,
        Network.client_closeHandle _, .inl (Network.usable?_closeHandle _)⟩

theorem Connecting.retains {outcome : Outcome Unit} (h : Connecting x outcome y) :
    Retains x y := by
  cases h with
  | notBuilt => exact ⟨⟨rfl, rfl, rfl, rfl, .inl rfl⟩, rfl, rfl, rfl, .inr rfl⟩
  | noHandle => exact ⟨⟨rfl, rfl, rfl, rfl, .inr rfl⟩, rfl, rfl, rfl, .inr rfl⟩
  | lapsed _ _ _ hn =>
      refine ⟨⟨rfl, rfl, rfl, rfl, .inr rfl⟩, rfl, hn.custom, hn.client, .inr ?_⟩
      simp only [Network.usable?, hn.handles]
  | failed _ _ _ hn =>
      exact ⟨⟨rfl, rfl, rfl, rfl, .inr rfl⟩, rfl, (Network.custom_closeHandle _).trans hn.custom,
        (Network.client_closeHandle _).trans hn.client, .inl (Network.usable?_closeHandle _)⟩
  | connected =>
      exact ⟨⟨rfl, rfl, rfl, rfl, .inr rfl⟩, rfl, rfl, Script.client_advance _, .inr rfl⟩

/-- A transition to a configured exchange starts from one, and brings no reply. -/
theorem Transition.of_configured (h : Transition x o r y) (hfresh : x.Fresh)
    (hy : y.phase = .configured) : x.phase = .configured ∧ y.channel = none := by
  have hkept : x.phase = .configured → x.phase = .configured ∧ x.channel = none :=
    fun hx ↦ ⟨hx, hfresh hx⟩
  cases h with
  | connecting hphase h =>
      cases h with
      | failed => cases hy
      | connected => cases hy
      | _ => exact hkept hphase
  | bodyRead hchannel _ _ h =>
      rcases h.phase with hclosed | hsame
      · simp [hy] at hclosed
      · exact absurd (hfresh (hsame ▸ hy)) (by simp [hchannel])
  | errorRead hchannel _ _ h =>
      rcases h.phase with hclosed | hsame
      · simp [hy] at hclosed
      · exact absurd (hfresh (hsame ▸ hy)) (by simp [hchannel])
  | closing h =>
      rcases h.phase with hclosed | ⟨hsame, hchannel⟩
      · simp [hy] at hclosed
      · exact absurd (hfresh (hsame ▸ hy)) hchannel
  | _ => exact hkept hy

theorem Transition.fresh (h : Transition x o r y) (hfresh : x.Fresh) : y.Fresh :=
  fun hy ↦ (h.of_configured hfresh hy).2

theorem Transition.phase_le (h : Transition x o r y) : x.phase.rank ≤ y.phase.rank := by
  have hclosed : y.phase = .closed ∨ y.phase = x.phase → x.phase.rank ≤ y.phase.rank := by
    rintro (hy | hy)
    · rw [hy]
      cases x.phase <;> simp [Phase.rank]
    · exact Nat.le_of_eq (by rw [hy])
  cases h with
  | connecting hphase h =>
      have hrank : x.phase.rank = 0 := by rw [hphase, Phase.rank]
      omega
  | bodyRead _ _ _ h => exact hclosed h.phase
  | errorRead _ _ _ h => exact hclosed h.phase
  | closing h => exact hclosed (h.phase.imp_right And.left)
  | _ => exact Nat.le_refl _

theorem Transition.client (h : Transition x o r y) :
    y.network.script.client = x.network.script.client := by
  cases h with
  | reopened _ _ hopen => exact Network.client_reopen hopen
  | reopeningFailed _ _ hopen => exact Network.client_reopen hopen
  | connecting _ h => exact h.retains.client
  | bodyRead _ _ _ h => exact h.retains.client
  | errorRead _ _ _ h => exact h.retains.client
  | closing h => exact h.retains.client
  | _ => rfl

/-- Requests are sent one at a time, by connects of configured exchanges. -/
theorem Transition.sent (h : Transition x o r y) :
    y.network.sent = x.network.sent ∨
      ∃ request handle, o = .connect ∧ x.phase = .configured ∧ x.Sends request handle ∧
        y.network.sent = x.network.sent ++ [⟨request.authorize, handle.trust⟩] := by
  cases h with
  | reopened _ _ hopen => exact .inl (Network.sent_closeHandle_openHandle hopen)
  | reopeningFailed _ _ hopen => exact .inl (Network.sent_closeHandle_openHandle hopen)
  | connecting hphase h =>
      cases h with
      | lapsed id j hsends hn => exact .inr ⟨_, _, rfl, hphase, hsends, hn.sent⟩
      | failed id j hsends hn =>
          exact .inr ⟨_, _, rfl, hphase, hsends, (Network.sent_closeHandle _).trans hn.sent⟩
      | connected j hsends => exact .inr ⟨_, _, rfl, hphase, hsends, rfl⟩
      | _ => exact .inl rfl
  | bodyRead _ _ _ h => exact .inl h.sent
  | errorRead _ _ _ h => exact .inl h.sent
  | closing h => exact .inl h.sent
  | _ => exact .inl rfl

theorem step_fresh (hfresh : x.Fresh) (o : Operation) : (x.step o).2.Fresh :=
  (step_transition hfresh o).fresh hfresh

theorem connect_connecting {outcome : Outcome Unit} (hfresh : x.Fresh)
    (hphase : x.phase = .configured) (h : x.connect = (outcome, y)) :
    Connecting x outcome y := by
  have hconnect := connectConfigured_connecting (hfresh hphase)
  rw [connect, whileConfigured_of_configured hphase] at h
  rwa [h] at hconnect

theorem Sends.unique {request request' : Request} {handle handle' : Handle}
    (h : x.Sends request handle) (h' : x.Sends request' handle') :
    request = request' ∧ handle = handle' :=
  ⟨Except.ok.inj (h.build.symm.trans h'.build), Option.some.inj (h.usable.symm.trans h'.usable)⟩

/-- A configured exchange sends what it has staged, whatever the answer. -/
theorem connect_sent {request : Request} {handle : Handle} (hfresh : x.Fresh)
    (hphase : x.phase = .configured) (hsends : x.Sends request handle) :
    x.connect.2.network.sent = x.network.sent ++ [⟨request.authorize, handle.trust⟩] := by
  obtain ⟨outcome, y, hy⟩ : ∃ outcome y, x.connect = (outcome, y) := ⟨_, _, rfl⟩
  rw [hy]
  cases connect_connecting hfresh hphase hy with
  | notBuilt _ _ hnone => exact absurd hsends (hnone request handle)
  | noHandle _ _ husable => simp [hsends.usable] at husable
  | lapsed _ _ hsends' hn =>
      obtain ⟨rfl, rfl⟩ := hsends.unique hsends'
      exact hn.sent
  | failed _ _ hsends' hn =>
      obtain ⟨rfl, rfl⟩ := hsends.unique hsends'
      exact (Network.sent_closeHandle _).trans hn.sent
  | connected _ hsends' =>
      obtain ⟨rfl, rfl⟩ := hsends.unique hsends'
      rfl

/-- What every transition keeps holds after every run. -/
theorem run_induction {P : Exchange → Prop}
    (hstep : ∀ {x o r y}, x.Fresh → P x → Transition x o r y → P y)
    (hfresh : x.Fresh) (hx : P x) (os : List Operation) : P (x.run os) := by
  induction os generalizing x with
  | nil => exact hx
  | cons o rest ih =>
      exact ih (step_fresh hfresh o) (hstep hfresh hx (step_transition hfresh o))

theorem run_fresh (hfresh : x.Fresh) (os : List Operation) : (x.run os).Fresh :=
  run_induction (fun hx _ h ↦ h.fresh hx) hfresh hfresh os

theorem run_phase_le (hfresh : x.Fresh) (os : List Operation) :
    x.phase.rank ≤ (x.run os).phase.rank :=
  run_induction (P := fun y ↦ x.phase.rank ≤ y.phase.rank)
    (fun _ hle h ↦ Nat.le_trans hle h.phase_le) hfresh (Nat.le_refl _) os

theorem run_of_closed (hfresh : x.Fresh) (hclosed : x.phase = .closed) (os : List Operation) :
    (x.run os).phase = .closed := by
  have hle := run_phase_le hfresh os
  rw [hclosed] at hle
  cases hy : (x.run os).phase <;> simp [hy, Phase.rank] at hle ⊢

/-- An exchange as it stands when it has just been started. -/
structure Started (p : Proposal) (n : Network) (x : Exchange) : Prop where
  target : targetOf p.target = .ok x.target
  verb : Verb.ofDatum? p.verb = some x.verb
  readTimeout : startTimeout p = .ok x.readTimeout
  opened : n.openHandle none = (.ok (), x.network)
  fields : x.fields = .empty
  body : x.body = []
  tlsContext : x.tlsContext = none
  phase : x.phase = .configured
  channel : x.channel = none
  isDrained : x.isDrained = false

theorem start_started {p : Proposal} {n : Network} {j : Journal} {unredacted : Bool}
    (h : start p n j unredacted = .ok x) : Started p n x := by
  cases htarget : targetOf p.target with
  | error f => simp [start, htarget] at h
  | ok target =>
      cases hverb : Verb.ofDatum? p.verb with
      | none => simp [start, htarget, hverb] at h
      | some verb =>
          cases htimeout : startTimeout p with
          | error f => simp [start, htarget, hverb, htimeout] at h
          | ok seconds =>
              rcases hopen : n.openHandle none with ⟨id | _, m⟩
              · simp [start, htarget, hverb, htimeout, hopen] at h
              · simp only [start, htarget, hverb, htimeout, hopen, Except.ok.injEq] at h
                subst h
                exact ⟨htarget, hverb, htimeout, hopen, rfl, rfl, rfl, rfl, rfl, rfl⟩

/-- A check that finds an exchange started finds the exchange. -/
theorem exists_of_any_start {p : Proposal} {n : Network} {j : Journal} {u : Bool}
    {q : Exchange → Bool} (h : (start p n j u).toOption.any q = true) :
    ∃ x, start p n j u = .ok x ∧ q x = true := by
  cases hstart : start p n j u with
  | error refusal => simp [hstart, Except.toOption] at h
  | ok x => exact ⟨x, rfl, by simpa [hstart, Except.toOption] using h⟩

theorem eq_error_of_failure? {α : Type} {outcome : Outcome α} {id : FailureId}
    (h : failure? outcome = some id) : outcome = .error id := by
  cases outcome with
  | ok a => simp [failure?] at h
  | error id' => rw [Option.some.inj h]

theorem Started.fresh {p : Proposal} {n : Network} (h : Started p n x) : x.Fresh :=
  fun _ ↦ h.channel

theorem Started.sent {p : Proposal} {custom : Bool} {script : Script}
    {openings : List (Option FailureId)} (h : Started p (.start custom script openings) x) :
    x.network.sent = [] := by
  have hsent := Network.sent_openHandle (.start custom script openings) none
  rw [h.opened] at hsent
  exact hsent

theorem Started.client {p : Proposal} {custom : Bool} {script : Script}
    {openings : List (Option FailureId)} (h : Started p (.start custom script openings) x) :
    x.network.script.client = script.client := by
  have hclient := Network.client_openHandle (.start custom script openings) none
  rw [h.opened] at hclient
  exact hclient

theorem Started.run_client {p : Proposal} {custom : Bool} {script : Script}
    {openings : List (Option FailureId)} (h : Started p (.start custom script openings) x)
    (os : List Operation) : (x.run os).network.script.client = script.client :=
  run_induction (P := fun y ↦ y.network.script.client = script.client)
    (fun _ hy ht ↦ ht.client.trans hy) h.fresh h.client os

/-- A message to a hub. -/
def hubMessage : Proposal := ⟨.text "https://hub/messages", .text "POST", none⟩

/-- A peer that accepts every request. -/
def accepting : Script := ⟨.reply ⟨200, [], [], none, none⟩, [], .plain⟩

end Exchange

end SecureExchange
