import SecureExchange.Proofs.Exchange.SingleRequest
import SecureExchange.Proofs.Exchange.Staging

/-!
# Where cookies come from

A client that was just opened has been asked to keep nothing. While an exchange is configured, the
only replies that it has seen are those of connects that lapsed, so that it has cookies for a
request only after a lapse on a reply that sets some (`cookies_of_lapse`).
-/

namespace SecureExchange

namespace Network

variable {n m : Network}

theorem deposits_openHandle (n : Network) (context : Option String) :
    (n.openHandle context).2.deposits = n.deposits ∨ (n.openHandle context).2.deposits = [] := by
  unfold openHandle
  split
  · exact .inl rfl
  · dsimp only
    split
    · exact .inl rfl
    · exact .inr rfl
    · exact .inr rfl

@[simp] theorem deposits_closeHandle (n : Network) : n.closeHandle.deposits = n.deposits := by
  unfold closeHandle
  split <;> rfl

theorem deposits_reopen {context : Option String} {outcome : Except Failure.FailureId Unit}
    (h : n.closeHandle.openHandle context = (outcome, m)) :
    m.deposits = n.deposits ∨ m.deposits = [] := by
  have hm : m = (n.closeHandle.openHandle context).2 := by rw [h]
  rw [hm, ← n.deposits_closeHandle]
  exact deposits_openHandle _ context

theorem Delivered.deposits {request : Request} {handle : Handle}
    (h : n.Delivered request handle m) :
    m.deposits = n.deposits ∨ ∃ reply, n.script.next = .reply reply ∧
      m.deposits = n.deposits ++ reply.deposits request.target := by
  cases h with
  | unread => exact .inl rfl
  | released hnext => exact .inr ⟨_, hnext, rfl⟩

end Network

namespace Exchange

variable {x y : Exchange} {o : Operation} {r : Outcome Yield}

/-- A transition that leaves the exchange configured asks the client to keep something only by a
lapse on a reply. -/
theorem Transition.deposits (h : Transition x o r y) (hfresh : x.Fresh)
    (hy : y.phase = .configured) :
    y.network.deposits = x.network.deposits ∨ y.network.deposits = [] ∨
      ∃ reply, o = .connect ∧ x.lapsed r y = true ∧ x.network.script.next = .reply reply ∧
        y.network.deposits = x.network.deposits ++ reply.deposits x.target := by
  have hphase := (h.of_configured hfresh hy).1
  cases h with
  | reopened _ _ hopen => exact (Network.deposits_reopen hopen).imp_right .inl
  | reopeningFailed _ _ hopen => exact (Network.deposits_reopen hopen).imp_right .inl
  | connecting _ h =>
      cases h with
      | lapsed id j hsends hn hfault =>
          rcases hn.deposits with hsame | ⟨reply, hnext, hkept⟩
          · exact .inl hsame
          · refine .inr (.inr ⟨reply, rfl, lapsed_error_iff.mpr ⟨?_, hfault⟩, hnext, ?_⟩)
            · rw [hn.sent, List.length_append, List.length_singleton]
              exact Nat.lt_succ_self _
            · rw [hkept, hsends.staged.1]
      | failed => cases hy
      | connected => cases hy
      | _ => exact .inl rfl
  | bodyRead hchannel => exact absurd (hfresh hphase) (by simp [hchannel])
  | errorRead hchannel => exact absurd (hfresh hphase) (by simp [hchannel])
  | closing h =>
      cases h with
      | handleClosed => cases hy
      | bothClosed => cases hy
      | streamFailed _ hchannel => exact absurd (hfresh hphase) (by simp [hchannel])
  | _ => exact .inl rfl

/-- The connect after the operations lapsed, on a reply that asked for cookies to be kept. -/
def LapsesKeeping (x : Exchange) (os : List Operation) : Prop :=
  (x.run os).lapsed ((x.run os).step .connect).1 ((x.run os).step .connect).2 = true ∧
    ∃ reply, (x.run os).network.script.next = .reply reply ∧ reply.setsCookies = true

theorem deposits_of_lapse (hfresh : x.Fresh) (hx : x.network.deposits = []) (os : List Operation)
    (hphase : (x.run os).phase = .configured) :
    (x.run os).network.deposits = [] ∨
      ∃ before after, os = before ++ .connect :: after ∧ x.LapsesKeeping before := by
  induction os generalizing x with
  | nil => exact .inl hx
  | cons o rest ih =>
      have hy : (x.step o).2.phase = .configured := by
        have hle := run_phase_le (step_fresh hfresh o) rest
        rw [← run_cons, hphase] at hle
        cases hstep : (x.step o).2.phase <;> simp [hstep, Phase.rank] at hle ⊢
      have hlater : (x.step o).2.network.deposits = [] → (x.run (o :: rest)).network.deposits = [] ∨
          ∃ before after, o :: rest = before ++ .connect :: after ∧ x.LapsesKeeping before := by
        intro hnil
        rcases ih (step_fresh hfresh o) hnil hphase with hend | ⟨before, after, hrest, hlapse⟩
        · exact .inl hend
        · exact .inr ⟨o :: before, after, by rw [hrest]; rfl, hlapse⟩
      rcases (step_transition hfresh o).deposits hfresh hy with
        hsame | hnil | ⟨reply, rfl, hlapsed, hnext, hkept⟩
      · exact hlater (hsame.trans hx)
      · exact hlater hnil
      · cases hsets : reply.setsCookies with
        | false =>
            refine hlater ?_
            simp [hkept, hx, Reply.deposits, hsets]
        | true => exact .inr ⟨[], rest, rfl, hlapsed, reply, hnext, hsets⟩

theorem Started.deposits {p : Proposal} {custom : Bool} {script : Script}
    {openings : List (Option Failure.FailureId)} (h : Started p (.start custom script openings) x) :
    x.network.deposits = [] := by
  have hopened := Network.deposits_openHandle (.start custom script openings) none
  rw [h.opened] at hopened
  exact hopened.elim id id

/-- The client has nothing for a request of a configured exchange, unless a connect has lapsed on a
reply that asked for cookies to be kept. -/
theorem cookies_of_lapse (hfresh : x.Fresh) (hx : x.network.deposits = []) (os : List Operation)
    (hphase : (x.run os).phase = .configured) (t : Address.Target) :
    (x.run os).network.cookies t = .empty ∨
      ∃ before after, os = before ++ .connect :: after ∧ x.LapsesKeeping before :=
  (deposits_of_lapse hfresh hx os hphase).imp_left fun hnil ↦ Network.cookies_of_nil hnil t

end Exchange

end SecureExchange
