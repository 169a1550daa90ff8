import SecureExchange.Proofs.Exchange.RequestFields
import SecureExchange.Proofs.Exchange.Runs

/-!
# What is staged

A request is built from what the setters have staged. A body is staged only together with a verb
that allows one, so no request of another verb carries a body.
-/

namespace SecureExchange

open Failure

namespace Exchange

variable {x y : Exchange} {o : Operation} {r : Outcome Yield}

theorem Transition.target (h : Transition x o r y) : y.target = x.target := by
  cases h with
  | connecting _ h => exact h.retains.target
  | bodyRead _ _ _ h => exact h.retains.target
  | errorRead _ _ _ h => exact h.retains.target
  | closing h => exact h.retains.target
  | _ => rfl

theorem run_target (hfresh : x.Fresh) (os : List Operation) : (x.run os).target = x.target :=
  run_induction (P := fun y ↦ y.target = x.target) (fun _ hx h ↦ h.target.trans hx) hfresh rfl os

theorem KeepsStaging.entries (h : KeepsStaging x y) : y.fields.entries = x.fields.entries := by
  rcases h.fields with hsame | hsettled
  · rw [hsame]
  · rw [hsettled, Fields.entries_settled]

/-- What a request that is sent was built from. -/
theorem Sends.staged {request : Request} {handle : Handle} (h : x.Sends request handle) :
    request.target = x.target ∧ request.verb = x.verb ∧ request.body = x.body ∧
      request.readTimeout = if x.readTimeout.isZero then none else some x.readTimeout := by
  obtain ⟨merged, given, host, _, _, _, rfl⟩ := Request.build_eq_ok h.build
  exact ⟨rfl, rfl, rfl, rfl⟩

/-! ### Bodies and verbs -/

/-- A body is staged only together with a verb that allows one. -/
def BodyAllowed (x : Exchange) : Prop := x.body = [] ∨ x.verb.allowsBody = true

theorem KeepsStaging.bodyAllowed (h : KeepsStaging x y) (hx : x.BodyAllowed) :
    y.BodyAllowed := by
  rw [BodyAllowed, h.body, h.verb]
  exact hx

theorem Transition.bodyAllowed (h : Transition x o r y) (hx : x.BodyAllowed) :
    y.BodyAllowed := by
  cases h with
  | verbSet _ _ hbody => exact hbody
  | bodySet body _ hverb => exact .inr hverb
  | connecting _ h => exact h.retains.toKeepsStaging.bodyAllowed hx
  | bodyRead _ _ _ h => exact h.retains.toKeepsStaging.bodyAllowed hx
  | errorRead _ _ _ h => exact h.retains.toKeepsStaging.bodyAllowed hx
  | closing h => exact h.retains.toKeepsStaging.bodyAllowed hx
  | _ => exact hx

theorem Started.bodyAllowed {p : Proposal} {n : Network} (h : Started p n x) :
    x.BodyAllowed := .inl h.body

/-- Whatever was sent carries a body only with a verb that allows one. -/
def SentAllowed (x : Exchange) : Prop :=
  ∀ s ∈ x.network.sent, s.request.body = [] ∨ s.request.verb.allowsBody = true

theorem Transition.sentAllowed (h : Transition x o r y) (hbody : x.BodyAllowed)
    (hx : x.SentAllowed) : y.SentAllowed := by
  intro s hs
  rcases h.sent with hsent | ⟨request, handle, _, _, hsends, hsent⟩
  · exact hx s (hsent ▸ hs)
  · rw [hsent] at hs
    rcases List.mem_append.mp hs with hs | hs
    · exact hx s hs
    · obtain rfl := List.mem_singleton.mp hs
      obtain ⟨_, hverb, hstaged, _⟩ := hsends.staged
      simp only [Request.body_authorize, Request.verb_authorize, hverb, hstaged]
      exact hbody

theorem eq_post_or_put_of_allowsBody {v : Verb} (h : v.allowsBody = true) :
    v = .post ∨ v = .put := by
  cases v <;> simp [Verb.allowsBody] at h ⊢

/-- After every run, a staged body means that the verb is one of the two that allow bodies, and no
request with a body was sent with any other verb. -/
theorem bodies_only_with_post_or_put {p : Proposal} {custom : Bool} {script : Script}
    {openings : List (Option FailureId)} {j : Journal} {unredacted : Bool}
    (hstart : start p (.start custom script openings) j unredacted = .ok x)
    (os : List Operation) :
    ((x.run os).body ≠ [] → (x.run os).verb = .post ∨ (x.run os).verb = .put) ∧
    ∀ s ∈ (x.run os).network.sent, s.request.body ≠ [] →
      s.request.verb = .post ∨ s.request.verb = .put := by
  have hstarted := start_started hstart
  have hall : (x.run os).BodyAllowed ∧ (x.run os).SentAllowed := by
    refine run_induction (P := fun y ↦ y.BodyAllowed ∧ y.SentAllowed) ?_ hstarted.fresh ?_ os
    · rintro y o r z _ ⟨hbody, hsent⟩ h
      exact ⟨h.bodyAllowed hbody, h.sentAllowed hbody hsent⟩
    · refine ⟨hstarted.bodyAllowed, fun s hs ↦ ?_⟩
      rw [hstarted.sent] at hs
      simp at hs
  obtain ⟨hbody, hsent⟩ := hall
  refine ⟨fun hstaged ↦ ?_, fun s hs hcarried ↦ ?_⟩
  · exact eq_post_or_put_of_allowsBody (hbody.resolve_left hstaged)
  · exact eq_post_or_put_of_allowsBody ((hsent s hs).resolve_left hcarried)

/-- A body is staged, and the verb can no longer be changed to one that allows none. -/
def guardedBody : List Operation := [.writeBody [0x31], .setVerb (.text "GET"), .connect]

theorem bodies_only_with_post_or_put_of_guarded :
    ∃ x s, start hubMessage (.start true accepting []) ⟨[], []⟩ false = .ok x ∧
      (x.run guardedBody).body = [0x31] ∧
      ((x.run guardedBody).verb = .post ∨ (x.run guardedBody).verb = .put) ∧
      s ∈ (x.run guardedBody).network.sent ∧ s.request.body = [0x31] ∧
      (s.request.verb = .post ∨ s.request.verb = .put) := by
  obtain ⟨x, hstart, hx⟩ := exists_of_any_start (p := hubMessage)
    (n := .start true accepting []) (j := ⟨[], []⟩) (u := false)
    (q := fun x ↦ decide ((x.run guardedBody).body = [0x31]) &&
      (x.run guardedBody).network.sent.any fun s ↦ decide (s.request.body = [0x31]))
    (by decide +kernel)
  simp only [Bool.and_eq_true, decide_eq_true_eq, List.any_eq_true] at hx
  obtain ⟨hbody, s, hs, hcarried⟩ := hx
  obtain ⟨hverb, hsent⟩ := bodies_only_with_post_or_put hstart guardedBody
  have hstaged : (x.run guardedBody).body ≠ [] := by simp [hbody]
  have hnonempty : s.request.body ≠ [] := by simp [hcarried]
  exact ⟨x, s, hstart, hbody, hverb hstaged, hs, hcarried, hsent s hs hnonempty⟩

end Exchange

end SecureExchange
