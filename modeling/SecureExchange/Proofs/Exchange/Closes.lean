import SecureExchange.Proofs.Exchange.Listing
import SecureExchange.Proofs.Exchange.Release

/-!
# How often handles and streams are closed

At any time all handles but the current one are closed, and a handle is closed exactly once
(`Network.Balanced`). The stream of a reply is released when the reply is refused, and again never;
but a reply is lost with its stream if the fields of the request cannot be listed once the reply
has arrived (`Answer.releases`).
-/

namespace SecureExchange

open Failure

/-- A handle that is still open was never closed, any other one was closed once. -/
def Handle.Sound (h : Handle) : Prop := h.closes = if h.isOpen then 0 else 1

theorem Handle.sound_opened (t : Trust) : (Handle.opened t).Sound := rfl

theorem Handle.Sound.close {h : Handle} (hs : h.Sound) : h.close.Sound := by
  cases ho : h.isOpen with
  | false =>
      have hsame : h.close = h := by simp [Handle.close, ho]
      rwa [hsame]
  | true =>
      have hzero : h.closes = 0 := by rw [hs, ho, if_pos rfl]
      simp [Handle.Sound, Handle.close, ho, hzero]

theorem Handle.Sound.closes_of_closed {h : Handle} (hs : h.Sound) (hc : h.isOpen = false) :
    h.closes = 1 := by
  rw [hs, hc]
  rfl

namespace Network

variable {n m : Network}

/-- Every handle is accounted for, and at most the current one is open. -/
structure Balanced (n : Network) : Prop where
  sound : ∀ h ∈ n.handles, h.Sound
  closed : ∀ h ∈ n.handles.tail, h.isOpen = false

/-- No handle is open. -/
def AllClosed (n : Network) : Prop := ∀ h ∈ n.handles, h.isOpen = false

theorem closeHandle_eq (n : Network) : ∃ hs, n.closeHandle = { n with handles := hs } := by
  unfold closeHandle
  split
  · exact ⟨n.handles, rfl⟩
  · exact ⟨_, rfl⟩

theorem streamCloses_closeHandle (n : Network) :
    n.closeHandle.streamCloses = n.streamCloses := by
  obtain ⟨hs, hclose⟩ := n.closeHandle_eq
  rw [hclose]

theorem openHandle_eq (n : Network) (context : Option String) :
    ∃ hs openings deposits, (n.openHandle context).2
      = { n with handles := hs, openings := openings, deposits := deposits } := by
  unfold openHandle
  split
  · exact ⟨n.handles, n.openings, n.deposits, rfl⟩
  · dsimp only
    split <;> exact ⟨_, _, _, rfl⟩

/-- Closing and opening handles leaves the peer alone. -/
theorem reopen_eq {context : String} {outcome : Except FailureId Unit}
    (h : n.closeHandle.openHandle (some context) = (outcome, m)) :
    m.sent = n.sent ∧ m.script = n.script ∧ m.streamCloses = n.streamCloses := by
  obtain ⟨hs, hclose⟩ := n.closeHandle_eq
  obtain ⟨hs', openings, _, hopen⟩ := n.closeHandle.openHandle_eq (some context)
  rw [h, hclose] at hopen
  obtain rfl : m = _ := hopen
  exact ⟨rfl, rfl, rfl⟩

theorem Balanced.of_handles (hn : n.Balanced) (h : m.handles = n.handles) : m.Balanced where
  sound := by rw [h]; exact hn.sound
  closed := by rw [h]; exact hn.closed

theorem Balanced.closeHandle (hn : n.Balanced) : n.closeHandle.Balanced := by
  cases hhandles : n.handles with
  | nil =>
      have hsame : n.closeHandle = n := by simp [Network.closeHandle, hhandles]
      rwa [hsame]
  | cons h rest =>
      have hclose := handles_closeHandle_of_cons hhandles
      have hrest : ∀ h' ∈ rest, h'.isOpen = false := by
        intro h' hmem
        exact hn.closed h' (by simpa [hhandles] using hmem)
      refine ⟨?_, by simpa [hclose] using hrest⟩
      rw [hclose]
      intro h' hmem
      rcases List.mem_cons.mp hmem with rfl | hmem
      · exact (hn.sound h (by simp [hhandles])).close
      · exact hn.sound h' (by simp [hhandles, hmem])

theorem Balanced.allClosed (hn : n.Balanced) : n.closeHandle.AllClosed := by
  cases hhandles : n.handles with
  | nil => simp [AllClosed, Network.closeHandle, hhandles]
  | cons h rest =>
      rw [AllClosed, handles_closeHandle_of_cons hhandles]
      intro h' hmem
      rcases List.mem_cons.mp hmem with rfl | hmem
      · exact Handle.isOpen_close h
      · exact hn.closed h' (by simpa [hhandles] using hmem)

theorem Balanced.closes (hn : n.Balanced) {h : Handle} (hmem : h ∈ n.closeHandle.handles) :
    h.isOpen = false ∧ h.closes = 1 :=
  ⟨hn.allClosed h hmem, (hn.closeHandle.sound h hmem).closes_of_closed (hn.allClosed h hmem)⟩

/-- A handle is opened only when all others are closed. -/
theorem Balanced.openHandle (hn : n.Balanced) (hclosed : n.custom = false → n.AllClosed)
    (context : Option String) : (n.openHandle context).2.Balanced := by
  unfold Network.openHandle
  by_cases hcustom : n.custom = true
  · rw [if_pos hcustom]
    exact hn
  · have hopened : ∀ t openings, Balanced
        { n with openings := openings, handles := .opened t :: n.handles, deposits := [] } := by
      intro t openings
      refine ⟨?_, hclosed (by simpa using hcustom)⟩
      intro h hmem
      rcases List.mem_cons.mp hmem with rfl | hmem
      · exact Handle.sound_opened t
      · exact hn.sound h hmem
    rw [if_neg hcustom]
    dsimp only
    split
    · exact hn.of_handles rfl
    · exact hopened _ _
    · exact hopened _ n.openings

theorem Balanced.reopen {context : String} {outcome : Except FailureId Unit} (hn : n.Balanced)
    (h : n.closeHandle.openHandle (some context) = (outcome, m)) : m.Balanced := by
  have hopen := hn.closeHandle.openHandle (fun _ ↦ hn.allClosed) (some context)
  rwa [h] at hopen

theorem balanced_of_start {custom : Bool} {script : Script} {openings : List (Option FailureId)}
    {outcome : Except FailureId Unit}
    (h : (start custom script openings).openHandle none = (outcome, m)) : m.Balanced := by
  have hstart : (start custom script openings).Balanced := by
    cases custom <;> refine ⟨?_, ?_⟩ <;> simp [start, Handle.sound_opened]
  have hopen := hstart.openHandle (by rintro rfl; simp [AllClosed, start]) none
  rwa [h] at hopen

theorem Delivered.balanced {r : Request} {h : Handle} (hm : n.Delivered r h m)
    (hn : n.Balanced) : m.Balanced :=
  hn.of_handles hm.handles

end Network

/-! ### Streams -/

/-- How often the stream of an answer is closed by whoever refuses it, or reads it. -/
def Answer.releases (sent : Request) : Answer → Nat
  | .refusal _ => 0
  | .reply _ => if sent.isListable then 1 else 0

namespace Exchange

variable {x y : Exchange} {r : Request} {h : Handle} {n : Network}

theorem receiveFor_of_listable {sent : Request} (hlists : sent.isListable = true) (r : Reply) :
    x.receiveFor sent r = { x with network := x.network.keep sent.target r }.receive sent r := by
  unfold Request.isListable at hlists
  unfold receiveFor
  split at hlists
  · next hlisted => rw [hlisted]
  · simp at hlists

theorem receiveFor_of_unlistable {sent : Request} (hlists : sent.isListable = false) (r : Reply) :
    OnlyFails x (x.receiveFor sent r) := by
  unfold Request.isListable at hlists
  unfold receiveFor
  split at hlists
  · simp at hlists
  · next hfault =>
      rw [hfault]
      exact x.raiseFault_onlyFails _

/-- What handing over a request does to streams. -/
structure Releases (n : Network) (r : Request) {α : Type} (outcome : Outcome α) (y : Exchange) :
    Prop where
  refused : ∀ id, outcome = .error id →
    y.network.streamCloses = n.streamCloses + n.script.next.releases r.authorize
  taken : ∀ a, outcome = .ok a →
    y.network.streamCloses = n.streamCloses ∧ r.authorize.isListable = true

theorem transmit_releases (husable : x.network.usable? = some h) :
    Releases x.network r (x.transmit r).1 (x.transmit r).2 := by
  cases hnext : x.network.script.next with
  | refusal id =>
      have htransmit : x.transmit r = (.error id, { x with
          network := x.network.deliver r.authorize h.trust }) := by
        simp only [transmit, husable, hnext]
      rw [htransmit]
      refine ⟨fun _ _ ↦ ?_, by simp⟩
      rw [hnext]
      rfl
  | reply reply =>
      let z : Exchange := { x with network := x.network.deliver r.authorize h.trust }
      have htransmit : x.transmit r = z.receiveFor r.authorize reply := by
        simp only [transmit, husable, hnext, z]
      rw [htransmit]
      cases hlists : r.authorize.isListable with
      | false =>
          obtain ⟨id, j, hfails⟩ := receiveFor_of_unlistable (x := z) hlists reply
          rw [hfails]
          refine ⟨fun _ _ ↦ ?_, by simp⟩
          rw [hnext, Answer.releases, hlists]
          rfl
      | true =>
          rw [receiveFor_of_listable hlists]
          rcases receive_eq { z with network := z.network.keep r.authorize.target reply }
            r.authorize reply with htaken | ⟨id, j, hrefused⟩
          · rw [htaken]
            exact ⟨by simp, fun _ _ ↦ ⟨rfl, hlists⟩⟩
          · rw [hrefused]
            refine ⟨fun _ _ ↦ ?_, by simp⟩
            rw [hnext, Answer.releases, hlists]
            rfl

theorem finishConnect_releases {shown : String} {outcome : Outcome Reply} {z : Exchange}
    (hchannel : z.channel = none) (h : Releases n r outcome z) :
    Releases n r (finishConnect shown (outcome, z)).1 (finishConnect shown (outcome, z)).2 := by
  cases outcome with
  | ok reply => exact ⟨by simp [finishConnect], fun _ _ ↦ h.taken reply rfl⟩
  | error id =>
      have hrefused := h.refused id rfl
      cases hfailure : z.isHttpFailure id with
      | false =>
          rw [finishConnect_of_otherFailure hfailure]
          exact ⟨fun _ _ ↦ hrefused, by simp⟩
      | true =>
          obtain ⟨j, _, hfinish⟩ := finishConnect_of_httpFailure hchannel hfailure shown
          rw [hfinish]
          exact ⟨fun _ _ ↦ (Network.streamCloses_closeHandle _).trans hrefused, by simp⟩

theorem Transmitting.channel {outcome : Outcome Reply} (h : Transmitting x r outcome y) :
    y.channel = x.channel := by
  cases h <;> rfl

/-- A connect that hands over a request releases the stream of a reply that it refuses, unless the
fields of the request cannot be listed. -/
theorem connect_releases (hphase : x.phase = .configured) (hchannel : x.channel = none)
    (hsends : x.Sends r h) : Releases x.network r x.connect.1 x.connect.2 := by
  obtain ⟨shown, hshown⟩ := hsends.shown
  have hconnect : x.connect = finishConnect shown ((x.logConnect shown).transmit r) := by
    rw [connect, whileConfigured_of_configured hphase]
    simp only [connectConfigured, hsends.build, hshown]
  have hunchanged := (transmit_transmitting (x.logConnect shown) r).channel
  rw [hconnect]
  refine finishConnect_releases (hunchanged.trans hchannel) ?_
  exact transmit_releases (x := x.logConnect shown) hsends.usable

end Exchange

end SecureExchange
