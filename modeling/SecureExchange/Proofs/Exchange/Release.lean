import SecureExchange.Proofs.Exchange.HandleTrust
import SecureExchange.Proofs.Exchange.Reading

/-!
# What closing releases

While an exchange is connected its current handle is open, and once it is closed no stream is open
any more (`Held`). Closing releases the handle unless the stream of the reply fails to close, and
the first reading releases it unless the content fails to be read and then the stream to close.
Where that happens the exchange stays connected with its handle open until the next closing.
-/

namespace SecureExchange

open Failure

namespace Network

theorem handles_ne_nil_closeHandle {n : Network} (h : n.handles ≠ []) :
    n.closeHandle.handles ≠ [] := by
  cases hn : n.handles with
  | nil => exact absurd hn h
  | cons handle rest =>
      rw [handles_closeHandle_of_cons hn]
      exact List.cons_ne_nil _ _

theorem handles_ne_nil_openHandle {n m : Network} {context : Option String}
    {outcome : Except FailureId Unit} (hn : n.handles ≠ [])
    (h : n.openHandle context = (outcome, m)) : m.handles ≠ [] := by
  obtain rfl : (n.openHandle context).2 = m := by rw [h]
  unfold openHandle
  split
  · exact hn
  · dsimp only
    split
    · exact hn
    · exact List.cons_ne_nil _ _
    · exact List.cons_ne_nil _ _

theorem handles_ne_nil_of_start {custom : Bool} {script : Script}
    {openings : List (Option FailureId)} {m : Network}
    (h : (start custom script openings).openHandle none = (.ok (), m)) : m.handles ≠ [] := by
  cases custom with
  | true => exact handles_ne_nil_openHandle (List.cons_ne_nil _ _) h
  | false =>
      have husable := usable?_openHandle (n := start false script openings) rfl h
      intro hm
      simp [usable?, hm] at husable

theorem current_closeHandle {n : Network} (h : n.handles ≠ []) :
    ∃ handle rest, n.closeHandle.handles = handle :: rest ∧ handle.isOpen = false := by
  cases hn : n.handles with
  | nil => exact absurd hn h
  | cons handle rest =>
      exact ⟨handle.close, rest, handles_closeHandle_of_cons hn, Handle.isOpen_close handle⟩

end Network

/-- The stream is open. It fails to be read, or its content cannot be decoded, and then it fails to
close. -/
structure Channel.FailsTwice (k : Client) (c : Channel) : Prop where
  isOpen : c.isClosed = false
  read : k.interrupts c.reply = true
  close : c.reply.closeFailure.isSome = true

namespace Exchange

variable {x y : Exchange} {o : Operation} {r : Outcome Yield} {c : Channel}

/-- The exchange is closed, and so is its current handle. -/
structure Released (x : Exchange) : Prop where
  phase : x.phase = .closed
  handle : ∃ h rest, x.network.handles = h :: rest ∧ h.isOpen = false

/-- The exchange is still connected, and its current handle is open. -/
structure Lingers (x : Exchange) : Prop where
  phase : x.phase = .connected
  handle : ∃ h, x.network.usable? = some h

/-- The stream of the reply is open and fails to close. -/
def CloseFails (x : Exchange) : Prop :=
  ∃ c, x.channel = some c ∧ c.isClosed = false ∧ c.reply.closeFailure.isSome = true

/-- There is a current handle. It is open as long as the exchange is connected, and no stream is
open after that. -/
structure Held (x : Exchange) : Prop where
  handle : x.network.handles ≠ []
  connected : x.phase = .connected → ∃ h, x.network.usable? = some h
  closed : x.phase = .closed → x.StreamReleased

theorem released_closeHandle (h : x.network.handles ≠ []) :
    Released { x with network := x.network.closeHandle, phase := .closed } :=
  ⟨rfl, Network.current_closeHandle h⟩

/-! ### One operation -/

theorem Closing.held {outcome : Outcome Unit} (h : Closing x outcome y) (hx : x.Held) :
    y.Held := by
  cases h with
  | handleClosed hstream =>
      exact ⟨Network.handles_ne_nil_closeHandle hx.handle, by simp, fun _ ↦ hstream⟩
  | bothClosed =>
      exact ⟨Network.handles_ne_nil_closeHandle (n := x.network.countClose) hx.handle, by simp,
        fun _ ↦ released_of_closed rfl rfl⟩
  | streamFailed =>
      exact ⟨hx.handle, hx.connected, fun _ ↦ released_of_closed rfl rfl⟩

theorem Closing.streamReleased {outcome : Outcome Unit} (h : Closing x outcome y) :
    y.StreamReleased := by
  cases h with
  | handleClosed hstream => exact hstream
  | _ => exact released_of_closed rfl rfl

theorem Draining.streamReleased {outcome : Outcome Octets} (hc : x.channel = some c)
    (h : Draining x c outcome y) : y.StreamReleased := by
  cases h with
  | closedBefore id j hclosed => exact released_of_closed hc hclosed
  | _ => exact released_of_closed rfl rfl

theorem Draining.held {outcome : Outcome Octets} (hc : x.channel = some c)
    (h : Draining x c outcome y) (hx : x.Held) : y.Held := by
  have hreleased := h.streamReleased hc
  cases h with
  | closedBefore =>
      exact ⟨Network.handles_ne_nil_closeHandle hx.handle, by simp, fun _ ↦ hreleased⟩
  | failedTwice => exact ⟨hx.handle, hx.connected, fun _ ↦ hreleased⟩
  | _ =>
      exact ⟨Network.handles_ne_nil_closeHandle (n := x.network.countClose) hx.handle, by simp,
        fun _ ↦ hreleased⟩

/-- What holds of the handles is enough as long as an exchange is configured. -/
theorem held_of_configured (hphase : x.phase = .configured) (h : x.network.handles ≠ []) :
    x.Held where
  handle := h
  connected := by simp [hphase]
  closed := by simp [hphase]

theorem Connecting.held {outcome : Outcome Unit} (h : Connecting x outcome y)
    (hphase : x.phase = .configured) (hc : x.channel = none) (hx : x.Held) : y.Held := by
  cases h with
  | notBuilt => exact held_of_configured hphase hx.handle
  | noHandle => exact held_of_configured hphase hx.handle
  | lapsed _ _ _ hn => exact held_of_configured hphase (hn.handles ▸ hx.handle)
  | failed _ _ _ hn =>
      refine ⟨Network.handles_ne_nil_closeHandle (hn.handles ▸ hx.handle), by simp, fun _ ↦ ?_⟩
      intro c hc'
      exact absurd (hc.symm.trans hc') (by simp)
  | connected _ hsends => exact ⟨hx.handle, fun _ ↦ ⟨_, hsends.usable⟩, by simp⟩

theorem Transition.held (h : Transition x o r y) (hfresh : x.Fresh) (hx : x.Held) : y.Held := by
  cases h with
  | reopened hphase _ hopen =>
      refine held_of_configured hphase ?_
      exact Network.handles_ne_nil_openHandle (Network.handles_ne_nil_closeHandle hx.handle) hopen
  | reopeningFailed hphase _ hopen =>
      refine held_of_configured hphase ?_
      exact Network.handles_ne_nil_openHandle (Network.handles_ne_nil_closeHandle hx.handle) hopen
  | connecting hphase h => exact h.held hphase (hfresh hphase) hx
  | bodyRead hc _ _ h => exact h.held hc hx
  | errorRead hc _ _ h => exact h.held hc hx
  | closing h => exact h.held hx
  | _ => exact ⟨hx.handle, hx.connected, hx.closed⟩

theorem Started.held {p : Proposal} {custom : Bool} {script : Script}
    {openings : List (Option FailureId)} (h : Started p (.start custom script openings) x) :
    x.Held :=
  held_of_configured h.phase (Network.handles_ne_nil_of_start h.opened)

/-- A stream is open only as long as the exchange is connected. -/
theorem Held.connected_of_open (hx : x.Held) (hfresh : x.Fresh) (hc : x.channel = some c)
    (ho : c.isClosed = false) : x.phase = .connected := by
  cases hphase : x.phase with
  | configured => simp [hfresh hphase] at hc
  | connected => rfl
  | closed => simp [hx.closed hphase c hc] at ho

/-! ### What is released -/

/-- What a cleanup leaves that misses the handle if `fails` holds, and only then. The next closing
makes up for it. -/
structure Cleanup (fails : Prop) (y : Exchange) : Prop where
  released : ¬ fails → y.Released
  lingers : fails → y.Lingers
  next : ∀ later, (y.closeDuring later).1 = .ok () ∧ (y.closeDuring later).2.Released

theorem Held.next (hy : y.Held) (hstream : y.StreamReleased) (later : Option FailureId) :
    (y.closeDuring later).1 = .ok () ∧ (y.closeDuring later).2.Released := by
  rw [closeDuring_of_released hstream]
  exact ⟨rfl, released_closeHandle hy.handle⟩

theorem closeDuring_cleanup (hx : x.Held) (hfresh : x.Fresh) (handling : Option FailureId) :
    Cleanup x.CloseFails (x.closeDuring handling).2 := by
  have hclosing := closeDuring_closing x handling
  have hnext := (hclosing.held hx).next hclosing.streamReleased
  generalize x.closeDuring handling = z at hclosing hnext
  obtain ⟨outcome, z⟩ := z
  cases hclosing with
  | handleClosed hstream =>
      refine ⟨fun _ ↦ released_closeHandle hx.handle, ?_, hnext⟩
      rintro ⟨c, hc, ho, _⟩
      simp [hstream c hc] at ho
  | bothClosed hc ho hf =>
      refine ⟨fun _ ↦ ⟨rfl, Network.current_closeHandle hx.handle⟩, ?_, hnext⟩
      rintro ⟨c', hc', _, hf'⟩
      obtain rfl := Option.some.inj (hc'.symm.trans hc)
      simp [hf] at hf'
  | streamFailed j hc ho hf =>
      have hphase := hx.connected_of_open hfresh hc ho
      refine ⟨fun h ↦ absurd ⟨_, hc, ho, by simp [hf]⟩ h, fun _ ↦ ?_, hnext⟩
      exact ⟨hphase, hx.connected hphase⟩

theorem step_reader_cleanup (hx : x.Held) (hfresh : x.Fresh) (hc : x.channel = some c)
    (hd : x.isDrained = false) :
    Cleanup (c.FailsTwice x.network.script.client) (x.step c.reply.reader).2 := by
  have hdraining := drain_draining hc hd
  have hnext := (hdraining.held hc hx).next (hdraining.streamReleased hc)
  rw [step_reader hc, yielding]
  generalize x.drain c = z at hdraining hnext
  obtain ⟨outcome, z⟩ := z
  cases hdraining with
  | read _ hcontent hread =>
      refine ⟨fun _ ↦ ⟨rfl, Network.current_closeHandle hx.handle⟩, fun h ↦ ?_, hnext⟩
      simpa [interrupts_eq_false_iff.mpr ⟨⟨_, hcontent⟩, hread⟩] using h.read
  | closedBefore _ _ hclosed =>
      refine ⟨fun _ ↦ ⟨rfl, Network.current_closeHandle hx.handle⟩, fun h ↦ ?_, hnext⟩
      simpa [hclosed] using h.isOpen
  | failedOnce _ _ _ hone =>
      refine ⟨fun _ ↦ ⟨rfl, Network.current_closeHandle hx.handle⟩, fun h ↦ ?_, hnext⟩
      simp [h.read, h.close] at hone
  | failedTwice _ _ ho hread hclose =>
      have hphase := hx.connected_of_open hfresh hc ho
      exact ⟨fun h ↦ absurd ⟨ho, hread, hclose⟩ h, fun _ ↦ ⟨hphase, hx.connected hphase⟩, hnext⟩

/-- After any run, closing (also while a failure is being handled) leaves the exchange closed with
its handle, unless the stream of the reply is open and fails to close; so does the first reading,
unless the stream fails to be read or decoded and then to close. In these cases the exchange stays
connected with its handle open, until the next closing succeeds. -/
theorem released_unless_stream_fails_to_close {p : Proposal} {custom : Bool} {script : Script}
    {openings : List (Option FailureId)} {j : Journal} {unredacted : Bool}
    (hstart : start p (.start custom script openings) j unredacted = .ok x)
    (os : List Operation) :
    (∀ handling, Cleanup (x.run os).CloseFails ((x.run os).closeDuring handling).2) ∧
    ∀ c, (x.run os).channel = some c → (x.run os).isDrained = false →
      Cleanup (c.FailsTwice script.client) ((x.run os).step c.reply.reader).2 := by
  have hstarted := start_started hstart
  have hfresh := run_fresh hstarted.fresh os
  have hheld : (x.run os).Held :=
    run_induction (fun hy hx h ↦ h.held hy hx) hstarted.fresh hstarted.held os
  rw [← hstarted.run_client os]
  exact ⟨closeDuring_cleanup hheld hfresh, fun c hc hd ↦ step_reader_cleanup hheld hfresh hc hd⟩

/-- A peer whose stream breaks off and then fails to close. -/
def breaking : Script := ⟨.reply ⟨200, [], [[0x6f, 0x6b]], some 0, some 1⟩, [], .plain⟩

def breakingJournal : Journal where
  failures := [⟨.fault (.http .read "cut"), none, none⟩,
    ⟨.fault ⟨.system .any, "close failed"⟩, none, none⟩]
  events := []

theorem released_unless_stream_fails_to_close_of_breaking :
    ∃ x, start hubMessage (.start true breaking []) breakingJournal false = .ok x ∧
      (x.run [.connect]).step .readBody = (.error 1, (x.run [.connect, .readBody])) ∧
      (x.run [.connect, .readBody]).Lingers ∧
      ((x.run [.connect, .readBody]).closeDuring (some 1)).2.Released := by
  obtain ⟨x, hstart, hx⟩ := exists_of_any_start (p := hubMessage)
    (n := .start true breaking []) (j := breakingJournal) (u := false)
    (q := fun x ↦ !(x.run [.connect]).isDrained &&
      decide (failure? ((x.run [.connect]).step .readBody).1 = some 1) &&
      (x.run [.connect]).channel.any fun (c : Channel) ↦
        !c.isClosed && !c.reply.isError && c.reply.readFailure.isSome &&
          c.reply.closeFailure.isSome)
    (by decide +kernel)
  simp only [Bool.and_eq_true, Bool.not_eq_true', Option.any_eq_true, decide_eq_true_eq] at hx
  obtain ⟨⟨hdrained, houtcome⟩, c, hc, ⟨⟨hopen, hstatus⟩, hread⟩, hclose⟩ := hx
  obtain ⟨_, hreading⟩ := released_unless_stream_fails_to_close hstart [.connect]
  have hcleanup := hreading c hc hdrained
  have hreader : c.reply.reader = .readBody := by rw [Reply.reader, hstatus]; rfl
  rw [hreader] at hcleanup
  refine ⟨x, hstart, Prod.ext (eq_error_of_failure? houtcome) rfl, ?_, ?_⟩
  · exact hcleanup.lingers ⟨hopen, by simp [Client.interrupts, hread], hclose⟩
  · exact (hcleanup.next (some 1)).2

/-- A peer whose stream only fails to close. -/
def clinging : Script := ⟨.reply ⟨200, [], [[0x6f, 0x6b]], none, some 1⟩, [], .plain⟩

/-- A stream that fails to close leaves the exchange connected and its handle open. -/
theorem closing_leaves_handle_open :
    ∃ x handle, start hubMessage (.start true clinging []) breakingJournal false = .ok x ∧
      failure? (x.run [.connect]).close.1 = some 1 ∧
      (x.run [.connect, .close]).phase = .connected ∧
      (x.run [.connect, .close]).network.usable? = some handle := by
  obtain ⟨x, hstart, hx⟩ := exists_of_any_start (p := hubMessage)
    (n := .start true clinging []) (j := breakingJournal) (u := false)
    (q := fun x ↦ decide (failure? (x.run [.connect]).close.1 = some 1) &&
      decide ((x.run [.connect, .close]).phase = .connected) &&
      (x.run [.connect, .close]).network.usable?.isSome)
    (by decide +kernel)
  simp only [Bool.and_eq_true, decide_eq_true_eq] at hx
  obtain ⟨⟨hfailure, hphase⟩, husable⟩ := hx
  obtain ⟨handle, hhandle⟩ := Option.isSome_iff_exists.mp husable
  exact ⟨x, handle, hstart, hfailure, hphase, hhandle⟩

end Exchange

end SecureExchange
