import SecureExchange.Proofs.Exchange.Closes
import SecureExchange.Proofs.Exchange.Frame

/-!
# Handles and streams of a run

A tally counts for each reply of a run how often its stream was closed. No stream is closed twice,
and no handle is; what is left open when an exchange is closed are the streams of the replies that
were lost because the fields of their requests could not be listed (`Tallied`, `Tidy`). A run that
names all fields by ASCII texts loses no reply.
-/

namespace SecureExchange

open Failure Text

def Answer.isReply : Answer → Bool
  | .refusal _ => false
  | .reply _ => true

/-- A field that an operation sets is named by an ASCII text. -/
def Operation.AsciiNamed : Operation → Prop
  | .setField name _ => allAscii name.toList = true
  | _ => True

namespace Exchange

variable {x y : Exchange} {o : Operation} {r : Outcome Yield}

/-! ### Handles -/

/-- Every handle is accounted for, and none is open once the exchange is closed. -/
structure Tidy (x : Exchange) : Prop where
  balanced : x.network.Balanced
  closed : x.phase = .closed → x.network.AllClosed

theorem Tidy.of_handles (hx : x.Tidy) (hhandles : y.network.handles = x.network.handles)
    (hphase : y.phase = .closed → x.phase = .closed) : y.Tidy where
  balanced := hx.balanced.of_handles hhandles
  closed := fun hy h hmem ↦ hx.closed (hphase hy) h (hhandles ▸ hmem)

theorem tidy_of_closeHandle {n : Network} (hn : n.Balanced) (hy : y.network = n.closeHandle) :
    y.Tidy where
  balanced := hy ▸ hn.closeHandle
  closed := fun _ ↦ hy ▸ hn.allClosed

theorem Closing.tidy {outcome : Outcome Unit} (h : Closing x outcome y) (hx : x.Tidy) :
    y.Tidy := by
  cases h with
  | handleClosed => exact tidy_of_closeHandle hx.balanced rfl
  | bothClosed =>
      exact tidy_of_closeHandle (n := x.network.countClose) (hx.balanced.of_handles rfl) rfl
  | streamFailed => exact hx.of_handles rfl id

theorem Draining.tidy {c : Channel} {outcome : Outcome Octets} (h : Draining x c outcome y)
    (hx : x.Tidy) : y.Tidy := by
  cases h with
  | closedBefore => exact tidy_of_closeHandle hx.balanced rfl
  | failedTwice => exact hx.of_handles rfl id
  | _ => exact tidy_of_closeHandle (n := x.network.countClose) (hx.balanced.of_handles rfl) rfl

theorem Transition.tidy (h : Transition x o r y) (hx : x.Tidy) : y.Tidy := by
  cases h with
  | reopened hphase _ hopen =>
      exact ⟨hx.balanced.reopen hopen, fun hclosed ↦ by simp [hphase] at hclosed⟩
  | reopeningFailed hphase _ hopen =>
      exact ⟨hx.balanced.reopen hopen, fun hclosed ↦ by simp [hphase] at hclosed⟩
  | connecting _ h =>
      cases h with
      | lapsed _ _ _ hn => exact hx.of_handles hn.handles id
      | failed _ _ _ hn => exact tidy_of_closeHandle (hn.balanced hx.balanced) rfl
      | connected => exact hx.of_handles rfl (by simp)
      | _ => exact hx.of_handles rfl id
  | bodyRead _ _ _ h => exact h.tidy hx
  | errorRead _ _ _ h => exact h.tidy hx
  | closing h => exact h.tidy hx
  | _ => exact hx.of_handles rfl id

theorem Started.tidy {p : Proposal} {custom : Bool} {script : Script}
    {openings : List (Option FailureId)} (h : Started p (.start custom script openings) x) :
    x.Tidy :=
  ⟨Network.balanced_of_start h.opened, fun hclosed ↦ by simp [h.phase] at hclosed⟩

/-! ### Streams -/

/-- The streams that are still to be closed. -/
def pending (x : Exchange) : Nat :=
  match x.channel with
  | some c => if c.isClosed then 0 else 1
  | none => 0

/-- A step from `x` to `y` brings a reply: it sends a request, and the next answer is a reply. -/
def brings (x y : Exchange) : Bool :=
  x.network.script.next.isReply &&
    decide (x.network.sent.length < y.network.sent.length)

/-- The fields of the request cannot be listed when the reply to it arrives. -/
def loses (x y : Exchange) : Bool :=
  x.brings y && y.network.sent.getLast?.any fun s ↦ !s.request.isListable

/-- Streams that a step closes count for the reply that it brings, or else for the latest one. -/
def tallyStep (x y : Exchange) (counts : List Nat) : List Nat :=
  let closed := y.network.streamCloses - x.network.streamCloses
  if x.brings y then closed :: counts
  else match counts with
    | [] => []
    | n :: older => (n + closed) :: older

/-- How often the stream of each reply was closed, the latest reply first. -/
def tally (x : Exchange) (counts : List Nat) : List Operation → List Nat
  | [] => counts
  | o :: rest => (x.step o).2.tally (x.tallyStep (x.step o).2 counts) rest

/-- How many replies of a run are lost. -/
def countLost (x : Exchange) : List Operation → Nat
  | [] => 0
  | o :: rest => (x.loses (x.step o).2).toNat + (x.step o).2.countLost rest

/-- Every stream was closed at most once, and none but those of the replies of the tally. A stream
is open if its reply was lost, and as long as it is still to be closed. -/
structure Tallied (x : Exchange) (lost : Nat) (counts : List Nat) : Prop where
  once : ∀ n ∈ counts, n ≤ 1
  total : counts.count 1 = x.network.streamCloses
  left : counts.count 0 = lost + x.pending
  latest : x.pending = 1 → ∃ older, counts = 0 :: older

theorem pending_of_none (h : x.channel = none) : x.pending = 0 := by
  simp [pending, h]

theorem pending_of_some {c : Channel} (h : x.channel = some c) :
    x.pending = if c.isClosed then 0 else 1 := by
  simp [pending, h]

theorem pending_of_released (h : x.StreamReleased) : x.pending = 0 := by
  cases hc : x.channel with
  | none => exact pending_of_none hc
  | some c => rw [pending_of_some hc, h c hc, if_pos rfl]

theorem brings_of_sent (h : y.network.sent = x.network.sent) : x.brings y = false := by
  simp [brings, h]

theorem brings_of_delivered {s : Sent} (h : y.network.sent = x.network.sent ++ [s]) :
    x.brings y = x.network.script.next.isReply := by
  simp [brings, h]

theorem pending_le_one (x : Exchange) : x.pending ≤ 1 := by
  unfold pending
  split
  · split <;> omega
  · exact Nat.zero_le 1

/-- A step that brings no reply may close the stream that is still to be closed. -/
structure Quiet (x y : Exchange) : Prop where
  brings : x.brings y = false
  closes : y.network.streamCloses + y.pending = x.network.streamCloses + x.pending
  grows : x.network.streamCloses ≤ y.network.streamCloses

theorem quiet_of_eq (hsent : y.network.sent = x.network.sent)
    (hcloses : y.network.streamCloses = x.network.streamCloses)
    (hchannel : y.channel = x.channel) : Quiet x y where
  brings := brings_of_sent hsent
  closes := by rw [hcloses, pending, pending, hchannel]
  grows := Nat.le_of_eq hcloses.symm

theorem quiet_of_closed {c : Channel} (hc : x.channel = some c) (ho : c.isClosed = false)
    (hsent : y.network.sent = x.network.sent)
    (hcloses : y.network.streamCloses = x.network.streamCloses + 1) (hpending : y.pending = 0) :
    Quiet x y where
  brings := brings_of_sent hsent
  closes := by rw [hcloses, hpending, pending_of_some hc, ho]; rfl
  grows := by omega

theorem Closing.quiet {outcome : Outcome Unit} (h : Closing x outcome y) : Quiet x y := by
  have hsent := h.sent
  cases h with
  | handleClosed => exact quiet_of_eq hsent (Network.streamCloses_closeHandle _) rfl
  | bothClosed hc ho =>
      exact quiet_of_closed hc ho hsent (Network.streamCloses_closeHandle _) rfl
  | streamFailed _ hc ho => exact quiet_of_closed hc ho hsent rfl rfl

theorem Draining.quiet {c : Channel} {outcome : Outcome Octets} (hc : x.channel = some c)
    (h : Draining x c outcome y) : Quiet x y := by
  have hsent := h.sent
  cases h with
  | read ho => exact quiet_of_closed hc ho hsent (Network.streamCloses_closeHandle _) rfl
  | closedBefore => exact quiet_of_eq hsent (Network.streamCloses_closeHandle _) rfl
  | failedOnce _ _ ho => exact quiet_of_closed hc ho hsent (Network.streamCloses_closeHandle _) rfl
  | failedTwice _ _ ho => exact quiet_of_closed hc ho hsent rfl rfl

/-- A step that brings a reply: its stream is closed at once, or still to be closed, or the reply is
lost. -/
structure Receives (x y : Exchange) : Prop where
  brings : x.brings y = true
  pending : x.pending = 0
  closes : y.network.streamCloses + y.pending + (x.loses y).toNat = x.network.streamCloses + 1
  grows : x.network.streamCloses ≤ y.network.streamCloses

theorem quiet_or_receives_of_releases {s : Sent} (hx : x.channel = none) (hy : y.channel = none)
    (hsent : y.network.sent = x.network.sent ++ [s])
    (hcloses : y.network.streamCloses
      = x.network.streamCloses + x.network.script.next.releases s.request) :
    Quiet x y ∨ Receives x y := by
  have hbrings := brings_of_delivered hsent
  have hgrows : x.network.streamCloses ≤ y.network.streamCloses := by omega
  cases hnext : x.network.script.next with
  | refusal =>
      rw [hnext] at hbrings hcloses
      exact .inl ⟨hbrings, by rw [hcloses, pending_of_none hx, pending_of_none hy]; rfl, hgrows⟩
  | reply =>
      rw [hnext] at hbrings hcloses
      refine .inr ⟨hbrings, pending_of_none hx, ?_, hgrows⟩
      rw [hcloses, pending_of_none hy, loses, hbrings, hsent, List.getLast?_concat]
      cases hlists : s.request.isListable <;> simp [Answer.releases, Answer.isReply, hlists]

theorem receives_of_taken {s : Sent} {reply : Reply} (hx : x.channel = none)
    (hy : y.channel = some ⟨reply, false⟩) (hsent : y.network.sent = x.network.sent ++ [s])
    (hnext : x.network.script.next = .reply reply) (hlists : s.request.isListable = true)
    (hcloses : y.network.streamCloses = x.network.streamCloses) : Receives x y where
  brings := by
    rw [brings_of_delivered hsent, hnext]
    rfl
  pending := pending_of_none hx
  closes := by
    rw [hcloses, pending_of_some hy, loses, hsent, List.getLast?_concat]
    simp [hlists]
  grows := Nat.le_of_eq hcloses.symm

theorem connect_quiet_or_receives {outcome : Outcome Unit} (hfresh : x.Fresh)
    (hphase : x.phase = .configured) (h : x.connect = (outcome, y)) :
    Quiet x y ∨ Receives x y := by
  have hc := hfresh hphase
  have hreleases : ∀ {request handle}, x.Sends request handle →
      Releases x.network request outcome y := by
    intro request handle hsends
    have hconnect := connect_releases hphase hc hsends
    rwa [h] at hconnect
  cases connect_connecting hfresh hphase h with
  | notBuilt => exact .inl (quiet_of_eq rfl rfl rfl)
  | noHandle => exact .inl (quiet_of_eq rfl rfl rfl)
  | lapsed id _ hsends hn =>
      exact quiet_or_receives_of_releases hc hc hn.sent ((hreleases hsends).refused id rfl)
  | failed id _ hsends hn =>
      have hsent := (Network.sent_closeHandle _).trans hn.sent
      exact quiet_or_receives_of_releases hc hc hsent ((hreleases hsends).refused id rfl)
  | connected _ hsends hnext =>
      obtain ⟨hcloses, hlists⟩ := (hreleases hsends).taken () rfl
      exact .inr (receives_of_taken (s := ⟨_, _⟩) hc rfl rfl hnext hlists hcloses)

theorem step_quiet_or_receives (hfresh : x.Fresh) (o : Operation) :
    Quiet x (x.step o).2 ∨ Receives x (x.step o).2 := by
  have h := step_transition hfresh o
  generalize hr : (x.step o).1 = r at h
  generalize hy : (x.step o).2 = y at h
  cases h with
  | reopened _ _ hopen =>
      obtain ⟨hsent, _, hcloses⟩ := Network.reopen_eq hopen
      exact .inl (quiet_of_eq hsent hcloses rfl)
  | reopeningFailed _ _ hopen =>
      obtain ⟨hsent, _, hcloses⟩ := Network.reopen_eq hopen
      exact .inl (quiet_of_eq hsent hcloses rfl)
  | connecting hphase => exact connect_quiet_or_receives hfresh hphase (Prod.ext rfl hy)
  | bodyRead hc _ _ h => exact .inl (h.quiet hc)
  | errorRead hc _ _ h => exact .inl (h.quiet hc)
  | closing h => exact .inl h.quiet
  | _ => exact .inl (quiet_of_eq rfl rfl rfl)

/-! ### The tally -/

variable {lost : Nat} {counts : List Nat}

theorem Quiet.tallied (h : Quiet x y) (hx : x.Tallied lost counts) :
    y.Tallied lost (x.tallyStep y counts) := by
  have hcloses := h.closes
  have hgrows := h.grows
  have htotal := hx.total
  have hleft := hx.left
  have hle := x.pending_le_one
  by_cases hsame : x.pending = y.pending
  · have hnone : y.network.streamCloses - x.network.streamCloses = 0 := by omega
    have hstep : x.tallyStep y counts = counts := by
      cases counts <;> simp [tallyStep, h.brings, hnone]
    rw [hstep]
    exact ⟨hx.once, by omega, by omega, fun hy ↦ hx.latest (by omega)⟩
  · -- The stream of the latest reply is closed, for the first time.
    have hle' := y.pending_le_one
    obtain ⟨older, rfl⟩ := hx.latest (by omega)
    have hone : y.network.streamCloses - x.network.streamCloses = 1 := by omega
    have hstep : x.tallyStep y (0 :: older) = 1 :: older := by
      simp [tallyStep, h.brings, hone]
    rw [hstep]
    rw [List.count_cons_of_ne (by decide)] at htotal
    rw [List.count_cons_self] at hleft
    have honce := (List.forall_mem_cons.mp hx.once).2
    refine ⟨List.forall_mem_cons.mpr ⟨Nat.le_refl 1, honce⟩, ?_, ?_, ?_⟩
    · rw [List.count_cons_self]
      omega
    · rw [List.count_cons_of_ne (by decide)]
      omega
    · intro hy
      omega

theorem Receives.tallied (h : Receives x y) (hx : x.Tallied lost counts) :
    y.Tallied (lost + (x.loses y).toNat) (x.tallyStep y counts) := by
  have hpending := h.pending
  have hcloses := h.closes
  have hgrows := h.grows
  have htotal := hx.total
  have hleft := hx.left
  let closed := y.network.streamCloses - x.network.streamCloses
  have hstep : x.tallyStep y counts = closed :: counts := by simp [tallyStep, h.brings, closed]
  have hclosed : closed + y.pending + (x.loses y).toNat = 1 := by omega
  rw [hstep]
  rcases (by omega : closed = 0 ∨ closed = 1) with hnone | hone
  · rw [hnone]
    refine ⟨List.forall_mem_cons.mpr ⟨Nat.zero_le 1, hx.once⟩, ?_, ?_, fun _ ↦ ⟨counts, rfl⟩⟩
    · rw [List.count_cons_of_ne (by decide)]
      omega
    · rw [List.count_cons_self]
      omega
  · rw [hone]
    refine ⟨List.forall_mem_cons.mpr ⟨Nat.le_refl 1, hx.once⟩, ?_, ?_, fun hy ↦ by omega⟩
    · rw [List.count_cons_self]
      omega
    · rw [List.count_cons_of_ne (by decide)]
      omega

theorem tallied_step (hfresh : x.Fresh) (hx : x.Tallied lost counts) (o : Operation) :
    (x.step o).2.Tallied (lost + (x.loses (x.step o).2).toNat)
      (x.tallyStep (x.step o).2 counts) := by
  rcases step_quiet_or_receives hfresh o with h | h
  · have hloses : x.loses (x.step o).2 = false := by rw [loses, h.brings, Bool.false_and]
    rw [hloses, Bool.toNat_false, Nat.add_zero]
    exact h.tallied hx
  · exact h.tallied hx

theorem tallied_run (hfresh : x.Fresh) (hx : x.Tallied lost counts) (os : List Operation) :
    (x.run os).Tallied (lost + x.countLost os) (x.tally counts os) := by
  induction os generalizing x lost counts with
  | nil => exact hx
  | cons o rest ih =>
      rw [countLost, ← Nat.add_assoc]
      exact ih (step_fresh hfresh o) (tallied_step hfresh hx o)

theorem Started.tallied {p : Proposal} {custom : Bool} {script : Script}
    {openings : List (Option FailureId)} (h : Started p (.start custom script openings) x) :
    x.Tallied 0 [] := by
  obtain ⟨_, _, _, hopen⟩ := (Network.start custom script openings).openHandle_eq none
  rw [h.opened] at hopen
  have hcloses : x.network.streamCloses = 0 := by rw [show x.network = _ from hopen]; rfl
  have hpending := pending_of_none h.channel
  exact ⟨by simp, by simp [hcloses], by simp [hpending], by simp [hpending]⟩

/-! ### Lost replies -/

theorem Transition.asciiNamed (h : Transition x o r y) (ho : o.AsciiNamed)
    (hx : ∀ e ∈ x.fields.entries, e.AsciiNamed) : ∀ e ∈ y.fields.entries, e.AsciiNamed := by
  rcases h.staging with hkeeps | ⟨_, _, hsets⟩
  · rw [hkeeps.entries]
    exact hx
  · cases hsets with
    | field hset => exact Fields.asciiNamed_of_set hset ho hx
    | _ => exact hx

/-- A request whose fields have ASCII names can be listed, so that its reply is not lost. -/
theorem Transition.loses_of_asciiNamed (h : Transition x o r y)
    (hx : ∀ e ∈ x.fields.entries, e.AsciiNamed) : x.loses y = false := by
  rcases h.sent with hsent | ⟨request, handle, _, _, hsends, hsent⟩
  · rw [loses, brings_of_sent hsent, Bool.false_and]
  · have hlists := Request.isListable_of_build hsends.build hx
    simp [loses, hsent, hlists]

theorem countLost_of_asciiNamed (hfresh : x.Fresh) (hx : ∀ e ∈ x.fields.entries, e.AsciiNamed)
    {os : List Operation} (hos : ∀ o ∈ os, o.AsciiNamed) : x.countLost os = 0 := by
  induction os generalizing x with
  | nil => rfl
  | cons o rest ih =>
      have h := step_transition hfresh o
      have hnext := h.asciiNamed (hos o List.mem_cons_self) hx
      have hrest := ih (h.fresh hfresh) hnext fun o ho ↦ hos o (List.mem_cons_of_mem _ ho)
      rw [countLost, h.loses_of_asciiNamed hx, hrest]
      rfl

/-! ### Every run -/

/-- At any time every handle has been closed at most once, and all but the latest one have been
closed. The stream of every reply has been closed at most once. When the exchange is closed no
handle is open, and no stream either but those of lost replies. Only a name beyond ASCII loses a
reply. -/
theorem handles_and_streams_closed_unless_lost {p : Proposal} {custom : Bool} {script : Script}
    {openings : List (Option FailureId)} {j : Journal} {unredacted : Bool}
    (hstart : start p (.start custom script openings) j unredacted = .ok x)
    (os : List Operation) :
    (∀ h ∈ (x.run os).network.handles, h.closes ≤ 1) ∧
    (∀ h ∈ (x.run os).network.handles.tail, h.isOpen = false ∧ h.closes = 1) ∧
    (x.run os).Tallied (x.countLost os) (x.tally [] os) ∧
    ((x.run os).phase = .closed →
      (∀ h ∈ (x.run os).network.handles, h.isOpen = false ∧ h.closes = 1) ∧
      (x.run os).StreamReleased ∧ (x.tally [] os).count 0 = x.countLost os) ∧
    ((∀ o ∈ os, o.AsciiNamed) → x.countLost os = 0) := by
  have hstarted := start_started hstart
  have htidy : (x.run os).Tidy :=
    run_induction (fun _ hx h ↦ h.tidy hx) hstarted.fresh hstarted.tidy os
  have hheld : (x.run os).Held :=
    run_induction (fun hy hx h ↦ h.held hy hx) hstarted.fresh hstarted.held os
  have htallied := tallied_run hstarted.fresh hstarted.tallied os
  rw [Nat.zero_add] at htallied
  have hsound := htidy.balanced.sound
  refine ⟨?_, ?_, htallied, ?_, ?_⟩
  · intro h hmem
    rw [hsound h hmem]
    split <;> omega
  · intro h hmem
    have hopen := htidy.balanced.closed h hmem
    exact ⟨hopen, (hsound h (List.mem_of_mem_tail hmem)).closes_of_closed hopen⟩
  · intro hclosed
    have hreleased := hheld.closed hclosed
    refine ⟨?_, hreleased, ?_⟩
    · intro h hmem
      have hopen := htidy.closed hclosed h hmem
      exact ⟨hopen, (hsound h hmem).closes_of_closed hopen⟩
    · rw [htallied.left, pending_of_released hreleased, Nat.add_zero]
  · intro hos
    refine countLost_of_asciiNamed hstarted.fresh ?_ hos
    rw [hstarted.fields]
    exact fun e he ↦ absurd he List.not_mem_nil

/-- A stream that cannot be read and then fails to close is closed once, and so is the handle. -/
theorem handles_and_streams_closed_unless_lost_of_breaking :
    ∃ x, start hubMessage (.start true breaking []) breakingJournal false = .ok x ∧
      (x.run [.connect, .readBody, .close]).phase = .closed ∧
      (∀ h ∈ (x.run [.connect, .readBody, .close]).network.handles,
        h.isOpen = false ∧ h.closes = 1) ∧
      x.tally [] [.connect, .readBody, .close] = [1] ∧
      (x.run [.connect, .readBody, .close]).network.streamCloses = 1 ∧
      x.countLost [.connect, .readBody, .close] = 0 := by
  obtain ⟨x, hstart, hx⟩ := exists_of_any_start (p := hubMessage)
    (n := .start true breaking []) (j := breakingJournal) (u := false)
    (q := fun x ↦ decide ((x.run [.connect, .readBody, .close]).phase = .closed) &&
      decide (x.tally [] [.connect, .readBody, .close] = [1]))
    (by decide +kernel)
  simp only [Bool.and_eq_true, decide_eq_true_eq] at hx
  obtain ⟨hphase, htally⟩ := hx
  obtain ⟨_, _, htallied, hclosed, hascii⟩ :=
    handles_and_streams_closed_unless_lost hstart [.connect, .readBody, .close]
  have htotal := htallied.total
  rw [htally] at htotal
  refine ⟨x, hstart, hphase, (hclosed hphase).1, htally, htotal.symm, hascii ?_⟩
  simp [Operation.AsciiNamed]

/-- A name that starts with the sign for degrees Kelvin, whose small form is an ASCII letter. -/
def kelvinRun : List Operation := [.setField "\u212Aey" "1", .connect, .close]

/-- A reply has arrived and the exchange is closed, but the stream of the reply is not. -/
theorem lost_reply_leaves_stream_open :
    ∃ x, start hubMessage (.start true accepting []) ⟨[], []⟩ false = .ok x ∧
      (x.run kelvinRun).phase = .closed ∧ (x.run kelvinRun).network.sent.length = 1 ∧
      (x.run kelvinRun).network.streamCloses = 0 ∧ x.tally [] kelvinRun = [0] := by
  obtain ⟨x, hstart, hx⟩ := exists_of_any_start (p := hubMessage)
    (n := .start true accepting []) (j := ⟨[], []⟩) (u := false)
    (q := fun x ↦ decide ((x.run kelvinRun).phase = .closed) &&
      decide ((x.run kelvinRun).network.sent.length = 1) &&
      decide ((x.run kelvinRun).network.streamCloses = 0) &&
      decide (x.tally [] kelvinRun = [0]))
    (by decide +kernel)
  simp only [Bool.and_eq_true, decide_eq_true_eq] at hx
  obtain ⟨⟨⟨hphase, hsent⟩, hcloses⟩, htally⟩ := hx
  exact ⟨x, hstart, hphase, hsent, hcloses, htally⟩

end Exchange

end SecureExchange
