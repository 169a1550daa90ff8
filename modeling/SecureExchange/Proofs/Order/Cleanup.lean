import SecureExchange.Proofs.Exchange.Closes
import SecureExchange.Proofs.Exchange.Keeping
import SecureExchange.Proofs.Order.Sending

/-!
# What orders leave behind

However an order ends, every handle that was opened for it has been closed exactly once, and no
stream is left open (`CleansUp`). The stream of a reply is closed exactly once too, unless the
fields of the request cannot be listed when the reply arrives: then the reply is lost, and its
stream with it. Requests whose field names are ASCII texts never lose a reply.
-/

namespace SecureExchange

open Failure Text

/-- All names of fields are ASCII texts. -/
def Order.AsciiNamed (o : Order) : Prop := ∀ p ∈ o.fields, allAscii p.1.toList = true

namespace Network

variable {o : Order} {script : Script} {n m : Network}

/-- Nothing was sent so far, and nothing is kept. -/
structure Idle (script : Script) (n : Network) : Prop where
  balanced : n.Balanced
  script : n.script = script
  sent : n.sent = []
  streamCloses : n.streamCloses = 0
  deposits : n.deposits = []

/-- At most one request was sent, and the stream of its answer was closed as often as that takes. -/
structure Accounted (o : Order) (script : Script) (n : Network) : Prop where
  balanced : n.Balanced
  streams : n.sent = [] ∧ n.streamCloses = 0 ∨
    ∃ s, n.sent = [s] ∧ n.streamCloses = script.next.releases s.request ∧
      (o.AsciiNamed → s.request.isListable = true)

theorem Idle.accounted (h : n.Idle script) (o : Order) : n.Accounted o script :=
  ⟨h.balanced, .inl ⟨h.sent, h.streamCloses⟩⟩

theorem Accounted.closeHandle (h : n.Accounted o script) :
    n.closeHandle.Accounted o script := by
  obtain ⟨hs, hclose⟩ := n.closeHandle_eq
  refine ⟨h.balanced.closeHandle, ?_⟩
  rw [hclose]
  exact h.streams

theorem Idle.reopen {context : String} {outcome : Except FailureId Unit} (h : n.Idle script)
    (hopen : n.closeHandle.openHandle (some context) = (outcome, m)) : m.Idle script := by
  obtain ⟨hsent, hscript, hcloses⟩ := reopen_eq hopen
  refine ⟨h.balanced.reopen hopen, hscript.trans h.script, hsent.trans h.sent,
    hcloses.trans h.streamCloses, ?_⟩
  exact (deposits_reopen hopen).elim (fun hsame ↦ hsame.trans h.deposits) id

theorem idle_of_start {custom : Bool} {openings : List (Option FailureId)}
    {outcome : Except FailureId Unit}
    (h : (start custom script openings).openHandle none = (outcome, m)) : m.Idle script := by
  have hkept := deposits_openHandle (start custom script openings) none
  obtain ⟨hs, openings', deposits, hopen⟩ := (start custom script openings).openHandle_eq none
  rw [h] at hopen hkept
  obtain rfl : m = _ := hopen
  exact ⟨balanced_of_start h, rfl, rfl, rfl, hkept.elim id id⟩

end Network

namespace Exchange

variable {x y z : Exchange} {o : Order} {p : Proposal} {n : Network} {script : Script}

theorem Preparing.idle {outcome : Outcome Unit} (h : Preparing x o outcome y)
    (hx : x.network.Idle script) : y.network.Idle script := by
  cases h with
  | reopened _ _ _ hopen => exact hx.reopen hopen
  | reopeningFailed _ _ _ _ hopen => exact hx.reopen hopen
  | _ => exact hx

/-- What an order with ASCII names sends can be listed. -/
theorem Preparing.listable {r : Request} {handle : Handle} (h : Preparing x o (.ok ()) y)
    (hsends : y.Sends r handle) (hascii : o.AsciiNamed) : r.authorize.isListable = true := by
  have hentries : y.fields.entries = written o.fields := by
    cases h with
    | staged hfields => exact hfields.entries
    | reopened hfields => exact hfields.entries
  refine Request.isListable_of_build hsends.build fun f hf ↦ ?_
  rw [hentries] at hf
  obtain ⟨w, hw, rfl⟩ := mem_written hf
  exact Field.asciiNamed_ofText (hascii w hw) w.2

/-- A prepared exchange with nothing sent so far, and what it is going to send. -/
structure Ready (o : Order) (script : Script) (x : Exchange) : Prop extends Prepared x where
  idle : x.network.Idle script
  listable : ∀ r handle, x.Sends r handle → o.AsciiNamed → r.authorize.isListable = true

theorem Preparing.ready (h : Preparing x o (.ok ()) y) (hx : Started p n x)
    (hidle : x.network.Idle script) : y.Ready o script :=
  ⟨h.prepared hx, h.idle hidle, fun _ _ ↦ h.listable⟩

theorem accounted_of_failed_connect {id : FailureId} (hx : x.Ready o script)
    (h : x.connect = (.error id, y)) : y.network.Accounted o script := by
  have hreleases : ∀ {r handle}, x.Sends r handle →
      y.network.streamCloses = script.next.releases r.authorize := by
    intro r handle hsends
    have hconnect := connect_releases hx.phase hx.channel hsends
    rw [h] at hconnect
    rw [hconnect.refused id rfl, hx.idle.streamCloses, hx.idle.script, Nat.zero_add]
  have hsent : ∀ {r handle} {m : Network}, x.network.Delivered r handle m →
      m.sent = [⟨r.authorize, handle.trust⟩] := by
    intro r handle m hm
    rw [hm.sent, hx.idle.sent, List.nil_append]
  cases connect_connecting hx.fresh hx.phase h with
  | notBuilt => exact hx.idle.accounted o
  | noHandle => exact hx.idle.accounted o
  | @lapsed r handle _ _ _ hsends hn =>
      refine ⟨hn.balanced hx.idle.balanced, .inr ⟨⟨r.authorize, handle.trust⟩, hsent hn, ?_, ?_⟩⟩
      · exact hreleases hsends
      · exact hx.listable r handle hsends
  | @failed r handle _ _ _ hsends hn =>
      refine ⟨(hn.balanced hx.idle.balanced).closeHandle,
        .inr ⟨⟨r.authorize, handle.trust⟩, ?_, ?_, ?_⟩⟩
      · exact (Network.sent_closeHandle _).trans (hsent hn)
      · exact hreleases hsends
      · exact hx.listable r handle hsends

/-- A reply that was taken in has its stream closed by the reading, however that ends. -/
theorem accounted_of_connect (hx : x.Ready o script) (h : x.connect = (.ok (), y)) :
    y.network.countClose.Accounted o script := by
  cases connect_connecting hx.fresh hx.phase h with
  | @connected r handle reply _ hsends hnext =>
      have hreleases := connect_releases hx.phase hx.channel hsends
      rw [h] at hreleases
      obtain ⟨_, hlists⟩ := hreleases.taken () rfl
      refine ⟨hx.idle.balanced.of_handles rfl,
        .inr ⟨⟨r.authorize, handle.trust⟩, ?_, ?_, fun _ ↦ hlists⟩⟩
      · change x.network.sent ++ [_] = [_]
        rw [hx.idle.sent, List.nil_append]
      · change x.network.streamCloses + 1 = _
        rw [hx.idle.streamCloses, ← hx.idle.script, hnext, Answer.releases, hlists, if_pos rfl]

theorem Draining.network {c : Channel} {outcome : Outcome Octets} (h : Draining x c outcome y)
    (hc : c.isClosed = false) :
    y.network = x.network.countClose ∨ y.network = x.network.countClose.closeHandle := by
  cases h with
  | closedBefore _ _ hclosed => simp [hc] at hclosed
  | failedTwice => exact .inl rfl
  | _ => exact .inr rfl

theorem Performing.accounted {outcome : Outcome Response} (h : Performing x outcome z)
    (hx : x.Ready o script) : z.network.Accounted o script := by
  cases h with
  | notConnected h => exact accounted_of_failed_connect hx h
  | answered hconnect hchannel hdrained h =>
      have hdrain := drain_draining hchannel hdrained
      rw [h] at hdrain
      have haccounted := accounted_of_connect hx hconnect
      rcases hdrain.network rfl with hz | hz
      · rw [hz]
        exact haccounted
      · rw [hz]
        exact haccounted.closeHandle

theorem Fulfilling.accounted {outcome : Outcome Response} (h : Fulfilling x o outcome z)
    (hx : Started p n x) (hidle : x.network.Idle script) : z.network.Accounted o script := by
  have hperformed : ∀ {y z outcome}, x.prepare o = (.ok (), y) → y.perform = (outcome, z) →
      z.network.Accounted o script := by
    intro y z outcome hprepare hperform
    have hready := (prepare_preparing hx hprepare).ready hx hidle
    exact (perform_performing hready.toPrepared hperform).accounted hready
  cases h with
  | notPrepared hprepare => exact ((prepare_preparing hx hprepare).idle hidle).accounted o
  | performed hprepare hperform => exact hperformed hprepare hperform
  | classified hprepare hperform =>
      have haccounted := hperformed hprepare hperform
      exact haccounted

/-- What an order leaves of handles and streams. -/
structure CleansUp (o : Order) (script : Script) (y : Exchange) : Prop where
  phase : y.phase = .closed
  handles : ∀ h ∈ y.network.handles, h.isOpen = false ∧ h.closes = 1
  stream : y.StreamReleased
  streams : y.network.sent = [] ∧ y.network.streamCloses = 0 ∨
    ∃ s, y.network.sent = [s] ∧ y.network.streamCloses = script.next.releases s.request ∧
      (o.AsciiNamed → s.request.isListable = true)

/-- Once an exchange has been started for it, an order closes every handle exactly once, and leaves
no stream open. If a reply arrived its stream was closed exactly once, unless the fields of the
request could not be listed then, which takes a name beyond ASCII; the stream of such a reply is
never closed. -/
theorem orders_clean_up_unless_fields_unlistable {custom : Bool}
    {openings : List (Option FailureId)} {j : Journal} {unredacted : Bool}
    (hstart : start o.proposal (.start custom script openings) j unredacted = .ok x) :
    ∃ outcome y, o.send (.start custom script openings) j unredacted = .ok (outcome, y) ∧
      CleansUp o script y := by
  have hx := start_started hstart
  have hfulfilling := fulfil_fulfilling x o
  have hstream := hfulfilling.streamReleased hx
  have haccounted := hfulfilling.accounted hx (Network.idle_of_start hx.opened)
  obtain ⟨j', hended⟩ := settle_eq_ended hstream o.address (x.fulfil o).1
  refine ⟨_, _, send_of_start hstart, ?_⟩
  change CleansUp o script (settle o.address ((x.fulfil o).1, (x.fulfil o).2)).2
  rw [hended]
  exact ⟨rfl, fun h hmem ↦ haccounted.balanced.closes hmem, hstream, haccounted.closeHandle.streams⟩

/-- A stream that breaks off and then fails to close is closed once all the same. -/
theorem orders_clean_up_unless_fields_unlistable_of_breaking :
    ∃ x id y, start hubOrder.proposal (.start true breaking []) breakingJournal false = .ok x ∧
      hubOrder.send (.start true breaking []) breakingJournal false = .ok (.error id, y) ∧
      (∀ h ∈ y.network.handles, h.isOpen = false ∧ h.closes = 1) ∧
      y.network.streamCloses = 1 := by
  obtain ⟨x, id, y, hstart, hsend, hsent⟩ := exists_of_failed_send (o := hubOrder)
    (n := .start true breaking []) (j := breakingJournal) (u := false)
    (q := fun _ y ↦ !y.network.sent.isEmpty) (by decide +kernel)
  obtain ⟨_, _, hsend', hclean⟩ := orders_clean_up_unless_fields_unlistable hstart
  obtain ⟨rfl, rfl⟩ := Prod.mk.inj (Except.ok.inj (hsend.symm.trans hsend'))
  refine ⟨x, id, y, hstart, hsend, hclean.handles, ?_⟩
  rcases hclean.streams with ⟨hnone, _⟩ | ⟨s, _, hcloses, hlists⟩
  · simp [hnone] at hsent
  · have hascii : hubOrder.AsciiNamed := fun p hp ↦ absurd hp List.not_mem_nil
    rw [hcloses, breaking, Answer.releases, hlists hascii]
    rfl

/-- A name that starts with the sign for degrees Kelvin, whose small form is an ASCII letter. -/
def kelvinOrder : Order := { hubOrder with fields := [("\u212Aey", "1")] }

/-- A reply that arrived is lost, and its stream is never closed. -/
theorem unlistable_fields_leave_stream_open :
    ∃ id y, kelvinOrder.send (.start true accepting []) ⟨[], []⟩ false = .ok (.error id, y) ∧
      y.network.sent.length = 1 ∧ y.network.streamCloses = 0 := by
  obtain ⟨_, id, y, _, hsend, hlost⟩ := exists_of_failed_send (o := kelvinOrder)
    (n := .start true accepting []) (j := ⟨[], []⟩) (u := false)
    (q := fun _ y ↦ decide (y.network.sent.length = 1) && decide (y.network.streamCloses = 0))
    (by decide +kernel)
  simp only [Bool.and_eq_true, decide_eq_true_eq] at hlost
  exact ⟨id, y, hsend, hlost.1, hlost.2⟩

end Exchange

end SecureExchange
