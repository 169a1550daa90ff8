import SecureExchange.Exchange.Step
import SecureExchange.Proofs.Exchange.Closes
import SecureExchange.Proofs.Exchange.Keeping
import SecureExchange.Proofs.Failure.Alike
import SecureExchange.Proofs.Redaction.Fields

/-!
# What an exchange keeps from its log

An exchange knows more than its log may show: its target, the values of its fields, the requests
that it has sent, what its client was asked to keep, and the faults that no event is about. Two
exchanges are alike if they differ in nothing else, and if what they differ in is shown in the same
way (`Conceals`). Every operation takes alike exchanges to alike ones, and ends in the same way on
both of them (`EndAlike`).
-/

namespace SecureExchange

open Failure Text Address

/-- What an exchange holds that its log does not show as it is. -/
structure Secrets where
  target : Target
  fields : Fields
  sent : List Sent
  deposits : List Deposit
  failures : Graph

/-- The peer may give this answer to a request. -/
def Script.Gives (s : Script) (a : Answer) : Prop := a = s.next ∨ a ∈ s.later

theorem Script.gives_of_advance {s : Script} {a : Answer} (h : s.advance.Gives a) : s.Gives a := by
  obtain ⟨next, later, client⟩ := s
  cases later with
  | nil => exact h
  | cons b rest => exact .inr (List.mem_cons.mpr h)

/-- Whatever location the peer asks to go to, it sets no cookies with that, and the location can be
resolved against both targets or against neither of them. -/
def Script.MovesAlike (s : Script) (t t' : Target) : Prop :=
  ∀ r, s.Gives (.reply r) → ∀ location, r.location? = some location → r.setsCookies = false ∧
    ((∃ u, Redirect.resolve t location.toList = .ok u) ↔
      ∃ u, Redirect.resolve t' location.toList = .ok u)

theorem Script.MovesAlike.advance {s : Script} {t t' : Target} (h : s.MovesAlike t t') :
    s.advance.MovesAlike t t' :=
  fun r hr ↦ h r (gives_of_advance hr)

namespace Network

variable (n : Network) (sent : List Sent)

theorem closeHandle_withSecrets (deposits : List Deposit) :
    ({ n with sent := sent, deposits := deposits } : Network).closeHandle
      = { n.closeHandle with sent := sent, deposits := deposits } := by
  obtain ⟨_, _, _, handles, _, _, _⟩ := n
  cases handles <;> rfl

theorem openHandle_withSent (context : Option String) :
    ({ n with sent := sent } : Network).openHandle context
      = ((n.openHandle context).1, { (n.openHandle context).2 with sent := sent }) := by
  unfold openHandle
  dsimp only
  split
  · rfl
  · split <;> rfl

theorem script_closeHandle : n.closeHandle.script = n.script := by
  obtain ⟨_, h⟩ := n.closeHandle_eq
  rw [h]

theorem script_openHandle (context : Option String) :
    (n.openHandle context).2.script = n.script := by
  obtain ⟨_, _, _, h⟩ := n.openHandle_eq context
  rw [h]

end Network

namespace Exchange

def withSecrets (x : Exchange) (s : Secrets) : Exchange :=
  { x with
    target := s.target
    fields := s.fields
    network := { x.network with sent := s.sent, deposits := s.deposits }
    journal := { x.journal with failures := s.failures } }

/-- The log of `x` does not tell whether its secrets are its own or `s`. -/
structure Conceals (x : Exchange) (s : Secrets) : Prop where
  redacted : x.unredacted = false
  shown : Redaction.addressText s.target.text = x.shownAddress
  host : ∀ shown, x.shownAddress = .ok shown →
    allAscii s.target.hostPort = allAscii x.target.hostPort
  moves : x.network.script.MovesAlike x.target s.target
  kept : x.phase = .configured → x.network.deposits = [] ∧ s.deposits = []
  fields : x.fields.Alike s.fields
  failures : x.journal.failures.Alike s.failures

def Alike (x x' : Exchange) : Prop := ∃ s, x.Conceals s ∧ x' = x.withSecrets s

theorem Alike.events {x x' : Exchange} (h : x.Alike x') : x'.journal.events = x.journal.events := by
  obtain ⟨s, _, rfl⟩ := h
  rfl

theorem Alike.verb {x x' : Exchange} (h : x.Alike x') : x'.verb = x.verb := by
  obtain ⟨s, _, rfl⟩ := h
  rfl

/-- Two operations end with the same outcome and with alike exchanges. -/
def EndAlike {α : Type} (r r' : Outcome α × Exchange) : Prop := r'.1 = r.1 ∧ r.2.Alike r'.2

variable {α β : Type} {x x' y y' : Exchange} {s : Secrets} {id : FailureId}
  {handling : Option FailureId} {r r' : Outcome α × Exchange}

/-- Only target, script, deposits, fields and failures matter to what is concealed. -/
theorem Conceals.of_kept {s' : Secrets} (hs : x.Conceals s)
    (hunredacted : y.unredacted = x.unredacted) (htarget : y.target = x.target)
    (htarget' : s'.target = s.target)
    (hscript : y.network.script = x.network.script)
    (hkept : y.phase = .configured → y.network.deposits = [] ∧ s'.deposits = [])
    (hfields : y.fields.Alike s'.fields) (hfailures : y.journal.failures.Alike s'.failures) :
    y.Conceals s' := by
  have hshown : y.shownAddress = x.shownAddress := by
    rw [shownAddress, shownAddress, htarget]
  refine ⟨hunredacted.trans hs.redacted, ?_, ?_, ?_, hkept, hfields, hfailures⟩
  · rw [htarget', hshown]
    exact hs.shown
  · rw [htarget', htarget, hshown]
    exact hs.host
  · rw [htarget', htarget, hscript]
    exact hs.moves

theorem Conceals.alike (h : x.Conceals s) : x.Alike (x.withSecrets s) := ⟨s, h, rfl⟩

theorem Alike.ends (h : x.Alike x') (outcome : Outcome α) :
    EndAlike (outcome, x) (outcome, x') := ⟨rfl, h⟩

/-- The rest of an operation, whose first part has ended alike. -/
theorem EndAlike.cases (h : EndAlike r r') :
    (∃ id y y', r = (.error id, y) ∧ r' = (.error id, y') ∧ y.Alike y') ∨
      ∃ a y y', r = (.ok a, y) ∧ r' = (.ok a, y') ∧ y.Alike y' := by
  obtain ⟨outcome, y⟩ := r
  obtain ⟨outcome', y'⟩ := r'
  obtain ⟨rfl, hy⟩ : outcome' = outcome ∧ y.Alike y' := h
  cases outcome' with
  | error id => exact .inl ⟨id, y, y', rfl, rfl, hy⟩
  | ok a => exact .inr ⟨a, y, y', rfl, rfl, hy⟩

/-! ### Failures and events -/

theorem Alike.raise {f f' : Failure} (h : x.Alike x') (hf : LooksLike f f')
    (handling : Option FailureId) :
    EndAlike (x.raise (α := α) f handling) (x'.raise f' handling) := by
  obtain ⟨s, hs, rfl⟩ := h
  obtain ⟨hid, hfailures⟩ := hs.failures.record hf handling
  refine ⟨congrArg Except.error hid, ⟨_, _, _, _, (s.failures.record f' handling).2⟩, ?_, rfl⟩
  exact hs.of_kept rfl rfl rfl rfl hs.kept hs.fields hfailures

theorem Alike.raiseFault (h : x.Alike x') (f : Fault) :
    EndAlike (x.raiseFault (α := α) f) (x'.raiseFault f) :=
  h.raise (.same _) none

theorem Alike.raiseUnlogged {f f' : Fault} (h : x.Alike x') (hf : f.cls.isUnlogged = true)
    (hf' : f'.cls.isUnlogged = true) :
    EndAlike (x.raiseFault (α := α) f) (x'.raiseFault f') :=
  h.raise (.unlogged hf hf') none

theorem Alike.refuse (h : x.Alike x') (cls : ErrorClass) (message : String)
    (details : OrderedMap String Datum) :
    EndAlike (x.refuse (α := α) cls message details) (x'.refuse cls message details) :=
  h.raise (.same _) none

theorem Alike.raiseAgain (h : x.Alike x') (id : FailureId) (handling : Option FailureId) :
    EndAlike (x.raiseAgain (α := α) id handling) (x'.raiseAgain id handling) := by
  obtain ⟨s, hs, rfl⟩ := h
  refine ⟨rfl, ⟨_, _, _, _, s.failures.handleDuring id handling⟩, ?_, rfl⟩
  exact hs.of_kept rfl rfl rfl rfl hs.kept hs.fields (hs.failures.handleDuring id handling)

theorem Alike.log (h : x.Alike x') (level : EventLog.Level) (name : String)
    (fields : OrderedMap String Datum) :
    (x.log level name fields).Alike (x'.log level name fields) := by
  obtain ⟨s, hs, rfl⟩ := h
  exact ⟨s, hs.of_kept rfl rfl rfl rfl hs.kept hs.fields hs.failures, rfl⟩

theorem Alike.isHttpFailure (h : x.Alike x') (id : FailureId) :
    x'.isHttpFailure id = x.isHttpFailure id := by
  obtain ⟨s, hs, rfl⟩ := h
  have hclass := hs.failures.class?_map (p := FaultClass.isHttpError)
    (fun c hc ↦ (FaultClass.isUnlogged_iff.mp hc).1) id
  unfold Exchange.isHttpFailure
  change Option.map _ ((x.withSecrets s).journal.failures.class? id) = _ at hclass
  cases hx : x.journal.failures.class? id <;>
    cases hx' : (x.withSecrets s).journal.failures.class? id <;> simp_all

theorem endAlike_ite {c c' : Prop} [Decidable c] [Decidable c'] {q q' : Outcome α × Exchange}
    (hc : c' ↔ c) (hr : EndAlike r r') (hq : EndAlike q q') :
    EndAlike (if c then r else q) (if c' then r' else q') := by
  by_cases h : c
  · rwa [if_pos h, if_pos (hc.mpr h)]
  · rwa [if_neg h, if_neg (mt hc.mp h)]

theorem whileConfigured_alike (h : x.Alike x') (operation : String)
    {go go' : Exchange → Outcome α × Exchange}
    (hgo : x.phase = .configured → EndAlike (go x) (go' x')) :
    EndAlike (x.whileConfigured operation go) (x'.whileConfigured operation go') := by
  obtain ⟨s, hs, rfl⟩ := h
  have hphase : (x.withSecrets s).phase = x.phase := rfl
  unfold whileConfigured
  rw [hphase]
  by_cases h : x.phase = .configured
  · rw [if_pos h, if_pos h]
    exact hgo h
  · rw [if_neg h, if_neg h]
    exact hs.alike.refuse _ _ _

/-! ### Setters -/

/-- A value that names no verb makes for three failures, each of which wraps the one before. -/
theorem setVerbConfigured_of_none {given : Datum} (hverb : Verb.ofDatum? given = none) :
    ∃ (f : Fault) (e e' : Nat → Classified), ∀ x : Exchange, setVerbConfigured given x =
      ((x.raise (α := Unit) (.fault f) none).2.raise (α := Unit)
          (.classified (e x.journal.failures.length)) (some x.journal.failures.length)).2.raise
        (.classified (e' x.journal.failures.length)) (some (x.journal.failures.length + 1)) := by
  let f : Fault := .invalidValue (given.literal ++ " is not a valid HttpsMethod")
  let e (n : Nat) : Classified := .ofClass .invalidArgument
    (some ("Unsupported HTTPS method " ++ given.literal)) (some ⟨n, f.text⟩)
    [("method", .text given.display)]
  let e' (n : Nat) : Classified := .ofClass .invalidState (some (e n).message)
    (some ⟨n + 1, (e n).message⟩) (e n).details
  refine ⟨f, e, e', fun x ↦ ?_⟩
  generalize hg : x.journal.failures = g
  have hbare : (g.record (.fault f) none).2.wrapping g.length = ⟨g.length, f.text⟩ := by
    rw [Graph.wrapping, Graph.text_record]
    rfl
  have hrefuse : Verb.refuse given g
      = (g.record (.fault f) none).2.record (.classified (e g.length)) (some g.length) := by
    simp only [e, ← hbare]
    rfl
  have hwrapping : (Verb.refuse given g).2.wrapping (Verb.refuse given g).1
      = ⟨g.length + 1, (e g.length).message⟩ := by
    rw [hrefuse]
    simp [Graph.wrapping, Graph.text, Graph.record]
    rfl
  have htext : (Verb.refuse given g).2.text (Verb.refuse given g).1 = (e g.length).message :=
    congrArg Classified.Wrapping.text hwrapping
  have hclassified : (Verb.refuse given g).2.classified? (Verb.refuse given g).1
      = some (e g.length) := by
    rw [hrefuse]
    exact Graph.classified?_record _ _ _
  have hid : (Verb.refuse given g).1 = g.length + 1 := by
    rw [hrefuse]
    exact Graph.length_record _ _ _
  rw [hid] at hwrapping htext hclassified
  simp only [setVerbConfigured, hverb, hg, hwrapping, htext, hclassified, hid]
  rw [hrefuse]
  subst hg
  rfl

theorem setVerb_alike (h : x.Alike x') (given : Datum) :
    EndAlike (x.setVerb given) (x'.setVerb given) := by
  refine whileConfigured_alike h _ fun _ ↦ ?_
  cases hverb : Verb.ofDatum? given with
  | none =>
      obtain ⟨f, e, e', heq⟩ := setVerbConfigured_of_none hverb
      have hlength : x'.journal.failures.length = x.journal.failures.length := by
        obtain ⟨s, hs, rfl⟩ := h
        exact hs.failures.length
      rw [heq x, heq x', hlength]
      have hbare := (h.raise (α := Unit) (.same (.fault f)) none).2
      exact (hbare.raise (α := Unit) (.same _) _).2.raise (.same _) _
  | some verb =>
      obtain ⟨s, hs, rfl⟩ := h
      simp only [setVerbConfigured, hverb]
      refine endAlike_ite Iff.rfl (hs.alike.refuse _ _ _) ⟨rfl, s, ?_, rfl⟩
      exact hs.of_kept rfl rfl rfl rfl hs.kept hs.fields hs.failures

theorem setField_alike (h : x.Alike x') {name value value' : String}
    (hname : allAscii name.toList = true) (hvalue : allAscii value.toList = true)
    (hvalue' : allAscii value'.toList = true)
    (hshown : Redaction.isSensitiveKey name = false → value' = value) :
    EndAlike (x.setField name value) (x'.setField name value') := by
  refine whileConfigured_alike h _ fun _ ↦ ?_
  obtain ⟨s, hs, rfl⟩ := h
  obtain ⟨fields, fields', hset, hset', hfields⟩ := hs.fields.set hname hvalue hvalue' hshown
  simp only [withSecrets, hset, hset']
  exact ⟨rfl, { s with fields := fields' },
    hs.of_kept rfl rfl rfl rfl hs.kept hfields hs.failures, rfl⟩

theorem setReadTimeout_alike (h : x.Alike x') (given : Number) :
    EndAlike (x.setReadTimeout given) (x'.setReadTimeout given) := by
  unfold setReadTimeout
  cases readTimeoutOf given with
  | error f => exact h.raise (.same _) none
  | ok seconds =>
      obtain ⟨s, hs, rfl⟩ := h
      refine endAlike_ite Iff.rfl ⟨rfl, s, ?_, rfl⟩ ((hs.alike.log ..).ends _)
      exact hs.of_kept rfl rfl rfl rfl hs.kept hs.fields hs.failures

theorem writeBody_alike (h : x.Alike x') (body : Octets) :
    EndAlike (x.writeBody body) (x'.writeBody body) := by
  refine whileConfigured_alike h _ fun _ ↦ ?_
  obtain ⟨s, hs, rfl⟩ := h
  refine endAlike_ite Iff.rfl ⟨rfl, s, ?_, rfl⟩
    (endAlike_ite Iff.rfl (hs.alike.ends _) (hs.alike.refuse _ _ _))
  exact hs.of_kept rfl rfl rfl rfl hs.kept hs.fields hs.failures

/-- Failures to open are recorded alike if the targets are shown alike. -/
theorem recordOpenFailure_alike {t t' : Target} {j : Journal} {g : Graph}
    (hshown : Redaction.addressText t'.text = Redaction.addressText t.text)
    (hg : j.failures.Alike g) (id : FailureId) :
    ∃ g', recordOpenFailure t' id { j with failures := g }
        = ((recordOpenFailure t id j).1, { (recordOpenFailure t id j).2 with failures := g' }) ∧
      (recordOpenFailure t id j).2.failures.Alike g' := by
  have hunopened : ∀ f, ∃ g', Journal.record { j with failures := g } f (some id)
        = ((j.record f (some id)).1, { (j.record f (some id)).2 with failures := g' }) ∧
      (j.record f (some id)).2.failures.Alike g' := by
    intro f
    obtain ⟨hid, hrecord⟩ := hg.record (.same f) (some id)
    exact ⟨_, Prod.ext hid rfl, hrecord⟩
  have hclass := hg.class?_map (p := FaultClass.isInputOutput)
    (fun c hc ↦ (FaultClass.isUnlogged_iff.mp hc).2.1) id
  cases hc : j.failures.class? id with
  | none =>
      have hc' : g.class? id = none := by simpa [hc] using hclass
      refine ⟨g, by simp only [recordOpenFailure, hc, hc'], ?_⟩
      simpa [recordOpenFailure, hc] using hg
  | some c =>
      cases hio : c.isInputOutput with
      | false =>
          obtain ⟨c', hc', hio'⟩ : ∃ c', g.class? id = some c' ∧ c'.isInputOutput = false := by
            simpa [hc, hio, Option.map_eq_some_iff] using hclass
          refine ⟨g, by simp [recordOpenFailure, hc, hc', hio, hio'], ?_⟩
          simpa [recordOpenFailure, hc, hio] using hg
      | true =>
          -- only a fault that looks the same in both graphs is wrapped, so its text is the same
          have hlogged : c.isUnlogged = false := by simp [FaultClass.isUnlogged, hio]
          obtain ⟨hc', hwrapping⟩ := hg.of_logged hc hlogged
          simp only [recordOpenFailure, hc, hc', hio, if_true, hshown, hwrapping]
          cases Redaction.addressText t.text with
          | error e => exact hunopened _
          | ok shown => exact hunopened _

theorem reopen_alike (h : x.Alike x') (hphase : x.phase = .configured) (context : String) :
    EndAlike (x.reopen context) (x'.reopen context) := by
  obtain ⟨s, hs, rfl⟩ := h
  obtain ⟨hnone, hnone'⟩ := hs.kept hphase
  have hscript : (x.network.closeHandle.openHandle (some context)).2.script = x.network.script := by
    rw [Network.script_openHandle, Network.script_closeHandle]
  have hkept : (x.network.closeHandle.openHandle (some context)).2.deposits = [] := by
    rcases x.network.closeHandle.deposits_openHandle (some context) with h | h
    · rw [h, Network.deposits_closeHandle, hnone]
    · exact h
  have hopen : (x.withSecrets s).network.closeHandle.openHandle (some context)
      = ((x.network.closeHandle.openHandle (some context)).1,
        { (x.network.closeHandle.openHandle (some context)).2 with
          sent := s.sent, deposits := s.deposits }) := by
    have hclose : (x.withSecrets s).network.closeHandle
        = { x.network.closeHandle with sent := s.sent } := by
      rw [withSecrets, Network.closeHandle_withSecrets, hnone', ← hnone,
        ← x.network.deposits_closeHandle]
    rw [hclose, Network.openHandle_withSent, hnone', ← hkept]
  unfold reopen
  rw [hopen]
  rcases hnetwork : x.network.closeHandle.openHandle (some context) with ⟨id | _, n⟩
  · rw [hnetwork] at hscript hkept
    obtain ⟨g, hrecord, hg⟩ := recordOpenFailure_alike hs.shown hs.failures id
    have hraised : recordOpenFailure (x.withSecrets s).target id (x.withSecrets s).journal
        = ((recordOpenFailure x.target id x.journal).1,
          { (recordOpenFailure x.target id x.journal).2 with failures := g }) := hrecord
    dsimp only
    rw [hraised]
    refine ⟨rfl, { s with failures := g }, ?_, rfl⟩
    exact hs.of_kept rfl rfl rfl hscript (fun _ ↦ ⟨hkept, hnone'⟩) hs.fields hg
  · rw [hnetwork] at hscript hkept
    refine ⟨rfl, s, ?_, rfl⟩
    exact hs.of_kept rfl rfl rfl hscript (fun _ ↦ ⟨hkept, hnone'⟩) hs.fields hs.failures

theorem setTlsContext_alike (h : x.Alike x') (context : Option String) :
    EndAlike (x.setTlsContext context) (x'.setTlsContext context) := by
  cases context with
  | none => exact h.refuse _ _ _
  | some context =>
      refine whileConfigured_alike h _ fun hphase ↦ ?_
      obtain ⟨s, hs, rfl⟩ := h
      exact endAlike_ite Iff.rfl (hs.alike.refuse _ _ _) (reopen_alike hs.alike hphase context)

/-! ### Closing and reading -/

theorem closeChannel_alike (h : x.Alike x') (handling : Option FailureId) :
    EndAlike (x.closeChannel handling) (x'.closeChannel handling) := by
  obtain ⟨s, hs, rfl⟩ := h
  have hchannel : (x.withSecrets s).channel = x.channel := rfl
  unfold closeChannel
  rw [hchannel]
  cases x.channel with
  | none => exact hs.alike.ends _
  | some c =>
      dsimp only
      split
      · exact hs.alike.ends _
      · have hclosed : Conceals { x with
            channel := some { c with isClosed := true }
            network := x.network.countClose } s :=
          hs.of_kept rfl rfl rfl rfl hs.kept hs.fields hs.failures
        cases c.reply.closeFailure with
        | none => exact hclosed.alike.ends _
        | some id => exact hclosed.alike.raiseAgain id handling

theorem closeDuring_alike (h : x.Alike x') (handling : Option FailureId) :
    EndAlike (x.closeDuring handling) (x'.closeDuring handling) := by
  unfold closeDuring
  rcases (closeChannel_alike h handling).cases with
    ⟨id, y, y', hx, hx', hy⟩ | ⟨a, y, y', hx, hx', hy⟩
  · rw [hx, hx']
    exact hy.ends _
  · rw [hx, hx']
    obtain ⟨s, hs, rfl⟩ := hy
    refine ⟨rfl, s, ?_, ?_⟩
    · exact hs.of_kept rfl rfl rfl y.network.script_closeHandle nofun hs.fields hs.failures
    · simp only [withSecrets, Network.closeHandle_withSecrets]

end Exchange

end SecureExchange
