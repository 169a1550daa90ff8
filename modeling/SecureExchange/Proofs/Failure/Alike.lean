import Mathlib.Data.List.Forall2
import Mathlib.Data.Option.Basic
import SecureExchange.Failure.Classify

/-!
# Failures that look alike

Some faults never show: their class is neither written to a log nor asked for by anything that
decides how an exchange goes on. Two graphs look alike if they have the same links and differ at
most in such faults. Whatever is recorded alike on both of them keeps them alike, and what is asked
of them in order to log or to classify has the same answer.
-/

namespace SecureExchange.Failure

/-- Nothing depends on a fault of this class but that there is one. -/
def FaultClass.isUnlogged (c : FaultClass) : Bool :=
  !c.isHttpError && !c.isInputOutput && !c.isStop

theorem FaultClass.isUnlogged_iff {c : FaultClass} : c.isUnlogged = true ↔
    c.isHttpError = false ∧ c.isInputOutput = false ∧ c.isStop = false := by
  simp [isUnlogged, and_assoc]

theorem FaultClass.isTls_of_isUnlogged {c : FaultClass} (h : c.isUnlogged = true) :
    c.isTls = false := by
  cases c with
  | tls f => simp [isUnlogged, isInputOutput, isSystem] at h
  | _ => rfl

inductive LooksLike : Failure → Failure → Prop
  | same (f : Failure) : LooksLike f f
  | unlogged {f f' : Fault} (h : f.cls.isUnlogged = true) (h' : f'.cls.isUnlogged = true) :
      LooksLike (.fault f) (.fault f')

structure Incident.Alike (n n' : Incident) : Prop where
  failure : LooksLike n.failure n'.failure
  cause : n'.cause = n.cause
  context : n'.context = n.context

namespace Graph

def Alike (g g' : Graph) : Prop := List.Forall₂ Incident.Alike g g'

variable {g g' : Graph} {id : FailureId}

theorem Alike.refl (g : Graph) : g.Alike g :=
  List.forall₂_same.mpr fun n _ ↦ ⟨.same n.failure, rfl, rfl⟩

theorem Alike.length (h : g.Alike g') : g'.length = g.length := (List.Forall₂.length_eq h).symm

theorem Alike.getElem? (h : g.Alike g') (id : FailureId) :
    Option.Rel Incident.Alike g[id]? g'[id]? := by
  have hlist : ∀ {g g' : List Incident}, List.Forall₂ Incident.Alike g g' → ∀ id : Nat,
      Option.Rel Incident.Alike g[id]? g'[id]? := by
    intro g g' h
    induction h with
    | nil => exact fun _ ↦ .none
    | cons hn _ ih =>
        intro id
        cases id with
        | zero => exact .some hn
        | succ id => exact ih id
  exact hlist h id

/-! ### Recording -/

theorem Alike.record {f f' : Failure} (h : g.Alike g') (hf : LooksLike f f')
    (handling : Option FailureId) :
    (g'.record f' handling).1 = (g.record f handling).1 ∧
      (g.record f handling).2.Alike (g'.record f' handling).2 := by
  refine ⟨h.length, List.rel_append h ?_⟩
  cases hf with
  | same f => exact .cons ⟨.same f, rfl, rfl⟩ .nil
  | unlogged hf hf' => exact .cons ⟨.unlogged hf hf', rfl, rfl⟩ .nil

theorem Alike.modify {f : Incident → Incident} (h : g.Alike g')
    (hf : ∀ n n', Incident.Alike n n' → (f n).Alike (f n')) (id : FailureId) :
    Alike (List.modify g id f) (List.modify g' id f) := by
  have hlist : ∀ {g g' : List Incident}, List.Forall₂ Incident.Alike g g' → ∀ id : Nat,
      List.Forall₂ Incident.Alike (g.modify id f) (g'.modify id f) := by
    intro g g' h
    induction h with
    | nil => intro id; simp
    | cons hn hrest ih =>
        intro id
        cases id with
        | zero => exact .cons (hf _ _ hn) hrest
        | succ id => exact .cons hn (ih id)
  exact hlist h id

theorem Alike.handleDuring (h : g.Alike g') (id : FailureId) (handling : Option FailureId) :
    (g.handleDuring id handling).Alike (g'.handleDuring id handling) := by
  cases handling with
  | none => exact h
  | some handled =>
      unfold Graph.handleDuring
      dsimp only
      split
      · exact h
      · refine h.modify ?_ id
        intro n n' hn
        exact ⟨hn.failure, hn.cause, rfl⟩

theorem Alike.declareCause (h : g.Alike g') (id cause : FailureId) :
    (g.declareCause id cause).Alike (g'.declareCause id cause) := by
  refine h.modify ?_ id
  intro n n' hn
  exact ⟨hn.failure, rfl, hn.context⟩

@[simp] theorem text_record (g : Graph) (f : Failure) (handling : Option FailureId) :
    (g.record f handling).2.text g.length = f.text := by
  simp [record, text]

/-! ### Asking -/

/-- A fault is the same in both graphs, or nothing depends on it. -/
theorem Alike.fault?_cases (h : g.Alike g') (id : FailureId) :
    g'.fault? id = g.fault? id ∧ g'.text id = g.text id ∨
      ∃ f f', g.fault? id = some f ∧ g'.fault? id = some f' ∧ f.cls.isUnlogged = true ∧
        f'.cls.isUnlogged = true := by
  have hn := h.getElem? id
  unfold fault? text
  cases hg : g[id]? with
  | none =>
      rw [hg] at hn
      cases hg' : g'[id]? with
      | none => exact .inl ⟨rfl, rfl⟩
      | some n' =>
          rw [hg'] at hn
          cases hn
  | some n =>
      rw [hg] at hn
      cases hg' : g'[id]? with
      | none =>
          rw [hg'] at hn
          cases hn
      | some n' =>
          rw [hg'] at hn
          obtain ⟨failure, cause, context⟩ := n
          obtain ⟨failure', cause', context'⟩ := n'
          cases hn with
          | some hn =>
              obtain ⟨hfailure, _, _⟩ := hn
              cases hfailure with
              | same => exact .inl ⟨rfl, rfl⟩
              | unlogged hf hf' => exact .inr ⟨_, _, rfl, rfl, hf, hf'⟩

theorem Alike.behind? (h : g.Alike g') (id : FailureId) : g'.behind? id = g.behind? id := by
  have hn := h.getElem? id
  unfold Graph.behind?
  generalize g[id]? = n at hn
  generalize g'[id]? = n' at hn
  cases hn with
  | none => rfl
  | some hn => simp [hn.cause, hn.context]

/-- A test that no unlogged class passes has the same result on both graphs. -/
theorem Alike.class?_map (h : g.Alike g') {p : FaultClass → Bool}
    (hp : ∀ c : FaultClass, c.isUnlogged = true → p c = false) (id : FailureId) :
    (g'.class? id).map p = (g.class? id).map p := by
  rcases h.fault?_cases id with ⟨hf, _⟩ | ⟨f, f', hf, hf', hunlogged, hunlogged'⟩
  · rw [class?, class?, hf]
  · simp [class?, hf, hf', hp _ hunlogged, hp _ hunlogged']

/-- Where a class is logged, both graphs have the same class and the same text. -/
theorem Alike.of_logged (h : g.Alike g') {c : FaultClass} (hc : g.class? id = some c)
    (hlogged : c.isUnlogged = false) : g'.class? id = some c ∧ g'.wrapping id = g.wrapping id := by
  rcases h.fault?_cases id with ⟨hf, htext⟩ | ⟨f, f', hf, _, hunlogged, _⟩
  · exact ⟨by rw [← hc, class?, class?, hf], by rw [wrapping, wrapping, htext]⟩
  · obtain rfl : f.cls = c := by simpa [class?, hf] using hc
    simp [hunlogged] at hlogged

theorem Alike.isTls (h : g.Alike g') (id : FailureId) : g'.isTls id = g.isTls id := by
  have hclass := h.class?_map (fun c hc ↦ c.isTls_of_isUnlogged hc) id
  unfold Graph.isTls
  cases hg : g.class? id <;> cases hg' : g'.class? id <;> simp_all

theorem Alike.meetsTls (h : g.Alike g') (steps : Nat) (id : FailureId) :
    g'.meetsTls steps id = g.meetsTls steps id := by
  induction steps generalizing id with
  | zero => rfl
  | succ steps ih =>
      rw [Graph.meetsTls, Graph.meetsTls, h.isTls, h.behind?]
      cases g.behind? id with
      | none => rfl
      | some next => exact congrArg (g.isTls id || ·) (ih next)

/-- A failure whose class is logged is classified alike. -/
theorem Alike.classify (h : g.Alike g') {c : FaultClass} (hc : g.class? id = some c)
    (hlogged : c.isUnlogged = false) (handling : Option FailureId) :
    (g'.classify id handling).1 = (g.classify id handling).1 ∧
      (g.classify id handling).2.Alike (g'.classify id handling).2 ∧
      (g'.classify id handling).2.retryDecision (g'.classify id handling).1
        = (g.classify id handling).2.retryDecision (g.classify id handling).1 := by
  obtain ⟨hc', hwrapping⟩ := h.of_logged hc hlogged
  have hverdict : g'.verdict? id = g.verdict? id := by
    rw [verdict?, verdict?, hc, hc', h.length, h.meetsTls, hwrapping]
  have hsome : g.verdict? id
      = some (classifyFault c (g.meetsTls g.length id) (g.wrapping id)) := by
    simp [verdict?, hc]
  generalize classifyFault c (g.meetsTls g.length id) (g.wrapping id) = e at hsome
  have hdecision : ∀ g : Graph, (g.record (.classified e) handling).2.retryDecision
      (g.record (.classified e) handling).1 = (e.code, e.retryable) := by
    intro g
    simp [retryDecision, verdict?, class?, fault?, classified?, Graph.record, Failure.fault?,
      Failure.classified?]
  obtain ⟨hid, hrecord⟩ := h.record (.same (.classified e)) handling
  simp only [Graph.classify, hverdict, hsome]
  exact ⟨hid, hrecord, by rw [hdecision, hdecision]⟩

end Graph

end SecureExchange.Failure
