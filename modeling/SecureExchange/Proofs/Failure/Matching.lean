import Mathlib.Data.Option.Basic
import Mathlib.Order.Basic
import SecureExchange.Failure.Graph

/-!
# Matching failures

Two graphs may hold the same failures at different places, if more was recorded in one of them. A
pairing says which places belong together, and it matches the graphs (`Graph.Matching`) if paired
failures agree in everything but their places and are linked to paired failures. Recording on both
sides pairs the two new places; recording on one side keeps the pairing as it is.
-/

namespace SecureExchange.Failure

/-- Which places of one graph belong to which places of another one. -/
abbrev Pairing := FailureId → FailureId → Prop

def Pairing.extend (M : Pairing) (id id' : FailureId) : Pairing :=
  fun k k' ↦ M k k' ∨ k = id ∧ k' = id'

/-- The same failure, but for the place of what it wraps. -/
inductive SameUpTo (M : Pairing) : Failure → Failure → Prop
  | fault (f : Fault) : SameUpTo M (.fault f) (.fault f)
  | classified (e : Classified) {w w' : Option FailureId} (h : Option.Rel M w w') :
      SameUpTo M (.classified { e with wrapped := w }) (.classified { e with wrapped := w' })

structure Incident.Agree (M : Pairing) (n n' : Incident) : Prop where
  failure : SameUpTo M n.failure n'.failure
  cause : Option.Rel M n.cause n'.cause
  context : Option.Rel M n.context n'.context

/-- No place is paired twice, and what is paired is the same. -/
structure Graph.Matching (M : Pairing) (g g' : Graph) : Prop where
  apart : ∀ {i i' k k'}, M i i' → M k k' → (i = k ↔ i' = k')
  same : ∀ {i i'}, M i i' →
    ∃ n n' : Incident, g[i]? = some n ∧ g'[i']? = some n' ∧ n.Agree M n'

variable {M M' : Pairing} {g g' : Graph} {id id' : FailureId} {h h' : Option FailureId}

theorem Pairing.le_extend : M ≤ M.extend id id' := fun _ _ ↦ .inl

theorem Pairing.extend_self : M.extend id id' id id' := .inr ⟨rfl, rfl⟩

theorem rel_of_le (hM : M ≤ M') (hrel : Option.Rel M h h') : Option.Rel M' h h' := by
  cases hrel with
  | none => exact .none
  | some hid => exact .some (hM _ _ hid)

theorem SameUpTo.of_le {f f' : Failure} (hM : M ≤ M') (hf : SameUpTo M f f') :
    SameUpTo M' f f' := by
  cases hf with
  | fault f => exact .fault f
  | classified e hw => exact .classified e (rel_of_le hM hw)

theorem Incident.Agree.of_le {n n' : Incident} (hM : M ≤ M') (hn : n.Agree M n') :
    n.Agree M' n' :=
  ⟨hn.failure.of_le hM, rel_of_le hM hn.cause, rel_of_le hM hn.context⟩

section SameUpTo

variable {f f' : Failure}

theorem SameUpTo.fault? (hf : SameUpTo M f f') : f'.fault? = f.fault? := by
  cases hf <;> rfl

theorem SameUpTo.text (hf : SameUpTo M f f') : f'.text = f.text := by
  cases hf <;> rfl

theorem SameUpTo.details (hf : SameUpTo M f f') :
    f'.classified?.map (·.details) = f.classified?.map (·.details) := by
  cases hf <;> rfl

/-- An error that wraps nothing has no links. -/
theorem SameUpTo.ofClass (M : Pairing) (cls : ErrorClass) (message : Option String)
    (details : OrderedMap String Datum) :
    SameUpTo M (.classified (.ofClass cls message none details))
      (.classified (.ofClass cls message none details)) :=
  .classified (.ofClass cls message none details) .none

end SameUpTo

namespace Graph

/-- The cause that a failure declares of itself. -/
def declared : Failure → Option FailureId
  | .classified e => e.wrapped
  | .fault _ => none

theorem record_eq (g : Graph) (f : Failure) (handling : Option FailureId) :
    g.record f handling = (g.length, g ++ [⟨f, declared f, handling⟩]) := by
  cases f <;> rfl

theorem rel_declared {f f' : Failure} (hf : SameUpTo M f f') :
    Option.Rel M (declared f) (declared f') := by
  cases hf with
  | fault f => exact .none
  | classified e hw => exact hw

namespace Matching

theorem lt (hg : g.Matching M g') (hid : M id id') : id < g.length ∧ id' < g'.length := by
  obtain ⟨n, n', hn, hn', _⟩ := hg.same hid
  exact ⟨(List.getElem?_eq_some_iff.mp hn).1, (List.getElem?_eq_some_iff.mp hn').1⟩

/-! ### Recording -/

theorem record {f f' : Failure} (hg : g.Matching M g') (hf : SameUpTo M f f')
    (hh : Option.Rel M h h') :
    (g.record f h).2.Matching (M.extend g.length g'.length) (g'.record f' h').2 := by
  have hle : M ≤ M.extend g.length g'.length := Pairing.le_extend
  rw [record_eq, record_eq]
  constructor
  · -- a new place is beyond all places that are paired
    rintro i i' k k' (hi | ⟨rfl, rfl⟩) (hk | ⟨rfl, rfl⟩)
    · exact hg.apart hi hk
    · have hlt := hg.lt hi
      exact iff_of_false (Nat.ne_of_lt hlt.1) (Nat.ne_of_lt hlt.2)
    · have hlt := hg.lt hk
      exact iff_of_false (Nat.ne_of_gt hlt.1) (Nat.ne_of_gt hlt.2)
    · simp
  · rintro i i' (hi | ⟨rfl, rfl⟩)
    · obtain ⟨n, n', hn, hn', hsame⟩ := hg.same hi
      obtain ⟨hlt, hlt'⟩ := hg.lt hi
      refine ⟨n, n', ?_, ?_, hsame.of_le hle⟩
      · rw [List.getElem?_append_left hlt, hn]
      · rw [List.getElem?_append_left hlt', hn']
    · refine ⟨⟨f, declared f, h⟩, ⟨f', declared f', h'⟩, by simp, by simp, ?_, ?_, ?_⟩
      · exact hf.of_le hle
      · exact rel_of_le hle (rel_declared hf)
      · exact rel_of_le hle hh

/-- What only one side records is paired with nothing. -/
theorem record_right (hg : g.Matching M g') (f : Failure) (h : Option FailureId) :
    g.Matching M (g'.record f h).2 := by
  refine ⟨hg.apart, fun hi ↦ ?_⟩
  obtain ⟨n, n', hn, hn', hsame⟩ := hg.same hi
  exact ⟨n, n', hn, (getElem?_record_of_lt (hg.lt hi).2 f h).trans hn', hsame⟩

theorem modify {p p' : Incident → Incident} (hg : g.Matching M g') (hid : M id id')
    (hp : ∀ n n' : Incident, n.Agree M n' → (p n).Agree M (p' n')) :
    Matching M (List.modify g id p) (List.modify g' id' p') := by
  refine ⟨hg.apart, ?_⟩
  intro i i' hi
  obtain ⟨n, n', hn, hn', hsame⟩ := hg.same hi
  have hplace := hg.apart hid hi
  rw [List.getElem?_modify, List.getElem?_modify, hn, hn']
  by_cases heq : id = i
  · refine ⟨p n, p' n', ?_, ?_, hp n n' hsame⟩
    · simp [heq]
    · simp [hplace.mp heq]
  · refine ⟨n, n', ?_, ?_, hsame⟩
    · simp [heq]
    · simp [mt hplace.mpr heq]

theorem handleDuring (hg : g.Matching M g') (hid : M id id') (hh : Option.Rel M h h') :
    (g.handleDuring id h).Matching M (g'.handleDuring id' h') := by
  cases hh with
  | none => exact hg
  | @some k k' hk =>
      have hplace := hg.apart hk hid
      unfold Graph.handleDuring
      dsimp only
      by_cases heq : k = id
      · rw [if_pos heq, if_pos (hplace.mp heq)]
        exact hg
      · rw [if_neg heq, if_neg (mt hplace.mpr heq)]
        refine hg.modify hid ?_
        intro n n' hn
        exact ⟨hn.failure, hn.cause, .some hk⟩

theorem declareCause {cause cause' : FailureId} (hg : g.Matching M g') (hid : M id id')
    (hcause : M cause cause') :
    (g.declareCause id cause).Matching M (g'.declareCause id' cause') := by
  refine hg.modify hid ?_
  intro n n' hn
  exact ⟨hn.failure, .some hcause, hn.context⟩

/-! ### Asking -/

theorem class? (hg : g.Matching M g') (hid : M id id') : g'.class? id' = g.class? id := by
  obtain ⟨n, n', hn, hn', hsame⟩ := hg.same hid
  simp [Graph.class?, Graph.fault?, hn, hn', hsame.failure.fault?]

theorem text (hg : g.Matching M g') (hid : M id id') : g'.text id' = g.text id := by
  obtain ⟨n, n', hn, hn', hsame⟩ := hg.same hid
  simp [Graph.text, hn, hn', hsame.failure.text]

/-- Errors that wrap paired failures are the same. -/
theorem ofClass (hg : g.Matching M g') (hid : M id id') (cls : ErrorClass)
    (message : Option String) (details : OrderedMap String Datum) :
    SameUpTo M (.classified (.ofClass cls message (some (g.wrapping id)) details))
      (.classified (.ofClass cls message (some (g'.wrapping id')) details)) := by
  unfold Graph.wrapping
  rw [hg.text hid]
  exact .classified (.ofClass cls message (some ⟨id, g.text id⟩) details) (.some hid)

theorem details (hg : g.Matching M g') (hid : M id id') :
    (g'.classified? id').map (·.details) = (g.classified? id).map (·.details) := by
  obtain ⟨n, n', hn, hn', hsame⟩ := hg.same hid
  simp [Graph.classified?, hn, hn', hsame.failure.details]

end Matching

/-! ### One graph -/

/-- All links lead to recorded failures. -/
structure IsClosed (g : Graph) : Prop where
  recorded : ∀ n ∈ g, ∀ id, (n.cause = some id ∨ n.context = some id ∨
    declared n.failure = some id) → id < g.length

/-- Every recorded place belongs to itself. -/
def places (g : Graph) : Pairing := fun id id' ↦ id' = id ∧ id < g.length

theorem IsClosed.matching (h : g.IsClosed) : g.Matching g.places g := by
  have hrel : ∀ link : Option FailureId, (∀ id, link = some id → id < g.length) →
      Option.Rel g.places link link := by
    intro link hlink
    cases link with
    | none => exact .none
    | some id => exact .some ⟨rfl, hlink id rfl⟩
  constructor
  · rintro i i' k k' ⟨rfl, _⟩ ⟨rfl, _⟩
    exact Iff.rfl
  · rintro i i' ⟨rfl, hi⟩
    obtain ⟨n, hn⟩ : ∃ n, g[i']? = some n := ⟨_, List.getElem?_eq_getElem hi⟩
    have hmem := List.mem_of_getElem? hn
    refine ⟨n, n, hn, hn, ?_, ?_, ?_⟩
    · have hdeclared := hrel _ fun id hid ↦ h.recorded n hmem id (.inr (.inr hid))
      cases hfailure : n.failure with
      | fault f => exact .fault f
      | classified e =>
          rw [hfailure] at hdeclared
          exact .classified e hdeclared
    · exact hrel _ fun id hid ↦ h.recorded n hmem id (.inl hid)
    · exact hrel _ fun id hid ↦ h.recorded n hmem id (.inr (.inl hid))

end Graph

end SecureExchange.Failure
