import Mathlib.Data.List.Perm.Subperm
import Mathlib.Logic.Relation
import SecureExchange.Failure.Classify

/-!
# Walks through recorded failures

The links of recorded failures may run in circles. The walk from a failure remembers what it has met
and ends before it meets anything twice, so it has at most as many failures as are recorded
(`length_walk_le`). It meets everything that is reached by following links for any number of steps
(`mem_walk_iff`), and with it every failure of the secure channel that a bounded walk finds
(`meetsTls_length_iff`).
-/

namespace SecureExchange.Failure.Graph

variable {g : Graph} {met : List FailureId} {id t u : FailureId}

/-- How many recorded failures have not been met. -/
def unmet (g : Graph) (met : List FailureId) : Nat :=
  ((List.range g.length).filter (· ∉ met)).length

theorem unmet_cons_lt (hid : id < g.length) (hmet : id ∉ met) :
    g.unmet (id :: met) < g.unmet met := by
  have hfilter : (List.range g.length).filter (· ∉ id :: met)
      = ((List.range g.length).filter (· ∉ met)).filter (· ≠ id) := by
    rw [List.filter_filter]
    apply List.filter_congr
    intro a _
    simp
  rw [unmet, unmet, hfilter]
  apply List.length_filter_lt_length_iff_exists.mpr
  refine ⟨id, ?_, by simp⟩
  simp [hid, hmet]

/-- The walk on from `id` when `met` has been met. It goes to what is behind a failure, and ends
before it meets a failure again. -/
def walkFrom (g : Graph) (met : List FailureId) (id : FailureId) : List FailureId :=
  if id < g.length ∧ id ∉ met then
    match g.behind? id with
    | none => [id]
    | some next => id :: g.walkFrom (id :: met) next
  else []
termination_by g.unmet met
decreasing_by
  have hid : id < g.length ∧ id ∉ met := by assumption
  exact unmet_cons_lt hid.1 hid.2

def walk (g : Graph) (id : FailureId) : List FailureId := g.walkFrom [] id

/-- `b` is what a walk goes to after `a`. -/
def Follows (g : Graph) (a b : FailureId) : Prop := g.behind? a = some b

theorem lt_of_behind? (h : g.behind? id = some u) : id < g.length := by
  obtain ⟨n, hn, _⟩ := Option.bind_eq_some_iff.mp h
  exact (List.getElem?_eq_some_iff.mp hn).1

theorem lt_of_isTls (h : g.isTls id = true) : id < g.length := by
  by_contra hlength
  have hnone : g[id]? = none := List.getElem?_eq_none (Nat.le_of_not_lt hlength)
  simp [isTls, class?, fault?, hnone] at h

/-- A walk meets recorded failures that were not met before. -/
theorem mem_walkFrom (h : t ∈ g.walkFrom met id) : t < g.length ∧ t ∉ met := by
  fun_induction walkFrom g met id with
  | case1 met id hid hbehind =>
      obtain rfl := List.mem_singleton.mp h
      exact hid
  | case2 met id hid next hbehind ih =>
      rcases List.mem_cons.mp h with rfl | h
      · exact hid
      · obtain ⟨hlength, hnew⟩ := ih h
        exact ⟨hlength, fun hmem ↦ hnew (List.mem_cons_of_mem id hmem)⟩
  | case3 met id hid => simp at h

theorem nodup_walkFrom (g : Graph) (met : List FailureId) (id : FailureId) :
    (g.walkFrom met id).Nodup := by
  fun_induction walkFrom g met id with
  | case1 met id hid hbehind => simp
  | case2 met id hid next hbehind ih =>
      rw [List.nodup_cons]
      exact ⟨fun hmem ↦ (mem_walkFrom hmem).2 List.mem_cons_self, ih⟩
  | case3 met id hid => exact List.nodup_nil

/-- A walk ends after at most as many steps as there are recorded failures. -/
theorem length_walk_le (g : Graph) (id : FailureId) : (g.walk id).length ≤ g.length := by
  have hsubset : g.walk id ⊆ List.range g.length :=
    fun _ h ↦ List.mem_range.mpr (mem_walkFrom h).1
  have hle := (List.subperm_of_subset (g.nodup_walkFrom [] id) hsubset).length_le
  rwa [List.length_range] at hle

theorem reaches_of_mem_walkFrom (h : t ∈ g.walkFrom met id) :
    Relation.ReflTransGen g.Follows id t := by
  fun_induction walkFrom g met id with
  | case1 met id hid hbehind =>
      obtain rfl := List.mem_singleton.mp h
      exact .refl
  | case2 met id hid next hbehind ih =>
      rcases List.mem_cons.mp h with rfl | h
      · exact .refl
      · exact .head hbehind (ih h)
  | case3 met id hid => simp at h

theorem self_mem_walkFrom (hid : id < g.length) (hmet : id ∉ met) : id ∈ g.walkFrom met id := by
  rw [walkFrom, if_pos ⟨hid, hmet⟩]
  split <;> exact List.mem_cons_self

/-- A walk goes on after each of its failures unless the next one was met before. -/
theorem mem_walkFrom_of_follows (h : t ∈ g.walkFrom met id) (hbehind : g.Follows t u)
    (hu : u < g.length) : u ∈ g.walkFrom met id ∨ u ∈ met := by
  fun_induction walkFrom g met id with
  | case1 met id hid hnone =>
      obtain rfl := List.mem_singleton.mp h
      exact absurd (hbehind.symm.trans hnone) (by simp)
  | case2 met id hid next hnext ih =>
      rcases List.mem_cons.mp h with rfl | h
      · obtain rfl : next = u := Option.some.inj (hnext.symm.trans hbehind)
        by_cases hmet : next ∈ t :: met
        · rcases List.mem_cons.mp hmet with heq | hmet
          · exact .inl (heq ▸ List.mem_cons_self)
          · exact .inr hmet
        · exact .inl (List.mem_cons_of_mem t (self_mem_walkFrom hu hmet))
      · rcases ih h with hmem | hmem
        · exact .inl (List.mem_cons_of_mem id hmem)
        · rcases List.mem_cons.mp hmem with rfl | hmem
          · exact .inl List.mem_cons_self
          · exact .inr hmem
  | case3 met id hid => simp at h

theorem mem_walk_of_follows (h : t ∈ g.walk id) (hbehind : g.Follows t u) (hu : u < g.length) :
    u ∈ g.walk id :=
  (mem_walkFrom_of_follows h hbehind hu).resolve_right List.not_mem_nil

/-- A walk meets exactly the recorded failures that any number of steps leads to. -/
theorem mem_walk_iff (hid : id < g.length) (ht : t < g.length) :
    t ∈ g.walk id ↔ Relation.ReflTransGen g.Follows id t := by
  refine ⟨reaches_of_mem_walkFrom, fun h ↦ ?_⟩
  induction h with
  | refl => exact self_mem_walkFrom hid List.not_mem_nil
  | tail _ hbehind ih => exact mem_walk_of_follows (ih (lt_of_behind? hbehind)) hbehind ht

/-! ### Failures of the secure channel -/

theorem reaches_of_meetsTls {steps : Nat} (h : g.meetsTls steps id = true) :
    ∃ t, Relation.ReflTransGen g.Follows id t ∧ g.isTls t = true := by
  induction steps generalizing id with
  | zero => simp at h
  | succ steps ih =>
      rw [meetsTls, Bool.or_eq_true] at h
      rcases h with htls | h
      · exact ⟨id, .refl, htls⟩
      · split at h
        · next next hbehind =>
            obtain ⟨t, hreach, htls⟩ := ih h
            exact ⟨t, .head hbehind hreach, htls⟩
        · simp at h

theorem meetsTls_of_mem_walkFrom {steps : Nat} (h : t ∈ g.walkFrom met id)
    (htls : g.isTls t = true) (hsteps : (g.walkFrom met id).length ≤ steps) :
    g.meetsTls steps id = true := by
  fun_induction walkFrom g met id generalizing steps with
  | case1 met id hid hbehind =>
      obtain rfl := List.mem_singleton.mp h
      obtain ⟨steps, rfl⟩ := Nat.exists_eq_add_of_le' hsteps
      exact meetsTls_of_isTls htls steps
  | case2 met id hid next hbehind ih =>
      obtain ⟨steps, rfl⟩ := Nat.exists_eq_add_of_le' (Nat.le_of_add_left_le hsteps)
      rcases List.mem_cons.mp h with rfl | h
      · exact meetsTls_of_isTls htls steps
      · have hnext := ih h (Nat.le_of_succ_le_succ hsteps)
        simp [meetsTls, hbehind, hnext]
  | case3 met id hid => simp at h

/-- As many steps as there are recorded failures are enough: the bounded walk finds a failure of the
secure channel exactly if there is one before the first failure that is met twice. -/
theorem meetsTls_length_iff (g : Graph) (id : FailureId) :
    g.meetsTls g.length id = true ↔ ∃ t ∈ g.walk id, g.isTls t = true := by
  constructor
  · intro h
    obtain ⟨t, hreach, htls⟩ := reaches_of_meetsTls h
    have ht := lt_of_isTls htls
    have hid : id < g.length := by
      rcases hreach.cases_head with rfl | ⟨_, hbehind, _⟩
      · exact ht
      · exact lt_of_behind? hbehind
    exact ⟨t, (mem_walk_iff hid ht).mpr hreach, htls⟩
  · rintro ⟨t, hmem, htls⟩
    exact meetsTls_of_mem_walkFrom hmem htls (g.length_walk_le id)

end SecureExchange.Failure.Graph
