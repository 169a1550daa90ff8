import SecureExchange.Credential.Path
import SecureExchange.Proofs.Address.FormPairs

/-!
# Paths in normal form

A path is written without empty names and dots, and read back from what is written. So a path is
written in the same way however it was spelt.
-/

namespace SecureExchange

open Text

theorem Text.not_mem_of_mem_pieces {d : Char} {s piece : List Char} (h : piece ∈ pieces d s) :
    d ∉ piece := by
  induction s generalizing piece with
  | nil =>
      rw [pieces, List.mem_singleton] at h
      simp [h]
  | cons x rest ih =>
      cases hx : x == d with
      | true =>
          rw [pieces, if_pos hx, List.mem_cons] at h
          rcases h with rfl | h
          · simp
          · exact ih h
      | false =>
          have hne : d ≠ x := fun e ↦ by simp [e] at hx
          cases hp : pieces d rest with
          | nil => exact absurd hp (pieces_ne_nil d rest)
          | cons p ps =>
              rw [hp] at ih
              simp only [pieces, hx, hp, Bool.false_eq_true, if_false, List.mem_cons] at h
              rcases h with rfl | h
              · simp [hne, ih List.mem_cons_self]
              · exact ih (List.mem_cons_of_mem p h)

namespace Credential.Path

variable {p : Path} {s t : List Char}

/-- At most two slashes, and then names with no slash in them that are neither empty nor a dot. -/
structure IsNormal (p : Path) : Prop where
  root : p.root = [] ∨ p.root = ['/'] ∨ p.root = ['/', '/']
  names : ∀ n ∈ p.names, isName n = true ∧ '/' ∉ n

theorem rootOf_cases (s : List Char) :
    rootOf s = [] ∨ rootOf s = ['/'] ∨ rootOf s = ['/', '/'] := by
  unfold rootOf
  split <;> simp

theorem ofText_isNormal (s : List Char) : (ofText s).IsNormal where
  root := rootOf_cases s
  names _ hn := ⟨(List.mem_filter.mp hn).2, not_mem_of_mem_pieces (List.mem_filter.mp hn).1⟩

/-- Names that are joined begin with the first name. -/
theorem head?_join {names : List (List Char)} (h : ∀ n ∈ names, isName n = true ∧ '/' ∉ n) :
    (join '/' names).head? ≠ some '/' := by
  cases names with
  | nil => simp [join]
  | cons n rest =>
      obtain ⟨hname, hslash⟩ := h n List.mem_cons_self
      cases n with
      | nil => simp [isName] at hname
      | cons c n =>
          have hc : c ≠ '/' := fun e ↦ hslash (e ▸ List.mem_cons_self)
          cases rest <;> simp [join, hc]

theorem filter_pieces_join {names : List (List Char)}
    (h : ∀ n ∈ names, isName n = true ∧ '/' ∉ n) :
    (pieces '/' (join '/' names)).filter isName = names := by
  by_cases hnil : names = []
  · rw [hnil]
    decide
  · rw [pieces_join hnil fun n hn ↦ (h n hn).2, List.filter_eq_self]
    exact fun n hn ↦ (h n hn).1

theorem rootOf_append_join {root : List Char}
    (hroot : root = [] ∨ root = ['/'] ∨ root = ['/', '/']) (ht : t.head? ≠ some '/') :
    rootOf (root ++ t) = root := by
  rcases hroot with rfl | rfl | rfl <;> cases t <;> simp_all [rootOf]

theorem filter_pieces_root_append {root : List Char}
    (hroot : root = [] ∨ root = ['/'] ∨ root = ['/', '/']) (t : List Char) :
    (pieces '/' (root ++ t)).filter isName = (pieces '/' t).filter isName := by
  rcases hroot with rfl | rfl | rfl <;> simp [pieces, isName]

/-- A path in normal form is read back. -/
theorem ofText_toText (h : p.IsNormal) : ofText p.toText = p := by
  have hroot := rootOf_append_join h.root (head?_join h.names)
  have hnames := filter_pieces_join h.names
  rw [← filter_pieces_root_append h.root] at hnames
  by_cases hempty : p.root.isEmpty && p.names.isEmpty
  · obtain ⟨root, names⟩ := p
    obtain ⟨rfl, rfl⟩ : root = [] ∧ names = [] := by simpa using hempty
    decide
  · rw [toText, if_neg hempty, ofText, hroot, hnames]

end Credential.Path

end SecureExchange
