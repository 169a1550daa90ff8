/-!
# Cutting a text at a character

`cut` divides at the first occurrence, `cutLast` at the last, and `pieces` at every one. The lemmas
say that nothing but the dividing character is lost and where it can no longer occur. `occurs` looks
for a whole word.
-/

namespace SecureExchange.Text

variable {α : Type} [BEq α] [LawfulBEq α]

/-- The text before the first `c`, and the text after it if `c` occurs. -/
def cut (c : α) : List α → List α × Option (List α)
  | [] => ([], none)
  | x :: rest => if x == c then ([], some rest) else (x :: (cut c rest).1, (cut c rest).2)

/-- The text before the last `c` if `c` occurs, and the text after it. -/
def cutLast (c : α) : List α → Option (List α) × List α
  | [] => (none, [])
  | x :: rest =>
    match cutLast c rest with
    | (some before, after) => (some (x :: before), after)
    | (none, after) => if x == c then (some [], after) else (none, x :: after)

/-- The texts between all occurrences of `c`. -/
def pieces (c : α) : List α → List (List α)
  | [] => [[]]
  | x :: rest =>
    if x == c then [] :: pieces c rest
    else match pieces c rest with
      | [] => [[x]]
      | p :: ps => (x :: p) :: ps

def join (c : α) : List (List α) → List α
  | [] => []
  | [p] => p
  | p :: q :: ps => p ++ c :: join c (q :: ps)

/-- `word` stands somewhere in the text. -/
def occurs (word : List α) : List α → Bool
  | [] => word.isEmpty
  | c :: rest => word.isPrefixOf (c :: rest) || occurs word rest

theorem cut_of_not_mem {c : α} {s : List α} (h : c ∉ s) : cut c s = (s, none) := by
  induction s with
  | nil => rfl
  | cons x rest ih =>
      simp only [List.mem_cons, not_or] at h
      have hx : (x == c) = false := by simpa using fun e ↦ h.1 e.symm
      simp [cut, hx, ih h.2]

theorem cut_append {c : α} {s : List α} (h : c ∉ s) (t : List α) :
    cut c (s ++ c :: t) = (s, some t) := by
  induction s with
  | nil => simp [cut]
  | cons x rest ih =>
      simp only [List.mem_cons, not_or] at h
      have hx : (x == c) = false := by simpa using fun e ↦ h.1 e.symm
      simp [cut, hx, ih h.2]

theorem not_mem_cut_fst (c : α) (s : List α) : c ∉ (cut c s).1 := by
  induction s with
  | nil => simp [cut]
  | cons x rest ih =>
      cases hx : x == c with
      | true => simp [cut, hx]
      | false =>
          have hne : c ≠ x := fun e ↦ by simp [e] at hx
          simp [cut, hx, ih, hne]

theorem eq_of_cut_some {c : α} {s a b : List α} (h : cut c s = (a, some b)) :
    s = a ++ c :: b := by
  induction s generalizing a with
  | nil => simp [cut] at h
  | cons x rest ih =>
      cases hx : x == c with
      | true =>
          simp only [cut, hx, if_true, Prod.mk.injEq, Option.some.injEq] at h
          simp [← h.1, ← h.2, eq_of_beq hx]
      | false =>
          simp only [cut, hx, Bool.false_eq_true, if_false, Prod.mk.injEq] at h
          obtain ⟨rfl, h2⟩ := h
          simpa using ih (Prod.ext rfl h2)

omit [LawfulBEq α] in
theorem eq_of_cut_none {c : α} {s a : List α} (h : cut c s = (a, none)) : s = a := by
  induction s generalizing a with
  | nil => simpa [cut] using h
  | cons x rest ih =>
      cases hx : x == c with
      | true => simp [cut, hx] at h
      | false =>
          simp only [cut, hx, Bool.false_eq_true, if_false, Prod.mk.injEq] at h
          obtain ⟨rfl, h2⟩ := h
          exact congrArg (x :: ·) (ih (Prod.ext rfl h2))

omit [LawfulBEq α] in
theorem pieces_ne_nil (c : α) (s : List α) : pieces c s ≠ [] := by
  cases s with
  | nil => simp [pieces]
  | cons x rest =>
      simp only [pieces]
      split
      · simp
      · split <;> simp

theorem join_pieces (c : α) (s : List α) : join c (pieces c s) = s := by
  induction s with
  | nil => rfl
  | cons x rest ih =>
      cases hp : pieces c rest with
      | nil => exact absurd hp (pieces_ne_nil c rest)
      | cons p ps =>
          rw [hp] at ih
          cases hx : x == c with
          | true => simp [pieces, hp, join, ih, eq_of_beq hx]
          | false => cases ps <;> simp_all [pieces, join]

end SecureExchange.Text
