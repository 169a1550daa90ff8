/-!
# Maps in order of arrival

Keys keep the place of their first arrival and the value of their last. A map is a list of pairs
without repeated keys; `insert` keeps it so, and `get?` is the view that the lemmas speak about.
-/

namespace SecureExchange

abbrev OrderedMap (κ α : Type) := List (κ × α)

namespace OrderedMap

variable {κ α : Type} [BEq κ]

def insert (k : κ) (a : α) : OrderedMap κ α → OrderedMap κ α
  | [] => [(k, a)]
  | (k', a') :: rest => if k' == k then (k, a) :: rest else (k', a') :: insert k a rest

def get? (k : κ) : OrderedMap κ α → Option α
  | [] => none
  | (k', a) :: rest => if k' == k then some a else get? k rest

def contains (k : κ) (m : OrderedMap κ α) : Bool := m.any (·.1 == k)

/-- Keeps what is there, and appends the pair if the key is new. -/
def insertIfNew (k : κ) (a : α) (m : OrderedMap κ α) : OrderedMap κ α :=
  if contains k m then m else m ++ [(k, a)]

def ofList (pairs : List (κ × α)) : OrderedMap κ α :=
  pairs.foldl (fun m p ↦ insert p.1 p.2 m) []

/-- All of `m`, then all of `n`, whose values win. -/
def update (m n : OrderedMap κ α) : OrderedMap κ α :=
  n.foldl (fun m p ↦ insert p.1 p.2 m) m

/-- Collects the values of each key, in order of arrival. -/
def group (pairs : List (κ × α)) : OrderedMap κ (List α) :=
  pairs.foldl (fun m p ↦ insert p.1 ((get? p.1 m).getD [] ++ [p.2]) m) []

def keys (m : OrderedMap κ α) : List κ := m.map Prod.fst

section Lemmas

variable [LawfulBEq κ]

@[simp] theorem get?_insert_self (k : κ) (a : α) (m : OrderedMap κ α) :
    get? k (insert k a m) = some a := by
  induction m with
  | nil => simp [insert, get?]
  | cons p rest ih =>
      obtain ⟨k', a'⟩ := p
      cases h : k' == k <;> simp [insert, get?, h, ih]

theorem get?_insert_of_ne {k k' : κ} (h : k' ≠ k) (a : α) (m : OrderedMap κ α) :
    get? k' (insert k a m) = get? k' m := by
  have hk : (k == k') = false := by simpa using fun e ↦ h e.symm
  induction m with
  | nil => simp [insert, get?, hk]
  | cons p rest ih =>
      obtain ⟨k₁, a₁⟩ := p
      cases h₁ : k₁ == k with
      | true => simp [insert, get?, hk, eq_of_beq h₁]
      | false => simp [insert, get?, h₁, ih]

end Lemmas

end OrderedMap

end SecureExchange
