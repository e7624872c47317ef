import OptionalContainers.Journal

namespace OptionalContainers

/-- Storage that handles share. Nothing is stored for an empty content, so there is one empty
storage, and two full ones are the same if they lie in one cell. -/
inductive Stored (σ : Type) where
  | empty
  | held (cell : Nat) (content : σ)
  deriving Repr

namespace Stored

variable {σ : Type}

def Filled (p : σ → Prop) : Stored σ → Prop
  | .empty => True
  | .held _ content => p content

def isEmpty : Stored σ → Bool
  | .empty => true
  | .held _ _ => false

def content? : Stored σ → Option σ
  | .empty => none
  | .held _ content => some content

def listed {α : Type} (list : σ → List α) : Stored σ → List α
  | .empty => []
  | .held _ content => list content

def shares : Stored σ → Stored σ → Bool
  | .empty, .empty => true
  | .held a _, .held b _ => a == b
  | _, _ => false

theorem Filled.isEmpty_eq {α : Type} {list : σ → List α} {s : Stored σ}
    (h : s.Filled (list · ≠ [])) : s.isEmpty = (s.listed list).isEmpty := by
  cases s with
  | empty => rfl
  | held cell content => exact (List.isEmpty_eq_false_iff.mpr h).symm

theorem shares_self (s : Stored σ) : s.shares s = true := by
  cases s <;> simp [shares]

theorem shares_cases {s t : Stored σ} (h : s.shares t = true) :
    (s = .empty ∧ t = .empty) ∨
      ∃ cell a b, s = .held cell a ∧ t = .held cell b := by
  cases s <;> cases t <;> simp_all [shares]

theorem shares_comm (s t : Stored σ) : s.shares t = t.shares s := by
  cases s <;> cases t <;> simp [shares, BEq.comm]

end Stored

end OptionalContainers
