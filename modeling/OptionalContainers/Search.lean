import OptionalContainers.Capability

namespace OptionalContainers

variable {α β σ : Type}

def seek (p : α → Bool) : List α → Option α × List α
  | [] => (none, [])
  | x :: rest => if p x then (some x, rest) else seek p rest

def seekIn (p : α → Bool) : Option (List α) → Option α × Option (List α)
  | none => (none, none)
  | some xs => ((seek p xs).1, some (seek p xs).2)

def contains [Probe α β] [BEq β] (cursor : Option (List α)) (probe : β) :
    Bool × Option (List α) :=
  let (found, rest) := seekIn (Probe.form · == probe) cursor
  (found.isSome, rest)

def firstMatch [Members σ α] (source : Option σ) (candidates : Option (List α)) :
    Option α × Option (List α) :=
  match source with
  | none => (none, candidates)
  | some s => if size s == 0 then (none, candidates) else seekIn (hasMember s) candidates

def intersects [Members σ α] (source : Option σ) (candidates : Option (List α)) :
    Bool × Option (List α) :=
  let (found, rest) := firstMatch source candidates
  (found.isSome, rest)

theorem seek_fst (p : α → Bool) (xs : List α) : (seek p xs).1 = xs.find? p := by
  induction xs with
  | nil => rfl
  | cons x rest ih =>
      simp only [seek, List.find?_cons]
      split <;> simp_all

end OptionalContainers
