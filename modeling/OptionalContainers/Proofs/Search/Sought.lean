import OptionalContainers.Proofs.Search.FirstMatch

namespace OptionalContainers

variable {α β : Type}

inductive Sought (p : α → Bool) : List α → Bool × Option (List α) → Prop
  | found {before after : List α} {x : α} (hbefore : ∀ y ∈ before, p y = false)
      (hx : p x = true) : Sought p (before ++ x :: after) (true, some after)
  | missed {xs : List α} (h : ∀ x ∈ xs, p x = false) : Sought p xs (false, some [])

theorem seek_append_of_false {p : α → Bool} {before : List α} (h : ∀ y ∈ before, p y = false)
    (rest : List α) : seek p (before ++ rest) = seek p rest := by
  induction before with
  | nil => rfl
  | cons y before ih =>
      obtain ⟨hy, hbefore⟩ := List.forall_mem_cons.mp h
      rw [List.cons_append, seek, hy, if_neg Bool.false_ne_true, ih hbefore]

theorem sought_iff {p : α → Bool} {xs : List α} {result : Bool × Option (List α)} :
    ((seek p xs).1.isSome, some (seek p xs).2) = result ↔ Sought p xs result := by
  constructor
  · rintro rfl
    obtain ⟨before, x, after, rfl, hbefore, hx, hseek⟩ | ⟨hnone, hseek⟩ := seek_cases p xs
    · rw [hseek]
      exact .found hbefore hx
    · rw [hseek]
      exact .missed hnone
  · intro h
    cases h with
    | found hbefore hx =>
        rw [seek_append_of_false hbefore, seek, if_pos hx]
        rfl
    | missed hnone =>
        have hseek := seek_append_of_false hnone []
        rw [List.append_nil] at hseek
        rw [hseek]
        rfl

theorem Sought.eq_true_iff {p : α → Bool} {xs : List α} {result : Bool × Option (List α)}
    (h : Sought p xs result) : result.1 = true ↔ ∃ x ∈ xs, p x = true := by
  cases h with
  | @found before after x hbefore hx =>
      exact iff_of_true rfl ⟨x, List.mem_append_right before List.mem_cons_self, hx⟩
  | missed hnone =>
      refine iff_of_false Bool.false_ne_true ?_
      rintro ⟨x, hx, hpx⟩
      exact absurd ((hnone x hx).symm.trans hpx) Bool.false_ne_true

theorem seek_map (p : β → Bool) (f : α → β) (xs : List α) :
    seek p (xs.map f) =
      ((seek (fun x => p (f x)) xs).1.map f, (seek (fun x => p (f x)) xs).2.map f) := by
  induction xs with
  | nil => rfl
  | cons x rest ih =>
      rw [List.map_cons, seek, seek]
      split
      · rfl
      · exact ih

end OptionalContainers
