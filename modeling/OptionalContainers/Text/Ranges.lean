namespace OptionalContainers.Text

abbrev Range := Nat × Nat

def ascendFrom : Nat → List Range → Bool
  | _, [] => true
  | bound, (least, greatest) :: rest =>
      bound ≤ least && least ≤ greatest && ascendFrom (greatest + 1) rest

def covered : List Range → Char → Bool
  | [], _ => false
  | (least, greatest) :: rest, c =>
      least ≤ c.toNat && (c.toNat ≤ greatest || covered rest c)

theorem bound_le_of_ascendFrom {bound : Nat} {ranges : List Range} {r : Range}
    (h : ascendFrom bound ranges = true) (hr : r ∈ ranges) : bound ≤ r.1 := by
  induction ranges generalizing bound with
  | nil => simp at hr
  | cons s rest ih =>
      simp only [ascendFrom, Bool.and_eq_true, decide_eq_true_eq] at h
      rcases List.mem_cons.mp hr with rfl | hr
      · exact h.1.1
      · have := ih h.2 hr
        omega

theorem covered_iff {bound : Nat} {ranges : List Range} (h : ascendFrom bound ranges = true)
    (c : Char) : covered ranges c = true ↔ ∃ r ∈ ranges, r.1 ≤ c.toNat ∧ c.toNat ≤ r.2 := by
  induction ranges generalizing bound with
  | nil => simp [covered]
  | cons s rest ih =>
      simp only [ascendFrom, Bool.and_eq_true, decide_eq_true_eq] at h
      have hrest := ih h.2
      simp only [covered, Bool.and_eq_true, Bool.or_eq_true, decide_eq_true_eq, hrest,
        List.mem_cons, exists_eq_or_imp]
      constructor
      · rintro ⟨hleast, hgreatest | hin⟩
        · exact .inl ⟨hleast, hgreatest⟩
        · exact .inr hin
      · rintro (⟨hleast, hgreatest⟩ | ⟨r, hr, hin⟩)
        · exact ⟨hleast, .inl hgreatest⟩
        · have := bound_le_of_ascendFrom h.2 hr
          exact ⟨by omega, .inr ⟨r, hr, hin⟩⟩

end OptionalContainers.Text
