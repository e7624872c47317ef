import OptionalContainers.Capability

namespace OptionalContainers

variable {α : Type} [BEq α]

def Distinct (xs : List α) : Prop :=
  xs.Pairwise fun a b => (a == b) = false

theorem Distinct.append_new {xs : List α} {x : α} (h : Distinct xs)
    (hx : scan xs x = false) : Distinct (xs ++ [x]) := by
  simp only [Distinct, List.pairwise_append, List.pairwise_singleton, List.mem_singleton,
    forall_eq, true_and]
  refine ⟨h, fun a ha => ?_⟩
  simp only [scan, List.any_eq_false] at hx
  simpa using hx a ha

def addNew (seen : List α) (x : α) : List α :=
  if scan seen x then seen else seen ++ [x]

def firstOccurrences (xs : List α) : List α :=
  xs.foldl addNew []

theorem distinct_addNew {seen : List α} (h : Distinct seen) (x : α) : Distinct (addNew seen x) := by
  unfold addNew
  split
  next => exact h
  next hx => exact h.append_new (by simpa using hx)

theorem distinct_foldl_addNew {seen : List α} (h : Distinct seen) (xs : List α) :
    Distinct (xs.foldl addNew seen) := by
  induction xs generalizing seen with
  | nil => exact h
  | cons x rest ih => exact ih (distinct_addNew h x)

theorem distinct_firstOccurrences (xs : List α) : Distinct (firstOccurrences xs) :=
  distinct_foldl_addNew .nil xs

theorem Distinct.scan_eq_false {seen rest : List α} {x : α} (h : Distinct (seen ++ x :: rest)) :
    scan seen x = false := by
  rw [scan, List.any_eq_false]
  intro y hy
  simpa using (List.pairwise_append.mp h).2.2 y hy x List.mem_cons_self

theorem foldl_addNew_of_distinct {seen xs : List α} (h : Distinct (seen ++ xs)) :
    xs.foldl addNew seen = seen ++ xs := by
  induction xs generalizing seen with
  | nil => simp
  | cons x rest ih =>
      have hx : scan seen x = false := h.scan_eq_false
      have hstep : addNew seen x = seen ++ [x] := by
        simp [addNew, hx]
      rw [List.foldl_cons, hstep, ih (by simpa using h)]
      simp

theorem firstOccurrences_of_distinct {xs : List α} (h : Distinct xs) :
    firstOccurrences xs = xs :=
  foldl_addNew_of_distinct h

theorem firstOccurrences_append (xs ys : List α) :
    firstOccurrences (xs ++ ys) = ys.foldl addNew (firstOccurrences xs) :=
  List.foldl_append

theorem firstOccurrences_firstOccurrences_append (xs ys : List α) :
    firstOccurrences (firstOccurrences xs ++ ys) = firstOccurrences (xs ++ ys) := by
  have hkept : firstOccurrences (firstOccurrences xs) = firstOccurrences xs :=
    firstOccurrences_of_distinct (distinct_firstOccurrences xs)
  rw [firstOccurrences_append, firstOccurrences_append, hkept]

theorem prefix_addNew (seen : List α) (x : α) : seen <+: addNew seen x := by
  unfold addNew
  split
  · exact List.prefix_refl seen
  · exact List.prefix_append seen [x]

theorem prefix_foldl_addNew (seen xs : List α) : seen <+: xs.foldl addNew seen := by
  induction xs generalizing seen with
  | nil => exact List.prefix_refl seen
  | cons x rest ih => exact (prefix_addNew seen x).trans (ih (addNew seen x))

theorem prefix_firstOccurrences_append {xs : List α} (h : Distinct xs) (ys : List α) :
    xs <+: firstOccurrences (xs ++ ys) := by
  rw [firstOccurrences_append, firstOccurrences_of_distinct h]
  exact prefix_foldl_addNew xs ys

theorem foldl_addNew_of_scan {seen xs : List α} (h : ∀ x ∈ xs, scan seen x = true) :
    xs.foldl addNew seen = seen := by
  induction xs with
  | nil => rfl
  | cons x rest ih =>
      have hx : addNew seen x = seen := by
        rw [addNew, if_pos (h x List.mem_cons_self)]
      rw [List.foldl_cons, hx]
      exact ih fun y hy => h y (List.mem_cons_of_mem x hy)

theorem any_foldl_addNew {p : α → Bool}
    (hp : ∀ a b, (a == b) = true → p b = true → p a = true) (xs seen : List α) :
    (xs.foldl addNew seen).any p = (seen ++ xs).any p := by
  induction xs generalizing seen with
  | nil => simp
  | cons x rest ih =>
      rw [List.foldl_cons, ih]
      unfold addNew
      split
      next hx =>
        obtain ⟨y, hy, hyx⟩ := scan_eq_true_iff.mp hx
        have hseen : p x = true → seen.any p = true := fun hpx =>
          List.any_eq_true.mpr ⟨y, hy, hp y x hyx hpx⟩
        cases hpx : p x <;> simp_all
      next => simp

theorem any_firstOccurrences {p : α → Bool}
    (hp : ∀ a b, (a == b) = true → p b = true → p a = true) (xs : List α) :
    (firstOccurrences xs).any p = xs.any p :=
  any_foldl_addNew hp xs []

theorem mem_firstOccurrences [LawfulBEq α] {xs : List α} {x : α} :
    x ∈ firstOccurrences xs ↔ x ∈ xs := by
  have h := any_firstOccurrences (p := (· == x)) (by simp_all) xs
  rw [Bool.eq_iff_iff] at h
  simpa using h

theorem Distinct.nodup [LawfulBEq α] {xs : List α} (h : Distinct xs) : xs.Nodup :=
  h.imp fun hne => by simpa using hne

theorem distinct_of_nodup [LawfulBEq α] {xs : List α} (h : xs.Nodup) : Distinct xs :=
  h.imp fun hne => by simpa using hne

end OptionalContainers
