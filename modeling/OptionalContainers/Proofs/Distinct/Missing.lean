import OptionalContainers.Proofs.Distinct.Covering

namespace OptionalContainers

variable {α : Type} [BEq α]

/-- What of the second list the first lacks, each class once and in its first spelling. -/
def missing (held xs : List α) : List α :=
  firstOccurrences (xs.filter fun x => !scan held x)

theorem foldl_addNew_append (held seen xs : List α) :
    xs.foldl addNew (held ++ seen) =
      held ++ (xs.filter fun x => !scan held x).foldl addNew seen := by
  induction xs generalizing seen with
  | nil => rfl
  | cons x rest ih =>
      cases hx : scan held x with
      | true =>
          have hstep : addNew (held ++ seen) x = held ++ seen := by
            rw [addNew, scan_append, hx, Bool.true_or, if_pos rfl]
          rw [List.foldl_cons, hstep, ih, List.filter_cons_of_neg (by simp [hx])]
      | false =>
          have hstep : addNew (held ++ seen) x = held ++ addNew seen x := by
            rw [addNew, addNew, scan_append, hx, Bool.false_or]
            split <;> simp
          rw [List.foldl_cons, hstep, ih, List.filter_cons_of_pos (by simp [hx]), List.foldl_cons]

theorem foldl_addNew_eq (held xs : List α) : xs.foldl addNew held = held ++ missing held xs := by
  have happend := foldl_addNew_append held [] xs
  rwa [List.append_nil] at happend

theorem missing_cons_held {held : List α} {x : α} (h : scan held x = true) (rest : List α) :
    missing held (x :: rest) = missing held rest := by
  rw [missing, List.filter_cons_of_neg (by simp [h]), missing]

theorem missing_cons_new {held : List α} {x : α} (h : scan held x = false) (rest : List α) :
    missing held (x :: rest) = x :: missing (held ++ [x]) rest := by
  have hcons := foldl_addNew_eq held (x :: rest)
  have hstep : addNew held x = held ++ [x] := by
    rw [addNew, h, if_neg Bool.false_ne_true]
  rw [List.foldl_cons, hstep, foldl_addNew_eq, List.append_assoc] at hcons
  exact (List.append_cancel_left hcons).symm

theorem missing_congr {held held' : List α} (h : ∀ x, scan held x = scan held' x)
    (xs : List α) : missing held xs = missing held' xs := by
  simp only [missing, h]

theorem missing_eq_nil {held xs : List α} (h : Covers held xs) : missing held xs = [] := by
  rw [missing, List.filter_eq_nil_iff.mpr]
  · rfl
  · intro x hx
    simp [h x hx]

theorem distinct_append_missing {held : List α} (h : Distinct held) (xs : List α) :
    Distinct (held ++ missing held xs) := by
  rw [← foldl_addNew_eq]
  exact distinct_foldl_addNew h xs

theorem foldl_addNew_sublist (seen xs : List α) : (xs.foldl addNew seen).Sublist (seen ++ xs) := by
  induction xs generalizing seen with
  | nil => simp
  | cons x rest ih =>
      have hstep : (addNew seen x).Sublist (seen ++ [x]) := by
        unfold addNew
        split
        · exact List.sublist_append_left seen [x]
        · exact .refl _
      rw [List.foldl_cons, ← List.singleton_append, ← List.append_assoc]
      exact (ih (addNew seen x)).trans (hstep.append_right rest)

theorem firstOccurrences_sublist (xs : List α) : (firstOccurrences xs).Sublist xs :=
  foldl_addNew_sublist [] xs

structure Lacked (held xs new : List α) : Prop where
  sublist : new.Sublist xs
  distinct : Distinct new
  unseen {x : α} (hx : x ∈ new) : scan held x = false
  exhaustive {x : α} (hx : x ∈ xs) : scan held x = true ∨ scan new x = true

theorem lacked_missing [EquivBEq α] (held xs : List α) : Lacked held xs (missing held xs) where
  sublist := (firstOccurrences_sublist _).trans List.filter_sublist
  distinct := distinct_firstOccurrences _
  unseen hx := by
    have hfiltered := (firstOccurrences_sublist _).subset hx
    simpa using (List.mem_filter.mp hfiltered).2
  exhaustive {x} hx := by
    cases hheld : scan held x with
    | true => exact .inl rfl
    | false =>
        right
        rw [missing, scan_firstOccurrences]
        exact covers_self _ x (List.mem_filter.mpr ⟨hx, by simp [hheld]⟩)

theorem scan_append_missing [PartialEquivBEq α] (held xs : List α) (x : α) :
    scan (held ++ missing held xs) x = (scan held x || scan xs x) := by
  rw [← foldl_addNew_eq, ← scan_append]
  exact any_foldl_addNew (fun _ _ hab hb => PartialEquivBEq.trans hab hb) xs held

theorem length_eq_of_scan_eq [EquivBEq α] {xs ys : List α} (hx : Distinct xs) (hy : Distinct ys)
    (h : ∀ x, scan xs x = scan ys x) : xs.length = ys.length :=
  ((length_eq_and_covers_iff hx hy).mpr (mutual_covers_iff.mpr h).symm).1

theorem Distinct.perm [PartialEquivBEq α] {xs ys : List α} (h : Distinct xs) (hperm : xs.Perm ys) :
    Distinct ys :=
  List.Pairwise.perm h hperm fun hab => BEq.comm.trans hab

theorem scan_eq_of_perm {xs ys : List α} (h : xs.Perm ys) (x : α) : scan xs x = scan ys x :=
  h.any_eq

theorem length_missing_of_perm [EquivBEq α] {held xs ys : List α} (h : Distinct held)
    (hperm : xs.Perm ys) : (missing held xs).length = (missing held ys).length := by
  have hlength : (held ++ missing held xs).length = (held ++ missing held ys).length := by
    refine length_eq_of_scan_eq (distinct_append_missing h xs) (distinct_append_missing h ys) ?_
    intro x
    rw [scan_append_missing, scan_append_missing, scan_eq_of_perm hperm]
  simpa using hlength

end OptionalContainers
