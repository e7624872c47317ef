import Mathlib.Data.Bool.Count
import OptionalContainers.Proofs.Distinct.Acceptance

namespace OptionalContainers

variable {α : Type} [BEq α] [Hashable α]

namespace Index

-- A place is given only for an element found equal, whatever the hashes are.
theorem place?_eq_none {ix : Index α} {x : α} (h : scan ix.elements.toList x = false) :
    ix.place? x = none := by
  rw [place?, Array.find?_eq_none]
  intro place _ hfound
  obtain ⟨y, hy, hyx⟩ := (Option.any_eq_true _ _).mp hfound
  have hmem : y ∈ ix.elements.toList := Array.mem_toList_iff.mpr (Array.mem_of_getElem? hy)
  exact Bool.false_ne_true (h.symm.trans (scan_eq_true_iff.mpr ⟨y, hmem, hyx⟩))

omit [BEq α] in
theorem toList_append (ix : Index α) (x : α) :
    (ix.append x).elements.toList = ix.elements.toList ++ [x] :=
  Array.toList_push

theorem insert_of_new {ix : Index α} {x : α} (h : scan ix.elements.toList x = false) :
    ix.insert x = (true, ix.append x) := by
  rw [insert, place?_eq_none h]

theorem insert_cases (ix : Index α) (x : α) :
    ix.insert x = (true, ix.append x) ∨
      (ix.insert x = (false, ix) ∧ scan ix.elements.toList x = true) := by
  cases hx : scan ix.elements.toList x with
  | false => exact .inl (insert_of_new hx)
  | true =>
      rw [insert]
      cases ix.place? x with
      | none => exact .inl rfl
      | some place => exact .inr ⟨rfl, rfl⟩

theorem toList_insertAll_of_distinct {ix : Index α} {xs : List α}
    (h : Distinct (ix.elements.toList ++ xs)) :
    (ix.insertAll xs).elements.toList = ix.elements.toList ++ xs := by
  induction xs generalizing ix with
  | nil => simp [insertAll]
  | cons x rest ih =>
      have hx : scan ix.elements.toList x = false := h.scan_eq_false
      have hgrown : (ix.insert x).2.elements.toList = ix.elements.toList ++ [x] := by
        rw [insert_of_new hx, toList_append]
      have hrest : Distinct ((ix.insert x).2.elements.toList ++ rest) := by
        rw [hgrown, List.append_assoc, List.singleton_append]
        exact h
      rw [insertAll, List.foldl_cons]
      refine (ih hrest).trans ?_
      rw [hgrown, List.append_assoc, List.singleton_append]

end Index

namespace Stage

def Apart : Stage α → Prop
  | .scanned xs => Distinct xs
  | .indexed _ => True

omit [Hashable α] in
theorem apart_withCapacity (capacity : Nat) : (withCapacity capacity : Stage α).Apart := by
  unfold withCapacity
  split
  · trivial
  · exact .nil

theorem toList_promote_of_new {xs : List α} {x : α} (h : Distinct xs) (hx : scan xs x = false) :
    (promote xs x).elements.toList = xs ++ [x] := by
  have hstart : Distinct ((Index.empty : Index α).elements.toList ++ xs) := h
  have hall : (Index.empty.insertAll xs).elements.toList = xs :=
    Index.toList_insertAll_of_distinct hstart
  rw [promote, Index.insert_of_new (hall.symm ▸ hx), Index.toList_append, hall]

theorem insert_cases {stage : Stage α} (h : stage.Apart) (x : α) :
    (∃ grown, stage.insert x = (true, grown) ∧ grown.elements = stage.elements ++ [x] ∧
        grown.Apart) ∨
      (stage.insert x = (false, stage) ∧ scan stage.elements x = true) := by
  cases stage with
  | scanned xs =>
      cases hx : scan xs x with
      | true => exact .inr ⟨by rw [insert, if_pos hx], hx⟩
      | false =>
          simp only [insert, hx, Bool.false_eq_true, if_false]
          split
          · exact .inl ⟨_, rfl, rfl, h.append_new hx⟩
          · exact .inl ⟨_, rfl, toList_promote_of_new h hx, trivial⟩
  | indexed ix =>
      rcases ix.insert_cases x with hnew | ⟨hold, hx⟩
      · exact .inl ⟨.indexed (ix.append x), by rw [insert, hnew], ix.toList_append x, trivial⟩
      · exact .inr ⟨by rw [insert, hold], hx⟩

end Stage

namespace Draft

def answers (d : Draft α) : List α → List Bool
  | [] => []
  | x :: rest => (d.insert x).1 :: answers (d.insert x).2 rest

variable {d : Draft α}

theorem insert_cases (h : d.stage.Apart) (x : α) :
    (∃ grown, d.insert x = (true, ⟨grown, d.refused⟩) ∧ grown.elements = d.elements ++ [x] ∧
        grown.Apart) ∨
      (d.insert x = (false, ⟨d.stage, d.refused + 1⟩) ∧ scan d.elements x = true) := by
  rcases Stage.insert_cases h x with ⟨grown, hinsert, hgrown, hapart⟩ | ⟨hinsert, hx⟩
  · refine .inl ⟨grown, ?_, hgrown, hapart⟩
    simp only [insert, hinsert, if_true]
  · refine .inr ⟨?_, hx⟩
    simp only [insert, hinsert, Bool.false_eq_true, if_false]

theorem count_answers (d : Draft α) (xs : List α) :
    (d.answers xs).count true + (d.answers xs).count false = xs.length := by
  rw [List.count_true_add_count_false]
  induction xs generalizing d with
  | nil => rfl
  | cons x rest ih => rw [answers, List.length_cons, ih, List.length_cons]

structure Counted (d grown : Draft α) (answers : List Bool) : Prop where
  apart : grown.stage.Apart
  length : grown.elements.length = d.elements.length + answers.count true
  refused : grown.refused = d.refused + answers.count false

omit [Hashable α] in
theorem Counted.trans {middle grown : Draft α} {first second : List Bool}
    (h : Counted d middle first) (h' : Counted middle grown second) :
    Counted d grown (first ++ second) where
  apart := h'.apart
  length := by rw [h'.length, h.length, List.count_append, Nat.add_assoc]
  refused := by rw [h'.refused, h.refused, List.count_append, Nat.add_assoc]

theorem counted_insert (h : d.stage.Apart) (x : α) :
    Counted d (d.insert x).2 [(d.insert x).1] := by
  rcases insert_cases h x with ⟨grown, hinsert, hgrown, hapart⟩ | ⟨hinsert, -⟩
  · rw [hinsert]
    refine ⟨hapart, ?_, rfl⟩
    have hlength := congrArg List.length hgrown
    rwa [List.length_append] at hlength
  · rw [hinsert]
    exact ⟨h, rfl, rfl⟩

theorem counted_extend (h : d.stage.Apart) (xs : List α) :
    Counted d (d.extend xs) (d.answers xs) := by
  induction xs generalizing d with
  | nil => exact ⟨h, rfl, rfl⟩
  | cons x rest ih =>
      have hstep := counted_insert h x
      exact hstep.trans (ih hstep.apart)

omit [BEq α] [Hashable α] in
theorem elements_withCapacity (capacity : Nat) : (withCapacity capacity : Draft α).elements = [] :=
  Stage.elements_withCapacity capacity

theorem counted_extend_withCapacity (capacity : Nat) (xs : List α) :
    Counted (withCapacity capacity) ((withCapacity capacity).extend xs)
      ((withCapacity capacity).answers xs) :=
  counted_extend (Stage.apart_withCapacity capacity) xs

theorem length_extend_withCapacity (capacity : Nat) (xs : List α) :
    ((withCapacity capacity).extend xs).elements.length =
      ((withCapacity capacity).answers xs).count true := by
  rw [(counted_extend_withCapacity capacity xs).length, elements_withCapacity, List.length_nil,
    Nat.zero_add]

theorem refused_extend_withCapacity (capacity : Nat) (xs : List α) :
    ((withCapacity capacity).extend xs).refused =
      ((withCapacity capacity).answers xs).count false := by
  rw [(counted_extend_withCapacity capacity xs).refused, withCapacity, Nat.zero_add]

theorem extend_of_distinct {xs : List α} (h : d.stage.Apart) (hd : Distinct (d.elements ++ xs)) :
    (d.extend xs).elements = d.elements ++ xs ∧ (d.extend xs).refused = d.refused := by
  induction xs generalizing d with
  | nil => exact ⟨(List.append_nil _).symm, rfl⟩
  | cons x rest ih =>
      rcases insert_cases h x with ⟨grown, hinsert, hgrown, hapart⟩ | ⟨-, hx⟩
      · have hlonger : Draft.elements ⟨grown, d.refused⟩ ++ rest = d.elements ++ x :: rest := by
          rw [elements, hgrown, List.append_assoc, List.singleton_append]
        rw [extend, List.foldl_cons, hinsert, ← hlonger]
        exact ih hapart (hlonger.symm ▸ hd)
      · exact (Bool.false_ne_true (hd.scan_eq_false.symm.trans hx)).elim

theorem extend_eq_nil_iff (h : d.stage.Apart) (xs : List α) :
    (d.extend xs).elements = [] ↔ d.elements = [] ∧ xs = [] := by
  induction xs generalizing d with
  | nil => simp [extend]
  | cons x rest ih =>
      rw [extend, List.foldl_cons]
      refine (ih (counted_insert h x).apart).trans ?_
      rcases insert_cases h x with ⟨grown, hinsert, hgrown, -⟩ | ⟨hinsert, hx⟩
      · rw [hinsert, elements, hgrown]
        simp
      · have hfull : d.elements ≠ [] := by
          intro hempty
          rw [hempty] at hx
          exact Bool.false_ne_true hx
        rw [hinsert]
        show d.elements = [] ∧ rest = [] ↔ _
        simp [hfull]

end Draft

end OptionalContainers
