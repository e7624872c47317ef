import OptionalContainers.Proofs.Container.Membership
import OptionalContainers.Proofs.Distinct.Missing
import OptionalContainers.Proofs.Target.Pouring
import OptionalContainers.Proofs.View.Equality

namespace OptionalContainers

variable {σ α : Type}

structure Deduplicating [BEq α] [ElementTarget σ α] [Items σ α] [Members σ α] [BEq σ]
    (fits : σ → Prop) : Prop where
  addAll_eq : PoursEach σ
  size_eq (s : σ) : size s = (items s).length
  hasMember_eq (s : σ) (x : α) : hasMember s x = scan (items s) x
  distinct {s : σ} (h : fits s) : Distinct (items s)
  add_held {s : σ} (h : fits s) {x : α} (hx : scan (items s) x = true) :
    ElementTarget.add x s = .ok false s
  add_new {s : σ} (h : fits s) {x : α} (hx : scan (items s) x = false) :
    ∃ grown, ElementTarget.add x s = .ok true grown ∧ fits grown ∧
      (items grown).Perm (items s ++ [x])
  beq_of_scan_eq {s t : σ} (hs : fits s) (ht : fits t)
    (h : ∀ x, scan (items s) x = scan (items t) x) : (s == t) = true

namespace HashedSet

variable [BEq α]

theorem insert_held {s : HashedSet α} {x : α} (h : scan s.elements x = true) :
    s.insert x = (false, s) := by
  unfold insert
  split
  · rfl
  next hnew => exact absurd (hnew.symm.trans h) Bool.false_ne_true

theorem elements_insert_new {s : HashedSet α} {x : α} (h : scan s.elements x = false) :
    (s.insert x).2.elements = s.elements ++ [x] := by
  rw [elements_insert, addNew, h, if_neg Bool.false_ne_true]

variable [EquivBEq α]

theorem beq_iff_scan (s t : HashedSet α) :
    (s == t) = true ↔ ∀ x, scan s.elements x = scan t.elements x := by
  have hbeq : (s == t) = true ↔ s.elements.length = t.elements.length ∧
      Covers t.elements s.elements := by
    show agrees s t = true ↔ _
    rw [agrees, Bool.and_eq_true, beq_iff_eq, List.all_eq_true]
    rfl
  rw [hbeq, length_eq_and_covers_iff s.distinct t.distinct, and_comm, mutual_covers_iff]

theorem deduplicating : Deduplicating fun _ : HashedSet α => True where
  addAll_eq _ _ := rfl
  size_eq _ := rfl
  hasMember_eq _ _ := rfl
  distinct {s} _ := s.distinct
  add_held {s} _ x hx := by
    show EStateM.Result.ok (s.insert x).1 (s.insert x).2 = _
    rw [insert_held hx]
  add_new {s} _ x hx := by
    have hadded : (s.insert x).1 = true := (s.insert_fst x).trans (congrArg Bool.not hx)
    exact ⟨(s.insert x).2, congrArg (EStateM.Result.ok · _) hadded, trivial,
      .of_eq (elements_insert_new hx)⟩
  beq_of_scan_eq _ _ h := (beq_iff_scan _ _).mpr h

end HashedSet

namespace SortedSet

variable [Ord α]

def Ascending (s : SortedSet α) : Prop :=
  s.elements.Pairwise (compare · · = .lt)

section

variable [BEq α] [Std.LawfulBEqOrd α]

theorem beq_eq_false_of_ne {x y : α} (h : compare x y ≠ .eq) : (x == y) = false := by
  rw [← Bool.not_eq_true, ← Std.LawfulBEqOrd.compare_eq_iff_beq]
  exact h

theorem place_new [PartialEquivBEq α] {x : α} {xs : List α} (h : scan xs x = false) :
    (place x xs).1 = true ∧ (place x xs).2.Perm (xs ++ [x]) := by
  induction xs with
  | nil => exact ⟨rfl, .refl [x]⟩
  | cons y rest ih =>
      obtain ⟨hy, hrest⟩ : (y == x) = false ∧ scan rest x = false := by simpa [scan] using h
      simp only [place]
      split
      next => exact ⟨rfl, (List.perm_append_singleton x (y :: rest)).symm⟩
      next heq =>
        have hxy : (x == y) = true := Std.LawfulBEqOrd.compare_eq_iff_beq.mp heq
        exact absurd (hy.symm.trans (BEq.symm hxy)) Bool.false_ne_true
      next => exact ⟨(ih hrest).1, (ih hrest).2.cons y⟩

theorem distinct_of_ascending {xs : List α} (h : xs.Pairwise (compare · · = .lt)) : Distinct xs :=
  h.imp fun hlt => beq_eq_false_of_ne (by simp [hlt])

end

variable [Std.TransOrd α]

theorem Ascending.insert {s : SortedSet α} (h : s.Ascending) (x : α) :
    (s.insert x).2.Ascending :=
  ascending_place x h

theorem ascending_ofList (xs : List α) : (ofList xs).Ascending := by
  suffices h : ∀ s : SortedSet α, s.Ascending →
      (xs.foldl (fun s x => (s.insert x).2) s).Ascending from h empty .nil
  induction xs with
  | nil => exact fun _ hs => hs
  | cons x rest ih => exact fun s hs => ih _ (hs.insert x)

variable [BEq α] [Std.LawfulBEqOrd α]

theorem scan_eq_false_of_lt {x y : α} {rest : List α}
    (h : (y :: rest).Pairwise (compare · · = .lt)) (hxy : compare x y = .lt) :
    scan (y :: rest) x = false := by
  rw [scan, List.any_eq_false]
  intro z hz
  have hxz : compare x z = .lt := by
    rcases List.mem_cons.mp hz with rfl | hz
    · exact hxy
    · exact Std.TransCmp.lt_trans hxy ((List.pairwise_cons.mp h).1 z hz)
  rw [BEq.comm, beq_eq_false_of_ne (by simp [hxz])]
  exact Bool.false_ne_true

theorem place_held {x : α} {xs : List α} (h : xs.Pairwise (compare · · = .lt))
    (hx : scan xs x = true) : place x xs = (false, xs) := by
  induction xs with
  | nil => cases hx
  | cons y rest ih =>
      simp only [place]
      split
      next hlt => exact absurd ((scan_eq_false_of_lt h hlt).symm.trans hx) Bool.false_ne_true
      next => rfl
      next hgt =>
        have hrest : scan rest x = true := by
          have hhead : (y == x) = false := BEq.comm.trans (beq_eq_false_of_ne (by simp [hgt]))
          simpa [scan, hhead] using hx
        rw [ih (List.pairwise_cons.mp h).2 hrest]

theorem head_not_lt {x y : α} {xs ys : List α} (h : (y :: ys).Pairwise (compare · · = .lt))
    (hcovers : Covers (y :: ys) (x :: xs)) : compare x y ≠ .lt := by
  intro hlt
  have hfound := hcovers x List.mem_cons_self
  rw [scan_eq_false_of_lt h hlt] at hfound
  exact Bool.false_ne_true hfound

theorem covers_tail {x y : α} {xs ys : List α} (h : (x :: xs).Pairwise (compare · · = .lt))
    (hxy : (y == x) = true) (hcovers : Covers (y :: ys) (x :: xs)) : Covers ys xs := by
  intro z hz
  have hxz : (x == z) = false := (List.pairwise_cons.mp (distinct_of_ascending h)).1 z hz
  have hyz : (y == z) = false := (BEq.congr_left hxy).trans hxz
  have hfound := hcovers z (List.mem_cons_of_mem x hz)
  simpa [scan, hyz] using hfound

theorem pointwise_of_covers {xs ys : List α} (hx : xs.Pairwise (compare · · = .lt))
    (hy : ys.Pairwise (compare · · = .lt)) (hyx : Covers ys xs) (hxy : Covers xs ys) :
    Pointwise xs ys := by
  induction xs generalizing ys with
  | nil =>
      rw [hxy.eq_nil]
      exact .nil
  | cons x xs ih =>
      cases ys with
      | nil => exact absurd hyx.eq_nil (List.cons_ne_nil x xs)
      | cons y ys =>
          have hgt : compare x y ≠ .gt := fun h =>
            head_not_lt hx hxy (Std.OrientedCmp.lt_of_gt h)
          have heq : compare x y = .eq := by
            cases hcompare : compare x y with
            | lt => exact absurd hcompare (head_not_lt hy hyx)
            | eq => rfl
            | gt => exact absurd hcompare hgt
          have hbeq : (x == y) = true := Std.LawfulBEqOrd.compare_eq_iff_beq.mp heq
          refine .cons hbeq (ih (List.pairwise_cons.mp hx).2 (List.pairwise_cons.mp hy).2 ?_ ?_)
          · exact covers_tail hx (BEq.symm hbeq) hyx
          · exact covers_tail hy hbeq hxy

theorem deduplicating : Deduplicating (Ascending : SortedSet α → Prop) where
  addAll_eq _ _ := rfl
  size_eq _ := rfl
  hasMember_eq s x := s.contains_eq_scan x
  distinct h := distinct_of_ascending h
  add_held {s} h x hx := by
    have hplaced : s.insert x = (false, s) := by
      rw [SortedSet.insert, place_held h hx]
    show EStateM.Result.ok (s.insert x).1 (s.insert x).2 = _
    rw [hplaced]
  add_new {s} h x hx := by
    obtain ⟨hadded, hperm⟩ := place_new hx
    exact ⟨(s.insert x).2, congrArg (EStateM.Result.ok · _) hadded, h.insert x, hperm⟩
  beq_of_scan_eq {s t} hs ht h := by
    obtain ⟨hst, hts⟩ := mutual_covers_iff.mpr h
    exact (beq_iff_pointwise _ _).mpr (pointwise_of_covers hs ht hts hst)

end SortedSet

end OptionalContainers
