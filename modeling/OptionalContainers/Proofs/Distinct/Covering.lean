import OptionalContainers.Distinct.FirstOccurrences

namespace OptionalContainers

variable {α : Type} [BEq α]

def Covers (xs ys : List α) : Prop :=
  ∀ y ∈ ys, scan xs y = true

theorem Covers.tail {xs ys : List α} {y : α} (h : Covers xs (y :: ys)) : Covers xs ys :=
  fun z hz => h z (List.mem_cons_of_mem y hz)

theorem Covers.append {xs ys zs : List α} (hy : Covers xs ys) (hz : Covers xs zs) :
    Covers xs (ys ++ zs) := by
  intro x hx
  rcases List.mem_append.mp hx with hx | hx
  · exact hy x hx
  · exact hz x hx

theorem covers_self [ReflBEq α] (xs : List α) : Covers xs xs :=
  fun x hx => scan_eq_true_iff.mpr ⟨x, hx, BEq.rfl⟩

theorem firstOccurrences_append_self [ReflBEq α] {xs : List α} (h : Distinct xs) :
    firstOccurrences (xs ++ xs) = xs := by
  rw [firstOccurrences_append, firstOccurrences_of_distinct h]
  exact foldl_addNew_of_scan (covers_self xs)

section

variable [PartialEquivBEq α]

theorem scan_congr {x y : α} (h : (x == y) = true) (xs : List α) : scan xs x = scan xs y := by
  rw [Bool.eq_iff_iff, scan_eq_true_iff, scan_eq_true_iff]
  constructor
  · rintro ⟨z, hz, hzx⟩
    exact ⟨z, hz, PartialEquivBEq.trans hzx h⟩
  · rintro ⟨z, hz, hzy⟩
    exact ⟨z, hz, PartialEquivBEq.trans hzy (BEq.symm h)⟩

theorem Covers.scan_eq_true {xs ys : List α} (h : Covers xs ys) {x : α}
    (hx : scan ys x = true) : scan xs x = true := by
  obtain ⟨y, hy, hyx⟩ := scan_eq_true_iff.mp hx
  exact scan_congr hyx xs ▸ h y hy

theorem scan_firstOccurrences (xs : List α) (x : α) :
    scan (firstOccurrences xs) x = scan xs x :=
  any_firstOccurrences (fun _ _ hab hb => PartialEquivBEq.trans hab hb) xs

-- What answers for the head is taken out; the tail does not need it, being distinct from the head.
theorem Covers.length_le {xs ys : List α} (h : Covers xs ys) (hd : Distinct ys) :
    ys.length ≤ xs.length := by
  induction ys generalizing xs with
  | nil => exact Nat.zero_le _
  | cons y rest ih =>
      obtain ⟨hy, hrest⟩ := List.pairwise_cons.mp hd
      obtain ⟨x, hx, hxy⟩ := scan_eq_true_iff.mp (h y (by simp))
      have hcovers : Covers (xs.eraseP (· == y)) rest := by
        intro z hz
        obtain ⟨w, hw, hwz⟩ := scan_eq_true_iff.mp (h.tail z hz)
        refine scan_eq_true_iff.mpr ⟨w, ?_, hwz⟩
        refine (List.mem_eraseP_of_neg fun hwy => ?_).mpr hw
        have hyz : (y == z) = true := PartialEquivBEq.trans (BEq.symm hwy) hwz
        simp [hy z hz] at hyz
      have hlength : (xs.eraseP (· == y)).length = xs.length - 1 :=
        List.length_eraseP_of_mem hx hxy
      have hpos : 0 < xs.length := List.length_pos_of_mem hx
      have hle := ih hcovers hrest
      simp only [List.length_cons]
      omega

theorem Covers.of_length_le {xs ys : List α} (h : Covers xs ys) (hd : Distinct ys)
    (hlength : xs.length ≤ ys.length) (hx : Covers xs xs) : Covers ys xs := by
  intro x hxs
  cases hnew : scan ys x with
  | true => rfl
  | false =>
      have hall : Covers xs (ys ++ [x]) := h.append fun z hz => by
        rw [List.mem_singleton.mp hz]
        exact hx x hxs
      have hle := hall.length_le (hd.append_new hnew)
      simp only [List.length_append, List.length_singleton] at hle
      omega

end

theorem covers_iff_scan [EquivBEq α] {xs ys : List α} :
    Covers xs ys ↔ ∀ x, scan ys x = true → scan xs x = true :=
  ⟨fun h _ hx => h.scan_eq_true hx, fun h y hy => h y (covers_self ys y hy)⟩

theorem mutual_covers_iff [EquivBEq α] {xs ys : List α} :
    (Covers xs ys ∧ Covers ys xs) ↔ ∀ x, scan xs x = scan ys x := by
  rw [covers_iff_scan, covers_iff_scan]
  constructor
  · rintro ⟨hyx, hxy⟩ x
    exact Bool.eq_iff_iff.mpr ⟨hxy x, hyx x⟩
  · intro h
    exact ⟨fun x hx => h x ▸ hx, fun x hx => h x ▸ hx⟩

theorem length_eq_and_covers_iff [EquivBEq α] {xs ys : List α} (hx : Distinct xs)
    (hy : Distinct ys) :
    (xs.length = ys.length ∧ Covers ys xs) ↔ (Covers ys xs ∧ Covers xs ys) := by
  constructor
  · rintro ⟨hlength, h⟩
    exact ⟨h, h.of_length_le hx (Nat.le_of_eq hlength.symm) (covers_self ys)⟩
  · rintro ⟨h, h'⟩
    exact ⟨Nat.le_antisymm (h.length_le hx) (h'.length_le hy), h⟩

end OptionalContainers
