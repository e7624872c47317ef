import OptionalContainers.Atom.Basic
import OptionalContainers.Proofs.Container.Membership

namespace OptionalContainers

variable {α ν : Type}

theorem seek_cases (p : α → Bool) (ys : List α) :
    (∃ before y after, ys = before ++ y :: after ∧ (∀ z ∈ before, p z = false) ∧ p y = true ∧
        seek p ys = (some y, after)) ∨
      ((∀ y ∈ ys, p y = false) ∧ seek p ys = (none, [])) := by
  induction ys with
  | nil => exact .inr ⟨fun y hy => absurd hy List.not_mem_nil, rfl⟩
  | cons y rest ih =>
      cases hy : p y with
      | true =>
          refine .inl ⟨[], y, rest, rfl, fun z hz => absurd hz List.not_mem_nil, hy, ?_⟩
          rw [seek, if_pos hy]
      | false =>
          have hskip : seek p (y :: rest) = seek p rest := by
            rw [seek, hy, if_neg Bool.false_ne_true]
          rw [hskip]
          rcases ih with ⟨before, z, after, rfl, hbefore, hz, hseek⟩ | ⟨hnone, hseek⟩
          · exact .inl ⟨y :: before, z, after, rfl, List.forall_mem_cons.mpr ⟨hy, hbefore⟩, hz,
              hseek⟩
          · exact .inr ⟨List.forall_mem_cons.mpr ⟨hy, hnone⟩, hseek⟩

variable [BEq α]

inductive FirstMatch (xs ys : List α) : Option α × Option (List α) → Prop
  | found (before : List α) (y : α) (after : List α) (hys : ys = before ++ y :: after)
      (hbefore : ∀ z ∈ before, ∀ x ∈ xs, (x == z) = false) (hy : ∃ x ∈ xs, (x == y) = true) :
      FirstMatch xs ys (some y, some after)
  | exhausted (hxs : xs ≠ []) (hnone : ∀ y ∈ ys, ∀ x ∈ xs, (x == y) = false) :
      FirstMatch xs ys (none, some [])
  | untouched (hxs : xs = []) : FirstMatch xs ys (none, some ys)

theorem scan_eq_false_iff {xs : List α} {x : α} :
    scan xs x = false ↔ ∀ y ∈ xs, (y == x) = false := by
  simp [scan]

theorem firstMatch_seek {xs : List α} (hxs : xs ≠ []) (ys : List α) :
    FirstMatch xs ys (seekIn (scan xs) (some ys)) := by
  rw [seekIn]
  obtain ⟨before, y, after, hys, hbefore, hy, hseek⟩ | ⟨hnone, hseek⟩ := seek_cases (scan xs) ys
  · rw [hseek]
    exact .found before y after hys (fun z hz => scan_eq_false_iff.mp (hbefore z hz))
      (scan_eq_true_iff.mp hy)
  · rw [hseek]
    exact .exhausted hxs fun y hy => scan_eq_false_iff.mp (hnone y hy)

theorem FirstMatch.isSome_iff {xs ys : List α} {found : Option α × Option (List α)}
    (h : FirstMatch xs ys found) :
    found.1.isSome = true ↔ ∃ y ∈ ys, ∃ x ∈ xs, (x == y) = true := by
  cases h with
  | found before y after hys hbefore hy =>
      refine ⟨fun _ => ⟨y, ?_, hy⟩, fun _ => rfl⟩
      rw [hys]
      exact List.mem_append_right before List.mem_cons_self
  | exhausted hxs hnone =>
      refine ⟨fun h => absurd h Bool.false_ne_true, ?_⟩
      rintro ⟨y, hy, x, hx, hxy⟩
      exact absurd ((hnone y hy x hx).symm.trans hxy) Bool.false_ne_true
  | untouched hxs =>
      refine ⟨fun h => absurd h Bool.false_ne_true, ?_⟩
      rintro ⟨y, hy, x, hx, hxy⟩
      rw [hxs] at hx
      exact absurd hx List.not_mem_nil

namespace AnyContainer

variable [Hashable α] [Ord α]

structure SearchedAs (c : AnyContainer α ν) (xs : List α) : Prop where
  first (ys : List α) : FirstMatch xs ys (firstMatch (some c) (some ys))
  intersects_eq (candidates : Option (List α)) :
    intersects (some c) candidates =
      ((firstMatch (some c) candidates).1.isSome, (firstMatch (some c) candidates).2)
  intersects_iff (ys : List α) :
    (intersects (some c) (some ys)).1 = true ↔ ∃ y ∈ ys, ∃ x ∈ xs, (x == y) = true
  unshortened (candidates : Option (List α)) :
    (firstMatch (some c) candidates).1 = (seekIn (hasMember c) candidates).1
  alike {other : AnyContainer α ν} (h : other.Holds xs) (candidates : Option (List α)) :
    firstMatch (some other) candidates = firstMatch (some c) candidates ∧
      intersects (some other) candidates = intersects (some c) candidates

variable [EquivBEq α] [LawfulHashable α] [Std.LawfulBEqOrd α] {c : AnyContainer α ν} {xs : List α}

theorem Holds.firstMatch_eq (h : c.Holds xs) (candidates : Option (List α)) :
    firstMatch (some c) candidates =
      if xs.isEmpty then (none, candidates) else seekIn (scan xs) candidates := by
  have hmember : hasMember c = scan xs := funext h.hasMember_eq
  have hempty : (size c == 0) = xs.isEmpty := by
    rw [Bool.eq_iff_iff, beq_iff_eq, size_eq, List.length_eq_zero_iff, List.isEmpty_iff]
    exact h.items.eq_nil_iff
  rw [firstMatch, hmember, hempty]

theorem Holds.first (h : c.Holds xs) (ys : List α) :
    FirstMatch xs ys (firstMatch (some c) (some ys)) := by
  rw [h.firstMatch_eq]
  split
  next hxs => exact .untouched (List.isEmpty_iff.mp hxs)
  next hxs => exact firstMatch_seek (fun hnil => hxs (List.isEmpty_iff.mpr hnil)) ys

theorem Holds.unshortened (h : c.Holds xs) (candidates : Option (List α)) :
    (firstMatch (some c) candidates).1 = (seekIn (hasMember c) candidates).1 := by
  have hmember : hasMember c = scan xs := funext h.hasMember_eq
  rw [h.firstMatch_eq, hmember]
  split
  next hxs =>
    rw [List.isEmpty_iff.mp hxs]
    cases candidates with
    | none => rfl
    | some ys =>
        rw [seekIn, seek_fst]
        exact (List.find?_eq_none.mpr fun y _ => Bool.false_ne_true).symm
  next => rfl

theorem Holds.searchedAs (h : c.Holds xs) : c.SearchedAs xs where
  first := h.first
  intersects_eq _ := rfl
  intersects_iff ys := (h.first ys).isSome_iff
  unshortened := h.unshortened
  alike hother candidates := by
    have hsame := (hother.firstMatch_eq candidates).trans (h.firstMatch_eq candidates).symm
    exact ⟨hsame, by rw [intersects, intersects, hsame]⟩

end AnyContainer

theorem search_told_by_items [Hashable α] [Ord α] [EquivBEq α] [LawfulHashable α]
    [Std.LawfulBEqOrd α] (xs : List α) :
    (∀ c : AnyContainer α ν, c.Holds xs → c.SearchedAs xs) ∧
      (∀ candidates : Option (List α),
        firstMatch (none : Option (AnyContainer α ν)) candidates = (none, candidates) ∧
          intersects (none : Option (AnyContainer α ν)) candidates = (false, candidates)) ∧
      (∀ (kind : ElementKind) (journal : Journal),
        ((AnyContainer.ofElements xs kind : Journaled (AnyContainer α ν)).run journal).1.Holds xs) ∧
      ∀ (entries : List (α × ν)) (kind : MapKind) (journal : Journal), entries.map (·.1) = xs →
        ((AnyContainer.ofEntries entries kind).run journal).1.Holds xs := by
  refine ⟨fun c h => h.searchedAs, fun candidates => ⟨rfl, rfl⟩,
    fun kind journal => AnyContainer.holds_ofElements xs kind journal, ?_⟩
  rintro entries kind journal rfl
  exact AnyContainer.holds_ofEntries entries kind journal

structure Caseless where
  spelling : String

namespace Caseless

def folded (a : Caseless) : String :=
  Atom.folded a.spelling

instance : BEq Caseless where
  beq a b := a.folded == b.folded

theorem beq_iff {a b : Caseless} : (a == b) = true ↔ a.folded = b.folded := by
  show (a.folded == b.folded) = true ↔ _
  rw [beq_iff_eq]

instance : EquivBEq Caseless where
  rfl := beq_iff.mpr rfl
  symm h := beq_iff.mpr (beq_iff.mp h).symm
  trans h h' := beq_iff.mpr ((beq_iff.mp h).trans (beq_iff.mp h'))

instance : Hashable Caseless where
  hash a := hash a.folded

instance : LawfulHashable Caseless where
  hash_eq a b h := by
    show hash a.folded = hash b.folded
    rw [beq_iff.mp h]

instance : Ord Caseless where
  compare a b := compare a.folded b.folded

instance : Std.LawfulBEqOrd Caseless where
  compare_eq_iff_beq {a b} :=
    Std.LawfulBEqOrd.compare_eq_iff_beq (a := a.folded) (b := b.folded)

end Caseless

theorem search_keeps_spelling_of_candidate :
    let xs : List Caseless := [⟨"kid"⟩, ⟨"Alg"⟩]
    let ys : List Caseless := [⟨"typ"⟩, ⟨"ALG"⟩, ⟨"kid"⟩]
    let c := ((AnyContainer.ofElements xs .setView : Journaled (AnyContainer Caseless Nat)).run
      .start).1
    c.Holds xs ∧ FirstMatch xs ys (firstMatch (some c) (some ys)) ∧
      firstMatch (some c) (some ys) = (some ⟨"ALG"⟩, some [⟨"kid"⟩]) := by
  intro xs ys c
  obtain ⟨hsearched, -, hmade, -⟩ := search_told_by_items (ν := Nat) xs
  have hc : c.Holds xs := hmade .setView .start
  have hchain := hmade .chain .start
  have hsame := ((hsearched c hc).alike hchain (some ys)).1
  refine ⟨hc, (hsearched c hc).first ys, hsame.symm.trans ?_⟩
  have htyp : scan xs ⟨"typ"⟩ = false := by
    simp [xs, scan, BEq.beq, Caseless.folded, Atom.folded, ← String.toList_inj]
  have halg : scan xs ⟨"ALG"⟩ = true := by
    simp [xs, scan, BEq.beq, Caseless.folded, Atom.folded, ← String.toList_inj]
  show ((seek (scan xs) ys).1, some (seek (scan xs) ys).2) = _
  simp [ys, seek, htyp, halg]

end OptionalContainers
