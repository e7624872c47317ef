import OptionalContainers.Proofs.Container.Deduplicating
import OptionalContainers.Proofs.View.SetExtension

namespace OptionalContainers

variable {σ ρ α : Type}

section

variable [BEq α] [Items σ α] {fits : σ → Prop} {s final other : σ} {xs ys : List α}

structure Gathered (fits : σ → Prop) (s : σ) (new : List α) (final : σ) : Prop where
  fits : fits final
  items_perm : (items final).Perm (items s ++ new)
  unchanged (h : new = []) : final = s

namespace Gathered

theorem scan_items [PartialEquivBEq α]
    (hfinal : Gathered fits s (missing (items s) xs) final) (x : α) :
    scan (items final) x = (scan (items s) x || scan xs x) :=
  (scan_eq_of_perm hfinal.items_perm x).trans (scan_append_missing (items s) xs x)

theorem missing_eq_nil [EquivBEq α] (hfinal : Gathered fits s (missing (items s) xs) final) :
    missing (items final) xs = [] := by
  refine OptionalContainers.missing_eq_nil fun x hx => ?_
  rw [hfinal.scan_items, covers_self xs x hx, Bool.or_true]

end Gathered

variable [ElementTarget σ α] [Members σ α] [BEq σ]

theorem Deduplicating.granted (h : Deduplicating fits) (hs : fits s) (xs : List α) :
    ∃ answers final, Granted ElementTarget.add s xs answers final ∧
      answers.count true = (missing (items s) xs).length ∧
      Gathered fits s (missing (items s) xs) final := by
  induction xs generalizing s with
  | nil => exact ⟨[], s, .nil s, rfl, hs, .of_eq (List.append_nil _).symm, fun _ => rfl⟩
  | cons x rest ih =>
      cases hx : scan (items s) x with
      | true =>
          obtain ⟨answers, final, hgranted, hcount, hfinal⟩ := ih hs
          rw [missing_cons_held hx]
          exact ⟨false :: answers, final, .cons (h.add_held hs hx) hgranted, hcount, hfinal⟩
      | false =>
          obtain ⟨grown, hadd, hgrown, hitems⟩ := h.add_new hs hx
          obtain ⟨answers, final, hgranted, hcount, hfinal⟩ := ih hgrown
          rw [missing_cons_new hx, ← missing_congr (scan_eq_of_perm hitems)]
          refine ⟨true :: answers, final, .cons hadd hgranted, ?_, hfinal.fits, ?_, ?_⟩
          · rw [List.count_cons_self, hcount, List.length_cons]
          · have hgrew := hfinal.items_perm.trans (hitems.append_right (missing (items grown) rest))
            rwa [List.append_assoc, List.singleton_append] at hgrew
          · exact fun hnil => absurd hnil (List.cons_ne_nil _ _)

theorem Deduplicating.run_mergeArray [Items ρ α] (h : Deduplicating fits) (hs : fits s)
    (array : Option ρ) :
    ∃ final, Gathered fits s (missing (items s) (offered array)) final ∧
      ∀ journal, (mergeArray array (some s)).run journal =
        (⟨.ok (), some final⟩, journal.extended
          [.arrayMerged (offered array).length (missing (items s) (offered array)).length]) := by
  obtain ⟨answers, final, hgranted, hcount, hfinal⟩ := h.granted hs (offered array)
  refine ⟨final, hfinal, fun journal => ?_⟩
  have hmerged := mergeArray_of_requested h.addAll_eq (.granted hgranted)
    (List.append_nil (offered array)).symm journal
  simp only [Except.map, hcount] at hmerged
  exact hmerged

namespace Gathered

theorem size_eq (h : Deduplicating fits) {new : List α} (hfinal : Gathered fits s new final) :
    size final = size s + new.length := by
  rw [h.size_eq, h.size_eq, hfinal.items_perm.length_eq, List.length_append]

theorem beq_of_perm [PartialEquivBEq α] (h : Deduplicating fits)
    (hfinal : Gathered fits s (missing (items s) xs) final)
    (hother : Gathered fits s (missing (items s) ys) other) (hperm : xs.Perm ys) :
    (final == other) = true := by
  refine h.beq_of_scan_eq hfinal.fits hother.fits fun x => ?_
  rw [hfinal.scan_items, hother.scan_items, scan_eq_of_perm hperm]

theorem elements_concat_perm [PartialEquivBEq α] [Hashable α] [LawfulHashable α] [Items ρ α]
    (h : Deduplicating fits) (hs : fits s) {array : Option ρ}
    (hfinal : Gathered fits s (missing (items s) (offered array)) final) {listed : List α}
    (hlisted : listed.Perm (items s)) (journal : Journal) :
    ((SetView.concat (some listed) array).run journal).1.elements.Perm (items final) := by
  have hdistinct : Distinct listed := (h.distinct hs).perm hlisted.symm
  have helements := SetView.gives_concatWith listed.length (some listed) array journal
  have hnew : firstOccurrences (listed ++ offered array) =
      listed ++ missing (items s) (offered array) := by
    rw [firstOccurrences_append, firstOccurrences_of_distinct hdistinct, foldl_addNew_eq,
      missing_congr (scan_eq_of_perm hlisted)]
  refine (List.Perm.of_eq (helements.trans hnew)).trans ?_
  exact (hlisted.append_right _).trans hfinal.items_perm.symm

end Gathered

variable [Items ρ α]

structure MergedUnion [Hashable α] (s : σ) (array : Option ρ) (final : σ) (changed : Nat) :
    Prop where
  run (journal : Journal) :
    (mergeArray array (some s)).run journal =
      (⟨.ok (), some final⟩, journal.extended [.arrayMerged (offered array).length changed])
  grown : ∃ new, Lacked (items s) (offered array) new ∧ (items final).Perm (items s ++ new) ∧
    changed = new.length
  size_eq : size final = size s + changed
  hasMember_eq (x : α) : hasMember final x = (hasMember s x || scan (offered array) x)
  permuted {again : List α} (h : again.Perm (offered array)) :
    ∃ other, (final == other) = true ∧ ∀ journal,
      (mergeArray (some again) (some s)).run journal =
        (⟨.ok (), some other⟩, journal.extended [.arrayMerged again.length changed])
  repeated (journal : Journal) :
    (mergeArray array (some final)).run journal =
      (⟨.ok (), some final⟩, journal.extended [.arrayMerged (offered array).length 0])
  concatenated {listed : List α} (h : listed.Perm (items s)) (journal : Journal) :
    let v : SetView α := ((SetView.concat (some listed) array).run journal).1
    v.elements.Perm (items final) ∧ (∀ x : α, v.contains x = hasMember final x) ∧
      v.length = size s + changed

variable [EquivBEq α] [Hashable α] [LawfulHashable α]

theorem Deduplicating.mergedUnion (h : Deduplicating fits) (hs : fits s) (array : Option ρ) :
    ∃ final changed, fits final ∧ MergedUnion s array final changed := by
  obtain ⟨final, hfinal, hrun⟩ := h.run_mergeArray hs array
  have hsize := hfinal.size_eq h
  refine ⟨final, _, hfinal.fits, hrun, ?_, hsize, fun x => ?_, fun {again} hagain => ?_, ?_,
    fun {listed} hlisted journal => ?_⟩
  · exact ⟨_, lacked_missing (items s) (offered array), hfinal.items_perm, rfl⟩
  · rw [h.hasMember_eq, h.hasMember_eq, hfinal.scan_items]
  · obtain ⟨other, hother, hmerged⟩ := h.run_mergeArray hs (some again)
    rw [length_missing_of_perm (h.distinct hs) hagain.symm]
    exact ⟨other, hfinal.beq_of_perm h hother hagain.symm, hmerged⟩
  · obtain ⟨same, hsame, hmerged⟩ := h.run_mergeArray hfinal.fits array
    rw [hsame.unchanged hfinal.missing_eq_nil, hfinal.missing_eq_nil] at hmerged
    exact hmerged
  · intro v
    have made : SetView.Made journal v _ (listed ++ offered array) :=
      .concatenated listed.length (some listed) array rfl
    have hv : v.elements.Perm (items final) := hfinal.elements_concat_perm h hs hlisted journal
    refine ⟨hv, fun x => ?_, ?_⟩
    · rw [SetView.contains_eq_any made.sound, h.hasMember_eq]
      exact scan_eq_of_perm hv x
    · rw [SetView.length, hv.length_eq, ← h.size_eq, hsize]

end

theorem sets_merge_as_union [BEq α] [EquivBEq α] [Hashable α] [LawfulHashable α] [Ord α]
    [Std.TransOrd α] [Std.LawfulBEqOrd α] [Items ρ α] (array : Option ρ) :
    (∀ s : HashedSet α, ∃ final changed, MergedUnion s array final changed) ∧
      (∀ s : SortedSet α, s.Ascending →
        ∃ final changed, final.Ascending ∧ MergedUnion s array final changed) ∧
      ∀ xs : List α, (SortedSet.ofList xs).Ascending := by
  refine ⟨fun s => ?_, fun s hs => SortedSet.deduplicating.mergedUnion hs array,
    SortedSet.ascending_ofList⟩
  obtain ⟨final, changed, -, hmerged⟩ := HashedSet.deduplicating.mergedUnion trivial array
  exact ⟨final, changed, hmerged⟩

/-- Two elements are equal by their keys, whatever their marks; the hash tells keys apart only by
their parity. -/
structure Marked where
  key : Nat
  mark : Nat
  deriving DecidableEq, Repr

namespace Marked

instance : BEq Marked where
  beq a b := a.key == b.key

theorem beq_iff {a b : Marked} : (a == b) = true ↔ a.key = b.key := by
  show (a.key == b.key) = true ↔ _
  rw [beq_iff_eq]

instance : EquivBEq Marked where
  rfl := beq_iff.mpr rfl
  symm h := beq_iff.mpr (beq_iff.mp h).symm
  trans h h' := beq_iff.mpr ((beq_iff.mp h).trans (beq_iff.mp h'))

instance : Hashable Marked where
  hash a := hash (a.key % 2)

instance : LawfulHashable Marked where
  hash_eq a b h := by
    show hash (a.key % 2) = hash (b.key % 2)
    rw [beq_iff.mp h]

instance : Ord Marked :=
  ⟨compareOn Marked.key⟩

instance : Std.TransOrd Marked :=
  inferInstanceAs (Std.TransCmp (compareOn Marked.key))

instance : Std.LawfulBEqOrd Marked where
  compare_eq_iff_beq {a b} := Std.LawfulBEqOrd.compare_eq_iff_beq (a := a.key) (b := b.key)

end Marked

theorem marked_array_adds_two :
    let s : SortedSet Marked := .ofList [⟨4, 0⟩, ⟨1, 0⟩]
    let array : Array Marked := #[⟨3, 1⟩, ⟨1, 1⟩, ⟨3, 2⟩, ⟨7, 1⟩, ⟨4, 1⟩]
    s.Ascending ∧
      ∃ final, MergedUnion s (some array) final 2 ∧
        final.elements = [⟨1, 0⟩, ⟨3, 1⟩, ⟨4, 0⟩, ⟨7, 1⟩] := by
  intro s array
  have hs : s.Ascending := SortedSet.ascending_ofList _
  obtain ⟨-, hsorted, -⟩ := sets_merge_as_union (some array)
  obtain ⟨final, changed, -, hmerged⟩ := hsorted s hs
  have hrun : (mergeArray (some array) (some s)).run .start =
      (⟨.ok (), some ⟨[⟨1, 0⟩, ⟨3, 1⟩, ⟨4, 0⟩, ⟨7, 1⟩]⟩⟩, ⟨0, [.arrayMerged 5 2]⟩) := rfl
  cases hrun.symm.trans (hmerged.run .start)
  exact ⟨hs, _, hmerged, rfl⟩

end OptionalContainers
