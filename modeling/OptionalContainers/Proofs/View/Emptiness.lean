import OptionalContainers.Absent
import OptionalContainers.Proofs.Distinct.Answers
import OptionalContainers.View.Mapping
import OptionalContainers.View.Shaped

namespace OptionalContainers

variable {υ ι σ α κ ν : Type}

namespace Stored

variable {s t : Stored σ}

theorem shares_of_isEmpty (hs : s.isEmpty = true) (ht : t.isEmpty = true) :
    s.shares t = true := by
  cases s with
  | empty =>
      cases t with
      | empty => rfl
      | held cell content => cases ht
  | held cell content => cases hs

theorem isEmpty_eq_of_shares (h : s.shares t = true) : s.isEmpty = t.isEmpty := by
  rcases shares_cases h with ⟨rfl, rfl⟩ | ⟨cell, a, b, rfl, rfl⟩ <;> rfl

end Stored

/-- What a construction does with an absent input: it takes it for an empty one, or hands it on. -/
inductive Family where
  | filling
  | wrapping

def Family.kept : Family → Option (List ι) → Option (List ι)
  | filling, input => some (input.getD [])
  | wrapping, input => input

-- A view is an input as good as any other container and a clone is the view itself, so that only
-- an outcome that may be absent is taken further.
inductive Composed [EmptyCollection υ]
    (Direct : Family → Option (List ι) → Journaled (Option υ) → Prop) :
    Family → Option (List ι) → Journaled (Option υ) → Prop
  | direct {family input make} (h : Direct family input make) : Composed Direct family input make
  | orEmpty {family input make} (h : Composed Direct family input make) :
      Composed Direct .filling (family.kept input) ((fun v => some (orEmpty v)) <$> make)

def Foretold (isEmpty : υ → Bool) (family : Family) (input : Option (List ι))
    (make : Journaled (Option υ)) : Prop :=
  ∀ journal, (make.run journal).1.map isEmpty = (family.kept input).map List.isEmpty

theorem isEmpty_orEmpty [EmptyCollection υ] {isEmpty : υ → Bool} (hempty : isEmpty ∅ = true)
    {v : Option υ} {kept : Option (List ι)} (h : v.map isEmpty = kept.map List.isEmpty) :
    isEmpty (orEmpty v) = (kept.getD []).isEmpty := by
  cases v with
  | none =>
      have habsent : kept = none := Option.map_eq_none_iff.mp h.symm
      rw [habsent]
      exact hempty
  | some view =>
      obtain ⟨xs, rfl, hxs⟩ := Option.map_eq_some_iff.mp h.symm
      exact hxs.symm

theorem Composed.foretold [EmptyCollection υ]
    {Direct : Family → Option (List ι) → Journaled (Option υ) → Prop} {isEmpty : υ → Bool}
    (hempty : isEmpty ∅ = true)
    (hdirect : ∀ {family input make}, Direct family input make →
      Foretold isEmpty family input make)
    {family : Family} {input : Option (List ι)} {make : Journaled (Option υ)}
    (h : Composed Direct family input make) : Foretold isEmpty family input make := by
  induction h with
  | direct h => exact hdirect h
  | orEmpty _ ih => exact fun journal => congrArg some (isEmpty_orEmpty hempty (ih journal))

structure TellsEmptiness (isEmpty : υ → Bool) (length : υ → Nat) (elements : υ → List ι)
    (Made : Family → Option (List ι) → Journaled (Option υ) → Prop) : Prop where
  length_eq (v : υ) : length v = (elements v).length
  isEmpty_iff_length (v : υ) : isEmpty v = true ↔ length v = 0
  isEmpty_iff_elements (v : υ) : isEmpty v = true ↔ elements v = []
  absent_filled {make : Journaled (Option υ)} (h : Made .filling none make) (journal : Journal) :
    ∃ v, (make.run journal).1 = some v ∧ isEmpty v = true
  absent_kept {make : Journaled (Option υ)} (h : Made .wrapping none make) (journal : Journal) :
    (make.run journal).1 = none
  present {family : Family} {xs : List ι} {make : Journaled (Option υ)}
    (h : Made family (some xs) make) (journal : Journal) :
    ∃ v, (make.run journal).1 = some v ∧ (isEmpty v = true ↔ xs = [])

theorem tellsEmptiness {isEmpty : υ → Bool} {length : υ → Nat} {elements : υ → List ι}
    {Made : Family → Option (List ι) → Journaled (Option υ) → Prop}
    (hlength : ∀ v, length v = (elements v).length)
    (hisEmpty : ∀ v, isEmpty v = (elements v).isEmpty)
    (hmade : ∀ {family input make}, Made family input make →
      Foretold isEmpty family input make) :
    TellsEmptiness isEmpty length elements Made where
  length_eq := hlength
  isEmpty_iff_length v := by
    rw [hisEmpty, hlength, List.isEmpty_iff, List.length_eq_zero_iff]
  isEmpty_iff_elements v := by rw [hisEmpty, List.isEmpty_iff]
  absent_filled h journal := Option.map_eq_some_iff.mp (hmade h journal)
  absent_kept h journal := Option.map_eq_none_iff.mp (hmade h journal)
  present {family xs make} h journal := by
    have hkept : family.kept (some xs) = some xs := by cases family <;> rfl
    have hforetold := hmade h journal
    rw [hkept, Option.map_some] at hforetold
    obtain ⟨v, hv, hxs⟩ := Option.map_eq_some_iff.mp hforetold
    exact ⟨v, hv, by rw [hxs, List.isEmpty_iff]⟩

structure CanonicalEmpty [BEq υ] (isEmpty : υ → Bool) (shares : υ → υ → Bool) : Prop where
  shared {v w : υ} (hv : isEmpty v = true) (hw : isEmpty w = true) : shares v w = true
  equal {v w : υ} (hv : isEmpty v = true) (hw : isEmpty w = true) : (v == w) = true
  apart {v w : υ} (hv : isEmpty v = true) (hw : isEmpty w = false) :
    (v == w) = false ∧ (w == v) = false

theorem canonicalEmpty [BEq υ] (stored : υ → Stored σ)
    (hequal : ∀ {v w}, (stored v).shares (stored w) = true → (v == w) = true)
    (hsame : ∀ {v w}, (v == w) = true → (stored v).isEmpty = (stored w).isEmpty) :
    CanonicalEmpty (fun v => (stored v).isEmpty) (fun v w => (stored v).shares (stored w)) where
  shared hv hw := Stored.shares_of_isEmpty hv hw
  equal hv hw := hequal (Stored.shares_of_isEmpty hv hw)
  apart {v w} hv hw := by
    have hdiffer : (stored v).isEmpty ≠ (stored w).isEmpty := by
      rw [hv, hw]
      exact Bool.false_ne_true.symm
    exact ⟨Bool.eq_false_iff.mpr fun h => hdiffer (hsame h),
      Bool.eq_false_iff.mpr fun h => hdiffer (hsame h).symm⟩

namespace SequenceView

inductive Construction :
    Family → Option (List α) → Journaled (Option (SequenceView α)) → Prop
  | empty : Construction .filling (some []) (pure (some ∅))
  | collected (xs : List α) : Construction .filling (some xs) (some <$> ofList xs)
  | copied {ρ : Type} [Items ρ α] (array : Option ρ) :
      Construction .filling (array.map items) (some <$> ofArray array)
  | wrapped (xs : Option (List α)) : Construction .wrapping xs (wrap xs)
  | shaped [BEq α] [Hashable α] (xs : Option (List α)) :
      Construction .wrapping xs
        ((·.bind ShapedView.sequence?) <$> ShapedView.wrap (xs.map .sequence))

theorem isEmpty_ofList (xs : List α) (journal : Journal) :
    ((ofList xs).run journal).1.isEmpty = xs.isEmpty := by
  rw [isEmpty_eq, elements_ofList]

theorem Construction.foretold {family : Family} {input : Option (List α)}
    {make : Journaled (Option (SequenceView α))} (h : Construction family input make) :
    Foretold isEmpty family input make := by
  intro journal
  cases h with
  | empty => rfl
  | collected xs => exact congrArg some (isEmpty_ofList xs journal)
  | copied array =>
      cases array with
      | none => rfl
      | some array => exact congrArg some (isEmpty_ofList (items array) journal)
  | wrapped xs =>
      cases input with
      | none => rfl
      | some xs => exact congrArg some (isEmpty_ofList xs journal)
  | shaped xs =>
      cases input with
      | none => rfl
      | some xs => exact congrArg some (isEmpty_ofList xs journal)

theorem isEmpty_eq_of_beq [BEq α] {v w : SequenceView α} (h : (v == w) = true) :
    v.isEmpty = w.isEmpty := by
  rcases Bool.or_eq_true_iff.mp h with hshares | helements
  · exact Stored.isEmpty_eq_of_shares hshares
  · rw [isEmpty_eq, isEmpty_eq]
    cases hv : v.elements <;> cases hw : w.elements <;> simp_all

theorem canonical_empty [BEq α] :
    CanonicalEmpty (υ := SequenceView α) isEmpty shares :=
  canonicalEmpty stored (fun h => Bool.or_eq_true_iff.mpr (.inl h)) isEmpty_eq_of_beq

end SequenceView

namespace TraversalView

def ofShaped? : ShapedView α → Option (TraversalView α)
  | .traversal v => some v
  | _ => none

inductive Construction :
    Family → Option (List α) → Journaled (Option (TraversalView α)) → Prop
  | empty : Construction .filling (some []) (pure (some ∅))
  | collected (xs : List α) : Construction .filling (some xs) (some <$> ofList xs)
  | shaped [BEq α] [Hashable α] (xs : Option (List α)) :
      Construction .wrapping xs ((·.bind ofShaped?) <$> ShapedView.wrap (xs.map .traversal))

theorem Construction.foretold {family : Family} {input : Option (List α)}
    {make : Journaled (Option (TraversalView α))} (h : Construction family input make) :
    Foretold isEmpty family input make := by
  intro journal
  cases h with
  | empty => rfl
  | collected xs => exact congrArg some (SequenceView.isEmpty_ofList xs journal)
  | shaped xs =>
      cases input with
      | none => rfl
      | some xs => exact congrArg some (SequenceView.isEmpty_ofList xs journal)

theorem canonical_empty [BEq α] :
    CanonicalEmpty (υ := TraversalView α) isEmpty shares :=
  canonicalEmpty (fun v : TraversalView α => v.sequence.stored)
    (fun h => Bool.or_eq_true_iff.mpr (.inl h)) SequenceView.isEmpty_eq_of_beq

end TraversalView

namespace SetView

variable [BEq α] [Hashable α]

inductive Construction : Family → Option (List α) → Journaled (Option (SetView α)) → Prop
  | empty : Construction .filling (some []) (pure (some ∅))
  | built (capacity : Nat) (offers : List (Offer α)) :
      Construction .filling (some (offers.flatMap Offer.elements))
        (some <$> ((Draft.withCapacity capacity).offerAll offers).build)
  | rebuilt (base : SetView α) (offers : List (Offer α)) :
      Construction .filling (some (base.elements ++ offers.flatMap Offer.elements))
        (some <$> (base.toDraft.offerAll offers).build)
  | collected (capacity : Nat) (xs : List α) :
      Construction .filling (some xs) (some <$> collectWith capacity xs)
  | copied {ρ : Type} [Items ρ α] (container : Option ρ) :
      Construction .filling (container.map items) (some <$> ofContainer container)
  | written (xs : List α) : Construction .filling (some xs) (some <$> literal xs)
  | concatenated {σ ρ : Type} [Items σ α] [Items ρ α] (expected : Nat) (container : Option σ)
      (appended : Option ρ) :
      Construction .filling
        (Option.merge (· ++ ·) (container.map items) (appended.map items))
        (some <$> concatWith expected container appended)
  | wrapped (s : Option (HashedSet α)) :
      Construction .wrapping (s.map HashedSet.elements) (wrap s)
  | shaped (s : Option (HashedSet α)) :
      Construction .wrapping (s.map HashedSet.elements)
        ((·.bind ShapedView.set?) <$> ShapedView.wrap (s.map .set))

theorem isEmpty_build_extend (capacity : Nat) (xs : List α) (journal : Journal) :
    ((((Draft.withCapacity capacity).extend xs).build).run journal).1.isEmpty = xs.isEmpty := by
  have hextend := Draft.extend_eq_nil_iff (d := Draft.withCapacity capacity)
    (Stage.apart_withCapacity capacity) xs
  rw [isEmpty_eq, elements_build, Bool.eq_iff_iff, List.isEmpty_iff, List.isEmpty_iff, hextend]
  exact and_iff_right (Draft.elements_withCapacity capacity)

theorem isEmpty_concatWith [Items σ α] {ρ : Type} [Items ρ α] (expected : Nat)
    (container : Option σ) (appended : Option ρ) (journal : Journal) :
    ((concatWith expected container appended).run journal).1.isEmpty =
      (offered container ++ offered appended).isEmpty := by
  rw [concatWith, ← Draft.extend_append]
  exact isEmpty_build_extend _ _ _

theorem Construction.foretold {family : Family} {input : Option (List α)}
    {make : Journaled (Option (SetView α))} (h : Construction family input make) :
    Foretold isEmpty family input make := by
  intro journal
  cases h with
  | empty => rfl
  | built capacity offers =>
      rw [Draft.offerAll_eq_extend]
      exact congrArg some (isEmpty_build_extend capacity _ journal)
  | rebuilt base offers =>
      rw [Draft.offerAll_eq_extend, toDraft, ← Draft.extend_append]
      exact congrArg some (isEmpty_build_extend base.length _ journal)
  | collected capacity xs => exact congrArg some (isEmpty_build_extend capacity xs journal)
  | copied container =>
      cases container with
      | none => rfl
      | some container => exact congrArg some (isEmpty_build_extend _ (items container) journal)
  | written xs =>
      cases xs with
      | nil => rfl
      | cons x rest => exact congrArg some (isEmpty_build_extend _ (x :: rest) journal)
  | concatenated expected container appended =>
      have hjoined : (Option.merge (· ++ ·) (container.map items) (appended.map items)).getD [] =
          offered container ++ offered appended := by
        cases container <;> cases appended <;> simp [Option.merge, offered]
      rw [Family.kept, hjoined]
      exact congrArg some (isEmpty_concatWith expected container appended journal)
  | wrapped s =>
      cases s with
      | none => rfl
      | some s => exact congrArg some (isEmpty_build_extend _ s.elements journal)
  | shaped s =>
      cases s with
      | none => rfl
      | some s => exact congrArg some (isEmpty_build_extend _ s.elements journal)

theorem isEmpty_eq_of_beq {v w : SetView α} (h : (v == w) = true) : v.isEmpty = w.isEmpty := by
  rcases Bool.or_eq_true_iff.mp h with hshares | hcontent
  · exact Stored.isEmpty_eq_of_shares hshares
  · have hlength : v.elements.length = w.elements.length :=
      beq_iff_eq.mp (Bool.and_eq_true_iff.mp hcontent).1
    rw [isEmpty_eq, isEmpty_eq, Bool.eq_iff_iff, List.isEmpty_iff, List.isEmpty_iff,
      ← List.length_eq_zero_iff, hlength, List.length_eq_zero_iff]

theorem canonical_empty : CanonicalEmpty (υ := SetView α) isEmpty shares :=
  canonicalEmpty stored (fun h => Bool.or_eq_true_iff.mpr (.inl h)) isEmpty_eq_of_beq

end SetView

namespace HashedMap

variable [BEq κ]

theorem entries_insert_ne_nil (m : HashedMap κ ν) (k : κ) (v : ν) :
    (m.insert k v).2.entries ≠ [] := by
  show (putEntry k v m.entries).2 ≠ []
  cases m.entries with
  | nil => simp [putEntry]
  | cons entry rest =>
      simp only [putEntry]
      split <;> simp

theorem entries_ofList_eq_nil_iff (entries : List (κ × ν)) :
    (ofList entries).entries = [] ↔ entries = [] := by
  induction entries using List.reverseRecOn with
  | nil => exact ⟨fun _ => rfl, fun _ => rfl⟩
  | append_singleton earlier entry _ =>
      have hlast : ofList (earlier ++ [entry]) = ((ofList earlier).insert entry.1 entry.2).2 := by
        rw [ofList, List.foldl_append]
        rfl
      rw [hlast]
      simp [entries_insert_ne_nil]

end HashedMap

namespace MappingView

variable [BEq κ]

inductive Construction :
    Family → Option (List (κ × ν)) → Journaled (Option (MappingView κ ν)) → Prop
  | empty : Construction .filling (some []) (pure (some ∅))
  | held (m : HashedMap κ ν) : Construction .filling (some m.entries) (some <$> ofMap m)
  | collected (entries : List (κ × ν)) :
      Construction .filling (some entries) (some <$> ofList entries)
  | wrapped (m : Option (HashedMap κ ν)) :
      Construction .wrapping (m.map HashedMap.entries) (wrap m)

theorem isEmpty_ofMap (m : HashedMap κ ν) (journal : Journal) :
    ((ofMap m).run journal).1.isEmpty = m.entries.isEmpty := by
  rw [isEmpty_eq, entries_ofMap]

theorem Construction.foretold {family : Family} {input : Option (List (κ × ν))}
    {make : Journaled (Option (MappingView κ ν))} (h : Construction family input make) :
    Foretold isEmpty family input make := by
  intro journal
  cases h with
  | empty => rfl
  | held m => exact congrArg some (isEmpty_ofMap m journal)
  | collected entries =>
      have hentries : (HashedMap.ofList entries).entries.isEmpty = entries.isEmpty := by
        rw [Bool.eq_iff_iff, List.isEmpty_iff, List.isEmpty_iff,
          HashedMap.entries_ofList_eq_nil_iff]
      exact congrArg some ((isEmpty_ofMap (.ofList entries) journal).trans hentries)
  | wrapped m =>
      cases m with
      | none => rfl
      | some m => exact congrArg some (isEmpty_ofMap m journal)

theorem isEmpty_eq_of_beq [BEq ν] {v w : MappingView κ ν} (h : (v == w) = true) :
    v.isEmpty = w.isEmpty := by
  obtain ⟨storedv, hv⟩ := v
  obtain ⟨storedw, hw⟩ := w
  cases storedv <;> cases storedw
  · rfl
  · cases h
  · cases h
  · rfl

theorem canonical_empty [BEq ν] : CanonicalEmpty (υ := MappingView κ ν) isEmpty shares :=
  canonicalEmpty stored (fun h => Bool.or_eq_true_iff.mpr (.inl h)) isEmpty_eq_of_beq

end MappingView

section

variable [BEq α] [Hashable α]

def Shaped.elements : Shaped α → List α
  | .sequence xs => xs
  | .set s => s.elements
  | .traversal xs => xs

namespace ShapedView

inductive Construction : Family → Option (List α) → Journaled (Option (ShapedView α)) → Prop
  | wrapped (container : Option (Shaped α)) :
      Construction .wrapping (container.map Shaped.elements) (wrap container)

omit [BEq α] [Hashable α] in
theorem isEmpty_eq (v : ShapedView α) : v.isEmpty = v.elements.isEmpty := by
  rw [isEmpty, length_eq, Bool.eq_iff_iff, beq_iff_eq, List.length_eq_zero_iff, List.isEmpty_iff]

theorem isEmpty_ofShaped (container : Shaped α) (journal : Journal) :
    ((ofShaped container).run journal).1.isEmpty = container.elements.isEmpty := by
  rw [isEmpty_eq]
  cases container with
  | sequence xs => exact congrArg List.isEmpty (SequenceView.elements_ofList xs journal)
  | set s =>
      have h := SetView.isEmpty_build_extend s.elements.length s.elements journal
      rwa [SetView.isEmpty_eq] at h
  | traversal xs => exact congrArg List.isEmpty (TraversalView.elements_ofList xs journal)

theorem Construction.foretold {family : Family} {input : Option (List α)}
    {make : Journaled (Option (ShapedView α))} (h : Construction family input make) :
    Foretold isEmpty family input make := by
  intro journal
  cases h with
  | wrapped container =>
      cases container with
      | none => rfl
      | some container => exact congrArg some (isEmpty_ofShaped container journal)

end ShapedView

end

theorem empty_views_canonical [BEq α] [Hashable α] [BEq κ] [BEq ν] :
    (TellsEmptiness SequenceView.isEmpty SequenceView.length SequenceView.elements
        (Composed (SequenceView.Construction (α := α))) ∧
      CanonicalEmpty (υ := SequenceView α) SequenceView.isEmpty SequenceView.shares) ∧
      (TellsEmptiness TraversalView.isEmpty TraversalView.length TraversalView.elements
          (Composed (TraversalView.Construction (α := α))) ∧
        CanonicalEmpty (υ := TraversalView α) TraversalView.isEmpty TraversalView.shares) ∧
      (TellsEmptiness SetView.isEmpty SetView.length SetView.elements
          (Composed (SetView.Construction (α := α))) ∧
        CanonicalEmpty (υ := SetView α) SetView.isEmpty SetView.shares) ∧
      (TellsEmptiness MappingView.isEmpty MappingView.length MappingView.entries
          (Composed (MappingView.Construction (κ := κ) (ν := ν))) ∧
        CanonicalEmpty (υ := MappingView κ ν) MappingView.isEmpty MappingView.shares) ∧
      TellsEmptiness ShapedView.isEmpty ShapedView.length ShapedView.elements
        (ShapedView.Construction (α := α)) := by
  refine ⟨⟨?_, SequenceView.canonical_empty⟩, ⟨?_, TraversalView.canonical_empty⟩,
    ⟨?_, SetView.canonical_empty⟩, ⟨?_, MappingView.canonical_empty⟩, ?_⟩
  · exact tellsEmptiness (fun _ => rfl) SequenceView.isEmpty_eq
      fun h => h.foretold rfl SequenceView.Construction.foretold
  · exact tellsEmptiness (fun _ => rfl) (fun v => v.sequence.isEmpty_eq)
      fun h => h.foretold rfl TraversalView.Construction.foretold
  · exact tellsEmptiness (fun _ => rfl) SetView.isEmpty_eq
      fun h => h.foretold rfl SetView.Construction.foretold
  · exact tellsEmptiness (fun _ => rfl) MappingView.isEmpty_eq
      fun h => h.foretold rfl MappingView.Construction.foretold
  · exact tellsEmptiness ShapedView.length_eq ShapedView.isEmpty_eq
      ShapedView.Construction.foretold

-- The builder expects enough elements to start indexed, and receives none.
theorem unfed_builder_shares_with_absent_input :
    ∃ v w : SetView Nat,
      ((((Draft.withCapacity 64).offerAll []).build).run .start).1 = v ∧
        ((orEmpty <$> SetView.wrap (none : Option (HashedSet Nat))).run .start).1 = w ∧
        v.isEmpty = true ∧ v.shares w = true ∧ (v == w) = true := by
  obtain ⟨-, -, ⟨tells, canonical⟩, -⟩ :=
    empty_views_canonical (α := Nat) (κ := Nat) (ν := Nat)
  obtain ⟨v, hv, hvempty⟩ := tells.present (.direct (.built 64 [])) .start
  have habsent : SetView.Construction (α := Nat) .wrapping none (SetView.wrap none) :=
    .wrapped none
  obtain ⟨w, hw, hwempty⟩ := tells.absent_filled (.orEmpty (.direct habsent)) .start
  have hv' := hvempty.mpr rfl
  exact ⟨v, w, Option.some.inj hv, Option.some.inj hw, hv', canonical.shared hv' hwempty,
    canonical.equal hv' hwempty⟩

end OptionalContainers
