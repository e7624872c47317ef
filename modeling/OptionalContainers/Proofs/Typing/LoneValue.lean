import OptionalContainers.Proofs.Typing.Contents

namespace OptionalContainers

variable {τ β : Type} {El : τ → Type} {H : Type} [Erased H El]

def lone : List β → Option β
  | [x] => some x
  | _ => none

theorem lone_eq_some_iff {xs : List β} {x : β} : lone xs = some x ↔ xs = [x] := by
  cases xs with
  | nil => simp [lone]
  | cons y rest => cases rest <;> simp [lone]

theorem isSome_lone {xs : List β} : (lone xs).isSome = true ↔ xs.length = 1 := by
  rw [Option.isSome_iff_exists, List.length_eq_one_iff]
  simp only [lone_eq_some_iff]

theorem lone_eq_of_perm {xs ys : List β} (h : xs.Perm ys) : lone xs = lone ys := by
  refine Option.ext fun x => ?_
  rw [lone_eq_some_iff, lone_eq_some_iff]
  constructor
  · rintro rfl
    exact List.perm_singleton.mp h.symm
  · rintro rfl
    exact List.perm_singleton.mp h

variable [DecidableEq τ]

theorem Typed.as?_eq_some_iff {x : Typed El} {t : τ} {v : El t} :
    x.as? t = some v ↔ x = ⟨t, v⟩ := by
  obtain ⟨type, value⟩ := x
  rw [as?]
  split
  next h =>
    cases h
    simp
  next h =>
    simp only [reduceCtorEq, mk.injEq, false_iff, not_and]
    exact fun htype => absurd htype h

theorem Typed.isSome_as? (x : Typed El) (t : τ) : (x.as? t).isSome = decide (x.type = t) := by
  rw [as?]
  split <;> simp [*]

def valuesOf (t : τ) (xs : List H) : List (El t) :=
  (contents xs).filterMap (Typed.as? t)

theorem mem_valuesOf {t : τ} {v : El t} {xs : List H} :
    v ∈ valuesOf t xs ↔ ∃ x ∈ xs, Erased.content x = some ⟨t, v⟩ := by
  simp [valuesOf, contents, Typed.as?_eq_some_iff]

theorem length_valuesOf (t : τ) (xs : List H) :
    (valuesOf t xs).length = xs.countP (runtimeType · = some t) := by
  rw [valuesOf, contents, List.filterMap_filterMap, List.length_filterMap_eq_countP]
  refine List.countP_congr fun x _ => ?_
  cases hx : Erased.content x with
  | none => simp [runtimeType, hx]
  | some c => simp [runtimeType, hx, Typed.isSome_as?]

-- The value found so far counts as one that stands before the elements still to be looked at.
theorem onlyValue_eq_lone (t : τ) (found : Option (El t)) (xs : List H) :
    onlyValue t found xs = lone (found.toList ++ valuesOf t xs) := by
  induction xs generalizing found with
  | nil => cases found <;> rfl
  | cons x rest ih =>
      cases hx : Erased.content x with
      | none =>
          have hskip : valuesOf t (x :: rest) = valuesOf t rest := by
            rw [valuesOf, contents_cons_null hx, valuesOf]
          rw [hskip, ← ih]
          simp only [onlyValue, hx, Option.bind_none]
      | some c =>
          rw [valuesOf, contents_cons_some hx]
          cases hc : c.as? t with
          | none =>
              rw [List.filterMap_cons_none hc]
              simp only [onlyValue, hx, Option.bind_some, hc]
              exact ih found
          | some value =>
              rw [List.filterMap_cons_some hc]
              simp only [onlyValue, hx, Option.bind_some, hc]
              cases found with
              | none => exact ih (some value)
              | some first => rfl

theorem valueOfType_eq_lone (t : τ) (xs : List H) :
    valueOfType t (some xs) = lone (valuesOf t xs) :=
  onlyValue_eq_lone t none xs

theorem isSome_valueOfType {t : τ} {xs : List H} :
    (valueOfType t (some xs)).isSome = true ↔ xs.countP (runtimeType · = some t) = 1 := by
  rw [valueOfType_eq_lone, isSome_lone, length_valuesOf]

theorem valueOfType_eq_some_iff {t : τ} {v : El t} {xs : List H} :
    valueOfType t (some xs) = some v ↔
      xs.countP (runtimeType · = some t) = 1 ∧ ∃ x ∈ xs, Erased.content x = some ⟨t, v⟩ := by
  rw [valueOfType_eq_lone, lone_eq_some_iff, ← length_valuesOf, ← mem_valuesOf]
  constructor
  · intro h
    rw [h]
    exact ⟨rfl, List.mem_cons_self⟩
  · rintro ⟨hlength, hmem⟩
    obtain ⟨w, hw⟩ := List.length_eq_one_iff.mp hlength
    rw [hw, List.mem_singleton] at hmem
    rw [hw, hmem]

theorem valueOfType_eq_none_iff {t : τ} {xs : List H} :
    valueOfType t (some xs) = none ↔ xs.countP (runtimeType · = some t) ≠ 1 := by
  rw [Ne, ← isSome_valueOfType, Bool.not_eq_true, Option.isSome_eq_false_iff,
    Option.isNone_iff_eq_none]

theorem valueOfTypes_eq_some_iff {types : List τ} {found : Typed El} {xs : List H} :
    valueOfTypes (some xs) types = some found ↔
      ∃ before after, types = before ++ found.type :: after ∧
        (∀ u ∈ before, xs.countP (runtimeType · = some u) ≠ 1) ∧
        valueOfType found.type (some xs) = some found.value := by
  rw [valueOfTypes, List.findSome?_eq_some_iff]
  constructor
  · rintro ⟨before, t, after, rfl, ht, hbefore⟩
    obtain ⟨value, hvalue, rfl⟩ := Option.map_eq_some_iff.mp ht
    refine ⟨before, after, rfl, fun u hu => ?_, hvalue⟩
    exact valueOfType_eq_none_iff.mp (Option.map_eq_none_iff.mp (hbefore u hu))
  · rintro ⟨before, after, rfl, hbefore, hvalue⟩
    refine ⟨before, found.type, after, rfl, ?_, fun u hu => ?_⟩
    · rw [hvalue]
      rfl
    · exact Option.map_eq_none_iff.mpr (valueOfType_eq_none_iff.mpr (hbefore u hu))

theorem findSome?_repeated {α : Type} {f : α → Option β} {before : List α} {x : α}
    (h : x ∈ before) (after : List α) :
    (before ++ x :: after).findSome? f = (before ++ after).findSome? f := by
  rw [List.findSome?_append, List.findSome?_append, List.findSome?_cons]
  cases hx : f x with
  | none => rfl
  | some b =>
      have hfound : (before.findSome? f).isSome = true := by
        rw [List.findSome?_isSome_iff]
        exact ⟨x, h, by rw [hx]; rfl⟩
      rw [Option.or_of_isSome hfound, Option.or_of_isSome hfound]

theorem valueOfType_eq_of_perm {G : Type} [Erased G El] {xs : List H} {ys : List G}
    (h : (contents xs).Perm (contents ys)) (t : τ) :
    valueOfType t (some xs) = valueOfType t (some ys) := by
  rw [valueOfType_eq_lone, valueOfType_eq_lone]
  exact lone_eq_of_perm (h.filterMap (Typed.as? t))

theorem aboutContents_valueOfType (t : τ) :
    AboutContents El fun xs => valueOfType t (some xs) :=
  aboutContents_of_perm fun h => valueOfType_eq_of_perm h t

theorem aboutContents_valueOfTypes (types : List τ) :
    AboutContents El fun xs => valueOfTypes (some xs) types := by
  refine aboutContents_of_perm fun h => ?_
  simp only [valueOfTypes, valueOfType_eq_of_perm h]

theorem value_found_iff_alone (xs : List H) :
    (∀ t : τ,
        ((valueOfType t (some xs)).isSome = true ↔ xs.countP (runtimeType · = some t) = 1) ∧
          ∀ v, valueOfType t (some xs) = some v ↔
            xs.countP (runtimeType · = some t) = 1 ∧
              ∃ x ∈ xs, Erased.content x = some ⟨t, v⟩) ∧
      (∀ types : List τ,
        (∀ found, valueOfTypes (some xs) types = some found ↔
            ∃ before after, types = before ++ found.type :: after ∧
              (∀ u ∈ before, xs.countP (runtimeType · = some u) ≠ 1) ∧
              valueOfType found.type (some xs) = some found.value) ∧
          valueOfTypes (some xs) types =
            (types.filterMap fun t => (valueOfType t (some xs)).map (Typed.mk t)).head?) ∧
      (∀ (before after : List τ) (t : τ), t ∈ before →
        valueOfTypes (some xs) (before ++ t :: after) =
          valueOfTypes (some xs) (before ++ after)) ∧
      (∀ t : τ, AboutContents El fun xs => valueOfType t (some xs)) ∧
      ∀ types : List τ, AboutContents El fun xs => valueOfTypes (some xs) types := by
  refine ⟨fun t => ⟨isSome_valueOfType, fun v => valueOfType_eq_some_iff⟩,
    fun types => ⟨fun found => valueOfTypes_eq_some_iff, ?_⟩,
    fun before after t ht => findSome?_repeated ht after,
    aboutContents_valueOfType, aboutContents_valueOfTypes⟩
  exact List.head?_filterMap.symm

example :
    let xs : List (Option (Pointer (Option (Typed fun _ : String => Nat)))) :=
      [some ⟨some ⟨"i32", 1⟩⟩, none, some ⟨some ⟨"u8", 3⟩⟩, some ⟨none⟩, some ⟨some ⟨"i32", 2⟩⟩]
    valueOfTypes (some xs) ["i32", "u8"] = some ⟨"u8", 3⟩ := rfl

end OptionalContainers
