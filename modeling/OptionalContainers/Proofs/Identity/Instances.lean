import Mathlib.Logic.Function.Basic
import OptionalContainers.Identity
import OptionalContainers.Proofs.Search.Sought

namespace OptionalContainers

variable {H G V : Type}

theorem Reference.same_iff {a b : Reference} : Identity.same a b = true ↔ a = b := by
  obtain ⟨address⟩ := a
  obtain ⟨address'⟩ := b
  simp [Identity.same]

theorem Span.same_iff {a b : Span} : Identity.same a b = true ↔ a = b := by
  obtain ⟨address, length⟩ := a
  obtain ⟨address', length'⟩ := b
  simp [Identity.same]

structure Leading (H V : Type) where
  handle : H
  value : V

namespace Leading

instance [Identity H] : Identity (Leading H V) where
  same a b := Identity.same a.handle b.handle

def bare (h : Leading H V) : Leading H Unit :=
  ⟨h.handle, ()⟩

theorem bare_inj {a b : Leading H V} : a.bare = b.bare ↔ a.handle = b.handle := by
  simp [bare]

end Leading

/-- Counted pointers and references are pointers alike: they are told apart by their addresses. -/
inductive HandleKind where
  | pointer
  | span
  | optional (kind : HandleKind)

namespace HandleKind

def Handle (V : Type) : HandleKind → Type
  | .pointer => Leading Reference V
  | .span => Leading Span V
  | .optional kind => Option (kind.Handle V)

instance identity : (kind : HandleKind) → Identity (kind.Handle V)
  | .pointer => (inferInstance : Identity (Leading Reference V))
  | .span => (inferInstance : Identity (Leading Span V))
  | .optional kind =>
      letI : Identity (kind.Handle V) := identity kind
      (inferInstance : Identity (Option (kind.Handle V)))

/-- The handle alone, with nothing known of the value. -/
def bare : (kind : HandleKind) → kind.Handle V → kind.Handle Unit
  | .pointer, h => Leading.bare h
  | .span, h => Leading.bare h
  | .optional kind, h => Option.map kind.bare h

theorem same_iff_bare (kind : HandleKind) (a b : kind.Handle V) :
    Identity.same a b = true ↔ kind.bare a = kind.bare b := by
  induction kind with
  | pointer => exact Reference.same_iff.trans Leading.bare_inj.symm
  | span => exact Span.same_iff.trans Leading.bare_inj.symm
  | optional kind ih =>
      cases a with
      | none => cases b with
        | none => exact iff_of_true rfl rfl
        | some b => exact iff_of_false Bool.false_ne_true nofun
      | some a => cases b with
        | none => exact iff_of_false Bool.false_ne_true nofun
        | some b => exact (ih a b).trans Option.some_inj.symm

theorem equivalence_same (kind : HandleKind) :
    Equivalence fun a b : kind.Handle V => Identity.same a b = true := by
  simp only [same_iff_bare]
  exact InvImage.equivalence Eq kind.bare eq_equivalence

theorem bare_bare (kind : HandleKind) (h : kind.Handle V) :
    kind.bare (kind.bare h) = kind.bare h := by
  induction kind with
  | pointer => rfl
  | span => rfl
  | optional kind ih =>
      cases h with
      | none => rfl
      | some h => exact congrArg some (ih h)

theorem same_bare (kind : HandleKind) (a b : kind.Handle V) :
    Identity.same (kind.bare a) (kind.bare b) = Identity.same a b := by
  rw [Bool.eq_iff_iff, same_iff_bare, same_iff_bare, bare_bare, bare_bare]

end HandleKind

section

variable [Identity H] {first probe : H} {others xs ys : List H} {result : Bool × Option (List H)}

theorem hasInstance_eq_iff :
    hasInstance (some xs) probe = result ↔ Sought (Identity.same · probe) xs result :=
  sought_iff

theorem hasInstance_eq_true_iff :
    (hasInstance (some xs) probe).1 = true ↔ ∃ x ∈ xs, Identity.same x probe = true :=
  (hasInstance_eq_iff.mp rfl).eq_true_iff

inductive ToldByFirst : List H → Bool × Option (List H) → Prop
  | empty : ToldByFirst [] (false, some [])
  | through {first : H} {others : List H} (h : ∀ x ∈ others, Identity.same x first = true) :
      ToldByFirst (first :: others) (true, some [])
  | differing {first x : H} {before after : List H}
      (hbefore : ∀ y ∈ before, Identity.same y first = true)
      (hx : Identity.same x first = false) :
      ToldByFirst (first :: (before ++ x :: after)) (false, some after)

theorem exists_toldByFirst (xs : List H) : ∃ result, ToldByFirst xs result := by
  cases xs with
  | nil => exact ⟨_, .empty⟩
  | cons first others =>
      obtain ⟨before, x, after, rfl, hbefore, hx, -⟩ | ⟨hnone, -⟩ :=
        seek_cases (fun h => !Identity.same h first) others
      · simp only [Bool.not_eq_true', Bool.not_eq_false'] at hbefore hx
        exact ⟨_, .differing hbefore hx⟩
      · simp only [Bool.not_eq_false'] at hnone
        exact ⟨_, .through hnone⟩

theorem isOneInstance_cons {differs : Bool} {rest : Option (List H)}
    (h : Sought (fun x => !Identity.same x first) others (differs, rest)) :
    isOneInstance (some (first :: others)) = (!differs, rest) := by
  have hseek := sought_iff.mpr h
  rw [Prod.mk.injEq] at hseek
  obtain ⟨rfl, rfl⟩ := hseek
  rw [isOneInstance, Option.not_isSome]

theorem isOneInstance_of_toldByFirst (h : ToldByFirst xs result) :
    isOneInstance (some xs) = result := by
  cases h with
  | empty => rfl
  | through h => exact isOneInstance_cons (.missed fun x hx => by rw [h x hx]; rfl)
  | differing hbefore hx =>
      exact isOneInstance_cons (.found (fun y hy => by rw [hbefore y hy]; rfl) (by rw [hx]; rfl))

theorem isOneInstance_eq_iff : isOneInstance (some xs) = result ↔ ToldByFirst xs result := by
  refine ⟨?_, isOneInstance_of_toldByFirst⟩
  rintro rfl
  obtain ⟨result, h⟩ := exists_toldByFirst xs
  rw [isOneInstance_of_toldByFirst h]
  exact h

theorem isOneInstance_cons_iff :
    (isOneInstance (some (first :: others))).1 = true ↔
      ∀ x ∈ others, Identity.same x first = true := by
  obtain ⟨result, h⟩ := exists_toldByFirst (first :: others)
  rw [isOneInstance_of_toldByFirst h]
  cases h with
  | through h => exact iff_of_true rfl h
  | @differing _ x before after hbefore hx =>
      refine iff_of_false Bool.false_ne_true fun hall => ?_
      have hsame := hall x (List.mem_append_right before List.mem_cons_self)
      exact absurd (hx.symm.trans hsame) Bool.false_ne_true

section

variable (equivalence : Equivalence fun a b : H => Identity.same a b = true)
include equivalence

theorem forall_same_first (h : (isOneInstance (some (first :: others))).1 = true) :
    ∀ x ∈ first :: others, Identity.same x first = true :=
  List.forall_mem_cons.mpr ⟨equivalence.refl first, isOneInstance_cons_iff.mp h⟩

theorem isOneInstance_iff_all_same :
    (isOneInstance (some xs)).1 = true ↔
      xs ≠ [] ∧ ∀ a ∈ xs, ∀ b ∈ xs, Identity.same a b = true := by
  cases xs with
  | nil => exact iff_of_false Bool.false_ne_true fun h => h.1 rfl
  | cons first others =>
      constructor
      · intro h
        have hfirst := forall_same_first equivalence h
        exact ⟨List.cons_ne_nil first others, fun a ha b hb =>
          equivalence.trans (hfirst a ha) (equivalence.symm (hfirst b hb))⟩
      · rintro ⟨-, hall⟩
        refine isOneInstance_cons_iff.mpr fun x hx => ?_
        exact hall x (List.mem_cons_of_mem first hx) first List.mem_cons_self

theorem isOneInstance_eq_of_subset (h : xs ⊆ ys) (h' : ys ⊆ xs) :
    (isOneInstance (some xs)).1 = (isOneInstance (some ys)).1 := by
  have hmem : ∀ x, x ∈ xs ↔ x ∈ ys := fun x => ⟨@h x, @h' x⟩
  have hnil : xs = [] ↔ ys = [] := by
    simp only [List.eq_nil_iff_forall_not_mem, hmem]
  rw [Bool.eq_iff_iff, isOneInstance_iff_all_same equivalence,
    isOneInstance_iff_all_same equivalence]
  simp only [hmem, Ne, hnil]

theorem hasInstance_iff_same_first (h : (isOneInstance (some (first :: others))).1 = true) :
    (hasInstance (some (first :: others)) probe).1 = true ↔ Identity.same probe first = true := by
  rw [hasInstance_eq_true_iff]
  constructor
  · rintro ⟨x, hx, hprobe⟩
    exact equivalence.trans (equivalence.symm hprobe) (forall_same_first equivalence h x hx)
  · intro hprobe
    exact ⟨first, List.mem_cons_self, equivalence.symm hprobe⟩

end

theorem hasInstance_map [Identity G] {f : H → G}
    (h : ∀ a b, Identity.same (f a) (f b) = Identity.same a b) (xs : List H) (probe : H) :
    hasInstance (some (xs.map f)) (f probe) =
      ((hasInstance (some xs) probe).1, (hasInstance (some xs) probe).2.map (List.map f)) := by
  simp only [hasInstance, seekIn, seek_map, h, Option.isSome_map, Option.map_some]

theorem isOneInstance_map [Identity G] {f : H → G}
    (h : ∀ a b, Identity.same (f a) (f b) = Identity.same a b) (xs : List H) :
    isOneInstance (some (xs.map f)) =
      ((isOneInstance (some xs)).1, (isOneInstance (some xs)).2.map (List.map f)) := by
  cases xs with
  | nil => rfl
  | cons first others =>
      simp only [List.map_cons, isOneInstance, seek_map, h, Option.isNone_map, Option.map_some]

end

theorem one_instance_iff_all_same (kind : HandleKind) (V : Type) :
    (Equivalence fun a b : kind.Handle V => Identity.same a b = true) ∧
      (∀ a b : kind.Handle V, Identity.same a b = true ↔ kind.bare a = kind.bare b) ∧
      (∀ h : kind.Handle V,
        Identity.same (none : kind.optional.Handle V) (some h : kind.optional.Handle V) = false) ∧
      (∀ xs : List (kind.Handle V),
        ((isOneInstance (some xs)).1 = true ↔
            xs ≠ [] ∧ ∀ a ∈ xs, ∀ b ∈ xs, Identity.same a b = true) ∧
          (∀ result, isOneInstance (some xs) = result ↔ ToldByFirst xs result) ∧
          (∀ ys, xs ⊆ ys → ys ⊆ xs →
            (isOneInstance (some xs)).1 = (isOneInstance (some ys)).1) ∧
          isOneInstance (some (xs.map kind.bare)) =
            ((isOneInstance (some xs)).1,
              (isOneInstance (some xs)).2.map (List.map kind.bare))) ∧
      (∀ (xs : List (kind.Handle V)) (probe : kind.Handle V),
        ((hasInstance (some xs) probe).1 = true ↔ ∃ x ∈ xs, Identity.same x probe = true) ∧
          (∀ result, hasInstance (some xs) probe = result ↔
            Sought (Identity.same · probe) xs result) ∧
          hasInstance (some (xs.map kind.bare)) (kind.bare probe) =
            ((hasInstance (some xs) probe).1,
              (hasInstance (some xs) probe).2.map (List.map kind.bare))) ∧
      ∀ (first : kind.Handle V) (others : List (kind.Handle V)) (probe : kind.Handle V),
        (isOneInstance (some (first :: others))).1 = true →
          ((hasInstance (some (first :: others)) probe).1 = true ↔
            Identity.same probe first = true) := by
  have hequivalence := kind.equivalence_same (V := V)
  refine ⟨hequivalence, kind.same_iff_bare, fun h => rfl, fun xs => ⟨?_, ?_, ?_, ?_⟩,
    fun xs probe => ⟨?_, ?_, ?_⟩, fun first others probe h => ?_⟩
  · exact isOneInstance_iff_all_same hequivalence
  · exact fun result => isOneInstance_eq_iff
  · exact fun ys h h' => isOneInstance_eq_of_subset hequivalence h h'
  · exact isOneInstance_map kind.same_bare xs
  · exact hasInstance_eq_true_iff
  · exact fun result => hasInstance_eq_iff
  · exact hasInstance_map kind.same_bare xs probe
  · exact hasInstance_iff_same_first hequivalence h

theorem one_instance_of_overlapping_spans :
    let kind := HandleKind.span.optional.optional
    let long : kind.Handle Nat := some (some ⟨⟨2, 3⟩, 7⟩)
    let short : kind.Handle Nat := some (some ⟨⟨2, 2⟩, 7⟩)
    let null : kind.Handle Nat := some none
    (isOneInstance (some [long, long])).1 = true ∧
      ((hasInstance (some [long, long]) short).1 = true ↔ Identity.same short long = true) ∧
      (isOneInstance (some [long, long])).1 = (isOneInstance (some [long, long, long])).1 ∧
      ToldByFirst [long, short, null] (false, some [null]) ∧
      Sought (Identity.same · null) [none, null, long] (true, some [long]) := by
  intro kind long short null
  obtain ⟨-, -, -, hone, hhas, hfirst⟩ := one_instance_iff_all_same kind Nat
  obtain ⟨-, -, hrepeated, -⟩ := hone [long, long]
  obtain ⟨-, htold, -⟩ := hone [long, short, null]
  obtain ⟨-, hsought, -⟩ := hhas [none, null, long] null
  have hlong : (isOneInstance (some [long, long])).1 = true := rfl
  refine ⟨hlong, hfirst long [long] short hlong, ?_, (htold _).mp rfl, (hsought _).mp rfl⟩
  exact hrepeated [long, long, long] (by simp) (by simp)

end OptionalContainers
