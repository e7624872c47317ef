import OptionalContainers.Proofs.Typing.LoneValue

namespace OptionalContainers

variable {τ : Type} {El : τ → Type} {H : Type} [Erased H El]

inductive Uniform : List H → Option τ → Prop
  | null {xs : List H} (hall : ∀ x ∈ xs, runtimeType x = none) : Uniform xs none
  | typed {xs : List H} {c : τ} (hsome : ∃ x ∈ xs, runtimeType x = some c)
      (hall : ∀ x ∈ xs, ∀ t, runtimeType x = some t → t = c) : Uniform xs (some c)

inductive Compared : List H → Option τ × Option (List H) → Prop
  | through {xs : List H} {common : Option τ} (h : Uniform xs common) :
      Compared xs (common, some [])
  | differing {before after : List H} {x : H} {c t : τ} (h : Uniform before (some c))
      (hx : runtimeType x = some t) (ht : t ≠ c) :
      Compared (before ++ x :: after) (none, some after)

section

variable {before xs : List H} {x : H} {t : τ} {common : Option τ}

theorem Uniform.append_null (h : Uniform before common) (hx : runtimeType x = none) :
    Uniform (before ++ [x]) common := by
  cases h with
  | null hall => exact .null (List.forall_mem_append.mpr ⟨hall, List.forall_mem_singleton.mpr hx⟩)
  | typed hsome hall =>
      obtain ⟨y, hy, htype⟩ := hsome
      refine .typed ⟨y, List.mem_append_left _ hy, htype⟩
        (List.forall_mem_append.mpr ⟨hall, List.forall_mem_singleton.mpr fun t ht => ?_⟩)
      rw [hx] at ht
      cases ht

theorem uniform_append_typed (hall : ∀ y ∈ before, ∀ u, runtimeType y = some u → u = t)
    (hx : runtimeType x = some t) : Uniform (before ++ [x]) (some t) := by
  refine .typed ⟨x, List.mem_append_right _ List.mem_cons_self, hx⟩
    (List.forall_mem_append.mpr ⟨hall, List.forall_mem_singleton.mpr fun u hu => ?_⟩)
  rw [hx] at hu
  cases hu
  rfl

theorem Uniform.append_first (h : Uniform before none) (hx : runtimeType x = some t) :
    Uniform (before ++ [x]) (some t) := by
  cases h with
  | null hall =>
      refine uniform_append_typed (fun y hy u hu => ?_) hx
      rw [hall y hy] at hu
      cases hu

theorem Uniform.append_same (h : Uniform before (some t)) (hx : runtimeType x = some t) :
    Uniform (before ++ [x]) (some t) := by
  cases h with
  | typed hsome hall => exact uniform_append_typed hall hx

theorem Uniform.eq_some_iff (h : Uniform xs common) :
    common = some t ↔
      (∃ x ∈ xs, (runtimeType x).isSome = true) ∧
        ∀ x ∈ xs, ∀ u, runtimeType x = some u → u = t := by
  cases h with
  | null hall =>
      refine ⟨nofun, ?_⟩
      rintro ⟨⟨x, hx, hsome⟩, -⟩
      rw [hall x hx] at hsome
      cases hsome
  | @typed c hsome hall =>
      obtain ⟨x, hx, htype⟩ := hsome
      constructor
      · rintro ⟨rfl⟩
        exact ⟨⟨x, hx, htype ▸ rfl⟩, hall⟩
      · rintro ⟨-, hsame⟩
        rw [hsame x hx c htype]

theorem Uniform.eq_of_uniform {common' : Option τ} (h : Uniform xs common)
    (h' : Uniform xs common') : common = common' :=
  Option.ext fun _ => h.eq_some_iff.trans h'.eq_some_iff.symm

theorem Uniform.eq_of_append {common' : Option τ} {c : τ} (h : Uniform before (some c))
    (h' : Uniform (before ++ x :: xs) common') (hx : runtimeType x = some t) : t = c := by
  have hmem : x ∈ before ++ x :: xs := List.mem_append_right _ List.mem_cons_self
  cases h with
  | typed hsome hall =>
      obtain ⟨y, hy, htype⟩ := hsome
      cases h' with
      | null hall' =>
          rw [hall' x hmem] at hx
          cases hx
      | typed hsome' hall' =>
          exact (hall' x hmem t hx).trans (hall' y (List.mem_append_left _ hy) c htype).symm

theorem uniform_nil : Uniform ([] : List H) none :=
  .null fun _ hx => absurd hx List.not_mem_nil

variable [DecidableEq τ]

theorem commonTypeFrom_cons_cases (h : Uniform before common) (x : H) :
    (∃ common', Uniform (before ++ [x]) common' ∧
        ∀ rest, commonTypeFrom common (x :: rest) = commonTypeFrom common' rest) ∨
      ∃ c t, common = some c ∧ runtimeType x = some t ∧ t ≠ c ∧
        ∀ rest, commonTypeFrom common (x :: rest) = (none, rest) := by
  cases hx : runtimeType x with
  | none => exact .inl ⟨common, h.append_null hx, fun rest => by simp only [commonTypeFrom, hx]⟩
  | some t =>
      cases common with
      | none =>
          exact .inl ⟨some t, h.append_first hx, fun rest => by simp only [commonTypeFrom, hx]⟩
      | some c =>
          by_cases htc : t = c
          · subst htc
            refine .inl ⟨some t, h.append_same hx, fun rest => ?_⟩
            simp only [commonTypeFrom, hx, if_pos]
          · refine .inr ⟨c, t, rfl, rfl, htc, fun rest => ?_⟩
            simp only [commonTypeFrom, hx, if_neg htc]

theorem compared_commonTypeFrom (h : Uniform before common) (xs : List H) :
    Compared (before ++ xs) ((commonTypeFrom common xs).1, some (commonTypeFrom common xs).2) := by
  induction xs generalizing before common with
  | nil =>
      rw [List.append_nil]
      exact .through h
  | cons x rest ih =>
      obtain ⟨common', hnext, hskip⟩ | ⟨c, t, rfl, hx, htc, hstop⟩ := commonTypeFrom_cons_cases h x
      · rw [hskip, List.append_cons]
        exact ih hnext
      · rw [hstop]
        exact .differing h hx htc

theorem commonTypeFrom_append {common' : Option τ} {seen : List H} (h : Uniform seen common)
    (h' : Uniform (seen ++ before) common') (rest : List H) :
    commonTypeFrom common (before ++ rest) = commonTypeFrom common' rest := by
  induction before generalizing seen common with
  | nil =>
      rw [List.append_nil] at h'
      rw [List.nil_append, h.eq_of_uniform h']
  | cons x before ih =>
      obtain ⟨_, hnext, hskip⟩ | ⟨c, t, rfl, hx, htc, -⟩ := commonTypeFrom_cons_cases h x
      · rw [List.append_cons] at h'
        rw [List.cons_append, hskip]
        exact ih hnext h'
      · exact absurd (h.eq_of_append h' hx) htc

theorem commonType_eq_iff {result : Option τ × Option (List H)} :
    commonType (some xs) = result ↔ Compared xs result := by
  constructor
  · rintro rfl
    exact compared_commonTypeFrom uniform_nil xs
  · intro h
    cases h with
    | through h =>
        have hall := commonTypeFrom_append uniform_nil h []
        rw [List.append_nil] at hall
        rw [commonType, hall]
        rfl
    | @differing before after x c t h hx ht =>
        have hall := commonTypeFrom_append uniform_nil h (x :: after)
        rw [commonType, hall]
        simp only [commonTypeFrom, hx, if_neg ht]

theorem commonType_eq_some_iff :
    (commonType (some xs)).1 = some t ↔
      (∃ x ∈ xs, (runtimeType x).isSome = true) ∧
        ∀ x ∈ xs, ∀ u, runtimeType x = some u → u = t := by
  have hcompared := commonType_eq_iff.mp (rfl : commonType (some xs) = _)
  generalize commonType (some xs) = result at hcompared ⊢
  cases hcompared with
  | through h => exact h.eq_some_iff
  | @differing before after x c u h hx hu =>
      refine ⟨nofun, ?_⟩
      rintro ⟨-, hsame⟩
      cases h with
      | typed hsome hall =>
          obtain ⟨y, hy, htype⟩ := hsome
          have hc : c = t := hsame y (List.mem_append_left _ hy) c htype
          have hut : u = t := hsame x (List.mem_append_right _ List.mem_cons_self) u hx
          exact absurd (hut.trans hc.symm) hu

theorem commonType_eq_some_iff_contents :
    (commonType (some xs)).1 = some t ↔
      (∃ c, c ∈ contents xs) ∧ ∀ c ∈ contents xs, c.type = t := by
  rw [commonType_eq_some_iff]
  constructor
  · rintro ⟨⟨x, hx, hsome⟩, hall⟩
    rw [runtimeType, Option.isSome_map] at hsome
    obtain ⟨c, hc⟩ := Option.isSome_iff_exists.mp hsome
    refine ⟨⟨c, List.mem_filterMap.mpr ⟨x, hx, hc⟩⟩, fun c hmem => ?_⟩
    obtain ⟨y, hy, hcontent⟩ := List.mem_filterMap.mp hmem
    exact hall y hy c.type (Option.map_eq_some_iff.mpr ⟨c, hcontent, rfl⟩)
  · rintro ⟨⟨c, hmem⟩, hall⟩
    obtain ⟨x, hx, hc⟩ := List.mem_filterMap.mp hmem
    refine ⟨⟨x, hx, by rw [runtimeType, hc]; rfl⟩, fun y hy u hu => ?_⟩
    obtain ⟨d, hd, rfl⟩ := Option.map_eq_some_iff.mp hu
    exact hall d (List.mem_filterMap.mpr ⟨y, hy, hd⟩)

theorem isSome_valueOfType_of_commonType (h : (commonType (some xs)).1 = some t) (u : τ) :
    (valueOfType u (some xs)).isSome = true ↔
      u = t ∧ xs.countP (fun x => (runtimeType x).isSome) = 1 := by
  obtain ⟨-, hall⟩ := commonType_eq_some_iff.mp h
  rw [isSome_valueOfType]
  by_cases hut : u = t
  · subst hut
    have hcount : xs.countP (runtimeType · = some u) =
        xs.countP (fun x => (runtimeType x).isSome) := by
      refine List.countP_congr fun x hx => ?_
      rw [decide_eq_true_iff, Option.isSome_iff_exists]
      constructor
      · exact fun htype => ⟨u, htype⟩
      · rintro ⟨v, hv⟩
        rw [hv, hall x hx v hv]
    rw [hcount, and_iff_right rfl]
  · have hcount : xs.countP (runtimeType · = some u) = 0 := by
      rw [List.countP_eq_zero]
      intro x hx htype
      exact hut (hall x hx u (of_decide_eq_true htype))
    rw [hcount]
    exact ⟨nofun, fun h => absurd h.1 hut⟩

theorem exists_runtimeType_of_valueOfType (h : (valueOfType t (some xs)).isSome = true) :
    ∃ x ∈ xs, runtimeType x = some t := by
  obtain ⟨v, hv⟩ := Option.isSome_iff_exists.mp h
  obtain ⟨-, x, hx, hcontent⟩ := valueOfType_eq_some_iff.mp hv
  exact ⟨x, hx, by rw [runtimeType, hcontent]; rfl⟩

theorem commonType_eq_none_of_values {u : τ} (htu : t ≠ u)
    (ht : (valueOfType t (some xs)).isSome = true)
    (hu : (valueOfType u (some xs)).isSome = true) : (commonType (some xs)).1 = none := by
  obtain ⟨x, hx, hxt⟩ := exists_runtimeType_of_valueOfType ht
  obtain ⟨y, hy, hyu⟩ := exists_runtimeType_of_valueOfType hu
  rw [Option.eq_none_iff_forall_ne_some]
  intro c hc
  obtain ⟨-, hall⟩ := commonType_eq_some_iff.mp hc
  exact htu ((hall x hx t hxt).trans (hall y hy u hyu).symm)

end

variable [DecidableEq τ]

theorem aboutContents_commonType : AboutContents El fun xs => (commonType (some xs)).1 := by
  refine aboutContents_of_perm fun h => Option.ext fun t => ?_
  rw [commonType_eq_some_iff_contents, commonType_eq_some_iff_contents]
  simp only [h.mem_iff]

theorem common_type_iff_uniform (xs : List H) :
    (∀ t : τ, (commonType (some xs)).1 = some t ↔
        (∃ x ∈ xs, (runtimeType x).isSome = true) ∧
          ∀ x ∈ xs, ∀ u, runtimeType x = some u → u = t) ∧
      (∀ result, commonType (some xs) = result ↔ Compared xs result) ∧
      (AboutContents El fun xs => (commonType (some xs)).1) ∧
      (∀ t : τ, (commonType (some xs)).1 = some t → ∀ u : τ,
        ((valueOfType u (some xs)).isSome = true ↔
          u = t ∧ xs.countP (fun x => (runtimeType x).isSome) = 1)) ∧
      ∀ t u : τ, t ≠ u → (valueOfType t (some xs)).isSome = true →
        (valueOfType u (some xs)).isSome = true → (commonType (some xs)).1 = none := by
  refine ⟨fun t => commonType_eq_some_iff, fun result => commonType_eq_iff,
    aboutContents_commonType, ?_, ?_⟩
  · intro t h u
    exact isSome_valueOfType_of_commonType h u
  · intro t u htu ht hu
    exact commonType_eq_none_of_values htu ht hu

theorem common_type_of_nested_holders :
    let byte : Typed fun _ : String => Nat := ⟨"u8", 3⟩
    let word : Typed fun _ : String => Nat := ⟨"i32", 1⟩
    let alone := [none, some (Pointer.mk (some byte)), some ⟨none⟩]
    let mixed := [some (Pointer.mk (some byte)), some ⟨none⟩, some ⟨some word⟩, none]
    ((commonType (some alone)).1 = some "u8" ∧
        ((valueOfType "u8" (some alone)).isSome = true ↔
          "u8" = "u8" ∧ alone.countP (fun x => (runtimeType x).isSome) = 1)) ∧
      Compared mixed (none, some [none]) ∧
      (valueOfType "u8" (some mixed)).isSome = true ∧
      (valueOfType "i32" (some mixed)).isSome = true ∧ (commonType (some mixed)).1 = none := by
  intro byte word alone mixed
  obtain ⟨-, -, -, hfound, -⟩ := common_type_iff_uniform alone
  obtain ⟨-, hcompared, -, -, hnone⟩ := common_type_iff_uniform mixed
  have halone : (commonType (some alone)).1 = some "u8" := rfl
  have hbyte : (valueOfType "u8" (some mixed)).isSome = true := rfl
  have hword : (valueOfType "i32" (some mixed)).isSome = true := rfl
  refine ⟨⟨halone, hfound "u8" halone "u8"⟩, (hcompared _).mp rfl, hbyte, hword, ?_⟩
  exact hnone "u8" "i32" (by decide) hbyte hword

end OptionalContainers
