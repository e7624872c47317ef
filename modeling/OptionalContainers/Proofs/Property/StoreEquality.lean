import Mathlib.Data.List.Forall2
import Mathlib.Data.List.Sort
import OptionalContainers.Proofs.Property.Flattening
import OptionalContainers.Proofs.Property.NameEnumeration
import OptionalContainers.Proofs.Target.RelatedPuts

namespace OptionalContainers

variable {σ α : Type}

section

variable [BEq α] [PartialEquivBEq α] {xs ys zs : List α}

theorem Pointwise.symm (h : Pointwise xs ys) : Pointwise ys xs :=
  (h.imp fun _ _ => BEq.symm).flip

theorem Pointwise.trans (h : Pointwise xs ys) (h' : Pointwise ys zs) : Pointwise xs zs := by
  induction h generalizing zs with
  | nil => exact h'
  | cons hxy _ ih =>
      cases h' with
      | cons hyz hrest => exact .cons (PartialEquivBEq.trans hxy hyz) (ih hrest)

end

namespace Property

instance : PartialEquivBEq Value where
  symm h := (Value.beq_symm _ _).symm.trans h
  trans := Value.beq_trans

namespace Store

def contents (s : Store) : List (String → Option Value) :=
  s.layers.map HashedMap.get?

def HasNaN (s : Store) : Prop :=
  ∃ table ∈ s.layers, ∃ name x, (name, .float x) ∈ table.entries ∧ x.isNaN = true

structure CloneOf (q p : Store) : Prop where
  entries : q.primary.entries.Perm p.primary.entries
  defaults : q.defaults = p.defaults

theorem beq_iff_layers (p q : Store) : (p == q) = true ↔ Pointwise p.layers q.layers := by
  rw [← beq_iff_pointwise]
  rfl

instance : PartialEquivBEq Store where
  symm h := (beq_iff_layers _ _).mpr ((beq_iff_layers _ _).mp h).symm
  trans h h' := (beq_iff_layers _ _).mpr
    (((beq_iff_layers _ _).mp h).trans ((beq_iff_layers _ _).mp h'))

theorem beq_iff_contents (p q : Store) :
    (p == q) = true ↔ List.Forall₂ Agree p.contents q.contents := by
  rw [beq_iff_layers, contents, contents, List.forall₂_map_left_iff, List.forall₂_map_right_iff]
  simp only [Pointwise, HashedMap.beq_iff_agree]

theorem beq_self_iff (p : Store) : (p == p) = true ↔ ¬ p.HasNaN := by
  rw [beq_iff_layers, pointwise_self_iff]
  simp only [HashedMap.beq_iff_agree, HashedMap.agree_self_iff, Value.beq_self_iff, HasNaN]
  grind

theorem CloneOf.contents_eq {p q : Store} (h : q.CloneOf p) : q.contents = p.contents := by
  have hprimary : q.primary.get? = p.primary.get? := by
    funext name
    refine Option.ext fun value => ?_
    rw [HashedMap.tabular.get?_eq_some_iff trivial, HashedMap.tabular.get?_eq_some_iff trivial,
      h.entries.mem_iff]
  rw [contents, contents, layers, layers, List.map_cons, List.map_cons, hprimary, h.defaults]

theorem beq_eq_of_contents_eq {p q : Store} (h : q.contents = p.contents) :
    (p == q) = (p == p) := by
  rw [Bool.eq_iff_iff, beq_iff_contents, beq_iff_contents, h]

section

variable {p q : Store}

theorem contents_map_eq {β : Type} {f : (String → Option Value) → β} (h : (p == q) = true)
    (hf : ∀ get? get?', Agree get? get?' → f get? = f get?') :
    p.contents.map f = q.contents.map f := by
  rw [← List.forall₂_eq_eq_eq, List.forall₂_map_left_iff, List.forall₂_map_right_iff]
  exact ((beq_iff_contents p q).mp h).imp hf

theorem mem_names_iff_contents {s : Store} {name : String} :
    name ∈ s.names ↔ true ∈ s.contents.map fun get? => (get? name).isSome := by
  rw [mem_names_iff, mem_mentioned_iff]
  simp [contents]

theorem names_eq_of_beq (h : (p == q) = true) : p.names = q.names := by
  refine List.Pairwise.eq_of_mem_iff p.ascending_names q.ascending_names fun name => ?_
  rw [mem_names_iff_contents, mem_names_iff_contents,
    contents_map_eq h fun _ _ hagree => hagree.1 name]

theorem text?_eq_findSome?_contents (s : Store) (name : String) :
    s.text? name = (s.contents.map fun get? => (get? name).bind Value.text?).findSome? id := by
  rw [text?, textIn_eq_findSome?, contents, List.map_map, List.findSome?_map]
  rfl

theorem bind_text?_eq_of_rel {v w : Option Value}
    (h : Option.Rel (fun x y => (x == y) = true) v w) :
    v.bind Value.text? = w.bind Value.text? := by
  cases h with
  | some hvw => exact Value.text?_eq_of_beq hvw
  | none => rfl

theorem text?_eq_of_beq (h : (p == q) = true) (name : String) : p.text? name = q.text? name := by
  rw [text?_eq_findSome?_contents, text?_eq_findSome?_contents, contents_map_eq h]
  exact fun _ _ hagree => bind_text?_eq_of_rel (agree_iff_rel.mp hagree name)

theorem get?_agree_of_beq (h : (p == q) = true) : Agree p.get? q.get? := by
  cases (beq_iff_contents p q).mp h with
  | cons hprimary _ => exact hprimary

theorem resolve_rel_of_beq (h : (p == q) = true) (name : String) :
    Option.Rel (fun x y => (x == y) = true) (p.resolve name) (q.resolve name) := by
  rw [resolve, resolve, text?_eq_of_beq h]
  cases q.text? name with
  | some text => exact .some (beq_self_eq_true text)
  | none => exact agree_iff_rel.mp (get?_agree_of_beq h) name

end

end Store

variable [MappingTarget σ String Value] {same : σ → σ → Prop} {p q : Store}

theorem putNames_alike (respect : PutsRespect same)
    (h : ∀ name, Option.Rel (fun x y => (x == y) = true) (p.resolve name) (q.resolve name))
    (names : List String) (tally : Tally) {m m' : σ} (hm : same m m') :
    Alike Eq same (putNames p tally names m) (putNames q tally names m') := by
  induction names generalizing tally m m' with
  | nil => exact .ok rfl hm
  | cons name rest ih =>
      have hname := h name
      generalize hp : p.resolve name = found at hname
      generalize hq : q.resolve name = found' at hname
      cases hname with
      | none =>
          rw [putNames_cons_none hp, putNames_cons_none hq]
          exact ih _ hm
      | some hvalue =>
          have hput := respect hm name hvalue
          generalize hgrown : MappingTarget.put name _ m = result at hput
          generalize hgrown' : MappingTarget.put name _ m' = result' at hput
          cases hput with
          | ok _ hsame =>
              rw [putNames_cons_ok hp hgrown, putNames_cons_ok hq hgrown']
              exact ih _ hsame
          | error hsame =>
              rw [putNames_cons_error hp hgrown, putNames_cons_error hq hgrown']
              exact .error hsame

def MergedAlike (p q : Store) (same : σ → σ → Prop) : Prop :=
  ∀ ⦃m m' : σ⦄, same m m' → ∀ journal : Journal, ∃ outcome final final' later,
    (mergeProperties (some p) (some m)).run journal = (⟨outcome, some final⟩, later) ∧
      (mergeProperties (some q) (some m')).run journal = (⟨outcome, some final'⟩, later) ∧
      same final final'

theorem mergedAlike_of_beq (respect : PutsRespect same) (h : (p == q) = true) :
    MergedAlike p q same := by
  intro m m' hm journal
  have halike := putNames_alike respect (Store.resolve_rel_of_beq h) p.names ⟨0, 0⟩ hm
  generalize hp : putNames p ⟨0, 0⟩ p.names m = result at halike
  generalize hq : putNames q ⟨0, 0⟩ p.names m' = result' at halike
  rw [Store.names_eq_of_beq h] at hq
  simp only [mergeProperties, hp, hq]
  cases halike with
  | ok hanswer hsame =>
      cases hanswer
      exact ⟨_, _, _, _, rfl, rfl, hsame⟩
  | error hsame => exact ⟨_, _, _, _, rfl, rfl, hsame⟩

structure Interchangeable (p q : Store) : Prop where
  text?_eq (name : String) : p.text? name = q.text? name
  get?_agree : Agree p.get? q.get?
  nameEnumeration_eq : p.nameEnumeration = q.nameEnumeration
  hashed_merged : MergedAlike p q fun m m' : HashedMap String Value => (m == m') = true
  sorted_merged : MergedAlike p q fun m m' : SortedMap String Value => (m == m') = true
  view_merged : MergedAlike p q fun m m' : MappingView String Value => (m == m') = true
  merged {σ : Type} [MappingTarget σ String Value] {same : σ → σ → Prop}
    (h : PutsRespect same) : MergedAlike p q same

theorem interchangeable_of_beq (h : (p == q) = true) : Interchangeable p q where
  text?_eq := Store.text?_eq_of_beq h
  get?_agree := Store.get?_agree_of_beq h
  nameEnumeration_eq := congrArg Lookahead.of (Store.names_eq_of_beq h)
  hashed_merged := mergedAlike_of_beq HashedMap.puts_respect_beq h
  sorted_merged := mergedAlike_of_beq SortedMap.puts_respect_beq h
  view_merged := mergedAlike_of_beq (MappingView.puts_respect _) h
  merged respect := mergedAlike_of_beq respect h

-- No shortcut is taken for a chain that two stores share: one that holds a NaN differs from itself.
theorem store_equality_is_congruence (p q : Store) :
    ((p == q) = true ↔ List.Forall₂ Agree p.contents q.contents) ∧
      ({ p with defaults := p.defaults ++ [.empty] } == p) = false ∧
      ((p == q) = true → Interchangeable p q) ∧
      (p == q) = (q == p) ∧
      (∀ r : Store, (p == q) = true → (q == r) = true → (p == r) = true) ∧
      ((p == p) = true ↔ ¬ p.HasNaN) ∧
      ∀ clone : Store, clone.CloneOf p → ((p == clone) = true ↔ ¬ p.HasNaN) := by
  refine ⟨p.beq_iff_contents q, ?_, interchangeable_of_beq, BEq.comm,
    fun r => PartialEquivBEq.trans, p.beq_self_iff, fun clone hclone => ?_⟩
  · rw [← Bool.not_eq_true, Store.beq_iff_layers]
    intro h
    have hlength := h.length_eq
    simp [Store.layers] at hlength
  · rw [Store.beq_eq_of_contents_eq hclone.contents_eq, Store.beq_self_iff]

theorem signed_zeros_merged_alike :
    let defaults : Table := .ofList [("flag", .text "on"), ("depth", .integer 2)]
    let p : Store :=
      ⟨.ofList [("ratio", .float ⟨0x8000000000000000⟩), ("flag", .boolean true)], [defaults]⟩
    let q : Store := ⟨.ofList [("flag", .boolean true), ("ratio", .float ⟨0⟩)], [defaults]⟩
    let m : Table := .ofList [("kept", .integer 1), ("flag", .text "old")]
    let m' : Table := .ofList [("flag", .text "old"), ("kept", .integer 1)]
    let grown : Table :=
      .ofList [("kept", .integer 1), ("flag", .text "on"), ("ratio", .float ⟨0x8000000000000000⟩)]
    let grown' : Table :=
      .ofList [("flag", .text "on"), ("kept", .integer 1), ("ratio", .float ⟨0⟩)]
    let later : Journal := ⟨0, [.propertiesMerged 2 1]⟩
    p.primary.entries ≠ q.primary.entries ∧ (p == q) = true ∧
      p.text? "flag" = some "on" ∧ q.text? "flag" = some "on" ∧
      (mergeProperties (some p) (some m)).run .start = (⟨.ok (), some grown⟩, later) ∧
      (mergeProperties (some q) (some m')).run .start = (⟨.ok (), some grown'⟩, later) ∧
      (grown == grown') = true := by
  intro defaults p q m m' grown grown' later
  have hequal : (p == q) = true := by decide
  have hboth : Interchangeable p q := (store_equality_is_congruence p q).2.2.1 hequal
  have hentries : p.primary.entries.map (·.1) ≠ q.primary.entries.map (·.1) := by decide
  have htext : p.text? "flag" = some "on" := rfl
  have hp : (mergeProperties (some p) (some m)).run .start = (⟨.ok (), some grown⟩, later) := rfl
  have hq : (mergeProperties (some q) (some m')).run .start = (⟨.ok (), some grown'⟩, later) := rfl
  have hm : (m == m') = true := by decide
  obtain ⟨_, _, _, _, hp', hq', hsame⟩ := hboth.hashed_merged hm .start
  cases hp.symm.trans hp'
  cases hq.symm.trans hq'
  exact ⟨fun h => hentries (congrArg _ h), hequal, htext, hboth.text?_eq "flag" ▸ htext, hp, hq,
    hsame⟩

example : let p : Store := .ofList [("ratio", .float ⟨0x7ff8000000000000⟩)]
    (p == p) = false := by decide

end Property

end OptionalContainers
