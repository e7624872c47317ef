import OptionalContainers.Typing

namespace OptionalContainers

variable {τ β : Type} {El : τ → Type} {H : Type} [Erased H El]

def contents (xs : List H) : List (Typed El) :=
  xs.filterMap Erased.content

theorem contents_cons_null {x : H} (h : Erased.content x = none) (rest : List H) :
    contents (x :: rest) = contents rest :=
  List.filterMap_cons_none h

theorem contents_cons_some {x : H} {c : Typed El} (h : Erased.content x = some c)
    (rest : List H) : contents (x :: rest) = c :: contents rest :=
  List.filterMap_cons_some h

theorem contents_insert_null {null : H} (h : Erased.content null = none) (before after : List H) :
    contents (before ++ null :: after) = contents (before ++ after) := by
  simp only [contents, List.filterMap_append, List.filterMap_cons_none h]

theorem contents_eq_of_map {G : Type} [Erased G El] {xs : List H} {ys : List G}
    (h : xs.map Erased.content = ys.map Erased.content) : contents xs = contents ys := by
  have hcontents := congrArg (List.filterMap id) h
  rwa [List.filterMap_map, List.filterMap_map] at hcontents

/-- An answer that neither the order of the elements nor the kind of their holders changes, and
that takes no account of nulls. -/
structure AboutContents (El : τ → Type)
    (answer : ∀ {H : Type} [Erased H El], List H → β) : Prop where
  permuted {H : Type} [Erased H El] {xs ys : List H} (h : xs.Perm ys) : answer xs = answer ys
  null_inserted {H : Type} [Erased H El] {null : H} (h : Erased.content null = none)
    (before after : List H) : answer (before ++ null :: after) = answer (before ++ after)
  reheld {H G : Type} [Erased H El] [Erased G El] {xs : List H} {ys : List G}
    (h : xs.map Erased.content = ys.map Erased.content) : answer xs = answer ys
  pointed {H : Type} [Erased H El] (xs : List H) : answer (xs.map Pointer.mk) = answer xs
  optional {H : Type} [Erased H El] (xs : List H) : answer (xs.map some) = answer xs

theorem aboutContents_of_perm {answer : ∀ {H : Type} [Erased H El], List H → β}
    (h : ∀ {H G : Type} [Erased H El] [Erased G El] {xs : List H} {ys : List G},
      (contents xs).Perm (contents ys) → answer xs = answer ys) : AboutContents El answer where
  permuted hperm := h (hperm.filterMap Erased.content)
  null_inserted hnull before after := h (.of_eq (contents_insert_null hnull before after))
  reheld hsame := h (.of_eq (contents_eq_of_map hsame))
  pointed _ := h (.of_eq (contents_eq_of_map List.map_map))
  optional _ := h (.of_eq (contents_eq_of_map List.map_map))

end OptionalContainers
