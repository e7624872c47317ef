import OptionalContainers.Merge
import OptionalContainers.Proofs.Property.Names

namespace OptionalContainers

variable {σ κ ν : Type}

structure Accepting [BEq κ] [MappingTarget σ κ ν] (get? : σ → κ → Option ν) (fits : σ → Prop) :
    Prop where
  put_ok {m : σ} (h : fits m) (k : κ) (v : ν) : ∃ previous grown,
    MappingTarget.put k v m = .ok previous grown ∧ fits grown ∧
      ∀ name, get? grown name = if k == name then some v else get? m name

theorem HashedMap.accepting [BEq κ] [PartialEquivBEq κ] :
    Accepting (HashedMap.get? : HashedMap κ ν → κ → Option ν) fun _ => True where
  put_ok {m} _ k v := ⟨_, _, rfl, trivial, m.get?_insert k v⟩

theorem SortedMap.accepting [Ord κ] [Std.TransOrd κ] [BEq κ] [Std.LawfulBEqOrd κ] :
    Accepting (SortedMap.get? : SortedMap κ ν → κ → Option ν) fun _ => True where
  put_ok {m} _ k v := by
    refine ⟨_, _, rfl, trivial, fun name => ?_⟩
    have hsame : compare name k = .eq ↔ (k == name) = true := by
      rw [Std.OrientedCmp.eq_comm, Std.LawfulBEqCmp.compare_eq_iff_beq]
    rw [m.get?_insert k v]
    simp only [hsame]

namespace Property.Store

def inherited (s : Store) (name : String) : Option String :=
  s.layers.findSome? fun table => (table.get? name).bind Value.text?

theorem textIn_eq_findSome? (name : String) (tables : List Table) :
    textIn name tables = tables.findSome? fun table => (table.get? name).bind Value.text? := by
  induction tables with
  | nil => rfl
  | cons table rest ih =>
      rw [textIn, List.findSome?_cons, ih]
      cases (table.get? name).bind Value.text? <;> rfl

theorem resolve_eq (s : Store) (name : String) :
    s.resolve name = ((s.inherited name).map Value.text).or (s.primary.get? name) := by
  simp only [resolve, text?, textIn_eq_findSome?, inherited, get?]
  cases s.layers.findSome? _ <;> rfl

def provides (s : Store) (name : String) : Bool :=
  (s.inherited name).isSome || (s.primary.get? name).isSome

theorem isSome_resolve (s : Store) (name : String) :
    (s.resolve name).isSome = s.provides name := by
  rw [resolve_eq, provides, Option.isSome_or, Option.isSome_map]

theorem isNone_resolve (s : Store) (name : String) :
    (s.resolve name).isNone = !s.provides name := by
  rw [← isSome_resolve, Option.not_isSome]

theorem mem_mentioned_of_resolve {s : Store} {name : String}
    (h : (s.resolve name).isSome = true) : name ∈ s.mentioned := by
  rw [mem_mentioned_iff]
  rw [resolve_eq, Option.isSome_or, Bool.or_eq_true, Option.isSome_map] at h
  rcases h with htext | hraw
  · obtain ⟨table, htable, hfound⟩ := List.findSome?_isSome_iff.mp htext
    refine ⟨table, htable, ?_⟩
    cases hvalue : table.get? name with
    | none => simp [hvalue] at hfound
    | some value => rfl
  · exact ⟨s.primary, List.mem_cons_self, hraw⟩

end Property.Store

section

open Property

variable [MappingTarget σ String Value] {get? : σ → String → Option Value} {fits : σ → Prop}

theorem Accepting.putNames_ok (accepting : Accepting get? fits) (store : Store)
    (names : List String) {m : σ} (hm : fits m) (tally : Tally) :
    ∃ final, putNames store tally names m =
        .ok ⟨tally.copied + names.countP (store.resolve · |>.isSome),
          tally.skipped + names.countP (store.resolve · |>.isNone)⟩ final ∧
      ∀ name, get? final name =
        if name ∈ names then (store.resolve name).or (get? m name) else get? m name := by
  induction names generalizing m tally with
  | nil => exact ⟨m, rfl, fun name => rfl⟩
  | cons next rest ih =>
      cases hnext : store.resolve next with
      | none =>
          obtain ⟨final, hrun, hget⟩ := ih hm { tally with skipped := tally.skipped + 1 }
          refine ⟨final, ?_, fun name => ?_⟩
          · rw [putNames_cons_none hnext, hrun]
            simp [hnext, Nat.add_assoc, Nat.add_comm 1]
          · rw [hget]
            by_cases hname : name = next
            · subst hname
              simp [hnext]
            · simp [hname]
      | some value =>
          obtain ⟨previous, grown, hput, hfits, hgrown⟩ := accepting.put_ok hm next value
          obtain ⟨final, hrun, hget⟩ := ih hfits { tally with copied := tally.copied + 1 }
          refine ⟨final, ?_, fun name => ?_⟩
          · rw [putNames_cons_ok hnext hput, hrun]
            simp [hnext, Nat.add_assoc, Nat.add_comm 1]
          · rw [hget, hgrown]
            by_cases hname : name = next
            · subst hname
              simp [hnext]
            · simp [hname, Ne.symm hname]

theorem Accepting.mergeProperties_flattens (accepting : Accepting get? fits) (target : σ)
    (h : fits target) (store : Store) (journal : Journal) :
    (∃ final,
      (mergeProperties (some store) (some target)).run journal =
        (⟨.ok (), some final⟩, { journal with events := journal.events ++
          [.propertiesMerged (store.mentioned.countP store.provides)
            (store.mentioned.countP (!store.provides ·))] }) ∧
      (∀ name, get? final name =
        ((store.inherited name).map .text).or ((store.primary.get? name).or (get? target name)))) ∧
    store.mentioned.countP store.provides + store.mentioned.countP (!store.provides ·) =
      store.mentioned.length ∧
    (mergeProperties none (some target)).run journal = (⟨.ok (), some target⟩, journal) := by
  refine ⟨?_, ?_, rfl⟩
  · obtain ⟨final, hrun, hget⟩ := accepting.putNames_ok store store.names h ⟨0, 0⟩
    refine ⟨final, ?_, fun name => ?_⟩
    · have hperm := store.names_perm_mentioned
      simp only [Store.isSome_resolve, Store.isNone_resolve, Nat.zero_add, hperm.countP_eq] at hrun
      simp only [mergeProperties, hrun]
      rfl
    · rw [hget, ← Option.or_assoc, ← Store.resolve_eq]
      split
      · rfl
      next habsent =>
        have hnone : store.resolve name = none := by
          rw [← Option.not_isSome_iff_eq_none]
          exact fun hsome =>
            habsent (Store.mem_names_iff.mpr (Store.mem_mentioned_of_resolve hsome))
        rw [hnone, Option.none_or]
  · have hsplit := List.length_eq_countP_add_countP store.provides (l := store.mentioned)
    simpa using hsplit.symm

theorem mergeProperties_through_three_layers :
    let root : Table :=
      .ofList [("flag", .text "on"), ("depth", .text "root"), ("size", .integer 5)]
    let middle : Table := .ofList [("flag", .integer 1), ("depth", .text "middle")]
    let store : Store := ⟨.ofList [("flag", .boolean true), ("limit", .integer 9)], [middle, root]⟩
    let target : HashedMap String Value :=
      .ofList [("size", .text "kept"), ("depth", .text "old")]
    ∃ final : HashedMap String Value,
      (mergeProperties (some store) (some target)).run .start =
        (⟨.ok (), some final⟩, ⟨0, [.propertiesMerged 3 1]⟩) ∧
      final.get? "flag" = some (.text "on") ∧ final.get? "depth" = some (.text "middle") ∧
      final.get? "limit" = some (.integer 9) ∧ final.get? "size" = some (.text "kept") := by
  intro root middle store target
  obtain ⟨⟨final, hrun, hget⟩, -, -⟩ :=
    HashedMap.accepting.mergeProperties_flattens target trivial store .start
  have hcopied : store.mentioned.countP store.provides = 3 := by decide
  have hskipped : store.mentioned.countP (!store.provides ·) = 1 := by decide
  rw [hcopied, hskipped] at hrun
  exact ⟨final, hrun, hget "flag", hget "depth", hget "limit", hget "size"⟩

end

end OptionalContainers
