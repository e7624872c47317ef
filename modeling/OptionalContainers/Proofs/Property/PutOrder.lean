import OptionalContainers.Container.Limited
import OptionalContainers.Proofs.Property.Merging
import OptionalContainers.Proofs.Target.Requests
import OptionalContainers.View.Mapping

namespace OptionalContainers

variable {σ β : Type}

namespace Property.Store

theorem ascending_names (s : Store) : s.names.Pairwise (· < ·) :=
  (ascending_collectNames s.layers).imp compareOfLessAndEq_eq_lt.mp

def dueAmong (s : Store) (names : List String) : List (String × Value) :=
  names.filterMap fun name => (s.resolve name).map (name, ·)

def due (s : Store) : List (String × Value) :=
  s.dueAmong s.names

section

variable {s : Store} {name : String} {names : List String} {value : Value}

theorem dueAmong_cons_none (h : s.resolve name = none) :
    s.dueAmong (name :: names) = s.dueAmong names := by
  simp [dueAmong, h]

theorem dueAmong_cons_some (h : s.resolve name = some value) :
    s.dueAmong (name :: names) = (name, value) :: s.dueAmong names := by
  simp [dueAmong, h]

theorem mem_dueAmong_iff :
    (name, value) ∈ s.dueAmong names ↔ name ∈ names ∧ s.resolve name = some value := by
  simp only [dueAmong, List.mem_filterMap, Option.map_eq_some_iff, Prod.mk.injEq]
  constructor
  · rintro ⟨_, hname, _, hvalue, rfl, rfl⟩
    exact ⟨hname, hvalue⟩
  · rintro ⟨hname, hvalue⟩
    exact ⟨name, hname, value, hvalue, rfl, rfl⟩

theorem mem_due_iff : (name, value) ∈ s.due ↔ s.resolve name = some value := by
  rw [due, mem_dueAmong_iff, mem_names_iff]
  refine and_iff_right_of_imp fun h => mem_mentioned_of_resolve ?_
  rw [h]
  rfl

theorem keys_dueAmong (s : Store) (names : List String) :
    ((s.dueAmong names).map (·.1)).Sublist names := by
  induction names with
  | nil => exact .slnil
  | cons name rest ih =>
      cases hname : s.resolve name with
      | none =>
          rw [dueAmong_cons_none hname]
          exact ih.cons name
      | some value =>
          rw [dueAmong_cons_some hname]
          exact ih.cons_cons name

theorem ascending_due (s : Store) : (s.due.map (·.1)).Pairwise (· < ·) :=
  s.ascending_names.sublist (s.keys_dueAmong s.names)

theorem dueAmong_eq_append_cons {before after : List (String × Value)}
    (h : s.dueAmong names = before ++ (name, value) :: after) :
    ∃ earlier later, names = earlier ++ name :: later ∧ s.dueAmong earlier = before ∧
      s.resolve name = some value := by
  obtain ⟨first, rest, rfl, hfirst, hrest⟩ := List.filterMap_eq_append_iff.mp h
  obtain ⟨skipped, next, later, rfl, hskipped, hnext, -⟩ := List.filterMap_eq_cons_iff.mp hrest
  obtain ⟨_, hvalue, heq⟩ := Option.map_eq_some_iff.mp hnext
  cases heq
  refine ⟨first ++ skipped, later, (List.append_assoc ..).symm, ?_, hvalue⟩
  rw [dueAmong, List.filterMap_append, hfirst, List.filterMap_eq_nil_iff.mpr hskipped,
    List.append_nil]

end

def Resolves (s : Store) (name : String) : Prop :=
  (∃ table ∈ s.layers, ∃ text, table.get? name = some (.text text)) ∨
    ∃ value, s.primary.get? name = some value

theorem resolves_iff {s : Store} {name : String} :
    s.Resolves name ↔ ∃ value, s.resolve name = some value := by
  have htext : (s.inherited name).isSome = true ↔
      ∃ table ∈ s.layers, ∃ text, table.get? name = some (.text text) := by
    rw [inherited, List.findSome?_isSome_iff]
    simp [Option.isSome_iff_exists, Option.bind_eq_some_iff, Value.text?_eq_some_iff]
  rw [Resolves, ← htext, ← Option.isSome_iff_exists, ← Option.isSome_iff_exists, isSome_resolve,
    provides, Bool.or_eq_true]

theorem due_eq_nil_iff {s : Store} : s.due = [] ↔ ∀ name, ¬ s.Resolves name := by
  rw [List.eq_nil_iff_forall_not_mem]
  constructor
  · intro h name hname
    obtain ⟨value, hvalue⟩ := resolves_iff.mp hname
    exact h (name, value) (mem_due_iff.mpr hvalue)
  · rintro h ⟨name, value⟩ hmem
    exact h name (resolves_iff.mpr ⟨value, mem_due_iff.mp hmem⟩)

def tallied (s : Store) (names : List String) (tally : Tally) : Tally :=
  ⟨tally.copied + (s.dueAmong names).length,
    tally.skipped + names.countP (s.resolve · |>.isNone)⟩

theorem tallied_cons_none {s : Store} {name : String} (h : s.resolve name = none)
    (names : List String) (tally : Tally) :
    s.tallied (name :: names) tally =
      s.tallied names { tally with skipped := tally.skipped + 1 } := by
  simp [tallied, dueAmong_cons_none h, h, Nat.add_assoc, Nat.add_comm 1]

theorem tallied_cons_some {s : Store} {name : String} {value : Value}
    (h : s.resolve name = some value) (names : List String) (tally : Tally) :
    s.tallied (name :: names) tally =
      s.tallied names { tally with copied := tally.copied + 1 } := by
  simp [tallied, dueAmong_cons_some h, h, Nat.add_assoc, Nat.add_comm 1]

def mergeEvents (s : Store) : Except Fault β → List Event
  | .ok _ => [.propertiesMerged s.due.length (s.mentioned.countP (!s.provides ·))]
  | .error _ => []

end Property.Store

open Property

variable [MappingTarget σ String Value] {store : Store} {target reached final : σ}

theorem putNames_append_of_granted {names : List String} {answers : List (Option Value)}
    (h : Granted putPair target (store.dueAmong names) answers reached) (more : List String)
    (tally : Tally) :
    putNames store tally (names ++ more) target =
      putNames store (store.tallied names tally) more reached := by
  induction names generalizing target answers tally with
  | nil =>
      cases h
      rfl
  | cons name rest ih =>
      cases hname : store.resolve name with
      | none =>
          rw [Store.dueAmong_cons_none hname] at h
          rw [List.cons_append, putNames_cons_none hname, ih h, Store.tallied_cons_none hname]
      | some value =>
          rw [Store.dueAmong_cons_some hname] at h
          cases h with
          | cons hput hrest =>
              rw [List.cons_append, putNames_cons_ok hname hput, ih hrest,
                Store.tallied_cons_some hname]

variable {made unmade : List (String × Value)} {outcome : Except Fault (List (Option Value))}

theorem mergeProperties_of_requested (h : Requested putPair target made unmade outcome final)
    (hdue : made ++ unmade = store.due) (journal : Journal) :
    (mergeProperties (some store) (some target)).run journal =
      (⟨outcome.map fun _ => (), some final⟩, journal.extended (store.mergeEvents outcome)) := by
  cases h with
  | @granted made answers final hgranted =>
      rw [List.append_nil] at hdue
      rw [hdue] at hgranted
      have hrun := putNames_append_of_granted hgranted [] ⟨0, 0⟩
      rw [List.append_nil] at hrun
      have hskipped : store.names.countP (store.resolve · |>.isNone) =
          store.mentioned.countP (!store.provides ·) := by
        simp only [Store.isNone_resolve, store.names_perm_mentioned.countP_eq]
      rw [Store.tallied, hskipped, Nat.zero_add, Nat.zero_add] at hrun
      simp only [mergeProperties, hrun]
      rfl
  | @refused before unmade entry answers reached refusing fault hgranted hput =>
      obtain ⟨name, value⟩ := entry
      rw [List.append_assoc, List.singleton_append] at hdue
      obtain ⟨earlier, later, hnames, rfl, hname⟩ := Store.dueAmong_eq_append_cons hdue.symm
      have hrun : putNames store ⟨0, 0⟩ store.names target = .error fault final := by
        rw [hnames, putNames_append_of_granted hgranted, putNames_cons_error hname hput]
      rw [Store.mergeEvents, Journal.extended_nil]
      simp only [mergeProperties, hrun]
      rfl

theorem MappingView.run_mergeProperties (v : MappingView String Value) (store : Store)
    (journal : Journal) :
    ∃ outcome later,
      (mergeProperties (some store) (some v)).run journal = (⟨outcome, some v⟩, later) ∧
        (outcome = .error (.unsupported "put" "ImmutableMap") ↔ ∃ name, store.Resolves name) ∧
        (outcome = .ok () ↔ ∀ name, ¬ store.Resolves name) := by
  have hsome : (∃ name, store.Resolves name) ↔ store.due ≠ [] := by
    rw [Ne, Store.due_eq_nil_iff, Classical.not_forall_not]
  rw [hsome, ← Store.due_eq_nil_iff]
  cases hdue : store.due with
  | nil =>
      have hrun : Requested putPair v [] [] (.ok []) v := .granted (.nil v)
      refine ⟨_, _, mergeProperties_of_requested hrun hdue.symm journal, ?_, ?_⟩
      · simp [Except.map]
      · simp [Except.map]
  | cons entry rest =>
      have hrun : Requested putPair v [entry] rest
          (.error (.unsupported "put" "ImmutableMap")) v := .refused (.nil v) rfl
      refine ⟨_, _, mergeProperties_of_requested hrun hdue.symm journal, ?_, ?_⟩
      · simp [Except.map]
      · simp [Except.map]

theorem puts_ascend_until_refused (store : Store) :
    (∀ (source : Option Store) (journal : Journal),
        (mergeProperties source (none : Option σ)).run journal =
          (⟨.error (.absentTarget "map"), none⟩, journal)) ∧
      ((store.due.map (·.1)).Pairwise (· < ·) ∧
        ∀ name value, (name, value) ∈ store.due ↔
          ((store.inherited name).map .text).or (store.primary.get? name) = some value) ∧
      (∀ target : σ, ∃ made unmade outcome final,
        made ++ unmade = store.due ∧ Requested putPair target made unmade outcome final) ∧
      (∀ {target final : σ} {made unmade : List (String × Value)}
          {outcome : Except Fault (List (Option Value))}, made ++ unmade = store.due →
        Requested putPair target made unmade outcome final → ∀ journal : Journal,
          (mergeProperties (some store) (some target)).run journal =
              (⟨outcome.map fun _ => (), some final⟩,
                journal.extended (store.mergeEvents outcome)) ∧
            (mergeProperties (some store) (some (Watched.mk target []))).run journal =
              (⟨outcome.map fun _ => (), some ⟨final, made⟩⟩,
                journal.extended (store.mergeEvents outcome))) ∧
      ∀ (v : MappingView String Value) (journal : Journal), ∃ outcome later,
        (mergeProperties (some store) (some v)).run journal = (⟨outcome, some v⟩, later) ∧
          (outcome = .error (.unsupported "put" "ImmutableMap") ↔ ∃ name, store.Resolves name) ∧
          (outcome = .ok () ↔ ∀ name, ¬ store.Resolves name) := by
  refine ⟨?_, ⟨store.ascending_due, fun name value => ?_⟩,
    exists_requested putPair store.due, ?_, fun v journal => v.run_mergeProperties store journal⟩
  · rintro (_ | source) journal
    · rfl
    · rfl
  · rw [Store.mem_due_iff, Store.resolve_eq]
  · intro target final made unmade outcome hdue hrun journal
    have hwatched : Requested putPair (Watched.mk target []) made unmade outcome ⟨final, made⟩ :=
      hrun.watch []
    exact ⟨mergeProperties_of_requested hrun hdue journal,
      mergeProperties_of_requested hwatched hdue journal⟩

theorem puts_end_at_second_entry :
    let root : Table := .ofList [("size", .integer 5), ("flag", .text "on")]
    let store : Store :=
      ⟨.ofList [("zone", .text "utc"), ("flag", .boolean true), ("limit", .integer 9)], [root]⟩
    let start : LimitedMap String Value := ⟨1, .empty⟩
    let final : LimitedMap String Value := ⟨0, ⟨[("flag", .text "on")]⟩⟩
    let made := [("flag", .text "on"), ("limit", .integer 9)]
    let fault : Fault := .unsupported "put" "BoundedMap"
    made ++ [("zone", .text "utc")] = store.due ∧
      Requested putPair start made [("zone", .text "utc")] (.error fault) final ∧
      (mergeProperties (some store) (some start)).run .start =
        (⟨.error fault, some final⟩, .start) ∧
      (mergeProperties (some store) (some (Watched.mk start []))).run .start =
        (⟨.error fault, some ⟨final, made⟩⟩, .start) := by
  intro root store start final made fault
  have hdue : made ++ [("zone", .text "utc")] = store.due := rfl
  have hgranted : Granted putPair start [("flag", .text "on")] [none] final :=
    .cons rfl (.nil final)
  have hrun : Requested putPair start made [("zone", .text "utc")] (.error fault) final :=
    .refused hgranted rfl
  obtain ⟨-, -, -, hmerges, -⟩ := puts_ascend_until_refused (σ := LimitedMap String Value) store
  obtain ⟨hmerged, hwatched⟩ := hmerges hdue hrun .start
  exact ⟨hdue, hrun, hmerged, hwatched⟩

end OptionalContainers
