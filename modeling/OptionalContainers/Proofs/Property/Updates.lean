import OptionalContainers.Proofs.Property.Merging

namespace OptionalContainers

namespace HashedMap

variable {κ ν : Type} [BEq κ] [LawfulBEq κ]

theorem scan_keys (m : HashedMap κ ν) (k : κ) : scan m.keys k = (m.get? k).isSome := by
  rw [Bool.eq_iff_iff, scan_eq_true_iff, get?, lookup_isSome]
  simp [keys]

theorem length_insert (m : HashedMap κ ν) (k : κ) (v : ν) :
    (m.insert k v).2.entries.length =
      if (m.get? k).isSome then m.entries.length else m.entries.length + 1 := by
  have hkeys := congrArg List.length (m.keys_insert k v)
  rw [scan_keys, keys, keys, List.length_map] at hkeys
  rw [hkeys]
  split <;> simp

end HashedMap

namespace Property

inductive Update where
  | insert (name : String) (value : Value)
  | setText (name text : String)
  deriving Repr

namespace Update

def name : Update → String
  | .insert name _ => name
  | .setText name _ => name

def value : Update → Value
  | .insert _ value => value
  | .setText _ text => .text text

def run (s : Store) : Update → Option Value × Store
  | .insert name value => s.insert name value
  | .setText name text => s.setText name text

theorem run_eq_insert (s : Store) (u : Update) : u.run s = s.insert u.name u.value := by
  cases u <;> rfl

def written (name : String) : List Update → Option Value
  | [] => none
  | u :: later => (written name later).or (if name = u.name then some u.value else none)

theorem written_cons_or (name : String) (u : Update) (later : List Update) (held : Option Value) :
    (written name (u :: later)).or held =
      (written name later).or (if name = u.name then some u.value else held) := by
  rw [written, Option.or_assoc]
  split <;> rfl

end Update

namespace Store

variable {s : Store} {name text : String}

def updateAll (s : Store) : List Update → List (Option Value) × Store
  | [] => ([], s)
  | u :: later => ((u.run s).1 :: (updateAll (u.run s).2 later).1, (updateAll (u.run s).2 later).2)

theorem text?_eq_or (s : Store) (name : String) :
    s.text? name = ((s.get? name).bind Value.text?).or (s.defaults?.bind (·.text? name)) := by
  have hdefaults : textIn name s.defaults = s.defaults?.bind (·.text? name) := by
    rw [defaults?]
    cases s.defaults <;> rfl
  rw [text?, layers, textIn, hdefaults, get?]
  cases (s.primary.get? name).bind Value.text? <;> rfl

theorem text?_eq_some_iff : s.text? name = some text ↔ ∃ outer table inner,
    s.layers = outer ++ table :: inner ∧
      (∀ earlier ∈ outer, ∀ t, earlier.get? name ≠ some (.text t)) ∧
      table.get? name = some (.text text) := by
  have hholds : ∀ (table : Table) (t : String),
      (table.get? name).bind Value.text? = some t ↔ table.get? name = some (.text t) := by
    intro table t
    simp [Option.bind_eq_some_iff, Value.text?_eq_some_iff]
  have hlacks : ∀ table : Table, (table.get? name).bind Value.text? = none ↔
      ∀ t, table.get? name ≠ some (.text t) := by
    intro table
    simp only [Option.eq_none_iff_forall_ne_some, Ne, hholds]
  rw [text?, textIn_eq_findSome?, List.findSome?_eq_some_iff]
  simp only [hholds, hlacks, and_comm]

theorem defaults?_eq_of_defaults_eq {s t : Store} (h : t.defaults = s.defaults) :
    t.defaults? = s.defaults? := by
  rw [defaults?, defaults?, h]

theorem mem_names_iff_get? : name ∈ s.names ↔
    (s.get? name).isSome = true ∨ ∃ table ∈ s.defaults, (table.get? name).isSome = true := by
  rw [mem_names_iff, mem_mentioned_iff]
  simp [layers, get?]

end Store

structure Effect (s : Store) (u : Update) (previous : Option Value) (t : Store) : Prop where
  previous_eq : previous = s.get? u.name
  length_eq : t.length = if previous.isSome then s.length else s.length + 1
  defaults_eq : t.defaults = s.defaults
  get?_eq (name : String) : t.get? name = if name = u.name then some u.value else s.get? name
  text?_eq (name : String) : t.text? name =
    if name = u.name then u.value.text?.or (s.defaults?.bind (·.text? name)) else s.text? name
  mem_names_iff (name : String) : name ∈ t.names ↔ name = u.name ∨ name ∈ s.names

theorem effect_run (s : Store) (u : Update) : Effect s u (u.run s).1 (u.run s).2 := by
  rw [u.run_eq_insert]
  have hget : ∀ name, (s.insert u.name u.value).2.get? name =
      if name = u.name then some u.value else s.get? name := by
    intro name
    rw [Store.get?, Store.insert, HashedMap.get?_insert]
    simp only [beq_iff_eq, eq_comm (a := u.name)]
    rfl
  have hprevious : (s.insert u.name u.value).1 = s.get? u.name :=
    s.primary.insert_fst u.name u.value
  refine ⟨hprevious, ?_, rfl, hget, fun name => ?_, fun name => ?_⟩
  · rw [hprevious]
    exact s.primary.length_insert u.name u.value
  · rw [Store.text?_eq_or, hget]
    split
    · rfl
    · rw [Store.text?_eq_or s name]
      rfl
  · rw [Store.mem_names_iff_get?, Store.mem_names_iff_get?, hget]
    split
    next hname => exact iff_of_true (.inl rfl) (.inl hname)
    next hname =>
      rw [or_iff_right hname]
      rfl

structure Accrued (s : Store) (us : List Update) (answers : List (Option Value)) (t : Store) :
    Prop where
  previous_eq (before : List Update) (u : Update) (after : List Update)
    (h : us = before ++ u :: after) :
    answers[before.length]? = some ((Update.written u.name before).or (s.get? u.name))
  length_answers : answers.length = us.length
  length_eq : t.length = s.length + answers.countP Option.isNone
  defaults_eq : t.defaults = s.defaults
  get?_eq (name : String) : t.get? name = (Update.written name us).or (s.get? name)
  text?_eq (name : String) : t.text? name =
    match Update.written name us with
    | some value => value.text?.or (s.defaults?.bind (·.text? name))
    | none => s.text? name
  mem_names_iff (name : String) :
    name ∈ t.names ↔ name ∈ us.map Update.name ∨ name ∈ s.names

theorem accrued_nil (s : Store) : Accrued s [] [] s where
  previous_eq before u after h := by simp at h
  length_answers := rfl
  length_eq := rfl
  defaults_eq := rfl
  get?_eq _ := rfl
  text?_eq _ := rfl
  mem_names_iff name := by simp

theorem Effect.accrued_cons {s t final : Store} {u : Update} {previous : Option Value}
    {us : List Update} {answers : List (Option Value)} (hfirst : Effect s u previous t)
    (hlater : Accrued t us answers final) :
    Accrued s (u :: us) (previous :: answers) final where
  previous_eq before v after h := by
    cases before with
    | nil =>
        obtain ⟨rfl, -⟩ := List.cons.inj h
        rw [hfirst.previous_eq]
        rfl
    | cons first before =>
        obtain ⟨rfl, hus⟩ := List.cons.inj h
        rw [List.length_cons, List.getElem?_cons_succ, hlater.previous_eq before v after hus,
          hfirst.get?_eq, Update.written_cons_or]
  length_answers := congrArg (· + 1) hlater.length_answers
  length_eq := by
    rw [hlater.length_eq, hfirst.length_eq, List.countP_cons]
    cases previous with
    | none => exact Nat.add_right_comm s.length 1 _
    | some value => rfl
  defaults_eq := hlater.defaults_eq.trans hfirst.defaults_eq
  get?_eq name := by
    rw [hlater.get?_eq, hfirst.get?_eq, Update.written_cons_or]
  text?_eq name := by
    rw [hlater.text?_eq, Update.written]
    cases Update.written name us with
    | some value =>
        simp only [Option.some_or, Store.defaults?_eq_of_defaults_eq hfirst.defaults_eq]
    | none =>
        rw [hfirst.text?_eq, Option.none_or]
        by_cases hname : name = u.name
        · rw [if_pos hname, if_pos hname]
        · rw [if_neg hname, if_neg hname]
  mem_names_iff name := by
    rw [hlater.mem_names_iff, hfirst.mem_names_iff, List.map_cons, List.mem_cons, or_left_comm,
      or_assoc]

theorem accrued_updateAll (us : List Update) (s : Store) :
    Accrued s us (s.updateAll us).1 (s.updateAll us).2 := by
  induction us generalizing s with
  | nil => exact accrued_nil s
  | cons u later ih => exact (effect_run s u).accrued_cons (ih (u.run s).2)

theorem updates_change_named_values (s : Store) :
    (∀ u : Update, Effect s u (u.run s).1 (u.run s).2) ∧
    (∀ us : List Update, Accrued s us (s.updateAll us).1 (s.updateAll us).2) ∧
    ∀ (us : List Update) (name text : String),
      (s.updateAll us).2.text? name = some text ↔ ∃ outer table inner,
        (s.updateAll us).2.layers = outer ++ table :: inner ∧
          (∀ earlier ∈ outer, ∀ t, earlier.get? name ≠ some (.text t)) ∧
          table.get? name = some (.text text) :=
  ⟨effect_run s, fun us => accrued_updateAll us s, fun _ _ _ => Store.text?_eq_some_iff⟩

example :
    let root : Table := .ofList [("flag", .text "off"), ("depth", .text "root")]
    let middle : Table := .ofList [("flag", .integer 1)]
    let store : Store := ⟨.ofList [("flag", .text "on")], [middle, root]⟩
    let updates : List Update :=
      [.insert "flag" (.boolean true), .setText "size" "small", .insert "depth" (.integer 3)]
    let left := (store.updateAll updates).2
    store.text? "flag" = some "on" ∧ left.text? "flag" = some "off" ∧
      left.text? "depth" = some "root" ∧ left.length = 3 := by
  decide

end Property

end OptionalContainers
