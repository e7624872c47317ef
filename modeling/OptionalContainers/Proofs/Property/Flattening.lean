import Mathlib.Data.List.Nodup
import OptionalContainers.Proofs.Property.Merging

namespace OptionalContainers

variable {σ τ κ ν : Type}

theorem mem_iff_of_find? {entries : List (κ × ν)} (h : (entries.map (·.1)).Nodup) {k : κ}
    {same : κ → Bool} (hsame : ∀ key, same key = true ↔ key = k) (v : ν) :
    (entries.find? (same ·.1)).map (·.2) = some v ↔ (k, v) ∈ entries := by
  induction entries with
  | nil => simp
  | cons entry rest ih =>
      obtain ⟨key, held⟩ := entry
      obtain ⟨hkey, hrest⟩ := List.nodup_cons.mp h
      rw [List.find?_cons, List.mem_cons, Prod.mk.injEq]
      by_cases hk : key = k
      · subst hk
        have hself : same key = true := (hsame key).mpr rfl
        have habsent : (key, v) ∉ rest := fun hmem =>
          hkey (List.mem_map.mpr ⟨(key, v), hmem, rfl⟩)
        simp [hself, habsent, eq_comm]
      · have hother : same key = false := by
          rw [← Bool.not_eq_true, hsame]
          exact hk
        simp only [hother, ih hrest, Ne.symm hk, false_and, false_or]

theorem lookup_eq_some_iff [BEq κ] [LawfulBEq κ] {entries : List (κ × ν)}
    (h : (entries.map (·.1)).Nodup) {k : κ} {v : ν} :
    lookup entries k = some v ↔ (k, v) ∈ entries :=
  mem_iff_of_find? h (fun _ => beq_iff_eq) v

structure Tabular [BEq κ] [MappingTarget σ κ ν] (get? : σ → κ → Option ν) (fits : σ → Prop)
    (entries : σ → List (κ × ν)) : Prop extends Accepting get? fits where
  nodup_keys {m : σ} (h : fits m) : ((entries m).map (·.1)).Nodup
  get?_eq_some_iff {m : σ} (h : fits m) {k : κ} {v : ν} :
    get? m k = some v ↔ (k, v) ∈ entries m

theorem HashedMap.tabular [BEq κ] [LawfulBEq κ] :
    Tabular (HashedMap.get? : HashedMap κ ν → κ → Option ν) (fun _ => True) entries where
  toAccepting := accepting
  nodup_keys {m} _ := m.distinct.nodup
  get?_eq_some_iff {m} _ := lookup_eq_some_iff m.distinct.nodup

def SortedMap.Ascending [Ord κ] (m : SortedMap κ ν) : Prop :=
  m.keys.Pairwise (compare · · = .lt)

theorem SortedMap.tabular [Ord κ] [Std.TransOrd κ] [Std.LawfulEqOrd κ] [BEq κ]
    [Std.LawfulBEqOrd κ] :
    Tabular (SortedMap.get? : SortedMap κ ν → κ → Option ν) Ascending entries where
  put_ok {m} h k v := by
    obtain ⟨_, _, hput, -, hget⟩ := accepting.put_ok (m := m) trivial k v
    cases hput
    have hascending : (m.insert k v).2.Ascending := by
      rw [Ascending, keys_insert]
      exact SortedSet.ascending_place k h
    exact ⟨_, _, rfl, hascending, hget⟩
  nodup_keys h := SortedSet.nodup_of_ascending h
  get?_eq_some_iff {m} h {k v} := by
    have hsame : ∀ key, (compare k key == .eq) = true ↔ key = k := by
      intro key
      rw [beq_iff_eq, Std.LawfulEqOrd.compare_eq_iff_eq, eq_comm]
    exact mem_iff_of_find? (SortedSet.nodup_of_ascending h) hsame v

theorem Tabular.entries_perm [BEq κ] [MappingTarget σ κ ν] {get? : σ → κ → Option ν}
    {fits : σ → Prop} {entries : σ → List (κ × ν)} (tabular : Tabular get? fits entries) {m : σ}
    (h : fits m) {listed : List (κ × ν)} (hnodup : (listed.map (·.1)).Nodup)
    (hmem : ∀ k v, get? m k = some v ↔ (k, v) ∈ listed) : (entries m).Perm listed := by
  have hentries : (entries m).Nodup := (tabular.nodup_keys h).of_map
  refine (List.perm_ext_iff_of_nodup hentries hnodup.of_map).mpr ?_
  rintro ⟨k, v⟩
  rw [← tabular.get?_eq_some_iff h, hmem]

namespace Property.Store

theorem text?_eq_none_of_get? {s : Store} {name : String} (h : s.text? name = none) :
    (s.get? name).bind Value.text? = none := by
  rw [text?, layers, textIn] at h
  split at h
  · cases h
  next hprimary => exact hprimary

theorem resolve_bind_text? (s : Store) (name : String) :
    (s.resolve name).bind Value.text? = s.text? name := by
  rw [resolve]
  cases htext : s.text? name with
  | some text => rfl
  | none => exact text?_eq_none_of_get? htext

theorem resolve_eq_some_iff_of_text?_eq_none {s : Store} {name : String} {value : Value}
    (h : value.text? = none) :
    s.resolve name = some value ↔ s.text? name = none ∧ s.get? name = some value := by
  rw [resolve]
  cases htext : s.text? name with
  | none => simp
  | some text =>
      have hother : value ≠ .text text := by
        rintro rfl
        cases h
      simp [hother.symm]

theorem text?_of_defaults_nil {s : Store} (h : s.defaults = []) (name : String) :
    s.text? name = (s.get? name).bind Value.text? := by
  rw [text?, layers, h, textIn, textIn, get?]
  cases (s.primary.get? name).bind Value.text? <;> rfl

theorem resolve_of_defaults_nil {s : Store} (h : s.defaults = []) (name : String) :
    s.resolve name = s.get? name := by
  rw [resolve, text?_of_defaults_nil h]
  cases s.get? name with
  | none => rfl
  | some value => cases value <;> rfl

theorem provides_of_mem_names {s : Store} (h : s.defaults = []) {name : String}
    (hname : name ∈ s.names) : s.provides name = true := by
  obtain ⟨table, htable, hfound⟩ := mem_mentioned_iff.mp (mem_names_iff.mp hname)
  rw [layers, h, List.mem_singleton] at htable
  rw [provides, ← htable, hfound, Bool.or_true]

variable {collected : List (String × Value)}

theorem entries_ofList (h : (collected.map (·.1)).Nodup) :
    (ofList collected).primary.entries = collected :=
  HashedMap.entries_ofList (distinct_of_nodup h)

theorem get?_ofList (h : (collected.map (·.1)).Nodup) {name : String} {value : Value} :
    (ofList collected).get? name = some value ↔ (name, value) ∈ collected := by
  rw [get?, HashedMap.get?, entries_ofList h]
  exact lookup_eq_some_iff h

theorem length_names_ofList (h : (collected.map (·.1)).Nodup) :
    (ofList collected).names.length = collected.length := by
  have hkeys : (ofList collected).mentioned = collected.map (·.1) := by
    have hlayers : (ofList collected).layers.flatMap HashedMap.keys = collected.map (·.1) := by
      rw [layers, List.flatMap_cons, HashedMap.keys, entries_ofList h]
      exact List.append_nil _
    rw [mentioned, hlayers]
    exact firstOccurrences_of_distinct (distinct_of_nodup h)
  rw [(ofList collected).names_perm_mentioned.length_eq, hkeys, List.length_map]

end Property.Store

section

open Property

variable [MappingTarget σ String Value] [MappingTarget τ String Value]
  {get? : σ → String → Option Value} {fits : σ → Prop} {entries : σ → List (String × Value)}
  {get?' : τ → String → Option Value} {fits' : τ → Prop} {entries' : τ → List (String × Value)}

theorem Accepting.fits_putNames (accepting : Accepting get? fits) (store : Store)
    (names : List String) {m final : σ} {tally counted : Tally} (hm : fits m)
    (h : putNames store tally names m = .ok counted final) : fits final := by
  induction names generalizing m tally with
  | nil =>
      cases h
      exact hm
  | cons next rest ih =>
      cases hnext : store.resolve next with
      | none =>
          rw [putNames_cons_none hnext] at h
          exact ih hm h
      | some value =>
          obtain ⟨previous, grown, hput, hgrown, -⟩ := accepting.put_ok hm next value
          rw [putNames_cons_ok hnext hput] at h
          exact ih hgrown h

theorem Tabular.mergeProperties_into_empty (tabular : Tabular get? fits entries) {target : σ}
    (h : fits target) (hempty : entries target = []) (store : Store) (journal : Journal) :
    ∃ final, (mergeProperties (some store) (some target)).run journal =
        (⟨.ok (), some final⟩, { journal with events := journal.events ++
          [.propertiesMerged (store.names.countP store.provides)
            (store.names.countP (!store.provides ·))] }) ∧
      fits final ∧ ∀ name, get? final name = store.resolve name := by
  obtain ⟨final, hrun, hget⟩ := tabular.putNames_ok store store.names h ⟨0, 0⟩
  have hnone : ∀ name, get? target name = none := by
    intro name
    cases hvalue : get? target name with
    | none => rfl
    | some value =>
        have hmem := (tabular.get?_eq_some_iff h).mp hvalue
        rw [hempty] at hmem
        cases hmem
  have hfits := tabular.fits_putNames store store.names h hrun
  simp only [Store.isSome_resolve, Store.isNone_resolve, Nat.zero_add] at hrun
  refine ⟨final, ?_, hfits, fun name => ?_⟩
  · simp only [mergeProperties, hrun]
    rfl
  · rw [hget, hnone, Option.or_none]
    split
    · rfl
    next habsent =>
      refine (Option.not_isSome_iff_eq_none.mp fun hsome => habsent ?_).symm
      exact Store.mem_names_iff.mpr (Store.mem_mentioned_of_resolve hsome)

theorem Tabular.mergeProperties_ofList (tabular : Tabular get? fits entries) {target : σ}
    (h : fits target) (hempty : entries target = []) {collected : List (String × Value)}
    (hnodup : (collected.map (·.1)).Nodup) (journal : Journal) :
    ∃ final,
      (mergeProperties (some (Store.ofList collected)) (some target)).run journal =
        (⟨.ok (), some final⟩, { journal with events := journal.events ++
          [.propertiesMerged collected.length 0] }) ∧
      (entries final).Perm collected := by
  obtain ⟨final, hrun, hfits, hget⟩ :=
    tabular.mergeProperties_into_empty h hempty (Store.ofList collected) journal
  have hprovides : ∀ name ∈ (Store.ofList collected).names,
      (Store.ofList collected).provides name = true :=
    fun _ hname => Store.provides_of_mem_names rfl hname
  have hcopied : (Store.ofList collected).names.countP (Store.ofList collected).provides =
      collected.length := by
    rw [← Store.length_names_ofList hnodup, List.countP_eq_length]
    exact hprovides
  have hskipped : (Store.ofList collected).names.countP
      (!(Store.ofList collected).provides ·) = 0 := by
    rw [List.countP_eq_zero]
    intro name hname
    simp [hprovides name hname]
  rw [hcopied, hskipped] at hrun
  refine ⟨final, hrun, tabular.entries_perm hfits hnodup fun name value => ?_⟩
  rw [hget, Store.resolve_of_defaults_nil rfl, Store.get?_ofList hnodup]

theorem Tabular.flattening_keeps_text (tabular : Tabular get? fits entries)
    (tabular' : Tabular get?' fits' entries') {target : σ} {target' : τ}
    (h : fits target) (hempty : entries target = [])
    (h' : fits' target') (hempty' : entries' target' = [])
    (store : Store) (journal journal' : Journal) :
    ∃ final later,
      (mergeProperties (some store) (some target)).run journal =
        (⟨.ok (), some final⟩, later) ∧
      ∀ collected : List (String × Value), collected.Perm (entries final) →
        let flat := Store.ofList collected
        (∀ name, flat.text? name = store.text? name) ∧
        (∀ name value, flat.get? name = some value ∧ value.text? = none ↔
          store.text? name = none ∧ store.get? name = some value) ∧
        ∃ again,
          (mergeProperties (some flat) (some target')).run journal' =
            (⟨.ok (), some again⟩, { journal' with events := journal'.events ++
              [.propertiesMerged collected.length 0] }) ∧
          (entries' again).Perm (entries final) := by
  obtain ⟨final, hrun, hfits, hget⟩ := tabular.mergeProperties_into_empty h hempty store journal
  refine ⟨final, _, hrun, fun collected hcollected => ?_⟩
  intro flat
  have hnodup : (collected.map (·.1)).Nodup :=
    (hcollected.map _).nodup_iff.mpr (tabular.nodup_keys hfits)
  have hresolve : ∀ name, flat.get? name = store.resolve name := by
    intro name
    refine Option.ext fun value => ?_
    rw [Store.get?_ofList hnodup, hcollected.mem_iff, ← tabular.get?_eq_some_iff hfits, hget]
  refine ⟨fun name => ?_, fun name value => ?_, ?_⟩
  · rw [Store.text?_of_defaults_nil rfl, hresolve, Store.resolve_bind_text?]
  · rw [hresolve]
    constructor
    · rintro ⟨hvalue, hother⟩
      exact (Store.resolve_eq_some_iff_of_text?_eq_none hother).mp hvalue
    · rintro ⟨hnone, hvalue⟩
      have hother := Store.text?_eq_none_of_get? hnone
      rw [hvalue] at hother
      exact ⟨(Store.resolve_eq_some_iff_of_text?_eq_none hother).mpr ⟨hnone, hvalue⟩, hother⟩
  · obtain ⟨again, hrun', hperm⟩ := tabular'.mergeProperties_ofList h' hempty' hnodup journal'
    exact ⟨again, hrun', hperm.trans hcollected⟩

theorem flattening_of_three_layers :
    let root : Table := .ofList [("flag", .text "on"), ("depth", .integer 7)]
    let middle : Table := .ofList [("depth", .boolean false), ("flag", .integer 1)]
    let nan : Value := .float ⟨0x7ff8000000000000⟩
    let store : Store := ⟨.ofList [("flag", .boolean true), ("limit", nan)], [middle, root]⟩
    ∃ (final : HashedMap String Value) (later : Journal) (again : SortedMap String Value),
      (mergeProperties (some store) (some (∅ : HashedMap String Value))).run .start =
        (⟨.ok (), some final⟩, later) ∧
      (Store.ofList final.entries).text? "flag" = some "on" ∧
      (Store.ofList final.entries).get? "limit" = some nan ∧
      (mergeProperties (some (Store.ofList final.entries))
          (some (∅ : SortedMap String Value))).run .start =
        (⟨.ok (), some again⟩, ⟨0, [.propertiesMerged final.entries.length 0]⟩) ∧
      again.entries.Perm final.entries := by
  intro root middle nan store
  have hhashed : (∅ : HashedMap String Value).entries = [] := rfl
  have hsorted : (∅ : SortedMap String Value).entries = [] := rfl
  have hascending : (∅ : SortedMap String Value).Ascending := .nil
  obtain ⟨final, later, hrun, hflat⟩ :=
    HashedMap.tabular.flattening_keeps_text SortedMap.tabular trivial hhashed hascending hsorted
      store .start .start
  obtain ⟨htext, hraw, again, hagain, hperm⟩ := hflat final.entries (.refl _)
  have hflag : store.text? "flag" = some "on" := by decide
  have hlimit : store.text? "limit" = none ∧ store.get? "limit" = some nan := by
    constructor <;> rfl
  exact ⟨final, later, again, hrun, (htext "flag").trans hflag, ((hraw "limit" nan).mpr hlimit).1,
    hagain, hperm⟩

end

end OptionalContainers
