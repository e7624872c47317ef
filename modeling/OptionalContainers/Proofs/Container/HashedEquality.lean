import OptionalContainers.Container.Hashed
import OptionalContainers.Proofs.Distinct.Covering

namespace OptionalContainers

variable {κ ν : Type}

def Agree [BEq ν] (get? get?' : κ → Option ν) : Prop :=
  (∀ k, (get? k).isSome = (get?' k).isSome) ∧
    ∀ k x y, get? k = some x → get?' k = some y → (x == y) = true

section

variable [BEq ν] {get? get?' : κ → Option ν}

theorem agree_iff_rel :
    Agree get? get?' ↔ ∀ k, Option.Rel (fun x y => (x == y) = true) (get? k) (get?' k) := by
  rw [Agree, ← forall_and]
  refine forall_congr' fun k => ?_
  cases get? k <;> cases get?' k <;> simp

theorem Agree.symm [PartialEquivBEq ν] (h : Agree get? get?') : Agree get?' get? :=
  ⟨fun k => (h.1 k).symm, fun k x y hx hy => BEq.symm (h.2 k y x hy hx)⟩

theorem Agree.trans [PartialEquivBEq ν] {get?'' : κ → Option ν} (h : Agree get? get?')
    (h' : Agree get?' get?'') : Agree get? get?'' := by
  refine ⟨fun k => (h.1 k).trans (h'.1 k), fun k x z hx hz => ?_⟩
  have hmiddle : (get?' k).isSome = true := by rw [← h.1 k, hx, Option.isSome_some]
  obtain ⟨y, hy⟩ := Option.isSome_iff_exists.mp hmiddle
  exact PartialEquivBEq.trans (h.2 k x y hx hy) (h'.2 k y z hy hz)

end

variable [BEq κ]

theorem isSome_lookup (entries : List (κ × ν)) (k : κ) :
    (lookup entries k).isSome = scan (entries.map (·.1)) k := by
  rw [Bool.eq_iff_iff]
  simp [lookup, scan, List.find?_isSome]

theorem exists_mem_of_lookup {entries : List (κ × ν)} {k : κ} {v : ν}
    (h : lookup entries k = some v) : ∃ key, (key, v) ∈ entries ∧ (key == k) = true := by
  obtain ⟨⟨key, held⟩, hfound, rfl⟩ := Option.map_eq_some_iff.mp h
  have hkey : (key == k) = true := by simpa using List.find?_some hfound
  exact ⟨key, List.mem_of_find?_eq_some hfound, hkey⟩

variable [EquivBEq κ]

theorem lookup_congr {a b : κ} (h : (a == b) = true) (entries : List (κ × ν)) :
    lookup entries a = lookup entries b := by
  induction entries with
  | nil => rfl
  | cons entry rest ih =>
      obtain ⟨key, held⟩ := entry
      have hsame : (key == a) = (key == b) := BEq.congr_right h
      rw [lookup_cons, lookup_cons, hsame, ih]

theorem lookup_of_mem {entries : List (κ × ν)} (h : Distinct (entries.map (·.1))) {key : κ} {v : ν}
    (hmem : (key, v) ∈ entries) : lookup entries key = some v := by
  induction entries with
  | nil => cases hmem
  | cons entry rest ih =>
      obtain ⟨first, held⟩ := entry
      obtain ⟨hfirst, hrest⟩ := List.pairwise_cons.mp h
      rw [lookup_cons]
      rcases List.mem_cons.mp hmem with heq | hmem
      · cases heq
        rw [if_pos BEq.rfl]
      · have hother : (first == key) = false :=
          hfirst key (List.mem_map.mpr ⟨(key, v), hmem, rfl⟩)
        rw [hother, if_neg Bool.false_ne_true]
        exact ih hrest hmem

namespace HashedMap

theorem same_keys_iff (a b : HashedMap κ ν) :
    (∀ k, (a.get? k).isSome = (b.get? k).isSome) ↔
      a.entries.length = b.entries.length ∧ ∀ e ∈ a.entries, (b.get? e.1).isSome = true := by
  have hscan : ∀ (m : HashedMap κ ν) (k : κ), (m.get? k).isSome = scan m.keys k :=
    fun m k => isSome_lookup m.entries k
  calc (∀ k, (a.get? k).isSome = (b.get? k).isSome)
      ↔ ∀ k, scan a.keys k = scan b.keys k := by simp only [hscan]
    _ ↔ Covers a.keys b.keys ∧ Covers b.keys a.keys := mutual_covers_iff.symm
    _ ↔ Covers b.keys a.keys ∧ Covers a.keys b.keys := and_comm
    _ ↔ a.keys.length = b.keys.length ∧ Covers b.keys a.keys :=
        (length_eq_and_covers_iff a.distinct b.distinct).symm
    _ ↔ _ := by simp only [hscan, keys, List.length_map, Covers, List.forall_mem_map]

theorem exists_isSome_get? {m : HashedMap κ ν} (h : m.entries ≠ []) :
    ∃ k, (m.get? k).isSome = true := by
  obtain ⟨⟨k, v⟩, rest, hentries⟩ := List.exists_cons_of_ne_nil h
  refine ⟨k, ?_⟩
  rw [get?, hentries, lookup_cons, if_pos BEq.rfl]
  rfl

variable [BEq ν]

theorem beq_iff_agree (a b : HashedMap κ ν) : (a == b) = true ↔ Agree a.get? b.get? := by
  have hbeq : (a == b) = true ↔ a.entries.length = b.entries.length ∧
      ∀ e ∈ a.entries, (b.get? e.1).any (e.2 == ·) = true := by
    show agrees a b = true ↔ _
    rw [agrees, Bool.and_eq_true, beq_iff_eq, List.all_eq_true]
  rw [hbeq, Agree, same_keys_iff]
  constructor
  · rintro ⟨hlength, hall⟩
    refine ⟨⟨hlength, fun e he => ?_⟩, fun k x y hx hy => ?_⟩
    · obtain ⟨y, hy, -⟩ := (Option.any_eq_true _ _).mp (hall e he)
      rw [hy]
      rfl
    · obtain ⟨key, hmem, hkey⟩ := exists_mem_of_lookup hx
      have hfound : b.get? key = some y := (lookup_congr hkey b.entries).trans hy
      have hsame := hall (key, x) hmem
      rw [hfound] at hsame
      exact hsame
  · rintro ⟨⟨hlength, hkeys⟩, hvalues⟩
    refine ⟨hlength, fun e he => ?_⟩
    obtain ⟨y, hy⟩ := Option.isSome_iff_exists.mp (hkeys e he)
    have hx : a.get? e.1 = some e.2 := lookup_of_mem a.distinct he
    rw [hy]
    exact hvalues e.1 e.2 y hx hy

theorem agree_self_iff (a : HashedMap κ ν) :
    Agree a.get? a.get? ↔ ∀ e ∈ a.entries, (e.2 == e.2) = true := by
  constructor
  · intro h e he
    have hx : a.get? e.1 = some e.2 := lookup_of_mem a.distinct he
    exact h.2 e.1 e.2 e.2 hx hx
  · intro h
    refine ⟨fun _ => rfl, fun k x y hx hy => ?_⟩
    obtain ⟨key, hmem, -⟩ := exists_mem_of_lookup hx
    cases hx.symm.trans hy
    exact h (key, x) hmem

instance [PartialEquivBEq ν] : PartialEquivBEq (HashedMap κ ν) where
  symm h := (beq_iff_agree _ _).mpr ((beq_iff_agree _ _).mp h).symm
  trans h h' := (beq_iff_agree _ _).mpr
    (((beq_iff_agree _ _).mp h).trans ((beq_iff_agree _ _).mp h'))

end HashedMap

end OptionalContainers
