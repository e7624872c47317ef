import OptionalContainers.Proofs.Enumeration.ListCursor
import OptionalContainers.Proofs.Property.PutOrder
import OptionalContainers.Proofs.Text.ByteOrder

namespace OptionalContainers.Property.Store

def Has (s : Store) (name : String) : Prop :=
  ∃ table ∈ s.layers, ∃ value, (name, value) ∈ table.entries

variable {s : Store} {name : String}

theorem mem_names_iff_has : name ∈ s.names ↔ s.Has name := by
  rw [names, mem_collectNames, List.mem_flatMap]
  simp [HashedMap.keys, Has]

theorem mem_names_of_get? (h : (s.get? name).isSome = true) : name ∈ s.names :=
  mem_names_iff.mpr (mem_mentioned_iff.mpr ⟨s.primary, List.mem_cons_self, h⟩)

theorem mem_names_of_text? (h : (s.text? name).isSome = true) : name ∈ s.names := by
  refine mem_names_iff.mpr (mem_mentioned_of_resolve ?_)
  obtain ⟨text, htext⟩ := Option.isSome_iff_exists.mp h
  rw [resolve, htext]
  rfl

theorem bytes_ascend (s : Store) :
    s.names.Pairwise fun a b => Text.bytes a < Text.bytes b :=
  s.ascending_names.imp Text.bytes_lt_of_lt

theorem names_ne_nil_iff : s.names ≠ [] ↔ ∃ table ∈ s.layers, table.entries ≠ [] := by
  constructor
  · intro h
    obtain ⟨name, hname⟩ := List.exists_mem_of_ne_nil s.names h
    obtain ⟨table, htable, value, hentry⟩ := mem_names_iff_has.mp hname
    exact ⟨table, htable, List.ne_nil_of_mem hentry⟩
  · rintro ⟨table, htable, h⟩
    obtain ⟨⟨name, value⟩, hentry⟩ := List.exists_mem_of_ne_nil table.entries h
    exact List.ne_nil_of_mem (mem_names_iff_has.mpr ⟨table, htable, value, hentry⟩)

theorem nameEnumeration_drains_ascending (s : Store) : ∃ drained left,
    exhaust (some s.nameEnumeration) = (drained, some left) ∧
      drained.Pairwise (fun a b => Text.bytes a < Text.bytes b) ∧
      drained.Nodup ∧
      (∀ name, name ∈ drained ↔ s.Has name) ∧
      ((Enumeration.hasMore s.nameEnumeration).1 = true ↔
        ∃ table ∈ s.layers, table.entries ≠ []) ∧
      (Enumeration.hasMore left).1 = false ∧
      (∀ name, (meets (some s.nameEnumeration) name).1 = true ↔ s.Has name) ∧
      (∀ name, (s.get? name).isSome = true ∨ (s.text? name).isSome = true → name ∈ drained) ∧
      ∀ inquiries : List (Inquiry String),
        (askAll askEnumeration s.nameEnumeration inquiries).1 =
            (askAll askList drained inquiries).1 ∧
          (askAll askEnumeration left inquiries).1 = (askAll askList [] inquiries).1 := by
  have hstands : StandsAt s.nameEnumeration s.names := standsAt_enumerated s.names
  obtain ⟨left, hexhaust, hleft⟩ := hstands.exhaust
  obtain ⟨asked, hmore, -⟩ := hstands.hasMore
  obtain ⟨ended, hend, -⟩ := hleft.hasMore
  refine ⟨s.names, left, hexhaust, s.bytes_ascend,
    SortedSet.nodup_of_ascending (ascending_collectNames s.layers), fun _ => mem_names_iff_has,
    ?_, ?_, fun name => ?_, ?_, fun inquiries => ?_⟩
  · rw [hmore, ← names_ne_nil_iff]
    simp
  · rw [hend]
    rfl
  · have hmeets : (meets (some s.nameEnumeration) name).1 = s.names.any (· == name) :=
      meets_eq_any s.names name
    rw [hmeets, ← mem_names_iff_has]
    simp
  · rintro name (hget | htext)
    · exact mem_names_of_get? hget
    · exact mem_names_of_text? htext
  · exact ⟨(hstands.askAll inquiries).1, (hleft.askAll inquiries).1⟩

end OptionalContainers.Property.Store
