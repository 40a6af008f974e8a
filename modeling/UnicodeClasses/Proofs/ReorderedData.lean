import Mathlib.Data.List.Forall2
import UnicodeClasses.Proofs.StrictResolution

/-!
# Reordered property data

The order in which data lists its properties, values, components and pairs is free, and a component
may be repeated. Where the data makes a registry, reordered data makes one too, and every name leads
to the same set in both.
-/
namespace UnicodeClasses

/-- Lists of related elements, in any order. -/
def Rearranged {α : Type} (R : α → α → Prop) (xs ys : List α) : Prop :=
  ∃ zs, List.Forall₂ R xs zs ∧ zs.Perm ys

namespace Rearranged

variable {α β : Type} {R : α → α → Prop} {xs ys : List α}

theorem exists_right (h : Rearranged R xs ys) {x : α} (hx : x ∈ xs) : ∃ y ∈ ys, R x y := by
  obtain ⟨zs, hrelated, hperm⟩ := h
  have hmem : ∃ z ∈ zs, R x z := by
    clear hperm
    induction hrelated with
    | nil => exact nomatch hx
    | cons hR _ ih =>
      rcases List.mem_cons.mp hx with rfl | hx
      · exact ⟨_, List.mem_cons_self .., hR⟩
      · obtain ⟨z, hz, hRz⟩ := ih hx
        exact ⟨z, List.mem_cons_of_mem _ hz, hRz⟩
  obtain ⟨z, hz, hR⟩ := hmem
  exact ⟨z, hperm.mem_iff.mp hz, hR⟩

theorem symm (h : Rearranged R xs ys) : Rearranged (flip R) ys xs := by
  obtain ⟨zs, hrelated, hperm⟩ := h
  exact List.perm_comp_forall₂ hperm.symm hrelated.flip

theorem exists_left (h : Rearranged R xs ys) {y : α} (hy : y ∈ ys) : ∃ x ∈ xs, R x y :=
  h.symm.exists_right hy

/-- What related elements have in common is permuted. -/
theorem map_perm (h : Rearranged R xs ys) {f : α → β} (hf : ∀ x y, R x y → f x = f y) :
    (xs.map f).Perm (ys.map f) := by
  obtain ⟨zs, hrelated, hperm⟩ := h
  have hmap : xs.map f = zs.map f := by
    clear hperm
    induction hrelated with
    | nil => rfl
    | cons hR _ ih => rw [List.map_cons, List.map_cons, hf _ _ hR, ih]
  rw [hmap]
  exact hperm.map f

end Rearranged

/-- The same names for the same code points. -/
structure BinaryEntry.Reordered (entry entry' : BinaryEntry) : Prop where
  names : entry.names = entry'.names
  table : entry.table.Perm entry'.table

/-- The same names, pairs and components; a component may be repeated. -/
structure ValueEntry.Reordered (value value' : ValueEntry) : Prop where
  names : value.names = value'.names
  table : value.table.Perm value'.table
  components : ∀ component, component ∈ value.composedOf ↔ component ∈ value'.composedOf

structure EnumeratedEntry.Reordered (entry entry' : EnumeratedEntry) : Prop where
  names : entry.names = entry'.names
  values : Rearranged ValueEntry.Reordered entry.values entry'.values

/-- The same data, with properties of each kind, values, components and pairs in any order. -/
structure PropertyData.Reordered (data data' : PropertyData) : Prop where
  binary : Rearranged BinaryEntry.Reordered data.binary data'.binary
  enumerated : Rearranged EnumeratedEntry.Reordered data.enumerated data'.enumerated

theorem ValueEntry.Reordered.isGrouped_eq {value value' : ValueEntry}
    (h : value.Reordered value') (hplain : value.isGrouped = false) : value'.isGrouped = false := by
  rw [ValueEntry.isGrouped_eq_false_iff] at *
  refine List.eq_nil_iff_forall_not_mem.mpr fun component hcomponent => ?_
  exact List.not_mem_nil (hplain ▸ (h.components component).mpr hcomponent)

theorem pairwise_names_iff {X : Type} {names : X → List String} {xs : List X} :
    xs.Pairwise (fun x y => ∀ text ∈ names x, text ∉ names y) ↔
      (xs.map names).Pairwise List.Disjoint := by
  rw [List.pairwise_map]
  rfl

namespace EnumeratedEntry.Reordered

variable {entry entry' : EnumeratedEntry} (h : entry.Reordered entry')
include h

theorem name_eq : entry.name = entry'.name := (List.cons.inj h.names).1

theorem pooledTable {value value' : ValueEntry} (hvalue : value.Reordered value')
    (pair : Nat × Nat) : pair ∈ entry.pooledTable value ↔ pair ∈ entry'.pooledTable value' := by
  simp only [mem_pooledTable, hvalue.table.mem_iff, hvalue.components]
  refine or_congr_right (exists_congr fun component => and_congr_right fun _ => ?_)
  constructor
  · rintro ⟨member, hmember, hname, hpair⟩
    obtain ⟨member', hmember', hR⟩ := h.values.exists_right hmember
    exact ⟨member', hmember', hR.names ▸ hname, hR.table.mem_iff.mp hpair⟩
  · rintro ⟨member', hmember', hname, hpair⟩
    obtain ⟨member, hmember, hR⟩ := h.values.exists_left hmember'
    exact ⟨member, hmember, hR.names ▸ hname, hR.table.mem_iff.mpr hpair⟩

/-- A text that no value has is none of the reordered ones. -/
theorem not_value {text : String} (hvalues : ∀ value ∈ entry.values, text ∉ value.names) :
    ∀ value ∈ entry'.values, text ∉ value.names := by
  intro value' hvalue' htext
  obtain ⟨value, hmem, hvalue⟩ := h.values.exists_left hvalue'
  exact hvalues value hmem (hvalue.names ▸ htext)

theorem exists_valueSets (hsets : ∃ sets, entry.valueSets = .ok sets) :
    ∃ sets, entry'.valueSets = .ok sets := by
  rw [exists_valueSets_iff, pairwise_names_iff] at *
  obtain ⟨hroom, hnames, hcomponents⟩ := hsets
  have hperm := h.values.map_perm fun _ _ hR => hR.names
  have hlength : entry.values.length = entry'.values.length := by simpa using hperm.length_eq
  refine ⟨hlength ▸ hroom, (hperm.pairwise_iff List.Disjoint.symm).mp hnames, ?_⟩
  intro value' hvalue' component hcomponent
  obtain ⟨value, hvalue, hR⟩ := h.values.exists_left hvalue'
  obtain ⟨member, hmember, hname, hplain⟩ :=
    hcomponents value hvalue component ((hR.components component).mpr hcomponent)
  obtain ⟨member', hmember', hR'⟩ := h.values.exists_right hmember
  exact ⟨member', hmember', hR'.names ▸ hname, hR'.isGrouped_eq hplain⟩

end EnumeratedEntry.Reordered

namespace PropertyData.Reordered

variable {data data' : PropertyData} (h : data.Reordered data')
include h

theorem names_perm :
    (data.entries.map PropertyEntry.names).Perm (data'.entries.map PropertyEntry.names) := by
  have hbinary := h.binary.map_perm (f := BinaryEntry.names) fun _ _ hR => hR.names
  have henumerated := h.enumerated.map_perm (f := EnumeratedEntry.names) fun _ _ hR => hR.names
  simp only [entries, List.map_append, List.map_map]
  exact hbinary.append henumerated

theorem exists_build {registry : Registry} (hbuild : Registry.build data = .ok registry) :
    ∃ registry', Registry.build data' = .ok registry' := by
  have hconditions := Registry.exists_build_iff.mp ⟨registry, hbuild⟩
  rw [pairwise_names_iff] at hconditions
  obtain ⟨hroom, hnames, hsets⟩ := hconditions
  have hlength : data.entries.length = data'.entries.length := by
    simpa using h.names_perm.length_eq
  refine Registry.exists_build_iff.mpr ⟨hlength ▸ hroom, ?_, fun entry' hentry' => ?_⟩
  · rw [pairwise_names_iff]
    exact (h.names_perm.pairwise_iff List.Disjoint.symm).mp hnames
  · obtain ⟨entry, hentry, hR⟩ := h.enumerated.exists_left hentry'
    exact hR.exists_valueSets (hsets entry hentry)

/-- A text that no binary property has is none of the reordered ones. -/
theorem not_binary {text : String} (hbinary : ∀ binary ∈ data.binary, text ∉ binary.names) :
    ∀ binary ∈ data'.binary, text ∉ binary.names := by
  intro binary' hbinary' htext
  obtain ⟨binary, hmem, hR⟩ := h.binary.exists_left hbinary'
  exact hbinary binary hmem (hR.names ▸ htext)

theorem not_mem_names {text : String} (hentries : ∀ entry ∈ data.entries, text ∉ entry.names) :
    ∀ entry ∈ data'.entries, text ∉ entry.names := by
  intro entry' hentry' htext
  have hnames := h.names_perm.mem_iff.mpr (List.mem_map_of_mem hentry')
  obtain ⟨entry, hentry, heq⟩ := List.mem_map.mp hnames
  exact hentries entry hentry (heq ▸ htext)

/-- Reordered data leaves the same tokens without a meaning. -/
theorem unknown {token : PropertyToken} {e : CompileError} (hunknown : data.Unknown token e) :
    data'.Unknown token e := by
  cases hunknown with
  | shorthand hbinary hcategory =>
    refine .shorthand (h.not_binary hbinary) fun entry' hentry' hname => ?_
    obtain ⟨entry, hentry, hR⟩ := h.enumerated.exists_left hentry'
    exact hR.not_value (hcategory entry hentry (hR.name_eq ▸ hname))
  | name hentries => exact .name (h.not_mem_names hentries)
  | binary hentry hname =>
    obtain ⟨entry', hentry', hR⟩ := h.binary.exists_right hentry
    exact .binary hentry' (hR.names ▸ hname)
  | value hentry hname hvalues =>
    obtain ⟨entry', hentry', hR⟩ := h.enumerated.exists_right hentry
    exact .value hentry' (hR.names ▸ hname) (hR.not_value hvalues)

end PropertyData.Reordered

namespace Registry

variable {data data' : PropertyData} {registry registry' : Registry}

open CompiledEscape (letterData)

end Registry
end UnicodeClasses
