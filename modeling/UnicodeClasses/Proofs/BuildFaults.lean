import UnicodeClasses.Proofs.RegistryContents

/-!
# When a registry can be built

Property data makes a registry if there are not too many entries, names are unambiguous among the
properties and among the values of each property, and groups are composed of ungrouped values of
their own property. The error of a build that fails points at entries that break one of these rules.
-/
namespace UnicodeClasses

/-- A text is a name of two entries, at different places of a list. -/
def NameShared {X : Type} (names : X → List String) (xs : List X) (text : String)
    (earlier later : X) : Prop :=
  ∃ i j : Nat, i < j ∧ xs[i]? = some earlier ∧ xs[j]? = some later ∧
    text ∈ names earlier ∧ text ∈ names later

namespace NameTable

/-- A name that cannot be assigned stands for another entry. -/
theorem of_assignNames_eq_error {id owner : Nat} {index : NameIndex} {names : List String}
    {text : String} (h : assignNames id index names = .error (text, owner)) :
    text ∈ names ∧ owner ≠ id ∧ index[text]? = some owner := by
  induction names generalizing index with
  | nil => exact nomatch h
  | cons first names ih =>
    unfold assignNames at h
    split at h
    · obtain ⟨hmem, hne, hindex⟩ := ih h
      refine ⟨List.mem_cons_of_mem _ hmem, hne, ?_⟩
      rw [Std.HashMap.getElem?_insert] at hindex
      split at hindex
      · exact absurd (Option.some.inj hindex).symm hne
      · exact hindex
    · rename_i holder hfirst
      split at h
      · obtain ⟨hmem, hother⟩ := ih h
        exact ⟨List.mem_cons_of_mem _ hmem, hother⟩
      · rename_i hne
        obtain ⟨rfl, rfl⟩ := Prod.mk.inj (Except.error.inj h)
        exact ⟨List.mem_cons_self .., hne, hfirst⟩

variable {α X ε : Type} {refuse : X → Clash → ε} {name : X → String} {aliases : X → List String}
  {load : X → Except ε α} {table : NameTable α} {xs : List X} {x : X} {e : ε}

/-- An entry is refused for want of room, for a name that an entry before it has, or for its
data. -/
theorem Lists.of_addWith_eq_error (h : Lists name aliases load table xs)
    (hadd : table.addWith (refuse x) (name x) (aliases x) (load x) = .error e) :
    maxEntries ≤ xs.length ∧ e = refuse x .full ∨
    (∃ (i : Nat) (y : X) (text : String), xs[i]? = some y ∧ text ∈ name y :: aliases y ∧
      text ∈ name x :: aliases x ∧ e = refuse x (.taken text (name y))) ∨
    load x = .error e := by
  have hsize := h.size_eq
  have hfind := h.find
  have hentry := h.entry
  obtain ⟨entries, index⟩ := table
  simp only [NameTable.addWith, assign, size] at hadd hsize
  split at hadd
  · rename_i clash hclash
    obtain rfl := Except.error.inj hadd
    split at hclash
    · rename_i hfull
      obtain rfl := Except.error.inj hclash
      exact .inl ⟨hsize ▸ hfull, rfl⟩
    · split at hclash
      · cases hclash
      · rename_i text owner hassign
        obtain rfl := Except.error.inj hclash
        obtain ⟨htext, -, howner⟩ := of_assignNames_eq_error hassign
        obtain ⟨y, hy, hname⟩ := (hfind text owner).mp howner
        obtain ⟨_, -, hget⟩ := hentry owner y hy
        exact .inr (.inl ⟨owner, y, text, hy, hname, htext, by simp [hget]⟩)
  · split at hadd
    · rename_i hload
      exact .inr (.inr (hload.trans (congrArg _ (Except.error.inj hadd))))
    · cases hadd

/-- Data cannot be replaced only if it cannot be in one of the entries. -/
theorem Lists.of_mapM_eq_error {β : Type} {f : α → Except ε β}
    (h : Lists name aliases load table xs) (hmap : table.mapM f = .error e) :
    ∃ x ∈ xs, ∃ data, load x = .ok data ∧ f data = .error e := by
  have hentries := (map_eq_error_iff _).mp hmap
  rw [Array.mapM_eq_mapM_toList] at hentries
  obtain ⟨entry, hmem, hfail⟩ := exists_of_mapM_eq_error ((map_eq_error_iff _).mp hentries)
  obtain ⟨i, hi⟩ := List.mem_iff_getElem?.mp hmem
  rw [Array.getElem?_toList] at hi
  obtain ⟨x, hx, -, hload⟩ := h.exists_of_entry hi
  exact ⟨x, List.mem_of_getElem? hx, _, hload, (map_eq_error_iff _).mp hfail⟩

/-- A table cannot be filled if there are too many entries, two of them share a name, or the data
of one is not there. -/
theorem of_fill_eq_error (h : fill refuse name aliases load xs {} = .error e) :
    (maxEntries < xs.length ∧ ∃ x, e = refuse x .full) ∨
    (∃ text x y, NameShared (fun x => name x :: aliases x) xs text x y ∧
      e = refuse y (.taken text (name x))) ∨
    ∃ x ∈ xs, load x = .error e := by
  obtain ⟨before, x, after, table, rfl, hfill, hadd⟩ := exists_of_foldlM_eq_error h
  have hlast : (before ++ x :: after)[before.length]? = some x := by simp
  rcases (lists_of_fill hfill).of_addWith_eq_error hadd with
    ⟨hfull, rfl⟩ | ⟨i, y, text, hy, hold, hnew, rfl⟩ | hload
  · refine .inl ⟨?_, x, rfl⟩
    rw [List.length_append, List.length_cons]
    omega
  · have hi : i < before.length := (List.getElem?_eq_some_iff.mp hy).1
    have hfirst : (before ++ x :: after)[i]? = some y := by rw [List.getElem?_append_left hi, hy]
    exact .inr (.inl ⟨text, y, x, ⟨i, before.length, hi, hfirst, hlast, hold, hnew⟩, rfl⟩)
  · exact .inr (.inr ⟨x, List.mem_of_getElem? hlast, hload⟩)

end NameTable

/-- What property data must satisfy to make a registry. -/
structure PropertyData.Buildable (data : PropertyData) : Prop where
  room : data.entries.length ≤ 65536
  value_room : ∀ entry ∈ data.enumerated, entry.values.length ≤ 65536
  apart : ∀ text x y, ¬ NameShared PropertyEntry.names data.entries text x y
  values_apart : ∀ entry ∈ data.enumerated, ∀ text x y,
    ¬ NameShared ValueEntry.names entry.values text x y
  components : ∀ entry ∈ data.enumerated, ∀ value ∈ entry.values, ∀ component ∈ value.composedOf,
    ∃ member ∈ entry.values, component ∈ member.names ∧ member.composedOf = []

/-- What property data must contain for an error to be raised by it. -/
def BuildError.Justified (data : PropertyData) : BuildError → Prop
  | .tooManyEntries => 65536 < data.entries.length ∨
      ∃ entry ∈ data.enumerated, 65536 < entry.values.length
  | .duplicateAlias text existing conflicting =>
      (∃ x y, NameShared PropertyEntry.names data.entries text x y ∧
        x.name = existing ∧ y.name = conflicting) ∨
      ∃ entry ∈ data.enumerated, ∃ word x y, NameShared ValueEntry.names entry.values word x y ∧
        text = entry.name ++ "=" ++ word ∧ x.name = existing ∧ y.name = conflicting
  | .unknownComponent property component => ∃ entry ∈ data.enumerated, entry.name = property ∧
      (∃ value ∈ entry.values, component ∈ value.composedOf) ∧
      ∀ member ∈ entry.values, component ∈ member.names → member.composedOf ≠ []

theorem pairwise_apart_iff {X : Type} {names : X → List String} {xs : List X} :
    xs.Pairwise (fun x y => ∀ text ∈ names x, text ∉ names y) ↔
      ∀ text x y, ¬ NameShared names xs text x y := by
  rw [List.pairwise_iff_getElem]
  constructor
  · rintro h text x y ⟨i, j, hij, hi, hj, hx, hy⟩
    obtain ⟨hi', rfl⟩ := List.getElem?_eq_some_iff.mp hi
    obtain ⟨hj', rfl⟩ := List.getElem?_eq_some_iff.mp hj
    exact h i j hi' hj' hij text hx hy
  · intro h i j hi hj hij text hx hy
    exact h text xs[i] xs[j] ⟨i, j, hij, List.getElem?_eq_getElem hi, List.getElem?_eq_getElem hj,
      hx, hy⟩

namespace EnumeratedEntry

variable {entry : EnumeratedEntry} {values : NameTable ValueEntry} {e : BuildError}

/-- A set is refused only for a component that no ungrouped value of the property is named by. -/
theorem of_valueSet_eq_error (hvalues : entry.ListsValues values) {value : ValueEntry}
    (h : entry.valueSet values value = .error e) : ∃ component ∈ value.composedOf,
      e = .unknownComponent entry.name component ∧
      ∀ member ∈ entry.values, component ∈ member.names → member.composedOf ≠ [] := by
  rw [valueSet_eq_foldlM] at h
  obtain ⟨before, component, after, set, hsplit, -, hadd⟩ := exists_of_foldlM_eq_error h
  refine ⟨component, by simp [hsplit], ?_⟩
  unfold addComponent at hadd
  split at hadd
  · exact nomatch hadd
  · rename_i hnone
    refine ⟨(Except.error.inj hadd).symm, fun member hmem hname hplain => ?_⟩
    have hsome := (componentTable?_eq_some hvalues).mpr
      ⟨member, hmem, hname, ValueEntry.isGrouped_eq_false_iff.mpr hplain, rfl⟩
    rw [hnone] at hsome
    exact nomatch hsome

/-- The error of the values of a property points at what is wrong in them. -/
theorem justified_of_valueSets_eq_error {data : PropertyData} (hentry : entry ∈ data.enumerated)
    (h : entry.valueSets = .error e) : e.Justified data := by
  rcases bind_eq_error_iff.mp h with h | ⟨values, hvalues, h⟩
  · rcases NameTable.of_fill_eq_error h with
      ⟨hfull, _, rfl⟩ | ⟨text, x, y, hshared, rfl⟩ | ⟨_, -, hload⟩
    · exact .inr ⟨entry, hentry, hfull⟩
    · exact .inr ⟨entry, hentry, text, x, y, hshared, rfl, rfl, rfl⟩
    · exact nomatch hload
  · obtain ⟨value, hvalue, _, hload, hset⟩ := (listsValues hvalues).of_mapM_eq_error h
    obtain rfl := Except.ok.inj hload
    obtain ⟨component, hcomponent, rfl, hgrouped⟩ := of_valueSet_eq_error (listsValues hvalues) hset
    exact ⟨entry, hentry, rfl, ⟨value, hvalue, hcomponent⟩, hgrouped⟩

end EnumeratedEntry

namespace Registry

variable {data : PropertyData} {e : BuildError}

theorem exists_build_iff_buildable :
    (∃ registry, build data = .ok registry) ↔ data.Buildable := by
  rw [exists_build_iff]
  simp only [EnumeratedEntry.exists_valueSets_iff, pairwise_apart_iff,
    ValueEntry.isGrouped_eq_false_iff]
  constructor
  · rintro ⟨hroom, hapart, hvalues⟩
    exact ⟨hroom, fun entry h => (hvalues entry h).1, hapart, fun entry h => (hvalues entry h).2.1,
      fun entry h => (hvalues entry h).2.2⟩
  · intro h
    exact ⟨h.room, h.apart, fun entry hentry => ⟨h.value_room entry hentry,
      h.values_apart entry hentry, h.components entry hentry⟩⟩

theorem justified_of_build_eq_error (h : build data = .error e) : e.Justified data := by
  rcases NameTable.of_fill_eq_error ((map_eq_error_iff _).mp h) with
    ⟨hfull, _, rfl⟩ | ⟨text, x, y, hshared, rfl⟩ | ⟨entry, hentry, hload⟩
  · exact .inl hfull
  · exact .inl ⟨x, y, hshared, rfl, rfl⟩
  · rcases mem_entries.mp hentry with ⟨binary, -, rfl⟩ | ⟨enumerated, hmem, rfl⟩
    · exact nomatch hload
    · exact EnumeratedEntry.justified_of_valueSets_eq_error hmem ((map_eq_error_iff _).mp hload)

/-- A registry is built exactly from data that satisfies the rules, and the error of any other
build names entries that break one. -/
theorem build_decides_data (data : PropertyData) :
    ((∃ registry, build data = .ok registry) ↔ data.Buildable) ∧
    ∀ e, build data = .error e → e.Justified data :=
  ⟨exists_build_iff_buildable, fun _ => justified_of_build_eq_error⟩

end Registry

end UnicodeClasses
