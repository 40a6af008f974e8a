import Mathlib.Data.List.Induction
import UnicodeClasses.ExceptLemmas
import UnicodeClasses.NameTable

/-!
# Tables filled from lists

A table that is filled from a list numbers the entries in the order of the list, and a text stands
for the one entry that lists it. Names and data are stored apart, under the same numbers.
-/
namespace UnicodeClasses

theorem getElem?_concat_eq_some {X : Type} {xs : List X} {x y : X} {i : Nat} :
    (xs ++ [x])[i]? = some y ↔ xs[i]? = some y ∨ i = xs.length ∧ x = y := by
  rw [List.getElem?_append]
  split
  · rename_i hi
    simp [Nat.ne_of_lt hi]
  · rename_i hi
    rw [List.getElem?_eq_none (Nat.le_of_not_lt hi), List.getElem?_singleton]
    have : i - xs.length = 0 ↔ i = xs.length := by omega
    simp [this]

namespace NameTable

section filling

variable {α X ε : Type} (refuse : X → Clash → ε) (name : X → String) (aliases : X → List String)
  (load : X → Except ε α)

/-- Adds the entries of a list, one after another. -/
def fill (xs : List X) (table : NameTable α) : Except ε (NameTable α) :=
  xs.foldlM (fun table x => table.addWith (refuse x) (name x) (aliases x) (load x)) table

/-- The table holds the entries of a list, in the order of the list, each with its data and under
its names; no other text is known. -/
structure Lists (table : NameTable α) (xs : List X) : Prop where
  size_eq : table.size = xs.length
  entry : ∀ (i : Nat) (x : X), xs[i]? = some x →
    ∃ data, load x = .ok data ∧ table.entries[i]? = some (name x, data)
  find : ∀ (text : String) (i : Nat),
    table.find? text = some i ↔ ∃ x, xs[i]? = some x ∧ text ∈ name x :: aliases x

variable {refuse name aliases load} {table table' : NameTable α} {xs : List X} {x : X}

/-- An entry is added at the end, once there is room, its names are free and its data is there. -/
theorem addWith_eq_ok_iff : table.addWith (refuse x) (name x) (aliases x) (load x) = .ok table' ↔
    table.size < maxEntries ∧ ∃ index data,
      assignNames table.size table.index (name x :: aliases x) = .ok index ∧
      load x = .ok data ∧ table' = ⟨table.entries.push (name x, data), index⟩ := by
  obtain ⟨entries, index⟩ := table
  simp only [addWith, assign, size]
  by_cases hroom : maxEntries ≤ entries.size
  · simp [hroom, Nat.not_lt.mpr hroom]
  · simp only [hroom, if_false, Nat.lt_of_not_le hroom, true_and]
    cases assignNames entries.size index (name x :: aliases x) with
    | error e => simp
    | ok index' =>
      cases load x with
      | error e => simp
      | ok data => simp [eq_comm]

theorem lists_nil : Lists name aliases load ({} : NameTable α) [] where
  size_eq := rfl
  entry := fun _ _ h => nomatch h
  find := fun text i => by simp [find?]

/-- A name that is assigned to the new entry stands for no other. -/
theorem Lists.free (h : Lists name aliases load table xs) {names : List String} {index : NameIndex}
    (hassign : assignNames table.size table.index names = .ok index) {text : String}
    (htext : text ∈ names) : table.find? text = none := by
  cases hfind : table.find? text with
  | none => rfl
  | some i =>
    have hi : i = table.size := assignNames_isOk_iff.mp ⟨index, hassign⟩ text htext i hfind
    obtain ⟨x, hx, -⟩ := (h.find text i).mp hfind
    rw [hi, h.size_eq, List.getElem?_eq_none (Nat.le_refl _)] at hx
    exact nomatch hx

theorem Lists.addWith (h : Lists name aliases load table xs)
    (hadd : table.addWith (refuse x) (name x) (aliases x) (load x) = .ok table') :
    Lists name aliases load table' (xs ++ [x]) := by
  obtain ⟨-, index, data, hassign, hload, rfl⟩ := addWith_eq_ok_iff.mp hadd
  have hsize : table.entries.size = xs.length := h.size_eq
  refine ⟨by simp [size, hsize], fun i y hy => ?_, fun text i => ?_⟩
  · rcases getElem?_concat_eq_some.mp hy with hy | ⟨rfl, rfl⟩
    · obtain ⟨data', hdata, hentry⟩ := h.entry i y hy
      have hi : i < table.entries.size := (Array.getElem?_eq_some_iff.mp hentry).1
      exact ⟨data', hdata, by rw [Array.getElem?_push, if_neg (Nat.ne_of_lt hi), hentry]⟩
    · exact ⟨data, hload, by simp [← hsize]⟩
  · have hfind : index[text]? = if text ∈ name x :: aliases x then some table.size
        else table.find? text := getElem?_assignNames hassign text
    rw [find?, hfind, h.size_eq]
    simp only [getElem?_concat_eq_some]
    split
    · rename_i htext
      have hnone := h.free hassign htext
      constructor
      · rintro ⟨⟩
        exact ⟨x, .inr ⟨rfl, rfl⟩, htext⟩
      · rintro ⟨y, hy | ⟨rfl, -⟩, hname⟩
        · have := (h.find text i).mpr ⟨y, hy, hname⟩
          rw [hnone] at this
          exact nomatch this
        · rfl
    · rename_i htext
      rw [h.find]
      constructor
      · rintro ⟨y, hy, hname⟩
        exact ⟨y, .inl hy, hname⟩
      · rintro ⟨y, hy | ⟨-, rfl⟩, hname⟩
        · exact ⟨y, hy, hname⟩
        · exact absurd hname htext

theorem fill_concat (xs : List X) (x : X) (table : NameTable α) :
    fill refuse name aliases load (xs ++ [x]) table =
      fill refuse name aliases load xs table >>= fun table =>
        table.addWith (refuse x) (name x) (aliases x) (load x) := by
  rw [fill, List.foldlM_append]
  simp only [List.foldlM_cons, List.foldlM_nil, bind_pure]
  rfl

/-- A table that has been filled lists the entries. -/
theorem lists_of_fill (h : fill refuse name aliases load xs {} = .ok table) :
    Lists name aliases load table xs := by
  induction xs using List.reverseRecOn generalizing table with
  | nil =>
    obtain rfl := Except.ok.inj h
    exact lists_nil
  | append_singleton xs x ih =>
    rw [fill_concat] at h
    obtain ⟨table₀, hfill, hadd⟩ := bind_eq_ok_iff.mp h
    exact (ih hfill).addWith hadd

/-- All the names of an entry stand for the number under which its data is kept. -/
theorem Lists.exists_number (h : Lists name aliases load table xs) (hx : x ∈ xs) :
    ∃ i data, load x = .ok data ∧ table.get? i = some data ∧ table.name? i = some (name x) ∧
      ∀ text ∈ name x :: aliases x, table.find? text = some i := by
  obtain ⟨i, hi⟩ := List.mem_iff_getElem?.mp hx
  obtain ⟨data, hload, hentry⟩ := h.entry i x hi
  refine ⟨i, data, hload, by simp [get?, hentry], by simp [name?, hentry], fun text htext => ?_⟩
  exact (h.find text i).mpr ⟨x, hi, htext⟩

/-- Each entry of the table is that of the list at the same place. -/
theorem Lists.exists_of_entry (h : Lists name aliases load table xs) {i : Nat}
    {entry : String × α} (hentry : table.entries[i]? = some entry) :
    ∃ x, xs[i]? = some x ∧ name x = entry.1 ∧ load x = .ok entry.2 := by
  have hlt : i < xs.length := h.size_eq ▸ (Array.getElem?_eq_some_iff.mp hentry).1
  have hx : xs[i]? = some xs[i] := List.getElem?_eq_getElem hlt
  obtain ⟨data, hload, hget⟩ := h.entry i xs[i] hx
  obtain rfl := Option.some.inj (hget.symm.trans hentry)
  exact ⟨xs[i], hx, rfl, hload⟩

/-- No two entries have the same canonical name. -/
theorem Lists.eq_of_entry (h : Lists name aliases load table xs) {i j : Nat} {text : String}
    {data data' : α} (hi : table.entries[i]? = some (text, data))
    (hj : table.entries[j]? = some (text, data')) : i = j := by
  obtain ⟨x, hx, rfl, -⟩ := h.exists_of_entry hi
  obtain ⟨y, hy, hname, -⟩ := h.exists_of_entry hj
  have hfind := (h.find (name x) i).mpr ⟨x, hx, List.mem_cons_self ..⟩
  have hfind' := (h.find (name x) j).mpr ⟨y, hy, hname ▸ List.mem_cons_self ..⟩
  exact Option.some.inj (hfind.symm.trans hfind')

/-- What the entries of the table are mapped to, those of the list are. -/
theorem Lists.map_entries {γ : Type} (h : Lists name aliases load table xs)
    {f : String × α → γ} {g : X → γ} (hfg : ∀ x data, load x = .ok data → f (name x, data) = g x) :
    table.entries.toList.map f = xs.map g := by
  apply List.ext_getElem?
  intro i
  rw [List.getElem?_map, List.getElem?_map, Array.getElem?_toList]
  cases hx : xs[i]? with
  | none =>
    have hlength : xs.length ≤ i := List.getElem?_eq_none_iff.mp hx
    rw [Array.getElem?_eq_none (show table.size ≤ i from h.size_eq ▸ hlength)]
    rfl
  | some x =>
    obtain ⟨data, hload, hget⟩ := h.entry i x hx
    rw [hget, Option.map_some, Option.map_some, hfg x data hload]

/-- The data that a text leads to is that of the entry which it names. -/
theorem Lists.get?_find?_iff (h : Lists name aliases load table xs) {text : String} {data : α} :
    (table.find? text).bind table.get? = some data ↔
      ∃ x ∈ xs, text ∈ name x :: aliases x ∧ load x = .ok data := by
  rw [Option.bind_eq_some_iff]
  constructor
  · rintro ⟨i, hfind, hget⟩
    obtain ⟨x, hi, htext⟩ := (h.find text i).mp hfind
    obtain ⟨data', hload, hentry⟩ := h.entry i x hi
    obtain rfl : data' = data := by simpa [get?, hentry] using hget
    exact ⟨x, List.mem_of_getElem? hi, htext, hload⟩
  · rintro ⟨x, hx, htext, hload⟩
    obtain ⟨i, data', hload', hget, -, hfind⟩ := h.exists_number hx
    obtain rfl := Except.ok.inj (hload.symm.trans hload')
    exact ⟨i, hfind text htext, hget⟩

/-- One more entry is refused only for want of room, for a name that is taken, or for its data. -/
theorem Lists.exists_addWith_iff (h : Lists name aliases load table xs) :
    (∃ table', table.addWith (refuse x) (name x) (aliases x) (load x) = .ok table') ↔
      xs.length < maxEntries ∧
      (∀ y ∈ xs, ∀ text ∈ name y :: aliases y, text ∉ name x :: aliases x) ∧
      ∃ data, load x = .ok data := by
  have hfree : (∃ index, assignNames table.size table.index (name x :: aliases x) = .ok index) ↔
      ∀ y ∈ xs, ∀ text ∈ name y :: aliases y, text ∉ name x :: aliases x := by
    constructor
    · rintro ⟨index, hassign⟩ y hy text hold hnew
      obtain ⟨i, hi⟩ := List.mem_iff_getElem?.mp hy
      have htaken := (h.find text i).mpr ⟨y, hi, hold⟩
      rw [h.free hassign hnew] at htaken
      exact nomatch htaken
    · intro hdisjoint
      refine assignNames_isOk_iff.mpr fun text hnew owner howner => ?_
      obtain ⟨y, hy, hold⟩ := (h.find text owner).mp howner
      exact absurd hnew (hdisjoint y (List.mem_of_getElem? hy) text hold)
  rw [← hfree, ← h.size_eq]
  constructor
  · rintro ⟨table', hadd⟩
    obtain ⟨hroom, index, data, hassign, hload, -⟩ := addWith_eq_ok_iff.mp hadd
    exact ⟨hroom, ⟨index, hassign⟩, data, hload⟩
  · rintro ⟨hroom, ⟨index, hassign⟩, data, hload⟩
    exact ⟨_, addWith_eq_ok_iff.mpr ⟨hroom, index, data, hassign, hload, rfl⟩⟩

/-- A table can be filled exactly if it has room for all entries, no two entries share a name and
the data of each is there. -/
theorem exists_fill_iff : (∃ table, fill refuse name aliases load xs {} = .ok table) ↔
    xs.length ≤ maxEntries ∧
    xs.Pairwise (fun x y => ∀ text ∈ name x :: aliases x, text ∉ name y :: aliases y) ∧
    ∀ x ∈ xs, ∃ data, load x = .ok data := by
  -- the table grows at its end, so the induction takes the last entry off the list
  induction xs using List.reverseRecOn with
  | nil => exact iff_of_true ⟨{}, rfl⟩ ⟨Nat.zero_le _, .nil, fun _ h => nomatch h⟩
  | append_singleton xs x ih =>
    have hstep : (∃ table, fill refuse name aliases load (xs ++ [x]) {} = .ok table) ↔
        (∃ table, fill refuse name aliases load xs {} = .ok table) ∧
        xs.length < maxEntries ∧
        (∀ y ∈ xs, ∀ text ∈ name y :: aliases y, text ∉ name x :: aliases x) ∧
        ∃ data, load x = .ok data := by
      simp only [fill_concat, bind_eq_ok_iff]
      constructor
      · rintro ⟨table', table, hfill, hadd⟩
        exact ⟨⟨table, hfill⟩, (lists_of_fill hfill).exists_addWith_iff.mp ⟨table', hadd⟩⟩
      · rintro ⟨⟨table, hfill⟩, hnew⟩
        obtain ⟨table', hadd⟩ := (lists_of_fill hfill).exists_addWith_iff.mpr hnew
        exact ⟨table', table, hfill, hadd⟩
    rw [hstep, ih, List.length_append, List.length_singleton, List.pairwise_append]
    simp only [List.mem_append, List.mem_singleton, or_imp, forall_and, forall_eq,
      List.pairwise_singleton, true_and]
    constructor
    · rintro ⟨⟨-, hpairs, hloads⟩, hroom, hnew, hload⟩
      exact ⟨hroom, ⟨hpairs, hnew⟩, hloads, hload⟩
    · rintro ⟨hroom, ⟨hpairs, hnew⟩, hloads, hload⟩
      exact ⟨⟨Nat.le_of_lt hroom, hpairs, hloads⟩, hroom, hnew, hload⟩

variable {β : Type} {f : α → Except ε β}

theorem Lists.mapM {mapped : NameTable β} (h : Lists name aliases load table xs)
    (hmap : table.mapM f = .ok mapped) :
    Lists name aliases (fun x => load x >>= f) mapped xs := by
  obtain ⟨entries, hentries, rfl⟩ := map_eq_ok_iff.mp hmap
  have hlist : table.entries.toList.mapM (fun entry => (f entry.2).map (entry.1, ·)) =
      .ok entries.toList := by
    rw [← Array.toList_mapM, hentries]
    rfl
  obtain ⟨hlength, hget⟩ := of_mapM_eq_ok hlist
  refine ⟨hlength.trans h.size_eq, fun i x hx => ?_, h.find⟩
  obtain ⟨data, hdata, hentry⟩ := h.entry i x hx
  obtain ⟨entry, hnew, hentry'⟩ := hget i (name x, data) (by simpa using hentry)
  obtain ⟨data', hdata', rfl⟩ := map_eq_ok_iff.mp hnew
  exact ⟨data', bind_eq_ok_iff.mpr ⟨data, hdata, hdata'⟩, by simpa using hentry'⟩

/-- Data can be replaced exactly if it can be in every entry of the list. -/
theorem Lists.exists_mapM_iff (h : Lists name aliases load table xs) :
    (∃ mapped, table.mapM f = .ok mapped) ↔ ∀ x ∈ xs, ∃ data, load x >>= f = .ok data := by
  constructor
  · rintro ⟨mapped, hmap⟩ x hx
    obtain ⟨i, hi⟩ := List.mem_iff_getElem?.mp hx
    obtain ⟨data, hdata, -⟩ := (h.mapM hmap).entry i x hi
    exact ⟨data, hdata⟩
  · intro hload
    have hentries : ∀ entry ∈ table.entries.toList,
        ∃ new, (f entry.2).map (entry.1, ·) = .ok new := by
      intro entry hentry
      obtain ⟨i, hi⟩ := List.mem_iff_getElem?.mp hentry
      rw [Array.getElem?_toList] at hi
      obtain ⟨x, hx, -, hdata⟩ := h.exists_of_entry hi
      obtain ⟨data', hnew⟩ := hload x (List.mem_of_getElem? hx)
      obtain ⟨_, hdata', hnew⟩ := bind_eq_ok_iff.mp hnew
      obtain rfl := Except.ok.inj (hdata.symm.trans hdata')
      exact ⟨(entry.1, data'), map_eq_ok_iff.mpr ⟨data', hnew, rfl⟩⟩
    obtain ⟨entries, hmapped⟩ := exists_mapM_eq_ok hentries
    refine ⟨⟨entries.toArray, table.index⟩, map_eq_ok_iff.mpr ⟨entries.toArray, ?_, rfl⟩⟩
    rw [Array.mapM_eq_mapM_toList, hmapped]
    rfl

end filling

end NameTable
end UnicodeClasses
