import UnicodeClasses.Proofs.ParallelRegistry
import UnicodeClasses.Proofs.RegistryContents

/-!
# Names in parallel arrays

An entry that is registered in arrays gets the number and the names that a table gives it, or is
refused with the same error. The array is never read outside of its bounds, since each number in the
index of a table has an entry.
-/
namespace UnicodeClasses

/-- A computation with faults has the outcome of one without: the same error, or related results. -/
def Follows {α β : Type} (R : α → β → Prop) (x : Except BuildFault α) (y : Except BuildError β) :
    Prop :=
  match y with
  | .error e => x = .error (.refused e)
  | .ok b => ∃ a, x = .ok a ∧ R a b

namespace Follows

variable {α β γ δ X : Type} {R : α → β → Prop} {S : γ → δ → Prop} {x : Except BuildFault α}
  {y : Except BuildError β}

theorem ok {a : α} {b : β} (h : R a b) : Follows R (.ok a) (.ok b) := ⟨a, rfl, h⟩

theorem error (e : BuildError) : Follows R (.error (.refused e)) (.error e) := rfl

theorem bind {f : α → Except BuildFault γ} {g : β → Except BuildError δ} (h : Follows R x y)
    (hf : ∀ a b, y = .ok b → R a b → Follows S (f a) (g b)) : Follows S (x >>= f) (y >>= g) := by
  cases y with
  | error e =>
    obtain rfl : x = .error (.refused e) := h
    rfl
  | ok b =>
    obtain ⟨a, rfl, hab⟩ := h
    exact hf a b rfl hab

/-- Two folds over one list go step by step, with what the second has done so far. -/
theorem foldlM {f : α → X → Except BuildFault α} {g : β → X → Except BuildError β} {xs : List X}
    (hstep : ∀ a b x, x ∈ xs → R a b → Follows R (f a x) (g b x)) {a : α} {b : β} (h : R a b) :
    Follows R (xs.foldlM f a) (xs.foldlM g b) := by
  induction xs generalizing a b with
  | nil => exact ok h
  | cons x xs ih =>
    rw [List.foldlM_cons, List.foldlM_cons]
    refine (hstep a b x (List.mem_cons_self ..) h).bind fun a' b' _ h' => ?_
    exact ih (fun a b x hx => hstep a b x (List.mem_cons_of_mem _ hx)) h'

/-- A last step that cannot fail only changes what the first computation gives. -/
theorem result {f : α → γ} {S : γ → β → Prop} (h : Follows R x y)
    (hf : ∀ a b, y = .ok b → R a b → S (f a) b) : Follows S (x >>= fun a => .ok (f a)) y := by
  rw [← bind_pure y]
  exact h.bind fun a b hb hab => ok (hf a b hb hab)

/-- A last step of the second computation alone that cannot fail. -/
theorem map {f : β → δ} {S : α → δ → Prop} (h : Follows R x y)
    (hf : ∀ a b, y = .ok b → R a b → S a (f b)) : Follows S x (y.map f) := by
  cases y with
  | error e => exact h
  | ok b =>
    obtain ⟨a, rfl, hab⟩ := h
    exact ok (hf a b rfl hab)

end Follows

/-- Texts stand for the same numbers. -/
def Reads (words : WordIndex) (index : NameIndex) : Prop :=
  ∀ text : String, index[text]? = words[text]?.map UInt16.toNat

theorem reads_empty : Reads ∅ ∅ := fun text => by simp

theorem Reads.insert {words : WordIndex} {index : NameIndex} (h : Reads words index)
    (name : String) (id : UInt16) : Reads (words.insert name id) (index.insert name id.toNat) := by
  intro text
  rw [Std.HashMap.getElem?_insert, Std.HashMap.getElem?_insert, h text]
  split <;> rfl

/-- The same texts stand for numbers, so that there are as many. -/
theorem Reads.size_eq {words : WordIndex} {index : NameIndex} (h : Reads words index) :
    words.size = index.size := by
  have hkeys : words.keys.Perm index.keys := by
    rw [List.perm_ext_iff_of_nodup Std.HashMap.nodup_keys Std.HashMap.nodup_keys]
    intro text
    rw [Std.HashMap.mem_keys, Std.HashMap.mem_keys, Std.HashMap.mem_iff_isSome_getElem?,
      Std.HashMap.mem_iff_isSome_getElem?, h text, Option.isSome_map]
  rw [← Std.HashMap.length_keys, hkeys.length_eq, Std.HashMap.length_keys]

theorem readAt_eq_ok {α : Type} {xs : Array α} {i : Nat} {x : α} (h : xs[i]? = some x) :
    readAt xs i = .ok x := by
  simp [readAt, h]

theorem numberFor_of_lt {size : Nat} (h : size < maxEntries) :
    numberFor size = .ok (.ofNat size) := if_pos h

theorem numberFor_of_le {size : Nat} (h : maxEntries ≤ size) :
    numberFor size = .error (.refused .tooManyEntries) := if_neg (Nat.not_lt.mpr h)

theorem toNat_ofNat_of_lt {size : Nat} (h : size < maxEntries) :
    (UInt16.ofNat size).toNat = size := UInt16.toNat_ofNat_of_lt' h

/-- Names are assigned alike when every number in use has a holder. -/
theorem follows_assignWords (id : UInt16) {holders : Array String} {existing : Nat → String}
    (clash : String → String → BuildError) {words : WordIndex} {index : NameIndex}
    (names : List String) (hreads : Reads words index)
    (hholders : ∀ (text : String) (i : Nat), index[text]? = some i →
      i = id.toNat ∨ holders[i]? = some (existing i)) :
    Follows Reads (assignWords id holders clash words names)
      ((NameTable.assignNames id.toNat index names).mapError fun taken =>
        clash taken.1 (existing taken.2)) := by
  induction names generalizing words index with
  | nil => exact .ok hreads
  | cons name names ih =>
    have hname := hreads name
    unfold assignWords NameTable.assignNames
    cases hword : words[name]? with
    | none =>
      rw [hword] at hname
      simp only [hname, Option.map_none]
      refine ih (hreads.insert name id) fun text i hi => ?_
      rw [Std.HashMap.getElem?_insert] at hi
      split at hi
      · exact .inl (Option.some.inj hi).symm
      · exact hholders text i hi
    | some owner =>
      rw [hword] at hname
      simp only [hname, Option.map_some]
      by_cases howner : owner = id
      · subst howner
        simp only [if_true]
        exact ih hreads hholders
      · have hne : owner.toNat ≠ id.toNat := fun h => howner (UInt16.toNat_inj.mp h)
        have hholder := (hholders name owner.toNat hname).resolve_left hne
        simp only [if_neg howner, if_neg hne, readAt_eq_ok hholder]
        exact .error _

namespace NameTable

variable {α ε : Type}

/-- Every number in use has an entry. -/
def Bounded (table : NameTable α) : Prop :=
  ∀ (text : String) (i : Nat), table.index[text]? = some i → i < table.size

theorem Lists.bounded {X : Type} {name : X → String} {aliases : X → List String}
    {load : X → Except ε α} {table : NameTable α} {xs : List X}
    (h : Lists name aliases load table xs) : table.Bounded := by
  intro text i hi
  obtain ⟨x, hx, -⟩ := (h.find text i).mp hi
  rw [h.size_eq]
  exact (List.getElem?_eq_some_iff.mp hx).1

/-- An entry is added once its names are assigned and its data is there. -/
theorem addWith_eq_bind (refuse : Clash → ε) (name : String) (aliases : List String)
    (load : Except ε α) (table : NameTable α) : table.addWith refuse name aliases load =
      ((assign table.entries table.index name aliases).mapError refuse >>= fun index =>
        load >>= fun data => .ok ⟨table.entries.push (name, data), index⟩) := by
  obtain ⟨entries, index⟩ := table
  simp only [addWith]
  cases assign entries index name aliases with
  | error clash => rfl
  | ok index => cases load <;> rfl

/-- Once its names are assigned and its data is there, an entry is listed after the others. -/
theorem Lists.push {X : Type} {name : X → String} {aliases : X → List String}
    {load : X → Except ε α} {table : NameTable α} {xs : List X} {x : X} {refuse : Clash → ε}
    {index : NameIndex} {data : α} (h : Lists name aliases load table xs)
    (hassign : (assign table.entries table.index (name x) (aliases x)).mapError refuse = .ok index)
    (hload : load x = .ok data) :
    Lists name aliases load ⟨table.entries.push (name x, data), index⟩ (xs ++ [x]) := by
  have hadd : table.addWith refuse (name x) (aliases x) (load x) =
      .ok ⟨table.entries.push (name x, data), index⟩ := by
    rw [addWith_eq_bind, hassign, hload]
    rfl
  exact @Lists.addWith α X ε (fun _ => refuse) name aliases load table _ xs x h hadd

/-- The canonical name of the holder of a number. -/
def holderName (table : NameTable α) (i : Nat) : String := (table.name? i).getD ""

theorem mapError_assign {table : NameTable α} (hroom : table.size < maxEntries)
    {refuse : Clash → ε} {clash : String → String → ε}
    (htaken : ∀ text existing, refuse (.taken text existing) = clash text existing)
    (name : String) (aliases : List String) :
    (assign table.entries table.index name aliases).mapError refuse =
      (assignNames table.size table.index (name :: aliases)).mapError fun taken =>
        clash taken.1 (table.holderName taken.2) := by
  have hassign : table.entries.size < maxEntries := hroom
  rw [assign, if_neg (Nat.not_le.mpr hassign)]
  cases hnames : assignNames table.size table.index (name :: aliases) with
  | error taken =>
    rw [show assignNames table.entries.size _ _ = _ from hnames]
    exact congrArg Except.error (htaken taken.1 (table.holderName taken.2))
  | ok index =>
    rw [show assignNames table.entries.size _ _ = _ from hnames]
    rfl

/-- The list and the index hold the names of a table. -/
structure Holds (listed : Array String) (words : WordIndex) (table : NameTable α) : Prop where
  listed_eq : listed = table.entries.map (·.1)
  reads : Reads words table.index

theorem holds_empty : Holds #[] ∅ ({} : NameTable α) := ⟨by simp, reads_empty⟩

/-- A new entry is numbered and named alike in both stores. -/
theorem Holds.register {table : NameTable α} {listed : Array String} {words : WordIndex}
    (h : Holds listed words table) (hbounded : table.Bounded)
    (refuse : Clash → BuildError) (clash : String → String → BuildError)
    (hfull : refuse .full = .tooManyEntries)
    (htaken : ∀ text existing, refuse (.taken text existing) = clash text existing)
    (name : String) (aliases : List String) :
    Follows (fun number index => number.1.toNat = table.size ∧
        ∀ data, Holds (listed.push name) number.2 ⟨table.entries.push (name, data), index⟩)
      (UnicodeClasses.register clash words listed name aliases)
      ((assign table.entries table.index name aliases).mapError refuse) := by
  obtain ⟨rfl, hreads⟩ := h
  unfold UnicodeClasses.register
  rw [Array.size_map]
  by_cases hroom : table.size < maxEntries
  · have hnumber : (UInt16.ofNat table.size).toNat = table.size := toNat_ofNat_of_lt hroom
    have hholders : ∀ (text : String) (i : Nat), table.index[text]? = some i →
        i = (UInt16.ofNat table.size).toNat ∨
          ((table.entries.map (·.1)).push name)[i]? = some (table.holderName i) := by
      intro text i hi
      have hlt : i < table.entries.size := hbounded text i hi
      rw [Array.getElem?_push_lt (by simpa using hlt)]
      simp [holderName, name?, hlt]
    have hassign := follows_assignWords (.ofNat table.size) clash (name :: aliases) hreads hholders
    rw [hnumber, ← mapError_assign hroom htaken] at hassign
    rw [show numberFor table.entries.size = _ from numberFor_of_lt hroom]
    exact hassign.result fun _ _ _ h => ⟨hnumber, fun _ => ⟨by simp, h⟩⟩
  · have hsize : maxEntries ≤ table.entries.size := Nat.not_lt.mp hroom
    rw [numberFor_of_le hsize, assign, if_pos hsize]
    show Follows _ _ (.error (refuse .full))
    rw [hfull]
    exact .error _

/-- Replacing the data keeps the names. -/
theorem Holds.mapM {β X : Type} {table : NameTable α} {listed : Array String} {words : WordIndex}
    {name : X → String} {aliases : X → List String} {load : X → Except ε α} {xs : List X}
    {f : α → Except ε β} {mapped : NameTable β} (h : Holds listed words table)
    (hlists : Lists name aliases load table xs) (hmap : table.mapM f = .ok mapped) :
    Holds listed words mapped := by
  have hmapped := hlists.mapM hmap
  obtain ⟨entries, -, rfl⟩ := map_eq_ok_iff.mp hmap
  refine ⟨?_, h.reads⟩
  rw [h.listed_eq]
  apply Array.ext'
  rw [Array.toList_map, Array.toList_map, hlists.map_entries fun _ _ _ => rfl]
  exact (hmapped.map_entries fun _ _ _ => rfl).symm

end NameTable

end UnicodeClasses
