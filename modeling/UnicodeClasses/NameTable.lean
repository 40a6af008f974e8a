import Std.Data.HashMap

/-!
# Tables with named entries

Entries are numbered in the order in which they are added. Each has a canonical name and further
aliases; a text names at most one entry, and lookup is exact.
-/
namespace UnicodeClasses

/-- The number of entries that a table can hold. -/
def maxEntries : Nat := 65536

abbrev NameIndex := Std.HashMap String Nat

/-- Why an entry cannot be added. -/
inductive Clash
  | full
  | taken (name existing : String)
  deriving DecidableEq, Repr

structure NameTable (α : Type) where
  entries : Array (String × α) := #[]
  index : NameIndex := ∅

namespace NameTable

variable {α β : Type}

/-- Lets each name stand for `id`; stops at the first that stands for another entry. -/
def assignNames (id : Nat) (index : NameIndex) : List String → Except (String × Nat) NameIndex
  | [] => .ok index
  | name :: names =>
    match index[name]? with
    | none => assignNames id (index.insert name id) names
    | some owner =>
      if owner = id then assignNames id index names else .error (name, owner)

/-- After an assignment each assigned name stands for `id`, and every other text for what it did. -/
theorem getElem?_assignNames {id : Nat} {index index' : NameIndex} {names : List String}
    (h : assignNames id index names = .ok index') (text : String) :
    index'[text]? = if text ∈ names then some id else index[text]? := by
  induction names generalizing index with
  | nil =>
    obtain rfl := Except.ok.inj h
    simp
  | cons name names ih =>
    unfold assignNames at h
    split at h
    · rw [ih h, Std.HashMap.getElem?_insert]
      grind
    · split at h
      · rw [ih h]
        grind
      · exact nomatch h

/-- An assignment succeeds when no name stands for another entry. -/
theorem assignNames_isOk_iff {id : Nat} {index : NameIndex} {names : List String} :
    (∃ index', assignNames id index names = .ok index') ↔
      ∀ name ∈ names, ∀ owner, index[name]? = some owner → owner = id := by
  induction names generalizing index with
  | nil => simp [assignNames]
  | cons name names ih =>
    unfold assignNames
    split
    · rw [ih]
      grind
    · split
      · rw [ih]
        grind
      · grind

/-- The index after an entry with these names is added, while the entry's data is pending. -/
def assign (entries : Array (String × α)) (index : NameIndex) (name : String)
    (aliases : List String) : Except Clash NameIndex :=
  if maxEntries ≤ entries.size then .error .full
  else
    match assignNames entries.size index (name :: aliases) with
    | .ok index => .ok index
    | .error (taken, owner) => .error (.taken taken ((entries[owner]?.map (·.1)).getD ""))

/-- Adds an entry whose data `load` gives once its names are free. -/
def addWith {ε : Type} (refuse : Clash → ε) (name : String) (aliases : List String)
    (load : Except ε α) : NameTable α → Except ε (NameTable α)
  | ⟨entries, index⟩ =>
    match assign entries index name aliases with
    | .error clash => .error (refuse clash)
    | .ok index =>
      match load with
      | .error e => .error e
      | .ok data => .ok ⟨entries.push (name, data), index⟩

def find? (table : NameTable α) (text : String) : Option Nat := table.index[text]?

def get? (table : NameTable α) (id : Nat) : Option α := table.entries[id]?.map (·.2)

def name? (table : NameTable α) (id : Nat) : Option String := table.entries[id]?.map (·.1)

def size (table : NameTable α) : Nat := table.entries.size

/-- The number of distinct names. -/
def nameCount (table : NameTable α) : Nat := table.index.size

/-- Replaces the data of every entry, in order, and keeps the names. -/
def mapM {ε : Type} (f : α → Except ε β) (table : NameTable α) : Except ε (NameTable β) :=
  (table.entries.mapM fun entry => (f entry.2).map (entry.1, ·)).map (⟨·, table.index⟩)

end NameTable

end UnicodeClasses
