import UnicodeClasses.Proofs.ExactLookup

/-!
# The sets of grouped values

The set of a value is that of one table, which holds the pairs of the value itself and then those of
every value that a component names. Where the build unites sets one after another, nothing but this
table counts.
-/
namespace UnicodeClasses

namespace EnumeratedEntry

/-- The pairs of a value, and behind them those of the values that its components name. -/
def pooledTable (entry : EnumeratedEntry) (value : ValueEntry) : CodeTable :=
  value.table ++ value.composedOf.flatMap fun component =>
    (entry.values.filter (component ∈ ·.names)).flatMap ValueEntry.table

variable {entry : EnumeratedEntry} {value : ValueEntry}

theorem mem_pooledTable {pair : Nat × Nat} : pair ∈ entry.pooledTable value ↔
    pair ∈ value.table ∨ ∃ component ∈ value.composedOf, ∃ member ∈ entry.values,
      component ∈ member.names ∧ pair ∈ member.table := by
  simp [pooledTable, and_assoc]

theorem covers_pooledTable {c : Nat} :
    (entry.pooledTable value).Covers c ↔ entry.Covers value c := by
  simp only [CodeTable.Covers, Covers, mem_pooledTable]
  constructor
  · rintro ⟨pair, hown | ⟨component, hcomponent, member, hmember, hname, hpair⟩, hc⟩
    · exact .inl ⟨pair, hown, hc⟩
    · exact .inr ⟨component, hcomponent, member, hmember, hname, pair, hpair, hc⟩
  · rintro (⟨pair, hown, hc⟩ | ⟨component, hcomponent, member, hmember, hname, pair, hpair, hc⟩)
    · exact ⟨pair, .inl hown, hc⟩
    · exact ⟨pair, .inr ⟨component, hcomponent, member, hmember, hname, hpair⟩, hc⟩

/-- A set with the members of a value is that of the pooled table. -/
theorem eq_pooled_of_mem_iff {set : RangeSet}
    (h : ∀ c, c ∈ set ↔ c ≤ maxCodePoint ∧ entry.Covers value c) :
    set = .ofTable (entry.pooledTable value) := by
  apply RangeSet.ext
  intro c
  rw [h c, RangeSet.mem_ofTable, and_comm, ← covers_pooledTable]
  rfl

end EnumeratedEntry

namespace Registry

variable {data : PropertyData} {registry : Registry}

end Registry
end UnicodeClasses
