import UnicodeClasses.ClassBuilder
import UnicodeClasses.ExceptLemmas

/-!
# The grammar of class members

`reading` gives the meaning of a sequence of members by looking ahead: a literal that a dash and
a further literal follow begins a range. The builder sees one member at a time, and refuses and
collects exactly what the grammar does.
-/
namespace UnicodeClasses

namespace RangeSet

theorem union_ofRanges_nil (s : RangeSet) : s ∪ ofRanges [] = s := by
  apply ext
  simp [mem_ofRanges]

theorem empty_union (s : RangeSet) : ∅ ∪ s = s := by
  apply ext
  simp

theorem unionWith_union_ofRanges (s t : RangeSet) (rs : List CodeRange) :
    s.unionWith t ∪ ofRanges rs = s ∪ ofRanges (t.ranges.toList ++ rs) := by
  apply ext
  intro c
  have hmax : c ∈ t → c ≤ maxCodePoint := le_max_of_mem
  simp only [mem_union, mem_unionWith, mem_ofRanges, covered_append, ← mem_def]
  grind

theorem insert_union_ofRanges (s : RangeSet) (a : Nat) (rs : List CodeRange) :
    s.insert a ∪ ofRanges rs = s ∪ ofRanges (.single a :: rs) := by
  apply ext
  intro c
  simp only [mem_union, mem_insert, mem_ofRanges, covered_cons, CodeRange.mem_single]
  grind

theorem insertBetween_union_ofRanges (s : RangeSet) {a b : Nat} (h : a ≤ b)
    (rs : List CodeRange) :
    s.insertBetween a b ∪ ofRanges rs = s ∪ ofRanges (⟨a, b, h⟩ :: rs) := by
  apply ext
  intro c
  simp only [mem_union, mem_insertBetween, mem_ofRanges, covered_cons, CodeRange.mem_iff,
    Nat.min_eq_left h, Nat.max_eq_right h]
  grind

end RangeSet

namespace ClassMember

/-- The code point of a literal. A dash that is no operator stands for itself. -/
def code : ClassMember → Nat
  | char code => code
  | dash | set _ => 0x2D

/-- The ranges that a sequence of members stands for, not yet cut off at the end of the domain. -/
def reading : List ClassMember → Except CompileError (List CodeRange)
  | [] => .ok []
  | .set _ :: .dash :: _ => .error (.ofCause .setAtRangeStart)
  | .set members :: rest => (members.ranges.toList ++ ·) <$> reading rest
  | _ :: .dash :: .set _ :: _ => .error (.ofCause .setAtRangeEnd)
  | x :: .dash :: y :: rest =>
    if h : x.code ≤ y.code then (⟨x.code, y.code, h⟩ :: ·) <$> reading rest
    else .error (.ofCause .emptyRange)
  | [x, .dash] => .ok [.single x.code, .single 0x2D]
  | x :: rest => (.single x.code :: ·) <$> reading rest

/-- A dash that begins a sequence is a literal. -/
theorem reading_dash (rest : List ClassMember) :
    reading (.dash :: rest) = reading (.char 0x2D :: rest) := by
  rcases rest with _ | ⟨_ | _ | _, _ | ⟨_ | _ | _, rest⟩⟩ <;> simp [reading, code]
  rfl

/-- A literal stands alone if no dash follows it. -/
theorem reading_char_cons (code : Nat) {next : ClassMember} (h : next ≠ .dash)
    (rest : List ClassMember) :
    reading (.char code :: next :: rest) = (.single code :: ·) <$> reading (next :: rest) := by
  cases next with
  | dash => exact absurd rfl h
  | char _ => rfl
  | set _ => rfl

theorem reading_set_cons (members : RangeSet) {next : ClassMember} (h : next ≠ .dash)
    (rest : List ClassMember) :
    reading (.set members :: next :: rest) =
      (members.ranges.toList ++ ·) <$> reading (next :: rest) := by
  cases next with
  | dash => exact absurd rfl h
  | char _ => rfl
  | set _ => rfl

/-- What follows a set depends on its presence only. -/
theorem reading_set (members : RangeSet) (rest : List ClassMember) :
    reading (.set members :: rest) =
      (members.ranges.toList ++ ·) <$> reading (.set ∅ :: rest) := by
  cases rest with
  | nil => rfl
  | cons next rest =>
    cases next with
    | dash => rfl
    | _ =>
      rw [reading_set_cons members (by simp), reading_set_cons ∅ (by simp), Functor.map_map]
      rfl

/-- A range whose ends are in order, and what follows it. -/
theorem reading_range {first last : Nat} (h : first ≤ last) (rest : List ClassMember) :
    reading (.char first :: .dash :: .char last :: rest) =
      (⟨first, last, h⟩ :: ·) <$> reading rest := by
  simp [reading, code, h]

theorem reading_empty_range {first last : Nat} (h : last < first) (rest : List ClassMember) :
    reading (.char first :: .dash :: .char last :: rest) = .error (.ofCause .emptyRange) := by
  simp [reading, code, Nat.not_le.mpr h]

end ClassMember

namespace ClassBuilder
open ClassMember

/-- The members that a builder still has to account for. A set is already among its members, and
only its presence counts. -/
def owed (builder : ClassBuilder) : List ClassMember :=
  match builder.pending with
  | .nothing => []
  | .literal code => [.char code]
  | .rangeFrom code => [.char code, .dash]
  | .set => [.set ∅]

/-- What a builder comes to if the members `rest` follow. -/
def outcome (builder : ClassBuilder) (rest : List ClassMember) : Except CompileError RangeSet :=
  (builder.set ∪ .ofRanges ·) <$> reading (builder.owed ++ rest)

theorem outcome_nil (builder : ClassBuilder) : builder.outcome [] = .ok builder.members := by
  obtain ⟨set, pending⟩ := builder
  cases pending with
  | nothing | set => exact congrArg Except.ok set.union_ofRanges_nil
  | literal code =>
    show Except.ok (set ∪ .ofRanges [.single code]) = .ok (set.insert code)
    rw [← RangeSet.insert_union_ofRanges, RangeSet.union_ofRanges_nil]
  | rangeFrom code =>
    show Except.ok (set ∪ .ofRanges [.single code, .single dashCode]) =
      .ok ((set.insert code).insert dashCode)
    rw [← RangeSet.insert_union_ofRanges, ← RangeSet.insert_union_ofRanges,
      RangeSet.union_ofRanges_nil]

/-- Unless a range is open, a member that is no dash leaves a pending literal alone. -/
theorem outcome_flushed (builder : ClassBuilder) {member : ClassMember} (rest : List ClassMember)
    (hpending : ∀ first, builder.pending ≠ .rangeFrom first) (hmember : member ≠ .dash) :
    builder.outcome (member :: rest) =
      (builder.flushed ∪ .ofRanges ·) <$> reading (member :: rest) := by
  obtain ⟨set, pending⟩ := builder
  cases pending with
  | nothing => rfl
  | literal code =>
    simp only [outcome, owed, List.cons_append, List.nil_append, flushed,
      reading_char_cons code hmember, Functor.map_map, RangeSet.insert_union_ofRanges]
  | set =>
    simp only [outcome, owed, List.cons_append, List.nil_append, flushed,
      reading_set_cons ∅ hmember, Functor.map_map]
    rfl
  | rangeFrom first => exact absurd rfl (hpending first)

theorem outcome_char (builder : ClassBuilder) (code : Nat) (rest : List ClassMember) :
    builder.outcome (.char code :: rest) = builder.pushChar code >>= (·.outcome rest) := by
  cases h : builder.pending with
  | rangeFrom first =>
    simp only [outcome, owed, h, List.cons_append, List.nil_append, pushChar]
    by_cases hle : first ≤ code
    · rw [if_neg (Nat.not_lt.mpr hle), reading_range hle, Functor.map_map]
      simp only [← RangeSet.insertBetween_union_ofRanges]
      rfl
    · rw [if_pos (Nat.not_le.mp hle), reading_empty_range (Nat.not_le.mp hle)]
      rfl
  | _ =>
    rw [outcome_flushed builder rest (by simp [h]) (by simp)]
    simp only [pushChar, h]
    rfl

theorem outcome_set (builder : ClassBuilder) (members : RangeSet) (rest : List ClassMember) :
    builder.outcome (.set members :: rest) = builder.pushSet members >>= (·.outcome rest) := by
  cases h : builder.pending with
  | rangeFrom first =>
    simp only [outcome, owed, h, List.cons_append, List.nil_append, pushSet, reading]
    rfl
  | _ =>
    rw [outcome_flushed builder rest (by simp [h]) (by simp), reading_set, Functor.map_map]
    simp only [← RangeSet.unionWith_union_ofRanges, pushSet, h]
    rfl

theorem outcome_dash (builder : ClassBuilder) (rest : List ClassMember) :
    builder.outcome (.dash :: rest) = builder.pushDash >>= (·.outcome rest) := by
  cases h : builder.pending with
  | nothing =>
    rw [pushDash, h, ← outcome_char]
    simp only [outcome, owed, h, List.nil_append, reading_dash, dashCode]
  | literal code =>
    simp only [outcome, owed, h, pushDash]
    rfl
  | set =>
    simp only [outcome, owed, h, pushDash, List.cons_append, List.nil_append, reading]
    rfl
  | rangeFrom first =>
    rw [pushDash, h, ← outcome_char]
    simp only [outcome, owed, h, List.cons_append, List.nil_append]
    rfl

/-- One push keeps the outcome, or ends in its error. -/
theorem outcome_cons (builder : ClassBuilder) (member : ClassMember) (rest : List ClassMember) :
    builder.outcome (member :: rest) = builder.push member >>= (·.outcome rest) := by
  cases member with
  | char code => exact outcome_char builder code rest
  | dash => exact outcome_dash builder rest
  | set members => exact outcome_set builder members rest

/-- The outcome of a builder is what pushing the members one by one comes to. -/
theorem map_members_pushAll (builder : ClassBuilder) (members : List ClassMember) :
    ClassBuilder.members <$> builder.pushAll members = builder.outcome members := by
  induction members generalizing builder with
  | nil => exact (outcome_nil builder).symm
  | cons member rest ih =>
    rw [outcome_cons, pushAll_cons, map_bind]
    apply bind_congr
    intro next
    exact ih next

/-- The members of a builder, which has seen them one by one, are those of the grammar. -/
theorem map_members_pushAll_new (members : List ClassMember) :
    ClassBuilder.members <$> pushAll {} members = RangeSet.ofRanges <$> reading members := by
  rw [map_members_pushAll]
  simp only [outcome, owed, List.nil_append, RangeSet.empty_union]

theorem pushAll_eq_ok {members : List ClassMember} {pieces : List CodeRange}
    (h : reading members = .ok pieces) :
    ∃ builder, pushAll {} members = .ok builder ∧ builder.members = .ofRanges pieces := by
  have hmap : ClassBuilder.members <$> pushAll {} members = .ok (.ofRanges pieces) := by
    rw [map_members_pushAll_new, h]
    rfl
  exact map_eq_ok_iff.mp hmap

theorem exists_reading_of_pushAll {members : List ClassMember} {builder : ClassBuilder}
    (h : pushAll {} members = .ok builder) :
    ∃ pieces, reading members = .ok pieces ∧ builder.members = .ofRanges pieces := by
  have hmap : RangeSet.ofRanges <$> reading members = .ok builder.members := by
    rw [← map_members_pushAll_new, h]
    rfl
  obtain ⟨pieces, hread, hpieces⟩ := map_eq_ok_iff.mp hmap
  exact ⟨pieces, hread, hpieces.symm⟩

theorem pushAll_eq_error_iff {members : List ClassMember} {e : CompileError} :
    pushAll {} members = .error e ↔ reading members = .error e := by
  rw [← map_eq_error_iff ClassBuilder.members, map_members_pushAll_new,
    map_eq_error_iff]

/-- A run of pushes fails at the first member that is refused. -/
theorem pushAll_eq_error {builder : ClassBuilder} {members : List ClassMember} {e : CompileError} :
    builder.pushAll members = .error e ↔
      ∃ before refused after next, members = before ++ refused :: after ∧
        builder.pushAll before = .ok next ∧ next.push refused = .error e := by
  induction members generalizing builder with
  | nil => simp [pushAll_nil]
  | cons member rest ih =>
    rw [pushAll_cons]
    constructor
    · intro h
      cases hpush : builder.push member with
      | error e' =>
        rw [hpush] at h
        obtain rfl := Except.error.inj h
        exact ⟨[], member, rest, builder, rfl, rfl, hpush⟩
      | ok next =>
        rw [hpush] at h
        obtain ⟨before, refused, after, last, rfl, hbefore, hrefused⟩ := ih.mp h
        refine ⟨member :: before, refused, after, last, rfl, ?_, hrefused⟩
        rw [pushAll_cons, hpush]
        exact hbefore
    · rintro ⟨before, refused, after, last, hsplit, hbefore, hrefused⟩
      cases before with
      | nil =>
        obtain ⟨rfl, rfl⟩ := List.cons.inj hsplit
        obtain rfl := Except.ok.inj hbefore
        rw [hrefused]
        rfl
      | cons first before =>
        obtain ⟨rfl, rfl⟩ := List.cons.inj hsplit
        rw [pushAll_cons] at hbefore
        cases hpush : builder.push member with
        | error e' =>
          rw [hpush] at hbefore
          exact nomatch hbefore
        | ok next =>
          rw [hpush] at hbefore
          exact ih.mpr ⟨before, refused, after, last, rfl, hbefore, hrefused⟩

/-- The builder refines the grammar. Pushing members in order onto a new builder first fails where
and as the grammar does; otherwise the finished set has the code points of the grammar's ranges
that lie in the domain, and the negated set has all others. -/
theorem pushes_refine_reading (members : List ClassMember) :
    (∀ e, reading members = .error e ↔
      ∃ before refused after builder, members = before ++ refused :: after ∧
        pushAll {} before = .ok builder ∧ builder.push refused = .error e) ∧
    ∀ pieces, reading members = .ok pieces →
      ∃ builder, pushAll {} members = .ok builder ∧
        ∀ c, ((builder.finish false).contains c = true ↔ c ≤ maxCodePoint ∧ Covered pieces c) ∧
          ((builder.finish true).contains c = true ↔ c ≤ maxCodePoint ∧ ¬ Covered pieces c) := by
  constructor
  · intro e
    rw [← pushAll_eq_error_iff, pushAll_eq_error]
  · intro pieces h
    obtain ⟨builder, hpush, hmembers⟩ := pushAll_eq_ok h
    refine ⟨builder, hpush, fun c => ?_⟩
    simp only [RangeSet.contains_iff, mem_finish, hmembers, RangeSet.mem_ofRanges]
    grind

end ClassBuilder
end UnicodeClasses
