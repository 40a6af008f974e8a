import Mathlib.Data.List.Forall2
import UnicodeClasses.BracketClass
import UnicodeClasses.Proofs.ItemGrammar
import UnicodeClasses.Proofs.MemberGrammar

/-!
# The grammar of bracket expressions in Unicode mode

A bracket expression is an opening, a cut of the text after it into items, and the reading of the
members that the items contribute. Interleaving the three in one pass accepts the same texts and
gives the same sets.
-/
namespace UnicodeClasses

namespace ClassItem

/-- What an item contributes to its class: a literal or a dash itself, and an escape a set. The set
of a shorthand has the code points that it stands for, or all others of the domain, and the set of a
property escape is the one that the registry resolves it to. -/
inductive Contributes (registry : Registry) : ClassItem → ClassMember → Prop
  | char (code : Nat) : Contributes registry (.char code) (.char code)
  | dash : Contributes registry .dash .dash
  | shorthand {kind : Shorthand} {negated : Bool} {s : RangeSet}
      (points : ∀ c, s.contains c = true ↔
        c ≤ maxCodePoint ∧ (kind.Matches c ↔ negated = false)) :
      Contributes registry (.shorthand kind negated) (.set s)
  | property {escape : PropertyEscape} {s : RangeSet} (resolved : registry.resolve escape = .ok s) :
      Contributes registry (.property escape) (.set s)

theorem contributes_shorthand (registry : Registry) (kind : Shorthand) (negated : Bool) :
    Contributes registry (.shorthand kind negated) (.set (kind.set.negateIf negated)) :=
  .shorthand fun _ => RangeSet.contains_iff.trans Shorthand.mem_negateIf

theorem contributes_iff {registry : Registry} {item : ClassItem} {m : ClassMember} :
    Contributes registry item m ↔ item.member registry = .ok m := by
  constructor
  · intro h
    cases h with
    | char code => rfl
    | dash => rfl
    | @shorthand kind negated s points =>
      have hset : kind.set.negateIf negated = s := RangeSet.ext fun c => by
        rw [Shorthand.mem_negateIf, ← points, RangeSet.contains_iff]
      rw [member, hset]
    | property resolved => exact map_eq_ok_iff.mpr ⟨_, resolved, rfl⟩
  · intro h
    cases item with
    | char code =>
      obtain rfl := Except.ok.inj h
      exact .char code
    | dash =>
      obtain rfl := Except.ok.inj h
      exact .dash
    | shorthand kind negated =>
      obtain rfl := Except.ok.inj h
      exact contributes_shorthand registry kind negated
    | property escape =>
      obtain ⟨s, hresolved, rfl⟩ := map_eq_ok_iff.mp h
      exact .property hresolved

end ClassItem

namespace ClassBuilder
open ClassItem

variable {registry : Registry} {builder last : ClassBuilder}

theorem pushItem_eq_ok {item : ClassItem} : pushItem registry builder item = .ok last ↔
    ∃ m, Contributes registry item m ∧ builder.push m = .ok last := by
  simp only [contributes_iff]
  exact bind_eq_ok_iff

/-- Items are all pushed exactly if they all contribute members and these are all pushed. -/
theorem pushItems_eq_ok {items : List ClassItem} :
    pushItems registry builder items = .ok last ↔
      ∃ members, List.Forall₂ (Contributes registry) items members ∧
        builder.pushAll members = .ok last := by
  induction items generalizing builder with
  | nil =>
    constructor
    · intro h
      exact ⟨[], .nil, h⟩
    · rintro ⟨_, ⟨⟩, h⟩
      exact h
  | cons item items ih =>
    rw [pushItems, List.foldlM_cons, bind_eq_ok_iff]
    constructor
    · rintro ⟨next, hitem, hitems⟩
      obtain ⟨m, hm, hpush⟩ := pushItem_eq_ok.mp hitem
      obtain ⟨ms, hms, hpushes⟩ := ih.mp hitems
      refine ⟨m :: ms, .cons hm hms, ?_⟩
      rw [pushAll_cons, hpush]
      exact hpushes
    · rintro ⟨_, hmembers, hpushes⟩
      obtain ⟨m, ms, hm, hms, rfl⟩ := List.forall₂_cons_left_iff.mp hmembers
      rw [pushAll_cons] at hpushes
      obtain ⟨next, hpush, hnext⟩ := bind_eq_ok_iff.mp hpushes
      exact ⟨next, pushItem_eq_ok.mpr ⟨m, hm, hpush⟩, ih.mpr ⟨ms, hms, hnext⟩⟩

/-- A body is collected exactly if it is read up to a closing bracket and its items are pushed. -/
theorem collect_eq_ok_iff {options : Options} {body rest : List Char} :
    builder.collect registry options body = .ok (last, rest) ↔
      (readAll options body).2 = .ok rest ∧
        builder.pushItems registry (readAll options body).1 = .ok last := by
  rw [collect_eq, bind_eq_ok_iff]
  constructor
  · rintro ⟨_, hpush, h⟩
    obtain ⟨_, hrest, hpair⟩ := bind_eq_ok_iff.mp h
    obtain ⟨rfl, rfl⟩ := Prod.mk.inj (Except.ok.inj hpair)
    exact ⟨hrest, hpush⟩
  · rintro ⟨hrest, hpush⟩
    exact ⟨last, hpush, bind_eq_ok_iff.mpr ⟨rest, hrest, rfl⟩⟩

end ClassBuilder

namespace BracketClass

/-- `Opens text negated body`: the text begins with a bracket, which `body` follows after the mark
of negation. A caret that follows the bracket is always that mark. -/
inductive Opens : List Char → Bool → List Char → Prop
  | plain {body : List Char} (unmarked : body.head? ≠ some '^') : Opens ('[' :: body) false body
  | marked (body : List Char) : Opens ('[' :: '^' :: body) true body

theorem opened?_eq_some {text body : List Char} {negated : Bool} :
    opened? text = some (negated, body) ↔ Opens text negated body := by
  constructor
  · intro h
    unfold opened? at h
    split at h
    · obtain ⟨rfl, rfl⟩ := Prod.mk.inj (Option.some.inj h)
      exact .marked _
    · rename_i hmark
      obtain ⟨rfl, rfl⟩ := Prod.mk.inj (Option.some.inj h)
      refine .plain fun hhead => ?_
      obtain ⟨after, rfl⟩ := List.head?_eq_some_iff.mp hhead
      exact hmark after rfl
    · exact nomatch h
  · intro h
    cases h with
    | plain unmarked =>
      cases body with
      | nil => rfl
      | cons c body =>
        have hc : c ≠ '^' := by simpa using unmarked
        simp [opened?, hc]
    | marked => rfl

theorem Opens.exists_eq_append {text body : List Char} {negated : Bool}
    (h : Opens text negated body) : ∃ mark, text = mark ++ body := by
  cases h with
  | plain => exact ⟨['['], rfl⟩
  | marked => exact ⟨['[', '^'], rfl⟩

/-- A body is collected exactly if it is cut into items and these are pushed. -/
theorem collect_eq_ok {registry : Registry} {limit : Nat} {builder last : ClassBuilder}
    {body rest : List Char} :
    builder.collect registry ⟨true, limit⟩ body = .ok (last, rest) ↔
      ∃ items, ClassItem.Cut limit body items rest ∧
        builder.pushItems registry items = .ok last := by
  rw [ClassBuilder.collect_eq_ok_iff]
  constructor
  · rintro ⟨hrest, hpush⟩
    exact ⟨_, ClassItem.cut_iff_readAll.mpr (Prod.ext rfl hrest), hpush⟩
  · rintro ⟨items, hcut, hpush⟩
    rw [ClassItem.cut_iff_readAll.mp hcut]
    exact ⟨rfl, hpush⟩

theorem read_eq_ok {registry : Registry} {options : Options} {text rest : List Char}
    {bracket : BracketClass} : read registry options text = .ok (bracket, rest) ↔
      ∃ body builder, Opens text bracket.negated body ∧
        ClassBuilder.collect registry options {} body = .ok (builder, rest) ∧
          bracket.set = builder.finish bracket.negated ∧
            bracket.length = byteSize text - byteSize rest := by
  unfold read
  constructor
  · intro h
    split at h
    · exact nomatch h
    · rename_i negated body hopened
      obtain ⟨⟨builder, after⟩, hcollect, hpair⟩ := bind_eq_ok_iff.mp h
      obtain ⟨rfl, rfl⟩ := Prod.mk.inj (Except.ok.inj hpair)
      exact ⟨body, builder, opened?_eq_some.mp hopened, hcollect, rfl, rfl⟩
  · rintro ⟨body, builder, hopens, hcollect, hset, hlength⟩
    obtain ⟨set, negated, length⟩ := bracket
    simp only at hopens hset hlength
    subst hset hlength
    rw [opened?_eq_some.mpr hopens]
    exact bind_eq_ok_iff.mpr ⟨(builder, rest), hcollect, rfl⟩

/-- An opening, a body read up to its closing bracket and a reading of its members make a bracket
expression. -/
theorem read_of_readAll {registry : Registry} {options : Options} {text body rest : List Char}
    {negated : Bool} {items : List ClassItem} {members : List ClassMember}
    {pieces : List CodeRange} (hopens : Opens text negated body)
    (hbody : ClassItem.readAll options body = (items, .ok rest))
    (hmembers : List.Forall₂ (ClassItem.Contributes registry) items members)
    (hreading : ClassMember.reading members = .ok pieces) :
    read registry options text =
      .ok (⟨(RangeSet.ofRanges pieces).negateIf negated, negated, byteSize text - byteSize rest⟩,
        rest) := by
  obtain ⟨builder, hpushes, hpieces⟩ := ClassBuilder.pushAll_eq_ok hreading
  have hpush := ClassBuilder.pushItems_eq_ok.mpr ⟨members, hmembers, hpushes⟩
  have hcollect : ClassBuilder.collect registry options {} body = .ok (builder, rest) := by
    rw [ClassBuilder.collect_eq_ok_iff, hbody]
    exact ⟨rfl, hpush⟩
  rw [← hpieces]
  exact read_eq_ok.mpr ⟨body, builder, hopens, hcollect, rfl, rfl⟩

/-- What a bracket expression takes of a text ends with its closing bracket. -/
theorem exists_consumed {limit : Nat} {text body rest : List Char} {negated : Bool}
    {items : List ClassItem} (hopens : Opens text negated body)
    (hcut : ClassItem.Cut limit body items rest) :
    ∃ consumed, text = consumed ++ ']' :: rest := by
  obtain ⟨mark, rfl⟩ := hopens.exists_eq_append
  obtain ⟨inner, rfl⟩ := hcut.exists_eq_append
  exact ⟨mark ++ inner, by simp⟩

theorem length_eq_iff {text consumed rest : List Char} (h : text = consumed ++ ']' :: rest)
    (length : Nat) :
    length = byteSize text - byteSize rest ↔ length = byteSize consumed + 1 := by
  have hclose : (']' : Char).utf8Size = 1 := rfl
  rw [h, byteSize_append, byteSize_cons, hclose]
  omega

/-- In Unicode mode a text is read as a bracket expression exactly if it is an opening, the
spellings of items, a closing bracket and a rest, each item contributes a member and the members
have a reading. The result is then the reading, complemented if the expression is negated. The
grammar states the code points of all escapes but those of properties, which the registry gives. -/
theorem read_unicode_eq_ok_iff (registry : Registry) (limit : Nat) (text rest : List Char)
    (bracket : BracketClass) :
    read registry ⟨true, limit⟩ text = .ok (bracket, rest) ↔
      ∃ body items members pieces,
        Opens text bracket.negated body ∧ ClassItem.Cut limit body items rest ∧
        List.Forall₂ (ClassItem.Contributes registry) items members ∧
        ClassMember.reading members = .ok pieces ∧
        (∀ c, bracket.set.contains c = true ↔
          c ≤ maxCodePoint ∧ (Covered pieces c ↔ bracket.negated = false)) ∧
        ∃ consumed, text = consumed ++ ']' :: rest ∧ bracket.length = byteSize consumed + 1 := by
  rw [read_eq_ok]
  constructor
  · rintro ⟨body, builder, hopens, hcollect, hset, hlength⟩
    obtain ⟨items, hcut, hpush⟩ := collect_eq_ok.mp hcollect
    obtain ⟨members, hmembers, hpushes⟩ := ClassBuilder.pushItems_eq_ok.mp hpush
    obtain ⟨pieces, hreading, hpieces⟩ := ClassBuilder.exists_reading_of_pushAll hpushes
    obtain ⟨consumed, hconsumed⟩ := exists_consumed hopens hcut
    refine ⟨body, items, members, pieces, hopens, hcut, hmembers, hreading, fun c => ?_,
      consumed, hconsumed, (length_eq_iff hconsumed _).mp hlength⟩
    rw [hset, RangeSet.contains_iff, ClassBuilder.mem_finish, hpieces, RangeSet.mem_ofRanges]
    grind
  · rintro ⟨body, items, members, pieces, hopens, hcut, hmembers, hreading, hset, consumed,
      hconsumed, hlength⟩
    obtain ⟨builder, hpushes, hpieces⟩ := ClassBuilder.pushAll_eq_ok hreading
    refine ⟨body, builder, hopens, collect_eq_ok.mpr ⟨items, hcut,
      ClassBuilder.pushItems_eq_ok.mpr ⟨members, hmembers, hpushes⟩⟩, RangeSet.ext fun c => ?_,
      (length_eq_iff hconsumed _).mpr hlength⟩
    rw [← RangeSet.contains_iff, hset, ClassBuilder.mem_finish, hpieces, RangeSet.mem_ofRanges]
    grind

end BracketClass

end UnicodeClasses
