import UnicodeClasses.Proofs.BracketNegation

/-!
# Bodies side by side

A body that ends neither in an open range nor in the middle of an escape can be put in front of
another body. What follows the seam is collected as at the start of an expression, and the sets of
the two are united.
-/
namespace UnicodeClasses

namespace RangeSet

theorem union_empty (s : RangeSet) : s ∪ ∅ = s := sup_bot_eq s

theorem union_insertBetween (s t : RangeSet) (a b : Nat) :
    (s ∪ t).insertBetween a b = s ∪ t.insertBetween a b := by
  apply ext
  intro c
  simp only [mem_insertBetween, mem_union, or_assoc]

theorem union_insert (s t : RangeSet) (a : Nat) : (s ∪ t).insert a = s ∪ t.insert a :=
  union_insertBetween s t a a

theorem union_unionWith (s t u : RangeSet) : (s ∪ t).unionWith u = s ∪ t.unionWith u := by
  apply ext
  intro c
  simp only [mem_unionWith, mem_union, or_assoc]

end RangeSet

variable {registry : Registry} {options : Options}

namespace ClassItem

variable {text rest : List Char} {item : ClassItem}

theorem member_ne_dash {member : ClassMember} (h : item.member registry = .ok member)
    (hitem : item ≠ .dash) : member ≠ .dash := by
  rintro rfl
  cases item with
  | char code => exact nomatch h
  | dash => exact hitem rfl
  | shorthand kind negated => exact nomatch h
  | property escape =>
    obtain ⟨set, -, hset⟩ := map_eq_ok_iff.mp h
    exact nomatch hset

theorem exists_code_of_readIdentity {c : Char}
    (h : readIdentity options c text = .ok (item, rest)) : ∃ code, item = .char code := by
  unfold readIdentity at h
  split at h
  · exact nomatch h
  · exact ⟨_, (Prod.mk.inj (Except.ok.inj h)).1.symm⟩

theorem exists_code_of_readUnit (h : readUnit options text = .ok (item, rest)) :
    ∃ code, item = .char code := by
  unfold readUnit at h
  split at h
  · exact ⟨_, (Prod.mk.inj (Except.ok.inj h)).1.symm⟩
  · exact exists_code_of_readIdentity h

theorem exists_code_of_readCodePoint (h : readCodePoint options text = .ok (item, rest)) :
    ∃ code, item = .char code := by
  unfold readCodePoint at h
  split at h
  · exact exists_code_of_readUnit h
  · split at h
    · obtain ⟨-, code, -, -, -, -, hitem⟩ := readBraced_eq_ok.mp h
      exact ⟨code, hitem⟩
    · exact exists_code_of_readUnit h

/-- An escaped letter that begins no set stands for a code point. -/
theorem exists_code_of_readLetter {c : Char} (h : readLetter options c text = .ok (item, rest)) :
    ∃ code, item = .char code := by
  unfold readLetter at h
  split at h
  · grind [readNull]
  · cases text <;> grind [readControl, exists_code_of_readIdentity]
  · grind [readByte, exists_code_of_readIdentity]
  · exact exists_code_of_readCodePoint h
  · grind [exists_code_of_readIdentity]

/-- An escaped dash is a literal. -/
theorem ne_dash_of_readEscape (h : readEscape options text = .ok (item, rest)) : item ≠ .dash := by
  unfold readEscape at h
  split at h
  · exact nomatch h
  · split at h
    · obtain ⟨escape, -, rfl⟩ := readProperty_eq_ok.mp h
      exact nofun
    · split at h
      · rename_i hset
        obtain ⟨rfl, -⟩ := Prod.mk.inj (Except.ok.inj h)
        obtain ⟨kind, negated, rfl, -⟩ := setLetters_of_shorthand? hset
        exact nofun
      · obtain ⟨rfl, -⟩ := Prod.mk.inj (Except.ok.inj h)
        exact nofun
      · obtain ⟨code, rfl⟩ := exists_code_of_readLetter h
        exact nofun

theorem ne_dash_of_read {c : Char} (hc : c ≠ '-') (h : read options c text = .ok (item, rest)) :
    item ≠ .dash := by
  unfold read at h
  split at h
  · exact ne_dash_of_readEscape h
  · exact absurd rfl hc
  · obtain ⟨rfl, -⟩ := Prod.mk.inj (Except.ok.inj h)
    exact nofun

end ClassItem

namespace ClassBuilder

/-- The builder with further members, which have no part in what is pending. -/
def including (builder : ClassBuilder) (s : RangeSet) : ClassBuilder :=
  ⟨s ∪ builder.set, builder.pending⟩

variable (builder : ClassBuilder) (s : RangeSet)

theorem flushed_including : (builder.including s).flushed = s ∪ builder.flushed := by
  obtain ⟨set, pending⟩ := builder
  cases pending with
  | nothing | set => rfl
  | literal code | rangeFrom code => exact RangeSet.union_insert s set code

theorem members_including : (builder.including s).members = s ∪ builder.members := by
  have hflushed := flushed_including builder s
  obtain ⟨set, pending⟩ := builder
  cases pending with
  | rangeFrom first =>
    show (including _ s).flushed.insert dashCode = _
    rw [hflushed, RangeSet.union_insert]
    rfl
  | _ => exact hflushed

theorem pushChar_including (code : Nat) :
    (builder.including s).pushChar code = (builder.pushChar code).map (·.including s) := by
  have hflushed := flushed_including builder s
  obtain ⟨set, pending⟩ := builder
  cases pending with
  | rangeFrom first =>
    simp only [pushChar, including]
    split
    · rfl
    · rw [RangeSet.union_insertBetween]
      rfl
  | _ =>
    show Except.ok (⟨(including _ s).flushed, .literal code⟩ : ClassBuilder) = _
    rw [hflushed]
    rfl

theorem pushDash_including :
    (builder.including s).pushDash = builder.pushDash.map (·.including s) := by
  have hchar := pushChar_including builder s dashCode
  obtain ⟨set, pending⟩ := builder
  cases pending with
  | literal code | set => rfl
  | nothing | rangeFrom first => exact hchar

theorem pushSet_including (members : RangeSet) :
    (builder.including s).pushSet members = (builder.pushSet members).map (·.including s) := by
  have hflushed := flushed_including builder s
  obtain ⟨set, pending⟩ := builder
  cases pending with
  | rangeFrom first => rfl
  | _ =>
    show Except.ok (⟨(including _ s).flushed.unionWith members, .set⟩ : ClassBuilder) = _
    rw [hflushed, RangeSet.union_unionWith]
    rfl

/-- Further members change neither what is refused nor what is added. -/
theorem push_including (member : ClassMember) :
    (builder.including s).push member = (builder.push member).map (·.including s) := by
  cases member with
  | char code => exact pushChar_including builder s code
  | dash => exact pushDash_including builder s
  | set members => exact pushSet_including builder s members

theorem pushItem_including (item : ClassItem) :
    (builder.including s).pushItem registry item =
      (builder.pushItem registry item).map (·.including s) := by
  unfold pushItem
  cases item.member registry with
  | error e => rfl
  | ok member => exact push_including builder s member

/-- Reading does not depend on the members so far, so they are kept through a whole body. -/
theorem collect_including (text : List Char) :
    (builder.including s).collect registry options text =
      (builder.collect registry options text).map fun (last, rest) => (last.including s, rest) := by
  fun_induction collect registry options builder text with
  | case1 builder => exact collect_nil ..
  | case2 builder rest => exact collect_close ..
  | case3 builder c text hc e hread =>
    rw [collect_cons _ _ _ hc, hread]
    rfl
  | case4 builder c text hc item rest hread e hpush =>
    rw [collect_cons _ _ _ hc, hread]
    show (builder.including s).pushItem registry item >>= _ = _
    rw [pushItem_including, hpush]
    rfl
  | case5 builder c text hc item rest hread next hpush ih =>
    have hnext : (builder.including s).pushItem registry item = .ok (next.including s) := by
      rw [pushItem_including, hpush]
      rfl
    rw [collect_ok hc hread hnext]
    exact ih

/-- No range is open, so that a member that is no dash stands by itself. -/
def Closed (builder : ClassBuilder) : Prop := ∀ first, builder.pending ≠ .rangeFrom first

variable {builder}

theorem Closed.members_eq (h : builder.Closed) : builder.members = builder.flushed := by
  unfold members
  split
  · exact absurd ‹_› (h _)
  · rfl

/-- Behind a body without an open range a member is taken as at the start. -/
theorem Closed.push_eq (h : builder.Closed) {member : ClassMember} (hmember : member ≠ .dash) :
    builder.push member = (push {} member).map (·.including builder.members) := by
  have hstart : including {} builder.flushed = ⟨builder.flushed, .nothing⟩ :=
    congrArg (ClassBuilder.mk · .nothing) (RangeSet.union_empty builder.flushed)
  have hpush : builder.push member = push ⟨builder.flushed, .nothing⟩ member := by
    obtain ⟨set, pending⟩ := builder
    cases pending with
    | rangeFrom first => exact absurd rfl (h first)
    | _ =>
      cases member with
      | dash => exact absurd rfl hmember
      | char code => rfl
      | set members => rfl
  rw [hpush, h.members_eq, ← hstart, push_including]

theorem Closed.pushItem_eq (h : builder.Closed) {item : ClassItem} (hitem : item ≠ .dash) :
    builder.pushItem registry item =
      (pushItem registry {} item).map (·.including builder.members) := by
  unfold pushItem
  cases hmember : item.member registry with
  | error e => rfl
  | ok member => exact h.push_eq (ClassItem.member_ne_dash hmember hitem)

theorem Closed.collect_eq (h : builder.Closed) {c : Char} (hclose : c ≠ ']') (hdash : c ≠ '-')
    (text : List Char) :
    builder.collect registry options (c :: text) =
      (collect registry options {} (c :: text)).map fun (last, rest) =>
        (last.including builder.members, rest) := by
  rw [collect_cons _ _ _ hclose, collect_cons _ _ _ hclose]
  cases hread : ClassItem.read options c text with
  | error e => rfl
  | ok reading =>
    obtain ⟨item, rest⟩ := reading
    show builder.pushItem registry item >>= (collect registry options · rest) =
      Except.map _ (pushItem registry {} item >>= (collect registry options · rest))
    rw [h.pushItem_eq (ClassItem.ne_dash_of_read hdash hread)]
    cases pushItem registry {} item with
    | error e => rfl
    | ok next => exact collect_including next builder.members rest

/-- Behind a body without an open range the members of a further body are added. -/
theorem Closed.members_collect (h : builder.Closed) {text : List Char}
    (hdash : text.head? ≠ some '-') :
    (builder.collect registry options text).map (fun (last, rest) => (last.members, rest)) =
      (collect registry options {} text).map fun (last, rest) =>
        (builder.members ∪ last.members, rest) := by
  cases text with
  | nil =>
    rw [collect_nil, collect_nil]
    rfl
  | cons c text =>
    by_cases hclose : c = ']'
    · -- a literal that is pending here has not been flushed, so the builders have only their
      -- members in common
      subst hclose
      rw [collect_close, collect_close]
      exact congrArg (Except.ok <| Prod.mk · text) (RangeSet.union_empty builder.members).symm
    · rw [h.collect_eq hclose (by simpa using hdash)]
      cases collect registry options {} (c :: text) with
      | error e => rfl
      | ok collected => exact congrArg (Except.ok <| Prod.mk · _) (members_including ..)

end ClassBuilder

/-! ### Bodies without escapes -/

/-- The item of a character that is neither a bracket nor a backslash, inside a body. -/
def ClassItem.ofPlain (c : Char) : ClassItem := if c = '-' then .dash else .char c.toNat

theorem ClassItem.read_plain {c : Char} (hc : c ≠ '\\') {text : List Char}
    (hdash : c = '-' → text.head? ≠ some ']') : read options c text = .ok (ofPlain c, text) := by
  unfold read ofPlain
  split
  · exact absurd rfl hc
  · rw [if_neg (by simpa using hdash rfl), if_pos rfl]
  · rw [if_neg ‹_›]

namespace ClassBuilder
open ClassItem

variable {builder next : ClassBuilder} {body : List Char}

/-- A body without escapes is pushed character by character, whatever follows it, unless a dash at
its end waits for what follows. -/
theorem collect_plain (builder : ClassBuilder) (hplain : ∀ c ∈ body, c ≠ '\\' ∧ c ≠ ']')
    (hlast : body.getLast? ≠ some '-') (after : List Char) :
    builder.collect registry options (body ++ after) =
      builder.pushItems registry (body.map ofPlain) >>= (collect registry options · after) := by
  induction body generalizing builder with
  | nil => rfl
  | cons c body ih =>
    obtain ⟨hescape, hclose⟩ := hplain c (List.mem_cons_self ..)
    have hplain' : ∀ d ∈ body, d ≠ '\\' ∧ d ≠ ']' :=
      fun d hd => hplain d (List.mem_cons_of_mem c hd)
    have hlast' : body.getLast? ≠ some '-' := by
      cases body with
      | nil => simp
      | cons d body => simpa [List.getLast?_cons_cons] using hlast
    -- a dash is not the last character, so another character of the body follows it
    have hdash : c = '-' → (body ++ after).head? ≠ some ']' := by
      rintro rfl
      cases body with
      | nil => exact absurd rfl hlast
      | cons d body => simpa using (hplain' d (List.mem_cons_self ..)).2
    rw [List.cons_append, collect_cons _ _ _ hclose, read_plain hescape hdash, List.map_cons,
      pushItems, List.foldlM_cons]
    show builder.pushItem registry (ofPlain c) >>= _ = _
    cases builder.pushItem registry (ofPlain c) with
    | error e => rfl
    | ok next => exact ih next hplain' hlast'

theorem closed_of_pushChar {code : Nat} (h : builder.pushChar code = .ok next) : next.Closed := by
  unfold pushChar at h
  split at h
  · split at h
    · exact nomatch h
    · obtain rfl := Except.ok.inj h
      exact nofun
  · obtain rfl := Except.ok.inj h
    exact nofun

/-- A body whose last character is no dash leaves no range open. -/
theorem closed_of_pushItems (h : pushItems registry {} (body.map ofPlain) = .ok next)
    (hlast : body.getLast? ≠ some '-') : next.Closed := by
  rcases List.eq_nil_or_concat body with rfl | ⟨front, c, rfl⟩
  · obtain rfl := Except.ok.inj h
    exact nofun
  · have hc : c ≠ '-' := by simpa using hlast
    rw [List.concat_eq_append, List.map_append, pushItems, List.foldlM_append, bind_eq_ok_iff] at h
    obtain ⟨middle, -, hlast⟩ := h
    have hpush : middle.pushItem registry (ofPlain c) >>= pure = .ok next := by
      simpa using hlast
    rw [bind_pure, ofPlain, if_neg hc] at hpush
    exact closed_of_pushChar hpush

end ClassBuilder

namespace BracketClass

/-- A body that is an expression by itself, and has no escapes and no dash at its end, is collected
to its own set before what follows it. -/
theorem exists_collected {body left : List Char} {bracket : BracketClass}
    (hplain : ∀ c ∈ body, c ≠ '\\' ∧ c ≠ ']') (hcaret : body.head? ≠ some '^')
    (hlast : body.getLast? ≠ some '-')
    (h : read registry options ('[' :: (body ++ [']'])) = .ok (bracket, left)) :
    ∃ builder : ClassBuilder, builder.Closed ∧ builder.members = bracket.set ∧ ∀ after,
      ClassBuilder.collect registry options {} (body ++ after) =
        builder.collect registry options after := by
  have hcaret' : (body ++ [']']).head? ≠ some '^' := by
    cases body with
    | nil => simp
    | cons c body => exact hcaret
  rw [read_of_opens (.plain hcaret')] at h
  obtain ⟨⟨last, rest⟩, hcollect, hpair⟩ := map_eq_ok_iff.mp h
  obtain ⟨rfl, -⟩ := Prod.mk.inj hpair
  rw [ClassBuilder.collect_plain {} hplain hlast] at hcollect
  obtain ⟨builder, hpush, hclose⟩ := bind_eq_ok_iff.mp hcollect
  rw [ClassBuilder.collect_close] at hclose
  obtain ⟨rfl, -⟩ := Prod.mk.inj (Except.ok.inj hclose)
  refine ⟨builder, ClassBuilder.closed_of_pushItems hpush hlast, rfl, fun after => ?_⟩
  rw [ClassBuilder.collect_plain {} hplain hlast, hpush]
  rfl

/-- Bodies compose by union. Where `front` has no escape, no closing bracket and no dash at its
end and is an expression by itself, then in front of a further body it adds its set and its bytes
to what the further body comes to, and nothing else: the errors are those of the further body. -/
theorem read_composed_bodies (registry : Registry) (options : Options) {front back left : List Char}
    {first : BracketClass} (hplain : ∀ c ∈ front, c ≠ '\\' ∧ c ≠ ']')
    (hfront : front.head? ≠ some '^') (hlast : front.getLast? ≠ some '-')
    (hfirst : read registry options ('[' :: (front ++ [']'])) = .ok (first, left))
    (hdash : back.head? ≠ some '-') (hback : back.head? ≠ some '^') :
    (∀ e, read registry options ('[' :: back) = .error e →
      read registry options ('[' :: (front ++ back)) = .error e) ∧
    ∀ second rest, read registry options ('[' :: back) = .ok (second, rest) →
      read registry options ('[' :: (front ++ back)) =
        .ok (⟨first.set ∪ second.set, false, second.length + byteSize front⟩, rest) := by
  obtain ⟨builder, hclosed, hset, hcollect⟩ := exists_collected hplain hfront hlast hfirst
  have hmembers : (builder.collect registry options back).map _ = _ :=
    hclosed.members_collect hdash
  have hcaret : (front ++ back).head? ≠ some '^' := by
    cases front with
    | nil => exact hback
    | cons c front => exact hfront
  rw [read_of_opens (.plain hback), read_of_opens (.plain hcaret), hcollect]
  constructor
  · intro e he
    rw [(map_eq_error_iff _).mp he] at hmembers
    exact (map_eq_error_iff _).mpr ((map_eq_error_iff _).mp hmembers)
  · intro second rest hsecond
    obtain ⟨⟨last, after⟩, hlast, hpair⟩ := map_eq_ok_iff.mp hsecond
    obtain ⟨rfl, rfl⟩ := Prod.mk.inj hpair
    have hsize := ClassBuilder.byteSize_le_of_collect hlast
    rw [hlast] at hmembers
    obtain ⟨⟨joined, after'⟩, hjoined, hpair⟩ := map_eq_ok_iff.mp hmembers
    obtain ⟨hunion, rfl⟩ := Prod.mk.inj hpair
    refine map_eq_ok_iff.mpr ⟨(joined, after'), hjoined, ?_⟩
    have hlength : byteSize ('[' :: (front ++ back)) - byteSize after' =
        byteSize ('[' :: back) - byteSize after' + byteSize front := by
      simp only [byteSize_cons, byteSize_append]
      omega
    simp only [hlength, ← hset]
    rw [ClassBuilder.finish, hunion]
    rfl

/-- A range, and a dash and an `e` as literals. -/
def dashedLetters : RangeSet := (((∅ : RangeSet).insertBetween 0x61 0x63).insert dashCode).insert 0x65

/-- The digits, and a dash as a literal. -/
def dashedDigits : RangeSet := ((∅ : RangeSet).unionWith Shorthand.digit.set).insert dashCode

/-- Dashes on both sides of the seam, and a literal that is still pending at it. -/
theorem read_composed_dashes :
    (∀ c ∈ ['a', '-', 'c', '-', 'e'], c ≠ '\\' ∧ c ≠ ']') ∧
    read ⟨⟨14, 0, 0⟩, {}⟩ {} ['[', 'a', '-', 'c', '-', 'e', ']'] =
      .ok (⟨dashedLetters, false, 7⟩, []) ∧
    read ⟨⟨14, 0, 0⟩, {}⟩ {} ['[', '\\', 'd', '-', ']', 'x'] =
      .ok (⟨dashedDigits, false, 5⟩, ['x']) ∧
    read ⟨⟨14, 0, 0⟩, {}⟩ {} ['[', 'a', '-', 'c', '-', 'e', '\\', 'd', '-', ']', 'x'] =
      .ok (⟨dashedLetters ∪ dashedDigits, false, 10⟩, ['x']) := by
  have hplain : ∀ c ∈ ['a', '-', 'c', '-', 'e'], c ≠ '\\' ∧ c ≠ ']' := by simp
  have hletters :=
    calc ClassBuilder.collect ⟨⟨14, 0, 0⟩, {}⟩ {} {} ['a', '-', 'c', '-', 'e', ']']
      _ = ClassBuilder.collect _ {} ⟨_, .literal 0x61⟩ ['-', 'c', '-', 'e', ']'] :=
        ClassBuilder.collect_ok (by decide) rfl rfl
      _ = ClassBuilder.collect _ {} ⟨_, .rangeFrom 0x61⟩ ['c', '-', 'e', ']'] :=
        ClassBuilder.collect_ok (by decide) rfl rfl
      _ = ClassBuilder.collect _ {} ⟨_, .nothing⟩ ['-', 'e', ']'] :=
        ClassBuilder.collect_ok (by decide) rfl rfl
      _ = ClassBuilder.collect _ {} ⟨_, .literal dashCode⟩ ['e', ']'] :=
        ClassBuilder.collect_ok (by decide) rfl rfl
      _ = ClassBuilder.collect _ {} ⟨_, .literal 0x65⟩ [']'] :=
        ClassBuilder.collect_ok (by decide) rfl rfl
      _ = _ := ClassBuilder.collect_close ..
  have hdigits :=
    calc ClassBuilder.collect ⟨⟨14, 0, 0⟩, {}⟩ {} {} ['\\', 'd', '-', ']', 'x']
      _ = ClassBuilder.collect _ {} ⟨_, .set⟩ ['-', ']', 'x'] :=
        ClassBuilder.collect_ok (by decide) rfl rfl
      _ = ClassBuilder.collect _ {} ⟨_, .literal dashCode⟩ [']', 'x'] :=
        ClassBuilder.collect_ok (by decide) rfl rfl
      _ = _ := ClassBuilder.collect_close ..
  have hfirst : read ⟨⟨14, 0, 0⟩, {}⟩ {} ['[', 'a', '-', 'c', '-', 'e', ']'] =
      .ok (⟨dashedLetters, false, 7⟩, []) :=
    read_eq_ok.mpr ⟨_, _, .plain (by decide), hletters, rfl, by decide⟩
  have hsecond : read ⟨⟨14, 0, 0⟩, {}⟩ {} ['[', '\\', 'd', '-', ']', 'x'] =
      .ok (⟨dashedDigits, false, 5⟩, ['x']) :=
    read_eq_ok.mpr ⟨_, _, .plain (by decide), hdigits, rfl, by decide⟩
  have hdash : ['\\', 'd', '-', ']', 'x'].head? ≠ some '-' := by decide
  obtain ⟨-, hunion⟩ := read_composed_bodies ⟨⟨14, 0, 0⟩, {}⟩ {} hplain (by decide) (by decide)
    hfirst hdash (by decide)
  exact ⟨hplain, hfirst, hsecond, hunion _ _ hsecond⟩

end BracketClass
end UnicodeClasses
