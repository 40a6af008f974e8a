import Mathlib.Data.List.Induction
import UnicodeClasses.Proofs.MemberGrammar
import UnicodeClasses.Proofs.TaggedBuilder

/-!
# Refused pushes

A push that is refused leaves no trace, so a builder is what the accepted members have made it.
What they leave open, read from the left, decides which push is refused next and why.
-/
namespace UnicodeClasses

/-! ### Offers, refused ones included -/

section offers

variable {S : Type} (offer : S → ClassMember → Option CompileError × S)

/-- The state after all members have been offered. -/
def offerAll (state : S) (members : List ClassMember) : S :=
  members.foldl (fun state member => (offer state member).2) state

/-- The answer to each offer. -/
def answers (state : S) : List ClassMember → List (Option CompileError)
  | [] => []
  | member :: rest => (offer state member).1 :: answers (offer state member).2 rest

/-- The members that are not refused. -/
def accepted (state : S) : List ClassMember → List ClassMember
  | [] => []
  | member :: rest =>
    match (offer state member).1 with
    | none => member :: accepted (offer state member).2 rest
    | some _ => accepted (offer state member).2 rest

variable {offer}

theorem offerAll_append (state : S) (front back : List ClassMember) :
    offerAll offer state (front ++ back) = offerAll offer (offerAll offer state front) back :=
  List.foldl_append

theorem length_answers (state : S) (members : List ClassMember) :
    (answers offer state members).length = members.length := by
  induction members generalizing state with
  | nil => rfl
  | cons member rest ih => exact congrArg Nat.succ (ih _)

theorem answers_append (state : S) (front back : List ClassMember) :
    answers offer state (front ++ back) =
      answers offer state front ++ answers offer (offerAll offer state front) back := by
  induction front generalizing state with
  | nil => rfl
  | cons member front ih => exact congrArg (_ :: ·) (ih _)

/-- An offer that changes nothing has no part in the answers to the others. -/
theorem answers_eraseIdx {state : S} {front : List ClassMember} {member : ClassMember}
    (h : (offer (offerAll offer state front) member).2 = offerAll offer state front)
    (back : List ClassMember) :
    (answers offer state (front ++ member :: back)).eraseIdx front.length =
      answers offer state (front ++ back) := by
  rw [answers_append, answers_append, answers, h,
    List.eraseIdx_append_of_length_le (Nat.le_of_eq (length_answers state front)), length_answers,
    Nat.sub_self]
  rfl

end offers

namespace ClassMember

/-- What a sequence of members leaves for the next one to attach to: nothing after a finished
range, and else its last literal or set, or a literal and the range operator after it. -/
def openEnd : List ClassMember → Pending
  | [] => .nothing
  | [.set _] => .set
  | .set _ :: rest => openEnd rest
  | [member] => .literal member.code
  | [member, .dash] => .rangeFrom member.code
  | _ :: .dash :: _ :: rest => openEnd rest
  | _ :: rest => openEnd rest

end ClassMember

/-- What is open once one more member follows. -/
def Pending.after : Pending → ClassMember → Pending
  | .rangeFrom _, _ => .nothing
  | .literal code, .dash => .rangeFrom code
  | _, .set _ => .set
  | _, member => .literal member.code

theorem ClassMember.openEnd_concat (members : List ClassMember) (member : ClassMember) :
    openEnd (members ++ [member]) = (openEnd members).after member := by
  fun_induction openEnd members with
  | case1 | case2 => cases member <;> rfl
  | case3 s rest hrest ih =>
    rw [← ih]
    cases rest with
    | nil => exact absurd rfl hrest
    | cons next rest => rfl
  | case4 last hlast =>
    cases last with
    | set s => exact absurd rfl (hlast s)
    | _ => cases member <;> rfl
  | case5 first hfirst =>
    cases first with
    | set s => exact absurd rfl (hfirst s)
    | _ => rfl
  | case6 first last rest hfirst ih =>
    rw [← ih]
    cases first with
    | set s => exact absurd rfl (hfirst s)
    | _ => rfl
  | case7 first rest _ hfirst hrest hdash hrange ih =>
    rw [← ih]
    rcases rest with _ | ⟨next, rest⟩
    · exact absurd rfl hrest
    · have hnext : next ≠ .dash := by
        rintro rfl
        cases rest with
        | nil => exact hdash rfl
        | cons last rest => exact hrange last rest rfl
      cases first <;> cases next <;> simp_all [openEnd]

namespace ClassBuilder
open ClassMember

variable {builder next : ClassBuilder} {member : ClassMember} {members : List ClassMember}

theorem offer_of_ok (h : builder.push member = .ok next) : builder.offer member = (none, next) := by
  rw [offer, h]

theorem offer_of_error {e : CompileError} (h : builder.push member = .error e) :
    builder.offer member = (some e, builder) := by
  rw [offer, h]

theorem offer_eq_some_iff {e : CompileError} :
    (builder.offer member).1 = some e ↔ builder.push member = .error e := by
  cases h : builder.push member with
  | ok next => simp [offer_of_ok h]
  | error e' => simp [offer_of_error h]

/-- The accepted members by themselves are all pushed, and make the same builder. -/
theorem pushAll_accepted (builder : ClassBuilder) (members : List ClassMember) :
    builder.pushAll (accepted offer builder members) = .ok (offerAll offer builder members) := by
  induction members generalizing builder with
  | nil => rfl
  | cons member rest ih =>
    cases h : builder.push member with
    | ok next =>
      rw [accepted, offerAll, List.foldl_cons, offer_of_ok h, pushAll_cons, h]
      exact ih next
    | error e =>
      rw [accepted, offerAll, List.foldl_cons, offer_of_error h]
      exact ih builder

theorem pushAll_concat : builder.pushAll (members ++ [member]) = .ok next ↔
    ∃ last, builder.pushAll members = .ok last ∧ last.push member = .ok next := by
  rw [pushAll, List.foldlM_append, bind_eq_ok_iff]
  simp only [List.foldlM_cons, List.foldlM_nil, bind_pure]
  rfl

/-! ### What is open decides what is refused -/

theorem pushChar_eq_error_iff {code : Nat} {e : CompileError} :
    builder.pushChar code = .error e ↔
      e = .ofCause .emptyRange ∧ ∃ first, builder.pending = .rangeFrom first ∧ code < first := by
  cases h : builder.pending with
  | rangeFrom first =>
    simp only [pushChar, h, Pending.rangeFrom.injEq, exists_eq_left']
    by_cases hlt : code < first
    · simp [hlt, eq_comm]
    · simp [hlt]
  | _ => simp [pushChar, h]

theorem pushDash_eq_error_iff {e : CompileError} :
    builder.pushDash = .error e ↔
      (e = .ofCause .emptyRange ∧ ∃ first, builder.pending = .rangeFrom first ∧ dashCode < first) ∨
      e = .ofCause .setAtRangeStart ∧ builder.pending = .set := by
  cases h : builder.pending with
  | nothing => simp [pushDash, pushChar, h]
  | literal code => simp [pushDash, h]
  | set => simp [pushDash, h, eq_comm]
  | rangeFrom first =>
    rw [pushDash, h]
    simp [pushChar_eq_error_iff, h]

theorem pushSet_eq_error_iff {s : RangeSet} {e : CompileError} :
    builder.pushSet s = .error e ↔
      e = .ofCause .setAtRangeEnd ∧ ∃ first, builder.pending = .rangeFrom first := by
  cases h : builder.pending with
  | rangeFrom first => simp [pushSet, h, eq_comm]
  | _ => simp [pushSet, h]

/-- Why a member is refused. -/
def refusals : List Cause := [.emptyRange, .setAtRangeStart, .setAtRangeEnd]

theorem exists_refusal_of_push {e : CompileError} (h : builder.push member = .error e) :
    ∃ cause ∈ refusals, e = .ofCause cause := by
  cases member with
  | char code => exact ⟨.emptyRange, by decide, (pushChar_eq_error_iff.mp h).1⟩
  | dash =>
    rcases pushDash_eq_error_iff.mp h with ⟨he, -⟩ | ⟨he, -⟩
    · exact ⟨.emptyRange, by decide, he⟩
    · exact ⟨.setAtRangeStart, by decide, he⟩
  | set s => exact ⟨.setAtRangeEnd, by decide, (pushSet_eq_error_iff.mp h).1⟩

theorem pending_of_push (h : builder.push member = .ok next) :
    next.pending = builder.pending.after member := by
  obtain ⟨set, pending⟩ := builder
  cases pending with
  | rangeFrom first =>
    cases member with
    | set s => cases h
    | char code | dash =>
      simp only [push, pushDash, pushChar] at h
      split at h
      · cases h
      · obtain rfl := Except.ok.inj h
        rfl
  | _ => cases member <;> cases h <;> rfl

/-- What a builder has pending is what its members leave open. -/
theorem pending_of_pushAll (h : pushAll {} members = .ok builder) :
    builder.pending = openEnd members := by
  induction members using List.reverseRecOn generalizing builder with
  | nil =>
    obtain rfl := Except.ok.inj h
    rfl
  | append_singleton members member ih =>
    obtain ⟨before, hbefore, hlast⟩ := pushAll_concat.mp h
    rw [pending_of_push hlast, ih hbefore, openEnd_concat]

/-- A set is pending exactly if it has come last. -/
theorem pending_eq_set_iff (h : pushAll {} members = .ok builder) :
    builder.pending = .set ↔ ∃ s, members.getLast? = some (.set s) := by
  rcases List.eq_nil_or_concat members with rfl | ⟨front, last, rfl⟩
  · obtain rfl := Except.ok.inj h
    simp
  · rw [List.concat_eq_append] at h ⊢
    obtain ⟨before, -, hlast⟩ := pushAll_concat.mp h
    rw [pending_of_push hlast]
    cases last with
    | set s =>
      cases hpending : before.pending with
      | rangeFrom first => simp [push, pushSet, hpending] at hlast
      | _ => simp [Pending.after]
    | char code | dash => cases before.pending <;> simp [Pending.after]

end ClassBuilder

namespace TaggedBuilder
open ClassMember

variable {builder : TaggedBuilder}

/-! ### Sequences of offers -/

theorem Linked.untag_offerAll (h : builder.Linked) (members : List ClassMember) :
    (offerAll offer builder members).Linked ∧
      (offerAll offer builder members).untag =
        offerAll ClassBuilder.offer builder.untag members := by
  induction members generalizing builder with
  | nil => exact ⟨h, rfl⟩
  | cons member rest ih =>
    obtain ⟨-, huntag, hlinked, -⟩ := agrees h member
    obtain ⟨hlast, hrest⟩ := ih hlinked
    rw [huntag] at hrest
    exact ⟨hlast, hrest⟩

theorem Linked.answers_eq (h : builder.Linked) (members : List ClassMember) :
    answers offer builder members = answers ClassBuilder.offer builder.untag members := by
  induction members generalizing builder with
  | nil => rfl
  | cons member rest ih =>
    obtain ⟨hanswer, huntag, hlinked, -⟩ := agrees h member
    rw [answers, answers, hanswer, ih hlinked, huntag]

theorem Linked.accepted_eq (h : builder.Linked) (members : List ClassMember) :
    accepted offer builder members = accepted ClassBuilder.offer builder.untag members := by
  induction members generalizing builder with
  | nil => rfl
  | cons member rest ih =>
    obtain ⟨hanswer, huntag, hlinked, -⟩ := agrees h member
    rw [accepted, accepted, hanswer, ih hlinked, huntag]

/-- The tag and the pending member say what the accepted members leave open. -/
theorem Linked.untag_pending_iff (h : builder.Linked) {first : Nat} :
    builder.untag.pending = .rangeFrom first ↔
      builder.stage = .range ∧ builder.pending = .literal first := by
  obtain ⟨set, stage, pending⟩ := builder
  cases h <;> simp [untag]

/-- Which pushes are refused once the members `history` have been accepted, and why. -/
structure Refuses (builder : TaggedBuilder) (history : List ClassMember) : Prop where
  range : ∀ first, openEnd history = .rangeFrom first ↔
    builder.stage = .range ∧ builder.pending = .literal first
  char : ∀ code e, (builder.offer (.char code)).1 = some e ↔
    e = .ofCause .emptyRange ∧ ∃ first, openEnd history = .rangeFrom first ∧ code < first
  dash : ∀ e, (builder.offer .dash).1 = some e ↔
    (e = .ofCause .emptyRange ∧ ∃ first, openEnd history = .rangeFrom first ∧ 0x2D < first) ∨
    e = .ofCause .setAtRangeStart ∧ ∃ s, history.getLast? = some (.set s)
  set : ∀ s e, (builder.offer (.set s)).1 = some e ↔
    e = .ofCause .setAtRangeEnd ∧ ∃ first, openEnd history = .rangeFrom first

theorem refuses_of_linked (hlinked : builder.Linked) {history : List ClassMember}
    (h : ClassBuilder.pushAll {} history = .ok builder.untag) : builder.Refuses history where
  range := by
    intro first
    rw [← ClassBuilder.pending_of_pushAll h, hlinked.untag_pending_iff]
  char := by
    intro code e
    rw [(agrees hlinked _).answer, ClassBuilder.offer_eq_some_iff,
      ← ClassBuilder.pending_of_pushAll h]
    exact ClassBuilder.pushChar_eq_error_iff
  dash := by
    intro e
    rw [(agrees hlinked _).answer, ClassBuilder.offer_eq_some_iff,
      ← ClassBuilder.pending_of_pushAll h, ← ClassBuilder.pending_eq_set_iff h]
    exact ClassBuilder.pushDash_eq_error_iff
  set := by
    intro s e
    rw [(agrees hlinked _).answer, ClassBuilder.offer_eq_some_iff,
      ← ClassBuilder.pending_of_pushAll h]
    exact ClassBuilder.pushSet_eq_error_iff

/-- After any pushes, refused ones among them, a further push that is refused changes nothing: what
follows is answered, and the set finished, as without it. A literal is refused exactly as the end of
a range that begins above it, a dash also behind a set, and a set exactly as the end of a range. -/
theorem refused_push_without_trace (pushed : List ClassMember) :
    (offerAll offer {} pushed).Refuses (accepted offer {} pushed) ∧
    (∀ member e, ((offerAll offer {} pushed).offer member).1 = some e →
      ((offerAll offer {} pushed).offer member).2 = offerAll offer {} pushed ∧
      ∀ further,
        (answers offer {} (pushed ++ member :: further)).eraseIdx pushed.length =
          answers offer {} (pushed ++ further) ∧
        ∀ negated, (offerAll offer {} (pushed ++ member :: further)).finish negated =
          (offerAll offer {} (pushed ++ further)).finish negated) ∧
    answers offer {} pushed = answers ClassBuilder.offer {} pushed ∧
    ∀ negated, (offerAll offer {} pushed).finish negated =
      (offerAll ClassBuilder.offer {} pushed).finish negated := by
  obtain ⟨hlinked, huntag⟩ := linked_new.untag_offerAll pushed
  have hhistory : ClassBuilder.pushAll {} (accepted offer {} pushed) =
      .ok (offerAll offer {} pushed).untag := by
    rw [linked_new.accepted_eq, huntag]
    exact ClassBuilder.pushAll_accepted {} pushed
  refine ⟨refuses_of_linked hlinked hhistory, fun member e he => ?_, linked_new.answers_eq pushed,
    fun negated => ?_⟩
  · have hsame := (agrees hlinked member).unchanged e he
    refine ⟨hsame, fun further => ⟨answers_eraseIdx hsame further, fun negated => ?_⟩⟩
    rw [offerAll_append, offerAll_append, offerAll, List.foldl_cons, hsame]
    rfl
  · rw [finish_untag hlinked, huntag]
    rfl

end TaggedBuilder
end UnicodeClasses
