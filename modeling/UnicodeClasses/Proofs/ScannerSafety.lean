import UnicodeClasses.Proofs.ScannerPositions

/-!
# The scanner stays between characters, moves on and stops

Each turn of the loop over the members either ends the scan or moves the position forward to another
boundary between two characters. A scan therefore comes to an end on every text, with no check of
the scanner failing on the way, and its end is where the readers end.
-/
namespace UnicodeClasses
namespace Scan

variable {registry : Registry} {options : Options} {text rest : List Char} {pos : Nat}

/-! ### One turn -/

section Turn

variable {builder : ClassBuilder}

theorem run_turn_nil (h : sliceFrom? text pos = some []) :
    (turn registry options text builder).run pos = .error (.refused (.ofCause .unclosedClass)) := by
  rw [turn, run_bind_ok (run_nextChar_nil h)]
  rfl

theorem run_turn_close (h : sliceFrom? text pos = some (']' :: rest)) :
    (turn registry options text builder).run pos = .ok (none, pos + 1) := by
  rw [turn, run_bind_ok (run_nextChar_cons h)]
  rfl

/-- A turn that is not the last pushes what the readers push and stands where they have got to. -/
theorem tracks_turn (registry : Registry) (options : Options) (builder : ClassBuilder) {c : Char}
    (hc : c ≠ ']') (h : sliceFrom? text pos = some (c :: rest)) :
    Tracks text ((turn registry options text builder).run pos)
      (ClassItem.read options c rest >>= fun (item, after) =>
        (builder.pushItem registry item).map fun next => (some next, after)) := by
  have hitem := tracks_item options h
  rw [turn, run_bind_ok (run_nextChar_cons h)]
  simp only [if_neg hc]
  generalize hscan : (scanItem options text c).run (pos + c.utf8Size) = scan at hitem
  generalize ClassItem.read options c rest = read at hitem ⊢
  cases hitem with
  | refused e =>
    rw [run_bind_error hscan]
    exact .refused e
  | ok item hafter =>
    rw [run_bind_ok hscan]
    simp only [ok_bind]
    cases builder.pushItem registry item with
    | error e => exact .refused e
    | ok next => exact .ok (some next) hafter

/-- A turn that succeeds either takes the closing bracket and gives no builder, or has read and
pushed an item and stands at what the reader has left. -/
theorem turn_eq_ok {next : Option ClassBuilder} {stop : Nat} (h : sliceFrom? text pos = some rest)
    (hturn : (turn registry options text builder).run pos = .ok (next, stop)) :
    (next = none ∧ ∃ after, rest = ']' :: after ∧ stop = pos + 1) ∨
      ∃ c following item after pushed, rest = c :: following ∧
        ClassItem.read options c following = .ok (item, after) ∧ next = some pushed ∧
        sliceFrom? text stop = some after := by
  cases rest with
  | nil =>
    rw [run_turn_nil h] at hturn
    exact nomatch hturn
  | cons c following =>
    by_cases hc : c = ']'
    · subst hc
      rw [run_turn_close h] at hturn
      obtain ⟨rfl, rfl⟩ := Prod.mk.inj (Except.ok.inj hturn)
      exact .inl ⟨rfl, following, rfl, rfl⟩
    · have htracks := hturn ▸ tracks_turn registry options builder hc h
      obtain ⟨after, hread, hstop⟩ := htracks.of_ok
      obtain ⟨⟨item, left⟩, hitem, hpush⟩ := bind_eq_ok_iff.mp hread
      obtain ⟨pushed, -, hpair⟩ := map_eq_ok_iff.mp hpush
      obtain ⟨rfl, rfl⟩ := Prod.mk.inj hpair
      exact .inr ⟨c, following, item, left, pushed, rfl, hitem, rfl, hstop⟩

/-- A turn moves on, to another place between two characters. -/
theorem turn_advances {next : Option ClassBuilder} {stop : Nat}
    (h : sliceFrom? text pos = some rest)
    (hturn : (turn registry options text builder).run pos = .ok (next, stop)) :
    pos < stop ∧ ∃ after, sliceFrom? text stop = some after := by
  rcases turn_eq_ok h hturn with
    ⟨-, after, rfl, rfl⟩ | ⟨c, following, item, after, -, rfl, hitem, -, hstop⟩
  · exact ⟨Nat.lt_succ_self pos, after, sliceFrom?_cons h⟩
  · refine ⟨?_, after, hstop⟩
    obtain ⟨inner, rfl⟩ := (ClassItem.settled_read options following c item after hitem).1
    have hbefore := byteSize_of_sliceFrom? h
    have hafter := byteSize_of_sliceFrom? hstop
    have := c.utf8Size_pos
    rw [byteSize_cons, byteSize_append] at hbefore
    omega

end Turn

/-! ### The loop -/

section Loop

variable {builder : ClassBuilder} {trail : List Nat}
  {outcome : Except ScanFault (ClassBuilder × Nat)}

/-- From every place between two characters the loop comes to an end, and to the end of the
readers. -/
theorem exists_runs (registry : Registry) (options : Options)
    (h : sliceFrom? text pos = some rest) (builder : ClassBuilder) :
    ∃ trail outcome, Runs registry options text builder pos trail outcome ∧
      Tracks text outcome (builder.collect registry options rest) := by
  fun_induction ClassBuilder.collect registry options builder rest generalizing pos with
  | case1 builder => exact ⟨_, _, .fault (run_turn_nil h), .refused _⟩
  | case2 builder after => exact ⟨_, _, .closed (run_turn_close h), .ok builder (sliceFrom?_cons h)⟩
  | case3 builder c following hc e hread =>
    have hturn := tracks_turn registry options builder hc h
    rw [hread] at hturn
    exact ⟨_, _, .fault hturn.of_error, .refused e⟩
  | case4 builder c following hc item after hread e hpush =>
    have hturn := tracks_turn registry options builder hc h
    simp only [hread, ok_bind, hpush] at hturn
    exact ⟨_, _, .fault hturn.of_error, .refused e⟩
  | case5 builder c following hc item after hread next hpush ih =>
    have hturn := tracks_turn registry options builder hc h
    simp only [hread, ok_bind, hpush] at hturn
    obtain ⟨stop, hrun, hafter⟩ := hturn.exists_of_ok
    obtain ⟨trail, outcome, hruns, htracks⟩ := ih hafter
    exact ⟨_, _, .member hrun hruns, htracks⟩

/-- The loop is determined by where it starts. -/
theorem Runs.unique {trail' : List Nat} {outcome' : Except ScanFault (ClassBuilder × Nat)}
    (h : Runs registry options text builder pos trail outcome)
    (h' : Runs registry options text builder pos trail' outcome') :
    trail' = trail ∧ outcome' = outcome := by
  induction h generalizing trail' outcome' with
  | fault hturn =>
    cases h' <;> simp_all
  | closed hturn =>
    cases h' <;> simp_all
  | member hturn hrun ih =>
    cases h' with
    | fault hturn' => simp_all
    | closed hturn' => simp_all
    | member hturn' hrun' =>
      rw [hturn] at hturn'
      obtain ⟨hnext, rfl⟩ := Prod.mk.inj (Except.ok.inj hturn')
      obtain rfl := Option.some.inj hnext
      obtain ⟨rfl, rfl⟩ := ih hrun'
      exact ⟨rfl, rfl⟩

/-- The positions of the loop lie between characters, from its start on, and ascend. -/
theorem Runs.ascends (hrun : Runs registry options text builder pos trail outcome)
    (h : sliceFrom? text pos = some rest) :
    trail.Pairwise (· < ·) ∧ ∀ p ∈ trail, pos ≤ p ∧ ∃ after, sliceFrom? text p = some after := by
  induction hrun generalizing rest with
  | fault hturn =>
    refine ⟨List.pairwise_singleton _ _, fun p hp => ?_⟩
    obtain rfl := List.mem_singleton.mp hp
    exact ⟨Nat.le_refl _, rest, h⟩
  | closed hturn =>
    obtain ⟨hlt, after, hstop⟩ := turn_advances h hturn
    refine ⟨List.pairwise_pair.mpr hlt, ?_⟩
    simp only [List.mem_cons, List.not_mem_nil, or_false]
    rintro p (rfl | rfl)
    · exact ⟨Nat.le_refl _, rest, h⟩
    · exact ⟨Nat.le_of_lt hlt, after, hstop⟩
  | member hturn hrun ih =>
    obtain ⟨hlt, after, hstop⟩ := turn_advances h hturn
    obtain ⟨hpairwise, htrail⟩ := ih hstop
    refine ⟨List.pairwise_cons.mpr ⟨fun p hp => Nat.lt_of_lt_of_le hlt (htrail p hp).1, hpairwise⟩,
      List.forall_mem_cons.mpr ⟨⟨Nat.le_refl _, rest, h⟩, fun p hp => ?_⟩⟩
    obtain ⟨hle, hcut⟩ := htrail p hp
    exact ⟨Nat.le_trans (Nat.le_of_lt hlt) hle, hcut⟩

/-- A loop that ends well has just taken a closing bracket. -/
theorem Runs.closes {last : ClassBuilder} {stop : Nat}
    (hrun : Runs registry options text builder pos trail (.ok (last, stop)))
    (h : sliceFrom? text pos = some rest) :
    ∃ before after, text = before ++ ']' :: after ∧ pos ≤ byteSize before ∧
      byteSize before + 1 = stop := by
  generalize houtcome : (Except.ok (last, stop) : Except ScanFault (ClassBuilder × Nat)) = outcome
    at hrun
  induction hrun generalizing rest with
  | fault hturn => exact nomatch houtcome
  | closed hturn =>
    obtain ⟨rfl, rfl⟩ := Prod.mk.inj (Except.ok.inj houtcome)
    rcases turn_eq_ok h hturn with ⟨-, after, rfl, rfl⟩ | ⟨_, _, _, _, _, -, -, hnone, -⟩
    · obtain ⟨before, rfl, rfl⟩ := sliceFrom?_eq_some_iff.mp h
      exact ⟨before, after, rfl, Nat.le_refl _, rfl⟩
    · exact nomatch hnone
  | member hturn hrun ih =>
    obtain ⟨hlt, after, hstop⟩ := turn_advances h hturn
    obtain ⟨before, after, htext, hle, hsize⟩ := ih hstop houtcome
    exact ⟨before, after, htext, Nat.le_trans (Nat.le_of_lt hlt) hle, hsize⟩

end Loop

/-! ### Whole expressions -/

/-- The opening bracket and the sign of a negation are taken where the readers find them. -/
theorem tracks_opening (text : List Char) :
    Tracks text ((opening text).run 0)
      (match BracketClass.opened? text with
        | none => .error (.ofCause .notAClass)
        | some opened => .ok opened) := by
  unfold opening
  split
  · rename_i hother
    have hnone : BracketClass.opened? text = none := by
      unfold BracketClass.opened?
      split <;> first | contradiction | rfl
    rw [hnone]
    exact .refused _
  · rename_i hopen
    obtain ⟨body, rfl⟩ := List.head?_eq_some_iff.mp (by simpa using hopen)
    have hbody : sliceFrom? ('[' :: body) 1 = some body := sliceFrom?_append ['['] body
    rw [run_bind_ok (run_moveTo hbody), run_bind_ok (run_peek hbody)]
    by_cases hmark : body.head? = some '^'
    · obtain ⟨marked, rfl⟩ := List.head?_eq_some_iff.mp hmark
      have hmarked : sliceFrom? ('[' :: '^' :: marked) (1 + 1) = some marked :=
        sliceFrom?_cons hbody
      rw [if_pos (by simp), run_bind_ok (run_advance hmarked)]
      exact .ok true hmarked
    · rw [if_neg (by simpa using hmark), BracketClass.opened?_eq_some.mpr (.plain hmark)]
      exact .ok false hbody

/-- The members begin behind the opening bracket. -/
theorem opening_eq_ok {negated : Bool} (h : (opening text).run 0 = .ok (negated, pos)) :
    1 ≤ pos ∧ ∃ body, sliceFrom? text pos = some body := by
  obtain ⟨body, hopened, hbody⟩ := (h ▸ tracks_opening text).of_ok
  refine ⟨?_, body, hbody⟩
  have hsize := byteSize_of_sliceFrom? hbody
  split at hopened
  · exact nomatch hopened
  · rename_i opened hsome
    obtain rfl := Except.ok.inj hopened
    cases BracketClass.opened?_eq_some.mp hsome with
    | plain =>
      rw [byteSize_cons, utf8Size_eq_one (by decide)] at hsize
      omega
    | marked =>
      rw [byteSize_cons, utf8Size_eq_one (by decide)] at hsize
      rw [byteSize_cons, utf8Size_eq_one (by decide)] at hsize
      omega

/-- Every text is scanned to an end, and to the end of the readers. The length of the expression
is the position where they get to. -/
theorem exists_scans (registry : Registry) (options : Options) (text : List Char) :
    ∃ trail outcome, Scans registry options text trail outcome ∧
      Tracks text (outcome.map fun bracket => (bracket, bracket.length))
        (BracketClass.read registry options text) := by
  have hopening := tracks_opening text
  unfold BracketClass.read
  cases hopened : BracketClass.opened? text with
  | none =>
    rw [hopened] at hopening
    exact ⟨_, _, .unopened hopening.of_error, .refused _⟩
  | some opened =>
    obtain ⟨negated, body⟩ := opened
    rw [hopened] at hopening
    obtain ⟨pos, hrun, hbody⟩ := hopening.exists_of_ok
    obtain ⟨trail, outcome, hruns, htracks⟩ := exists_runs registry options hbody {}
    simp only
    generalize ClassBuilder.collect registry options {} body = collected at htracks ⊢
    cases htracks with
    | refused e => exact ⟨_, _, .opened hrun hruns, .refused e⟩
    | @ok builder stop rest hstop =>
      have hlength : byteSize text - byteSize rest = stop := by
        have := byteSize_of_sliceFrom? hstop
        omega
      refine ⟨_, _, .opened hrun hruns, ?_⟩
      simp only [ok_bind, hlength]
      exact .ok _ hstop

theorem Scans.unique {trail trail' : List Nat} {outcome outcome' : Except ScanFault BracketClass}
    (h : Scans registry options text trail outcome)
    (h' : Scans registry options text trail' outcome') : trail' = trail ∧ outcome' = outcome := by
  cases h with
  | unopened hopen => cases h' <;> simp_all
  | opened hopen hrun =>
    cases h' with
    | unopened hopen' => simp_all
    | opened hopen' hrun' =>
      obtain ⟨rfl, rfl⟩ := Prod.mk.inj (Except.ok.inj (hopen.symm.trans hopen'))
      obtain ⟨rfl, rfl⟩ := hrun.unique hrun'
      exact ⟨rfl, rfl⟩

/-- The positions of a scan lie between characters and ascend. -/
theorem Scans.ascends {trail : List Nat} {outcome : Except ScanFault BracketClass}
    (h : Scans registry options text trail outcome) :
    trail.Pairwise (· < ·) ∧ ∀ p ∈ trail, ∃ after, sliceFrom? text p = some after := by
  cases h with
  | unopened hopen => exact ⟨.nil, fun _ hp => nomatch hp⟩
  | opened hopen hrun =>
    obtain ⟨-, body, hbody⟩ := opening_eq_ok hopen
    obtain ⟨hpairwise, htrail⟩ := hrun.ascends hbody
    exact ⟨hpairwise, fun p hp => (htrail p hp).2⟩

/-- An expression that is scanned ends with its closing bracket, which is not its first byte. -/
theorem Scans.closes {trail : List Nat} {bracket : BracketClass}
    (h : Scans registry options text trail (.ok bracket)) :
    ∃ before after, text = before ++ ']' :: after ∧ 1 ≤ byteSize before ∧
      byteSize before + 1 = bracket.length := by
  generalize houtcome : (Except.ok bracket : Except ScanFault BracketClass) = outcome at h
  cases h with
  | unopened hopen => exact nomatch houtcome
  | @opened negated pos _ outcome hopen hrun =>
    obtain ⟨⟨builder, stop⟩, rfl, rfl⟩ := map_eq_ok_iff.mp houtcome.symm
    obtain ⟨hpos, body, hbody⟩ := opening_eq_ok hopen
    obtain ⟨before, after, htext, hle, hstop⟩ := hrun.closes hbody
    exact ⟨before, after, htext, Nat.le_trans hpos hle, hstop⟩

end Scan

/-- The scanner is safe on a pattern. -/
structure ScansSafely (registry : Registry) (options : Options) (pattern : String) : Prop where
  /-- The scan comes to an end, in one way only. -/
  terminates : ∃ trail outcome, Scan.Scans registry options pattern.toList trail outcome ∧
    ∀ trail' outcome', Scan.Scans registry options pattern.toList trail' outcome' →
      trail' = trail ∧ outcome' = outcome
  /-- No cut, index or move is behind the end of a text or into a character. -/
  inBounds : ∀ trail outcome, Scan.Scans registry options pattern.toList trail outcome →
    outcome ≠ .error .outOfBounds
  /-- Each turn of the loop moves on, from one place between two characters to another. -/
  ascends : ∀ trail outcome, Scan.Scans registry options pattern.toList trail outcome →
    trail.Pairwise (· < ·) ∧
      ∀ pos ∈ trail, String.Pos.Raw.IsValid pattern ⟨pos⟩ ∧ pos ≤ pattern.utf8ByteSize
  /-- Where no escaped trail surrogate follows the digits of a code unit, the look for one leaves
  the position just behind these digits. -/
  restores : ∀ pos lead rest after, sliceFrom? pattern.toList pos = some rest →
    readHex? 4 rest = some (lead, after) → ClassItem.readTrail? after = none →
      (Scan.scanUnit options pattern.toList).run pos = .ok (some lead, pos + 4)
  /-- A pattern is refused as the reader refuses it. -/
  refuses : ∀ trail e, Scan.Scans registry options pattern.toList trail (.error (.refused e)) →
    BracketClass.read registry options pattern.toList = .error e
  /-- An expression ends at a place between two characters, directly behind its closing bracket. Cut
  there, the pattern leaves the text that the reader leaves. -/
  closes : ∀ trail bracket, Scan.Scans registry options pattern.toList trail (.ok bracket) →
    1 < bracket.length ∧ bracket.length ≤ pattern.utf8ByteSize ∧
      String.Pos.Raw.IsValid pattern ⟨bracket.length⟩ ∧
      pattern.toUTF8.data.toList[bracket.length - 1]? = some 0x5D ∧
      ∃ rest, sliceFrom? pattern.toList bracket.length = some rest ∧
        BracketClass.read registry options pattern.toList = .ok (bracket, rest)

/-- Every pattern is scanned safely, whatever the options and the registry are. -/
theorem scansSafely (registry : Registry) (options : Options) (pattern : String) :
    ScansSafely registry options pattern := by
  obtain ⟨trail, outcome, hscan, htracks⟩ := Scan.exists_scans registry options pattern.toList
  have hsize := byteSize_toList pattern
  constructor
  · exact ⟨trail, outcome, hscan, fun _ _ h => hscan.unique h⟩
  · rintro _ _ h rfl
    obtain ⟨-, rfl⟩ := hscan.unique h
    exact nomatch htracks
  · intro trail outcome h
    obtain ⟨hpairwise, htrail⟩ := h.ascends
    refine ⟨hpairwise, fun pos hpos => ?_⟩
    obtain ⟨after, hafter⟩ := htrail pos hpos
    have := byteSize_of_sliceFrom? hafter
    exact ⟨exists_sliceFrom?_iff.mp ⟨after, hafter⟩, by omega⟩
  · exact fun _ _ _ _ hrest hread htrail => Scan.run_scanUnit_alone hrest hread htrail
  · intro _ e h
    obtain ⟨-, rfl⟩ := hscan.unique h
    exact htracks.of_refused
  · intro _ bracket h
    obtain ⟨before, after, htext, hbefore, hlength⟩ := h.closes
    obtain ⟨-, rfl⟩ := hscan.unique h
    obtain ⟨rest, hread, hrest⟩ := htracks.of_ok
    have hstop := byteSize_of_sliceFrom? hrest
    refine ⟨by omega, by omega, exists_sliceFrom?_iff.mp ⟨rest, hrest⟩, ?_, rest, hrest, hread⟩
    rw [← bytesOf_toList, htext, ← hlength, Nat.add_sub_cancel]
    exact getElem?_bytesOf (by decide) before after

end UnicodeClasses
