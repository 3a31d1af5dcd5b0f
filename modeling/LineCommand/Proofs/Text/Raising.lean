import LineCommand.Proofs.Text.Lowering

/-! Lowering a text that was raised. A character comes back in lower case, or what it was raised to keeps
a word character that its lower case does not have. A sigma comes back in the form that its place asks
for. So of a raised text the same word characters count in lower case as of the text itself exactly when
every character returns to its own lower case and every small sigma stands where lowering puts it. -/
namespace LineCommand.Text

/-! ### What raising does to a character -/

/-- Whether a code point is sent to a letter in lower case. -/
def lowersToLetter (n : Nat) : Bool := (lowerMap.spot? n).any fun m => letterRanges.covers m m

/-- What is to be known of a run of letters that are raised. Its points are moved back as a whole, or each
is moved to a letter; and they have case before and behind, but for the iota written below. -/
def CaseRun.raises (run : CaseRun) : Bool :=
  run.lands &&
  (lowerMap.shift? run.image == some (-run.distance) ||
    run.points.all fun n => lowersToLetter (n + run.distance).toNat) &&
  ((run.first.beq 0x345 && run.last.beq 0x345) ||
    (run.within casedRanges && run.image.within casedRanges))

theorem upperMap_raises : upperMap.all CaseRun.raises = true := by decide +kernel

/-- What is to be known of a letter that is raised to several characters. The lower case of none of them
depends on the place, and that of some letter among them is not the lower case of the letter. -/
def expandsApart : Nat × List Nat → Bool
  | (n, codes) =>
    -- asked backwards, as the last code points are the lowest and so the soonest found
    codes.all (fun m => m.blt 0xD800 && !m.beq 0x3A3 && !m.beq 0x130) && codes.reverse.any fun m =>
      match lowerMap.spot? m, lowerMap.spot? n with
      | some x, some y => !x.beq y && letterRanges.covers x x
      | _, _ => false

theorem upperExpansions_apart : upperExpansions.all expandsApart = true := by decide +kernel

/-- Nothing but a sigma is raised to the capital sigma, and nothing else to the dotted capital I. -/
theorem upperMap_capitals : upperMap.sources 0x3A3 = [0x3C2, 0x3C3] ∧ upperMap.sources 0x130 = [] ∧
    upperMap.char 'İ' = 'İ' ∧ upperChar 'İ' = ['İ'] := by decide +kernel

theorem sigma_cases :
    (upperChar 'Σ' = ['Σ'] ∧ upperChar 'σ' = ['Σ'] ∧ upperChar 'ς' = ['Σ']) ∧
    (lowerChar 'Σ' = ['σ'] ∧ lowerChar 'σ' = ['σ'] ∧ lowerChar 'ς' = ['ς']) ∧
    isWordChar 'σ' = true ∧ isWordChar 'ς' = true := by decide +kernel

variable {run : CaseRun} {c : Char} {cs xs ys before before' rest rest' : List Char}

theorem raises_of_mem (listed : run ∈ upperMap) : run.lands = true ∧
    (lowerMap.shift? run.image = some (-run.distance) ∨
      run.points.all (fun n => lowersToLetter (n + run.distance).toNat) = true) ∧
    (run.first = 0x345 ∧ run.last = 0x345 ∨
      run.within casedRanges = true ∧ run.image.within casedRanges = true) := by
  simpa only [CaseRun.raises, Bool.and_eq_true, Bool.or_eq_true, beq_iff_eq, Nat.beq_eq, and_assoc]
    using List.all_eq_true.mp upperMap_raises run listed

theorem upperMap_lands : upperMap.all CaseRun.lands = true :=
  List.all_eq_true.mpr fun _ listed => (raises_of_mem listed).1

theorem upperMap_toNat (c : Char) : (upperMap.char c).toNat = upperMap.apply c.toNat :=
  CaseMap.toNat_char upperMap_lands c

theorem lowerMap_toNat (c : Char) : (lowerMap.char c).toNat = lowerMap.apply c.toNat :=
  CaseMap.toNat_char lowerMap_lands c

theorem isWordChar_of_covers {m : Nat} (sent : lowerMap.apply c.toNat = m)
    (covers : letterRanges.covers m m = true) : isWordChar (lowerMap.char c) = true := by
  have letter : isLetter (lowerMap.char c) = true := by
    rw [isLetter, lowerMap_toNat, sent]
    exact Ranges.holds_of_covers covers (Nat.le_refl m) (Nat.le_refl m)
  rw [isWordChar, letter]
  rfl

theorem upperChar_cases (c : Char) : upperChar c = [upperMap.char c] ∨
    ∃ codes, (c.toNat, codes) ∈ upperExpansions ∧ upperChar c = codes.map Char.ofNat := by
  cases found : upperExpansions.lookup c.toNat with
  | none => exact .inl (by rw [upperChar, found, CaseMap.char])
  | some codes =>
    obtain ⟨front, back, split, _⟩ := List.lookup_eq_some_iff.mp found
    exact .inr ⟨codes, by rw [split]; simp, by rw [upperChar, found]⟩

theorem apart_of_expands {codes : List Nat} (listed : (c.toNat, codes) ∈ upperExpansions) :
    (∀ u ∈ codes.map Char.ofNat, u ≠ 'Σ' ∧ u ≠ 'İ') ∧
    ∃ u ∈ codes.map Char.ofNat, isWordChar (lowerMap.char u) = true ∧
      lowerMap.char u ≠ lowerMap.char c := by
  obtain ⟨plain, differs⟩ :=
    Bool.and_eq_true_iff.mp (List.all_eq_true.mp upperExpansions_apart _ listed)
  simp only [List.all_eq_true, Bool.and_eq_true, Nat.blt_eq, Bool.not_eq_true'] at plain
  have number : ∀ m ∈ codes, (Char.ofNat m).toNat = m := fun m member =>
    toNat_ofNat (.inl (plain m member).1.1)
  constructor
  · intro u member
    obtain ⟨m, listed, rfl⟩ := List.mem_map.mp member
    obtain ⟨⟨_, capital⟩, undotted⟩ := plain m listed
    rw [← number m listed] at capital undotted
    constructor
    · intro same
      rw [same] at capital
      cases capital
    · intro same
      rw [same] at undotted
      cases undotted
  · obtain ⟨m, member, differs⟩ := List.any_eq_true.mp differs
    split at differs
    case h_1 x y sent sent' =>
      obtain ⟨other, covers⟩ := Bool.and_eq_true_iff.mp differs
      have sent : lowerMap.apply (Char.ofNat m).toNat = x := by
        rw [number m (List.mem_reverse.mp member)]
        exact CaseMap.apply_of_spot? sent
      refine ⟨_, List.mem_map_of_mem (List.mem_reverse.mp member), isWordChar_of_covers sent covers, ?_⟩
      intro same
      have numbers := congrArg Char.toNat same
      rw [lowerMap_toNat, lowerMap_toNat, sent, CaseMap.apply_of_spot? sent'] at numbers
      simp [numbers] at other
    case h_2 => cases differs

/-- What a map sends somewhere else is among the sources of that place. -/
theorem CaseMap.mem_sources {map : CaseMap} {n : Nat} (lands : map.all CaseRun.lands = true)
    (elsewhere : map.apply n ≠ n) : n ∈ map.sources (map.apply n) := by
  obtain stays | ⟨run, listed, moves, moved⟩ := map.apply_cases n
  · exact absurd stays elsewhere
  · have grounded := CaseRun.grounded_of_lands (List.all_eq_true.mp lands run listed)
    obtain ⟨low, _⟩ := CaseRun.moves_iff.mp moves
    have back : ((n + run.distance).toNat : Int) - run.distance = n := by omega
    rw [CaseMap.sources, List.mem_filterMap]
    refine ⟨run, listed, ?_⟩
    simp only [moved, back, Int.toNat_natCast, moves, and_self, if_true]

/-- A character is raised to itself, or it is a source of what it is raised to. -/
theorem eq_or_mem_sources (c : Char) :
    c = upperMap.char c ∨ c.toNat ∈ upperMap.sources (upperMap.char c).toNat := by
  rw [← Char.toNat_inj, upperMap_toNat]
  by_cases stays : upperMap.apply c.toNat = c.toNat
  · exact .inl stays.symm
  · exact .inr (CaseMap.mem_sources upperMap_lands stays)

/-- The three forms of sigma. -/
def IsSigma (c : Char) : Prop := c = 'Σ' ∨ c = 'σ' ∨ c = 'ς'

instance (c : Char) : Decidable (IsSigma c) := inferInstanceAs (Decidable (_ ∨ _))

theorem upperChar_sigma (sigma : IsSigma c) : upperChar c = ['Σ'] := by
  obtain ⟨⟨capital, medial, final⟩, _⟩ := sigma_cases
  obtain rfl | rfl | rfl := sigma
  · exact capital
  · exact medial
  · exact final

theorem isSigma_of_mem_upperChar (member : 'Σ' ∈ upperChar c) : IsSigma c := by
  obtain single | ⟨codes, listed, several⟩ := upperChar_cases c
  · rw [single, List.mem_singleton] at member
    obtain capital | source := eq_or_mem_sources c <;> rw [← member] at *
    · exact .inl capital
    · obtain final | medial := List.mem_pair.mp (upperMap_capitals.1 ▸ source)
      · exact .inr (.inr (Char.toNat_inj.mp final))
      · exact .inr (.inl (Char.toNat_inj.mp medial))
  · rw [several] at member
    exact absurd rfl ((apart_of_expands listed).1 _ member).1

theorem upperMap_char_dotted : upperMap.char c = 'İ' ↔ c = 'İ' := by
  obtain ⟨_, sources, stays, _⟩ := upperMap_capitals
  constructor
  · intro dotted
    obtain same | source := eq_or_mem_sources c <;> rw [dotted] at *
    · exact same
    · cases sources ▸ source
  · rintro rfl
    exact stays

/-! ### Lowering what was raised -/

theorem lowerFrom_append_of_not_mem (plain : 'Σ' ∉ xs) :
    lowerFrom before (xs ++ ys) = xs.flatMap lowerChar ++ lowerFrom (xs.reverse ++ before) ys := by
  induction xs generalizing before with
  | nil => rfl
  | cons x xs ih =>
    obtain ⟨other, others⟩ := List.ne_and_not_mem_of_not_mem_cons plain
    rw [List.cons_append, lowerFrom, if_neg other.symm, ih others, List.flatMap_cons, List.append_assoc,
      List.reverse_cons, List.append_assoc, List.singleton_append]

theorem lower_of_not_mem (plain : 'Σ' ∉ xs) : lower xs = xs.flatMap lowerChar := by
  have whole := @lowerFrom_append_of_not_mem xs [] [] plain
  rwa [List.append_nil, lowerFrom, List.append_nil] at whole

theorem lower_singleton (c : Char) : lower [c] = lowerChar c := by
  by_cases capital : c = 'Σ'
  · have medial : lower ['Σ'] = ['σ'] := rfl
    rw [capital, medial, sigma_cases.2.1.1]
  · have plain : 'Σ' ∉ [c] := by simpa using Ne.symm capital
    rw [lower_of_not_mem plain, List.flatMap_singleton]

/-- A character that is raised to one character is moved back, or to another letter. -/
theorem lowerMap_apply_upperMap (c : Char) :
    lowerMap.apply (upperMap.apply c.toNat) = lowerMap.apply c.toNat ∨
      isWordChar (lowerMap.char (upperMap.char c)) = true := by
  obtain stays | ⟨run, listed, moves, moved⟩ := upperMap.apply_cases c.toNat
  · exact .inl (by rw [stays])
  obtain ⟨lands, back | letters, _⟩ := raises_of_mem listed
  · have returned : lowerMap.apply (upperMap.apply c.toNat) = c.toNat := by
      rw [moved, CaseMap.apply_image lands moves back]
      omega
    exact .inl (by rw [← lowerMap_apply_apply, returned])
  · have letter := List.all_eq_true.mp letters _ (CaseRun.mem_points moves)
    obtain ⟨m, sent, covers⟩ := (Option.any_eq_true _ _).mp letter
    rw [← moved, ← upperMap_toNat] at sent
    exact .inr (isWordChar_of_covers (CaseMap.apply_of_spot? sent) covers)

/-- The character leaves a word character that its own lower case has not. -/
def Leaves (c : Char) : Prop :=
  ∃ x ∈ lower (upperChar c), isWordChar x = true ∧ lowerChar c = [lowerMap.char c] ∧
    x ≠ lowerMap.char c

theorem leaves_of_expands {codes : List Nat} (listed : (c.toNat, codes) ∈ upperExpansions)
    (several : upperChar c = codes.map Char.ofNat) : Leaves c := by
  obtain ⟨plain, u, member, word, differs⟩ := apart_of_expands listed
  rw [← several] at plain member
  have unmixed : 'Σ' ∉ upperChar c := fun capital => (plain _ capital).1 rfl
  have undotted : c ≠ 'İ' := by
    rintro rfl
    rw [upperMap_capitals.2.2.2] at plain
    exact (plain _ List.mem_cons_self).2 rfl
  have lowest : lowerMap.char u ∈ lowerChar u := by
    rw [lowerChar_eq (plain u member).2]
    exact List.mem_singleton_self _
  refine ⟨lowerMap.char u, ?_, word, lowerChar_eq undotted, differs⟩
  rw [lower_of_not_mem unmixed]
  exact List.mem_flatMap.mpr ⟨u, member, lowest⟩

theorem lower_upperChar_of_apply (single : upperChar c = [upperMap.char c])
    (same : lowerMap.apply (upperMap.apply c.toNat) = lowerMap.apply c.toNat) :
    lower (upperChar c) = lowerChar c := by
  rw [single, lower_singleton]
  by_cases dotted : c = 'İ'
  · rw [upperMap_char_dotted.mpr dotted, dotted]
  · have undotted : upperMap.char c ≠ 'İ' := fun raised => dotted (upperMap_char_dotted.mp raised)
    rw [lowerChar_eq dotted, lowerChar_eq undotted, CaseMap.char, upperMap_toNat, same, CaseMap.char]

theorem lower_upperChar_cases (c : Char) : lower (upperChar c) = lowerChar c ∨ Leaves c := by
  obtain single | ⟨codes, listed, several⟩ := upperChar_cases c
  case inr => exact .inr (leaves_of_expands listed several)
  by_cases same : lowerMap.apply (upperMap.apply c.toNat) = lowerMap.apply c.toNat
  · exact .inl (lower_upperChar_of_apply single same)
  · have word := (lowerMap_apply_upperMap c).resolve_left same
    rw [← upperMap_toNat, ← lowerMap_toNat, ← lowerMap_toNat, Char.toNat_inj] at same
    have undotted : c ≠ 'İ' := by
      rintro rfl
      exact same (by rw [upperMap_capitals.2.2.1])
    have undotted' : upperMap.char c ≠ 'İ' := fun raised => undotted (upperMap_char_dotted.mp raised)
    refine .inr ⟨lowerMap.char (upperMap.char c), ?_, word, lowerChar_eq undotted, same⟩
    rw [single, lower_singleton, lowerChar_eq undotted']
    exact List.mem_singleton_self _

/-! ### Case around a character -/

/-- What has case is not passed over. -/
theorem casedRanges_apart : casedRanges.apart caseIgnorableRanges = true ∧
    casedRanges.IsChain fun a b => a.1 ≤ b.1 := by decide +kernel

theorem upperMap_char_cases (c : Char) : upperMap.char c = c ∨ c = Char.ofNat 0x345 ∨
    casedRanges.holds c.toNat = true ∧ casedRanges.holds (upperMap.char c).toNat = true := by
  rw [upperMap_toNat]
  obtain stays | ⟨run, listed, moves, moved⟩ := upperMap.apply_cases c.toNat
  · exact .inl (by rw [CaseMap.char, stays, Char.ofNat_toNat])
  obtain ⟨lands, _, iota | ⟨here, there⟩⟩ := raises_of_mem listed
  · obtain ⟨low, high, _⟩ := CaseRun.moves_iff.mp moves
    exact .inr (.inl (by rw [← Char.ofNat_toNat c, show c.toNat = 0x345 by omega]))
  · have grounded := CaseRun.grounded_of_lands lands
    rw [moved]
    exact .inr (.inr ⟨CaseRun.holds_of_within here moves,
      CaseRun.holds_of_within there (CaseRun.image_moves grounded moves)⟩)

theorem casedAhead_of_cased (cased : casedRanges.holds c.toNat = true) (cs : List Char) :
    casedAhead (c :: cs) = true := by
  obtain ⟨apart, ordered⟩ := casedRanges_apart
  obtain ⟨range, listed, low, high⟩ := Ranges.exists_of_holds cased
  have seen := Ranges.not_holds_of_apart apart (List.isChain_iff_pairwise.mp ordered) listed low high
  rw [casedAhead, seen, cased]
  rfl

theorem casedAhead_cons (same : casedAhead xs = casedAhead ys) (c : Char) :
    casedAhead (c :: xs) = casedAhead (c :: ys) := by
  rw [casedAhead, casedAhead, same]

/-- The character returns to its own lower case, or it is the sigma that depends on its place. -/
def Steady (c : Char) : Prop := c = 'ς' ∨ lower (upperChar c) = lowerChar c

theorem Steady.upperChar_eq (steady : Steady c) : upperChar c = [upperMap.char c] := by
  obtain single | ⟨codes, listed, several⟩ := upperChar_cases c
  · exact single
  obtain rfl | returns := steady
  · rw [upperChar_sigma (.inr (.inr rfl))] at several
    exact absurd rfl ((apart_of_expands listed).1 'Σ' (several ▸ List.mem_singleton_self _)).1
  · obtain ⟨x, member, _, lowest, differs⟩ := leaves_of_expands listed several
    rw [returns, lowest] at member
    exact absurd (List.mem_singleton.mp member) differs

/-- What a steady character is raised to is seen from elsewhere as the character is. -/
theorem Steady.casedAhead_eq (steady : Steady c) (cs : List Char) :
    casedAhead (upperMap.char c :: cs) = casedAhead (c :: cs) := by
  obtain stays | iota | ⟨here, there⟩ := upperMap_char_cases c
  · rw [stays]
  · -- the one character without case that is raised becomes a letter, so that it does not return
    subst iota
    have parts : ¬ lower (upperChar (Char.ofNat 0x345)) = lowerChar (Char.ofNat 0x345) := by
      decide +kernel
    exact absurd (steady.resolve_left (by decide)) parts
  · rw [casedAhead_of_cased here, casedAhead_of_cased there]

theorem casedAhead_upper (steady : ∀ c ∈ cs, Steady c) : casedAhead (upper cs) = casedAhead cs := by
  induction cs with
  | nil => rfl
  | cons c cs ih =>
    obtain ⟨here, others⟩ := List.forall_mem_cons.mp steady
    rw [upper, List.flatMap_cons, here.upperChar_eq, List.singleton_append, here.casedAhead_eq]
    exact casedAhead_cons (ih others) c

/-! ### Texts -/

/-- The form of a sigma between what stands before it, read backwards, and the rest. -/
def sigmaForm (before rest : List Char) : Char :=
  if casedAhead before && !casedAhead rest then 'ς' else 'σ'

def loweredAt (before : List Char) (c : Char) (rest : List Char) : List Char :=
  if c = 'Σ' then [sigmaForm before rest] else lowerChar c

/-- What a character is in the lower case of a text that was raised. -/
def raisedAt (before : List Char) (c : Char) (rest : List Char) : List Char :=
  if IsSigma c then [sigmaForm before rest] else lower (upperChar c)

theorem lowerFrom_cons (before : List Char) (c : Char) (rest : List Char) :
    lowerFrom before (c :: rest) = loweredAt before c rest ++ lowerFrom (c :: before) rest := rfl

theorem lowerFrom_upper_cons (before : List Char) (c : Char) (rest : List Char) :
    lowerFrom before (upper (c :: rest)) = raisedAt before c (upper rest) ++
      lowerFrom ((upperChar c).reverse ++ before) (upper rest) := by
  rw [raisedAt, upper, List.flatMap_cons, ← upper]
  split
  case isTrue sigma =>
    rw [upperChar_sigma sigma]
    rfl
  case isFalse other =>
    have plain : 'Σ' ∉ upperChar c := fun member => other (isSigma_of_mem_upperChar member)
    rw [lowerFrom_append_of_not_mem plain, lower_of_not_mem plain]

theorem counted_sigmaForm (before rest : List Char) :
    counted [sigmaForm before rest] = [sigmaForm before rest] := by
  obtain ⟨_, _, medial, final⟩ := sigma_cases
  rw [sigmaForm]
  split
  · rw [counted, List.filter_singleton, final, cond_true]
  · rw [counted, List.filter_singleton, medial, cond_true]

theorem steady_of_isSigma (sigma : IsSigma c) : Steady c := by
  obtain ⟨_, ⟨capital, medial, _⟩, _⟩ := sigma_cases
  have raised := upperChar_sigma sigma
  obtain rfl | rfl | rfl := sigma
  · exact .inr (by rw [raised, lower_singleton])
  · exact .inr (by rw [raised, lower_singleton, capital, medial])
  · exact .inl rfl

/-- No character loses word characters. -/
theorem length_counted_loweredAt_le (before before' rest rest' : List Char) (c : Char) :
    (counted (loweredAt before c rest)).length ≤ (counted (raisedAt before' c rest')).length := by
  rw [raisedAt, loweredAt]
  by_cases sigma : IsSigma c
  · rw [if_pos sigma, counted_sigmaForm]
    split
    · rw [counted_sigmaForm]
      rfl
    · have undotted : c ≠ 'İ' := by obtain rfl | rfl | rfl := sigma <;> decide
      rw [lowerChar_eq undotted]
      exact List.length_filter_le ..
  · rw [if_neg sigma, if_neg fun capital => sigma (.inl capital)]
    obtain returns | ⟨x, member, word, lowest, _⟩ := lower_upperChar_cases c
    · rw [returns]
    · have kept : x ∈ counted (lower (upperChar c)) := List.mem_filter.mpr ⟨member, word⟩
      rw [lowest]
      exact (List.length_filter_le ..).trans (List.length_pos_of_mem kept)

/-- A character with the same word characters returns. -/
theorem steady_of_counted_eq
    (same : counted (raisedAt before' c rest') = counted (loweredAt before c rest)) : Steady c := by
  by_cases sigma : IsSigma c
  · exact steady_of_isSigma sigma
  · rw [raisedAt, loweredAt, if_neg sigma, if_neg fun capital => sigma (.inl capital)] at same
    obtain returns | ⟨x, member, word, lowest, differs⟩ := lower_upperChar_cases c
    · exact .inr returns
    · have kept : x ∈ counted (lower (upperChar c)) := List.mem_filter.mpr ⟨member, word⟩
      rw [same, lowest] at kept
      exact absurd (List.mem_singleton.mp (List.mem_of_mem_filter kept)) differs

/-- In one place a steady character comes back, a small sigma if lowering would put it there. -/
theorem Steady.counted_eq_iff (steady : Steady c) :
    counted (raisedAt before c rest) = counted (loweredAt before c rest) ↔
      (c = 'σ' ∨ c = 'ς' → c = sigmaForm before rest) := by
  rw [raisedAt, loweredAt]
  by_cases capital : c = 'Σ'
  · rw [if_pos (.inl capital), if_pos capital]
    exact iff_of_true rfl fun small => absurd (capital ▸ small) (by decide)
  by_cases small : c = 'σ' ∨ c = 'ς'
  · have kept : counted (lowerChar c) = [c] := by obtain rfl | rfl := small <;> decide +kernel
    rw [if_pos (.inr small), if_neg capital, counted_sigmaForm, kept, List.singleton_inj, eq_comm,
      forall_prop_of_true small]
  · have other : ¬ IsSigma c := not_or.mpr ⟨capital, small⟩
    have returns := steady.resolve_left fun final => small (.inr final)
    rw [if_neg other, if_neg capital, returns]
    exact iff_of_true rfl fun sigma => absurd sigma small

theorem length_counted_lowerFrom_le (cs before before' : List Char) :
    (counted (lowerFrom before cs)).length ≤ (counted (lowerFrom before' (upper cs))).length := by
  induction cs generalizing before before' with
  | nil => exact Nat.le_refl _
  | cons c rest ih =>
    rw [lowerFrom_cons, lowerFrom_upper_cons, counted_append, counted_append, List.length_append,
      List.length_append]
    exact Nat.add_le_add (length_counted_loweredAt_le ..) (ih ..)

/-- The counted characters of a text are the same if those of its first one and of its rest are. -/
theorem counted_cons_eq_iff :
    counted (lowerFrom before' (upper (c :: rest))) = counted (lowerFrom before (c :: rest)) ↔
      counted (raisedAt before' c (upper rest)) = counted (loweredAt before c rest) ∧
      counted (lowerFrom ((upperChar c).reverse ++ before') (upper rest)) =
        counted (lowerFrom (c :: before) rest) := by
  rw [lowerFrom_cons, lowerFrom_upper_cons, counted_append, counted_append]
  constructor
  · -- no part is longer on the left, so that equal texts are cut in the same place
    intro same
    have here := length_counted_loweredAt_le before before' rest (upper rest) c
    have further := length_counted_lowerFrom_le rest (c :: before) ((upperChar c).reverse ++ before')
    have total := congrArg List.length same
    rw [List.length_append, List.length_append] at total
    exact List.append_inj same (by omega)
  · rintro ⟨here, further⟩
    rw [here, further]

theorem forall_steady_of_counted_eq
    (same : counted (lowerFrom before' (upper cs)) = counted (lowerFrom before cs)) :
    ∀ c ∈ cs, Steady c := by
  induction cs generalizing before before' with
  | nil => exact List.forall_mem_nil _
  | cons c rest ih =>
    obtain ⟨here, further⟩ := counted_cons_eq_iff.mp same
    exact List.forall_mem_cons.mpr ⟨steady_of_counted_eq here, ih further⟩

def SigmasFit (before cs : List Char) : Prop :=
  ∀ front c rest, cs = front ++ c :: rest → c = 'σ' ∨ c = 'ς' →
    c = sigmaForm (front.reverse ++ before) rest

theorem sigmasFit_cons_iff : SigmasFit before (c :: cs) ↔
    (c = 'σ' ∨ c = 'ς' → c = sigmaForm before cs) ∧ SigmasFit (c :: before) cs := by
  constructor
  · intro fit
    refine ⟨fit [] c cs rfl, fun front d rest split => ?_⟩
    have further := fit (c :: front) d rest (congrArg (c :: ·) split)
    rwa [List.reverse_cons, List.append_assoc] at further
  · rintro ⟨here, further⟩ front d rest split
    obtain ⟨rfl, same⟩ | ⟨front', rfl, same⟩ := List.cons_eq_append_iff.mp split
    · obtain ⟨rfl, rfl⟩ := List.cons.inj same
      exact here
    · rw [List.reverse_cons, List.append_assoc]
      exact further front' d rest same

theorem counted_eq_iff_sigmasFit (steady : ∀ c ∈ cs, Steady c)
    (ahead : casedAhead before' = casedAhead before) :
    counted (lowerFrom before' (upper cs)) = counted (lowerFrom before cs) ↔ SigmasFit before cs := by
  induction cs generalizing before before' with
  | nil => exact iff_of_true rfl fun front c rest split => absurd split (by simp)
  | cons c rest ih =>
    obtain ⟨here, others⟩ := List.forall_mem_cons.mp steady
    have place : raisedAt before' c (upper rest) = raisedAt before c rest := by
      rw [raisedAt, sigmaForm, ahead, casedAhead_upper others, ← sigmaForm, ← raisedAt]
    have further : casedAhead ((upperChar c).reverse ++ before') = casedAhead (c :: before) := by
      rw [here.upperChar_eq, List.reverse_singleton, List.singleton_append, here.casedAhead_eq]
      exact casedAhead_cons ahead c
    rw [counted_cons_eq_iff, place, here.counted_eq_iff, ih others further, sigmasFit_cons_iff]

/-- Raising makes no difference to the text in lower case: each character returns to its own lower case,
and each small sigma is the one that lowering puts in its place. -/
structure Returns (cs : List Char) : Prop where
  steady : ∀ c ∈ cs, Steady c
  sigmas : SigmasFit [] cs

theorem counted_lower_upper_iff :
    counted (lower (upper cs)) = counted (lower cs) ↔ Returns cs := by
  constructor
  · intro same
    have steady := forall_steady_of_counted_eq same
    exact ⟨steady, (counted_eq_iff_sigmasFit steady rfl).mp same⟩
  · rintro ⟨steady, sigmas⟩
    exact (counted_eq_iff_sigmasFit steady rfl).mpr sigmas

end LineCommand.Text
