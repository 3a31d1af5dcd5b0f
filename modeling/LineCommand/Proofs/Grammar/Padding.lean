import LineCommand.Proofs.Grammar.Blanks

/-! Blanks around a line. A grammar finds the same texts in a line that stands between blanks as in the
line by itself, if nothing it matches begins or ends with a blank and it settles on none. -/
namespace LineCommand
open Pattern

namespace Fragment

variable {pending : Bool} {k m : Nat} {x : Fragment} {xs : List Fragment}
  {st st' last last' : MatchState} {line front rest : List Char}

/-! ### A line in a text -/

/-- Two states of which one is in a line and the other one in a text that has the line in it, behind
`front` and in front of `rest`. -/
structure Beside (front line rest : List Char) (m : Nat) (st st' : MatchState) : Prop
    extends Excerpt front.length 0 m rest st st' where
  inside : st.cursor.position + st.cursor.ahead.length = line.length
  full : st'.spans.length = m

namespace Beside

variable (beside : Beside front line rest m st st')
include beside

theorem spans_eq : st'.spans = st.spans.map (Option.map (Span.further front.length)) := by
  have same := beside.full.trans beside.groups.symm
  refine List.ext_getElem (by rw [List.length_map, same]) fun i small small' => ?_
  have here := beside.spans (i + 1)
  rw [List.length_map] at small'
  simpa [MatchState.span?, small, small'] using here

/-- Groups have matched the same texts in the line and in the text around it. -/
theorem groupTexts_eq : groupTexts line st = groupTexts (front ++ (line ++ rest)) st' := by
  rw [groupTexts, groupTexts, beside.spans_eq, List.map_map]
  refine List.map_congr_left fun span? member => ?_
  cases span? with
  | none => rfl
  | some span =>
    obtain ⟨i, small, found⟩ := List.getElem_of_mem member
    have stop : span.stop ≤ line.length := by
      have within := beside.stops (i + 1) span (by simp [MatchState.span?, small, found])
      have := beside.inside
      omega
    have taken : ((line ++ rest).drop span.start).take (span.stop - span.start) =
        (line.drop span.start).take (span.stop - span.start) := by
      rw [← List.drop_take, ← List.drop_take, List.take_append_of_le_length stop]
    have front : (front ++ (line ++ rest)).drop (span.start + front.length) =
        (line ++ rest).drop span.start := by
      rw [Nat.add_comm, List.drop_length_add_append]
    simp only [Function.comp_apply, Option.map_some, groupText, Span.further, front,
      Nat.add_sub_add_right, taken]

omit beside in
theorem move (beside : Beside front line rest m st st')
    (excerpt : Excerpt front.length 0 m rest last last')
    (passes : ∃ w, st.cursor.Passes w last.cursor) (groups : last'.spans.length = st'.spans.length) :
    Beside front line rest m last last' where
  toExcerpt := excerpt
  inside := by
    obtain ⟨w, passes⟩ := passes
    have inside := beside.inside
    rw [passes.ahead, List.length_append] at inside
    have := passes.position
    omega
  full := groups.trans beside.full

/-- What is found behind a pattern is the same in the line and around it, if the same is found from
where the pattern ends in the line, and nothing from where it ends behind the line. -/
theorem map_run {p : Pattern} {goal goal' : Goal}
    (framed : Framed front.length 0 m rest (p.outcomes st) (p.outcomes st'))
    (same : ∀ {last last'}, Beside front line rest m last last' → (goal last).map (groupTexts line) =
      (goal' last').map (groupTexts (front ++ (line ++ rest))))
    (late : ∀ last ∈ p.outcomes st', ¬ before rest last → goal' last = none) :
    (p.run goal st).map (groupTexts line) =
      (p.run goal' st').map (groupTexts (front ++ (line ++ rest))) := by
  rw [run_eq, run_eq, List.map_findSome?, List.map_findSome?]
  refine framed.findSome?_eq (fun x member y member' excerpt => ?_) fun y member behind => ?_
  · exact same (beside.move excerpt (exists_passes member) (length_spans member'))
  · rw [Function.comp_apply, late y member behind, Option.map_none]

/-- Where nothing more is remembered, the texts are the same in the line and around it. -/
theorem map_settled {found found' : Option MatchState} {P : Prop} [Decidable P]
    (here : found.map MatchState.spans = if P then some st.spans else none)
    (there : found'.map MatchState.spans = if P then some st'.spans else none) :
    found.map (groupTexts line) = found'.map (groupTexts (front ++ (line ++ rest))) := by
  have texts : ∀ (text : List Char) (found : Option MatchState), found.map (groupTexts text) =
      (found.map MatchState.spans).map (List.map (groupText text)) := by
    intro text found
    rw [Option.map_map]
    rfl
  rw [texts, texts, here, there]
  split
  · exact congrArg some beside.groupTexts_eq
  · rfl

end Beside

theorem exists_of_late {w ahead : List Char} (late : ¬ before rest last)
    (split : ahead ++ rest = w ++ last.cursor.ahead) :
    ∃ u, u ≠ [] ∧ w = ahead ++ u ∧ rest = u ++ last.cursor.ahead := by
  simp only [before, decide_eq_true_eq, Nat.not_le] at late
  obtain ⟨u, rfl, rfl⟩ | ⟨u, rfl, ahead⟩ := List.append_eq_append_iff.mp split
  · refine ⟨u, ?_, rfl, rfl⟩
    rintro rfl
    exact Nat.lt_irrefl _ late
  · rw [ahead, List.length_append] at late
    omega

theorem exact_separator : (separator {}).Exact :=
  ⟨fun manner => Manner.noConfusion manner, trivial⟩

theorem exact_spaced (pending : Bool) (k : Nat) (steady : x.Steady) : (x.spaced pending k).Exact := by
  have core : (x.core k).Exact := by
    cases slot : x.slot? with
    | none =>
      rw [core, slot]
      exact (exact_shift k).mpr steady.exact
    | some _ =>
      rw [core, slot]
      exact (exact_shift (k + 1)).mpr steady.exact
  cases pending with
  | false => exact ⟨core, trivial⟩
  | true => exact ⟨exact_separator, core, trivial⟩

theorem numbers_spaced (steady : x.Steady) :
    (x.spaced pending k).numbers = List.range' (k + 1) (x.groups {}) := by
  rw [← numbers_core steady.forward.standalone k, spaced, numbers_sequence]
  cases pending <;> simp [gapParts, separator, blank, numbers]

theorem framed_spaced (pending : Bool) (steady : x.Steady) (blanks : Text.Blanks rest)
    (room : k + x.groups {} ≤ m) (beside : Beside front line rest m st st') :
    Framed front.length 0 m rest ((x.spaced pending k).outcomes st)
      ((x.spaced pending k).outcomes st') := by
  have framed := outcomes_framed blanks.edge (exact_spaced pending k steady) ?_ beside.toExcerpt
  · rwa [shift_zero] at framed
  · intro i member
    rw [numbers_spaced steady, List.mem_range'_1] at member
    omega

/-- A fragment that ends with no blank ends in the line. -/
theorem Stops.before (stops : x.Stops) (forward : x.Forward) (blanks : Text.Blanks rest)
    (beside : Beside front line rest m st st') (member : last ∈ (x.spaced pending k).outcomes st') :
    before rest last := by
  by_contra late
  obtain ⟨gap, text, passes, leaves⟩ := exists_text forward member
  obtain ⟨u, more, longer, rfl⟩ := exists_of_late late (beside.ahead.symm.trans passes.ahead)
  obtain ⟨inside, behind⟩ := List.forall_mem_append.mp blanks
  obtain ⟨some, closed⟩ := stops text _ (Text.Blanks.edge behind) leaves
  have whole := closed.append some gap
  rw [longer] at whole
  exact more (whole.eq_nil_of_blanks inside)

theorem Beside.blanks_iff (beside : Beside front line rest m st st') (blanks : Text.Blanks rest) :
    Text.Blanks st'.cursor.ahead ↔ Text.Blanks st.cursor.ahead := by
  rw [beside.ahead]
  exact List.forall_mem_append.trans (and_iff_left blanks)

theorem Beside.ended_iff (beside : Beside front line rest m st st') (blanks : Text.Blanks rest) :
    wordsOf st'.cursor.ahead = [] ↔ wordsOf st.cursor.ahead = [] := by
  rw [wordsOf_eq_nil_iff, wordsOf_eq_nil_iff, beside.blanks_iff blanks]

theorem framed_apart (blanks : Text.Blanks rest) (beside : Beside front line rest m st st') :
    Framed front.length 0 m rest ((apart {}).outcomes st) ((apart {}).outcomes st') := by
  refine lifts_framed.append ?_ ?_
  · exact outcomes_framed (p := sequence [separator {}]) blanks.edge ⟨exact_separator, trivial⟩
      (List.forall_mem_nil _) beside.toExcerpt
  · have looks : ∀ st : MatchState, (sequence [look .ahead false (sequence (ending {}))]).outcomes st =
        if wordsOf st.cursor.ahead = [] then [st] else [] := fun st =>
      (List.flatMap_singleton' _).trans (outcomes_lookahead st)
    simp only [looks, beside.ended_iff blanks]
    split
    · exact lifts_framed.single beside.toExcerpt
    · exact lifts_framed.nil

/-- What is left of the pattern of a grammar finds the same texts in a line and in the line with blanks
around it. -/
theorem map_run_beside (pending : Bool) (steady : ∀ x ∈ xs, x.Steady) (finishes : Finishes xs)
    (blanks : Text.Blanks rest) (room : k + (xs.map (groups {})).sum ≤ m)
    (beside : Beside front line rest m st st') :
    ((sequence (allParts {} pending k xs)).run some st).map (groupTexts line) =
      ((sequence (allParts {} pending k xs)).run some st').map
        (groupTexts (front ++ (line ++ rest))) := by
  induction xs generalizing pending k st st' with
  | nil =>
    have ended' := run_ending st'
    simp only [beside.ended_iff blanks] at ended'
    exact beside.map_settled (run_ending st) ended'
  | cons x xs ih =>
    obtain ⟨here, rests⟩ := List.forall_mem_cons.mp steady
    obtain ⟨stops, others⟩ := finishes
    rw [List.map_cons, List.sum_cons, ← Nat.add_assoc] at room
    have further {c c' : MatchState} (beside : Beside front line rest m c c') :=
      ih (x.leaves pending) rests others room beside
    -- Where nothing but blanks is left of the line, what keeps a field apart need not pass the same
    -- blanks in both texts.
    have rear {c c' : MatchState} (beside : Beside front line rest m c c') :
        ((sequence (x.rearParts pending)).run ((sequence (allParts {} (x.leaves pending)
          (k + x.groups {}) xs)).run some) c).map (groupTexts line) =
        ((sequence (x.rearParts pending)).run ((sequence (allParts {} (x.leaves pending)
          (k + x.groups {}) xs)).run some) c').map (groupTexts (front ++ (line ++ rest))) := by
      by_cases ended : Text.Blanks c.cursor.ahead
      · have ended' := (beside.blanks_iff blanks).mpr ended
        exact beside.map_settled (map_run_rear_blanks x pending _ _ rests others ended)
          (map_run_rear_blanks x pending _ _ rests others ended')
      · rw [rearParts]
        split
        · rw [run_single]
          refine beside.map_run (framed_apart blanks beside) further fun last member late => ?_
          obtain ⟨w, parted, _, split⟩ | ⟨ended', _⟩ :=
            (reaches_apart c' _).mp ⟨last, member, rfl⟩
          · obtain ⟨u, _, rfl, _⟩ := exists_of_late late (beside.ahead.symm.trans split)
            exact absurd (List.forall_mem_append.mp parted).1 ended
          · exact absurd ((beside.blanks_iff blanks).mp ended') ended
        · exact further beside
    have framed := framed_spaced pending here blanks (Nat.le_of_add_right_le room) beside
    have taken := beside.map_run framed rear fun last member late => ?_
    · rw [allParts, run_sequence_append, run_parts here, run_parts here]
      dsimp only
      split
      · rw [Option.map_or, Option.map_or, taken, further beside]
      · exact taken
    -- A fragment that goes on behind the line leaves nothing but blanks to one that is still to come.
    · obtain ⟨gap, text, passes, _⟩ := exists_text here.forward member
      obtain ⟨u, _, _, rfl⟩ := exists_of_late late (beside.ahead.symm.trans passes.ahead)
      have found := map_run_rear_blanks x pending (x.leaves pending) (k + x.groups {}) rests others
        (List.forall_mem_append.mp blanks).2
      split at found
      · rename_i optional
        exact absurd ((stops optional).before here.forward blanks beside member) late
      · exact Option.map_eq_none_iff.mp found

end Fragment

/-! ### Grammars -/

namespace GrammarBuilder.Makes

variable {xs : List Fragment} {g : Grammar} (made : GrammarBuilder.Makes {} xs g)
  (steady : ∀ x ∈ xs, x.Steady) {line front rest : List Char}
include made steady

theorem match?_eq : g.expression.match? line =
    ((again 0 none .greedy (Fragment.blank {})).run
      ((sequence (Fragment.allParts {} false 0 xs)).run some)
      ⟨.start line, List.replicate g.expression.groups none⟩).map (groupTexts line) := by
  rw [Expression.match?, made.pattern fun x member => (steady x member).insertable]
  rfl

/-- Behind blanks the first fragment on a line begins with the first character that is none. -/
theorem exists_front (begins : Fragment.Begins xs) (blanks : Text.Blanks front)
    (clear : Text.Clear line) (some : line ≠ []) :
    ∃ d, (Cursor.start (front ++ line)).Passes front d ∧ g.expression.match? (front ++ line) =
      ((sequence (Fragment.allParts {} false 0 xs)).run Option.some
        ⟨d, List.replicate g.expression.groups none⟩).map (groupTexts (front ++ line)) := by
  have passes : (Cursor.start (front ++ line)).Passes front _ := Cursor.passes_of_ahead rfl
  refine ⟨_, passes, (made.match?_eq steady).trans (map_run forgetful_blanks ?_ ?_)⟩
  · intro w d last accepts passed reached
    have whole := accepts_blanks.mp accepts
    have fits := (Fragment.isSome_run_allParts steady).mp (Option.isSome_of_eq_some reached)
    have opening : Text.Opening d.ahead := Fragment.opening_of_fits begins fits
    have same : w = front := by
      obtain ⟨u, rfl, split⟩ | ⟨u, rfl, split⟩ := List.append_eq_append_iff.mp passed.ahead
      · rw [split] at clear
        rw [clear.eq_nil_of_blanks (List.forall_mem_append.mp whole.1).2, List.append_nil]
      · obtain clear' | blanks' := opening
        · rw [split] at clear'
          rw [clear'.eq_nil_of_blanks (List.forall_mem_append.mp blanks).2, List.append_nil]
        · rw [split] at blanks'
          have blanks : Text.Blanks line := (List.forall_mem_append.mp blanks').2
          exact absurd (blanks.edge.eq_nil clear) some
    subst same
    rw [passes.unique passed, reached]
    rfl
  · intro found
    exact ⟨front, _, accepts_blanks.mpr ⟨blanks, Nat.zero_le _⟩, passes, by simpa using found⟩

/-- A line of blanks has no texts, and is matched if every fragment may be left out. -/
theorem match?_blanks (finishes : Fragment.Finishes xs) (blanks : Text.Blanks line) :
    g.expression.match? line =
      if ∀ x ∈ xs, x.optional then some (List.replicate g.expression.groups none) else none := by
  let start : MatchState := ⟨.start line, List.replicate g.expression.groups none⟩
  have untaken : groupTexts line start = List.replicate g.expression.groups none :=
    List.map_replicate
  refine (made.match?_eq steady).trans (map_run forgetful_blanks ?_ ?_)
  · intro w d last _ passed reached
    have ahead : line = w ++ d.ahead := passed.ahead
    rw [ahead] at blanks
    have found := Fragment.map_run_blanks false 0 steady finishes ⟨d, start.spans⟩
      (List.forall_mem_append.mp blanks).2
    rw [reached] at found
    split at found
    · rename_i optional
      rw [if_pos optional, ← untaken, groupTexts, groupTexts, Option.some.inj found]
    · cases found
  · intro matched
    refine ⟨[], _, accepts_blanks.mpr ⟨List.forall_mem_nil _, Nat.zero_le _⟩, .refl _, ?_⟩
    have found := Fragment.map_run_blanks false 0 steady finishes start blanks
    rw [← Option.isSome_map, found]
    split at matched
    · rename_i optional
      rw [if_pos optional]
      rfl
    · cases matched

/-- A line that begins with no blank has the same texts between blanks. -/
theorem match?_between (begins : Fragment.Begins xs) (finishes : Fragment.Finishes xs)
    (clear : Text.Clear line) (some : line ≠ []) (blanks : Text.Blanks front)
    (blanks' : Text.Blanks rest) : g.expression.match? (front ++ (line ++ rest)) =
      ((sequence (Fragment.allParts {} false 0 xs)).run Option.some
        ⟨.start line, List.replicate g.expression.groups none⟩).map (groupTexts line) := by
  obtain ⟨d, passes, same⟩ := made.exists_front steady begins blanks (clear.append some rest)
    (List.append_ne_nil_of_left_ne_nil some rest)
  let there : MatchState := ⟨d, List.replicate g.expression.groups none⟩
  have split : there.cursor.ahead = line ++ rest := List.append_cancel_left passes.ahead.symm
  have place : there.cursor.position = front.length := passes.position.trans (Nat.zero_add _)
  have excerpt := excerpt_start (k := 0) split List.length_replicate.ge
    (MatchState.span?_replicate _ _)
  rw [place] at excerpt
  have room := (made.groups fun x member => (steady x member).forward.standalone).ge
  rw [same]
  exact (Fragment.map_run_beside false steady finishes blanks' (by rwa [Nat.zero_add])
    ⟨excerpt, Nat.zero_add _, List.length_replicate⟩).symm

/-- Blanks around a line make no difference to what its groups match. -/
theorem match?_padded (begins : Fragment.Begins xs) (finishes : Fragment.Finishes xs)
    (blanks : Text.Blanks front) (blanks' : Text.Blanks rest) :
    g.expression.match? (front ++ (line ++ rest)) = g.expression.match? line := by
  obtain ⟨bs, line, rfl, before, clear⟩ := Text.exists_blanks line
  by_cases none : line = []
  · subst none
    have whole : Text.Blanks (front ++ (bs ++ [] ++ rest)) := by
      rw [List.append_nil]
      exact List.forall_mem_append.mpr ⟨blanks, List.forall_mem_append.mpr ⟨before, blanks'⟩⟩
    rw [made.match?_blanks steady finishes whole, made.match?_blanks steady finishes (by simpa)]
  · have padded := made.match?_between steady begins finishes clear none
      (List.forall_mem_append.mpr ⟨blanks, before⟩) blanks'
    have bare := made.match?_between steady begins finishes clear none before
      (List.forall_mem_nil _)
    rw [List.append_nil] at bare
    rw [bare, ← padded]
    simp only [List.append_assoc]

end GrammarBuilder.Makes

/-! ### Templates -/

/-- A field that looks at nothing but the text ahead, and matches texts that begin and end with no blank.
Where it settles on what it passes, it passes no blanks. -/
structure Field.Neat (f : Field) : Prop where
  forward : (Fragment.field f false).Forward
  settles : ∀ e, Expression.read {} f.pattern = .ok e → e.pattern.Exact
  trimmed : ∀ text, f.fullMatches text → text ≠ "" ∧ Text.trimmed text = text

namespace Fragment

variable {x : Fragment} {xs : List Fragment}

/-- Literals that stand for themselves. Where nothing stands before one but what may be left out, it
begins with no blank, and where nothing else stands behind one, it ends with none. -/
def Unpadded (xs : List Fragment) : Prop :=
  ∀ before x after, xs = before ++ x :: after → x.slot? = none → Plain x.text.toList ∧
    ((∀ y ∈ before, y.optional) → x.text ≠ "" ∧ Text.Clear x.text.toList) ∧
    ((∀ y ∈ after, y.optional) → x.text ≠ "" ∧ Text.Closed x.text.toList)

/-- It is enough that no literal begins or ends with a blank, wherever it stands. -/
theorem unpadded_of_trimmed (literals : ∀ x ∈ xs, x.slot? = none →
    Plain x.text.toList ∧ x.text ≠ "" ∧ Text.trim x.text.toList = x.text.toList) : Unpadded xs := by
  intro before x after split slot
  obtain ⟨plain, some, trimmed⟩ := literals x (by simp [split]) slot
  exact ⟨plain, fun _ => ⟨some, Text.clear_of_trim trimmed⟩,
    fun _ => ⟨some, Text.closed_of_trim trimmed⟩⟩

theorem body_field (f : Field) (optional : Bool) :
    (Fragment.field f optional).body {} = (Fragment.field f false).body {} := rfl

theorem bounds_field {f : Field} (neat : f.Neat) (optional : Bool) :
    (Fragment.field f optional).Starts ∧ (Fragment.field f optional).Stops := by
  have bounds : ∀ text rest, Text.Edge rest →
      ((Fragment.field f optional).body {}).Leaves (text ++ rest) rest →
        text ≠ [] ∧ Text.trim text = text := by
    intro text rest edge leaves
    rw [body_field, Field.leaves_iff neat.forward neat.settles edge] at leaves
    obtain ⟨some, trimmed⟩ := neat.trimmed _ leaves
    refine ⟨fun none => some (by rw [none]), ?_⟩
    simpa [Text.trimmed] using congrArg String.toList trimmed
  constructor
  · intro text rest edge leaves
    obtain ⟨some, same⟩ := bounds text rest edge leaves
    exact ⟨some, Text.clear_of_trim same⟩
  · intro text rest edge leaves
    obtain ⟨some, same⟩ := bounds text rest edge leaves
    exact ⟨some, Text.closed_of_trim same⟩

theorem starts_plain (plain : Plain x.text.toList) (some : x.text ≠ "")
    (clear : Text.Clear x.text.toList) : x.Starts := by
  intro text rest _ leaves
  rw [leaves_plain plain, List.append_cancel_right_eq] at leaves
  exact leaves ▸ ⟨by simpa using some, clear⟩

theorem stops_plain (plain : Plain x.text.toList) (some : x.text ≠ "")
    (closed : Text.Closed x.text.toList) : x.Stops := by
  intro text rest _ leaves
  rw [leaves_plain plain, List.append_cancel_right_eq] at leaves
  exact leaves ▸ ⟨by simpa using some, closed⟩

theorem begins_of_split (starts : ∀ before x after, xs = before ++ x :: after →
    (∀ y ∈ before, y.optional) → x.Starts) : Begins xs := by
  induction xs with
  | nil => trivial
  | cons x xs ih =>
    refine ⟨starts [] x xs rfl nofun, fun optional => ih fun before y after split skips => ?_⟩
    exact starts (x :: before) y after (by rw [split]; rfl)
      (List.forall_mem_cons.mpr ⟨optional, skips⟩)

theorem finishes_of_split (stops : ∀ before x after, xs = before ++ x :: after →
    (∀ y ∈ after, y.optional) → x.Stops) : Finishes xs := by
  induction xs with
  | nil => trivial
  | cons x xs ih =>
    refine ⟨stops [] x xs rfl, ih fun before y after split => ?_⟩
    exact stops (x :: before) y after (by rw [split]; rfl)

variable (neat : ∀ f optional, .field f optional ∈ xs → f.Neat) (unpadded : Unpadded xs)
include neat unpadded

theorem steady_of_neat : ∀ x ∈ xs, x.Steady := by
  intro x member
  obtain ⟨before, after, split⟩ := List.append_of_mem member
  have literal (slot : x.slot? = none) := (unpadded before x after split slot).1
  cases x with
  | plain | unknown =>
    refine ⟨forward_plain (literal rfl), ?_, fun _ => literal rfl⟩
    rw [body_plain (literal rfl)]
    refine guarded_sequence fun p listed => ?_
    obtain ⟨c, _, rfl⟩ := List.mem_map.mp listed
    trivial
  | field f optional =>
    have neat := neat f optional member
    obtain ⟨reads, tame, _⟩ := neat.forward
    refine ⟨⟨reads, tame, nofun⟩, ?_, nofun⟩
    obtain ⟨e, read⟩ := reads
    have body : (Fragment.field f false).body {} = e.pattern := by rw [Fragment.body, read]
    rw [body_field, body]
    exact neat.settles e read

theorem bounds_of_neat {before after : List Fragment} (split : xs = before ++ x :: after) :
    ((∀ y ∈ before, y.optional) → x.Starts) ∧ ((∀ y ∈ after, y.optional) → x.Stops) := by
  have literal (slot : x.slot? = none) :
      ((∀ y ∈ before, y.optional) → x.Starts) ∧ ((∀ y ∈ after, y.optional) → x.Stops) := by
    obtain ⟨plain, first, last⟩ := unpadded before x after split slot
    exact ⟨fun skips => starts_plain plain (first skips).1 (first skips).2,
      fun skips => stops_plain plain (last skips).1 (last skips).2⟩
  cases x with
  | plain | unknown => exact literal rfl
  | field f optional =>
    obtain ⟨starts, stops⟩ := bounds_field (neat f optional (by simp [split])) optional
    exact ⟨fun _ => starts, fun _ => stops⟩

theorem begins_of_neat : Begins xs :=
  begins_of_split fun _ _ _ split => (bounds_of_neat neat unpadded split).1

theorem finishes_of_neat : Finishes xs :=
  finishes_of_split fun _ _ _ split => (bounds_of_neat neat unpadded split).2

end Fragment

namespace GrammarBuilder

/-- Blanks around a line make no difference to what it is parsed into. Without flags, let the fields of a
template match texts that begin and end with no blank, and let no literal begin or end the template with
one. Then a line with any blanks before and behind it is parsed as it is by itself. -/
theorem parse_padded (b : GrammarBuilder) (t : Template) (g : Grammar) (xs : List Fragment)
    (plain : b.flags = {}) (built : (b.build t).answer = .ok (.ok g))
    (fragments : b.fragments? t = some xs) (unpadded : Fragment.Unpadded xs)
    (neat : ∀ f optional, .field f optional ∈ xs → f.Neat) (line front rest : String)
    (blanks : Text.Blanks front.toList) (blanks' : Text.Blanks rest.toList) :
    g.parse (.text (front ++ line ++ rest)) = g.parse (.text line) := by
  have made := makes_of_build built fragments
  rw [plain] at made
  have matched : g.expression.match? (front ++ line ++ rest).toList =
      g.expression.match? line.toList := by
    rw [String.toList_append, String.toList_append, List.append_assoc]
    exact made.match?_padded (Fragment.steady_of_neat neat unpadded)
      (Fragment.begins_of_neat neat unpadded) (Fragment.finishes_of_neat neat unpadded) blanks blanks'
  have read : g.read (front ++ line ++ rest) = g.read line := by
    rw [Grammar.read, Grammar.read, matched]
  simp only [Grammar.parse, Value.text?, read]

def saying : Field := ⟨"m", "[a-z](?:[a-z ]*[a-z])?", false, 0⟩

def lowerCase : CharSet := ⟨[.range 97 122], false, .exact, false⟩

theorem lowerCase_solid : lowerCase.Solid := by decide +kernel

theorem saying_neat : saying.Neat := by
  let inner : Pattern := sequence
    [again 0 none .greedy (one ⟨[.range 97 122, .code 32], false, .exact, false⟩), one lowerCase]
  let e : Expression :=
    ⟨saying.pattern, sequence [one lowerCase, again 0 (some 1) .greedy inner], 0⟩
  have read : Expression.read {} saying.pattern = .ok e := rfl
  have letter : ∀ {c}, lowerCase.holds c → Text.isBlank c = false := by
    intro c holds
    by_contra blank
    rw [lowerCase_solid c (by simpa using blank)] at holds
    cases holds
  refine ⟨⟨⟨e, read⟩, by decide +kernel, nofun⟩, ?_, fun text matched => ?_⟩
  · intro e' read'
    obtain rfl : e = e' := Except.ok.inj (read.symm.trans read')
    decide +kernel
  · have regular : e.pattern.Within Construct.Regular := by
      intro c used
      obtain rfl : c = .again .greedy := by
        simpa [e, inner, constructs, Pattern.sequence] using used
      exact .inr (.inl rfl)
    rw [Field.fullMatches_eq read] at matched
    obtain ⟨_, rest, ⟨c, first, rfl⟩, ⟨_, _, ⟨vs, each, _, most, rfl⟩, rfl, rfl⟩, same⟩ :=
      (Expression.fullMatches_iff regular).mp matched
    have clear : Text.Clear text.toList := by
      rw [same]
      rintro d ⟨⟩
      exact letter first
    have last (front : List Char) {d : Char} (holds : lowerCase.holds d) :
        Text.Closed (front ++ [d]) := by
      refine Text.Closed.append ?_ (List.cons_ne_nil d []) front
      rintro d' ⟨⟩
      exact letter holds
    have closed : Text.Closed text.toList := by
      rw [same, List.append_nil]
      obtain _ | ⟨v, _ | ⟨w, vs⟩⟩ := vs
      · exact last [] first
      · obtain ⟨u, _, _, ⟨_, _, ⟨d, final, rfl⟩, rfl, rfl⟩, rfl⟩ := each v List.mem_cons_self
        simpa using last (c :: u) final
      · have := most 1 rfl
        simp at this
    refine ⟨?_, ?_⟩
    · rintro rfl
      cases same
    · rw [Text.trimmed, Text.trim_eq_self clear closed, String.ofList_toList]

theorem letters_neat : letters.Neat := by
  refine ⟨⟨letters_forWords.reads, by decide +kernel, nofun⟩, fun e read => ?_, fun text matched => ?_⟩
  · cases read
    decide +kernel
  · obtain ⟨some, solid⟩ := letters_forWords.words text matched
    exact ⟨some, by rw [Text.trimmed, Text.trim_solid solid, String.ofList_toList]⟩

theorem parse_padded_saying :
    let b : GrammarBuilder := { fields := ⟨[⟨"n", "n", letters⟩, ⟨"m", "m", saying⟩]⟩ }
    let s := "\x7b\x7bn?\x7d\x7d tell " ++ Grammar.reference "m"
    let xs : List Fragment := [.field letters true, .plain "tell", .field saying false]
    ∃ g, (b.build (.text s)).answer = .ok (.ok g) ∧
      Fragment.Unpadded xs ∧ letters.Neat ∧ saying.Neat ∧
      (g.parse (.text "tell big red dice")).answer =
        .ok (.ok (some [("n", none), ("m", some "big red dice")])) ∧
      g.parse (.text ("\n\t " ++ "tell big red dice" ++ " \n")) =
        g.parse (.text "tell big red dice") := by
  intro b s xs
  obtain ⟨g, built, read⟩ : ∃ g, (b.build (.text s)).answer = .ok (.ok g) ∧
      g.read "tell big red dice" = .ok (.fields [("n", none), ("m", some "big red dice")]) :=
    exists_read (by decide +kernel)
  have unpadded : Fragment.Unpadded xs := Fragment.unpadded_of_trimmed (by decide +kernel)
  refine ⟨g, built, unpadded, letters_neat, saying_neat, Grammar.parse_of_fields read, ?_⟩
  refine parse_padded b (.text s) g xs rfl built (by decide +kernel) unpadded ?_ _ _ _
    (by decide) (by decide)
  simp only [xs, List.mem_cons]
  rintro f optional (same | same | same | same) <;> cases same
  · exact letters_neat
  · exact saying_neat

/-- A line is not parsed as it is with a blank around it, if a literal begins the template with a blank,
or if a field settles on a blank behind what it matches. -/
theorem not_parse_padded :
    (let b : GrammarBuilder := { fields := ⟨[⟨"n", "n", letters⟩]⟩ }
      let t : Template := .pieces [.literal " a", .reference "n" false ""]
      letters.Neat ∧ b.fragments? t = some [.plain " a", .field letters false] ∧
        Plain " a".toList ∧ Text.Blanks " ".toList ∧
        ∃ g, (b.build t).answer = .ok (.ok g) ∧ (g.parse (.text "a b")).answer = .ok (.ok none) ∧
          (g.parse (.text (" " ++ "a b" ++ ""))).answer = .ok (.ok (some [("n", some "b")]))) ∧
    (let b : GrammarBuilder := { fields := ⟨[⟨"n", "n", hasty⟩]⟩ }
      let t : Template := .text (Grammar.reference "n")
      (Fragment.field hasty false).Forward ∧
        (∀ text, hasty.fullMatches text → text ≠ "" ∧ Text.trimmed text = text) ∧
        b.fragments? t = some [.field hasty false] ∧ Text.Blanks " ".toList ∧
        ∃ g, (b.build t).answer = .ok (.ok g) ∧
          (g.parse (.text "a")).answer = .ok (.ok (some [("n", some "a")])) ∧
          (g.parse (.text ("" ++ "a" ++ " "))).answer = .ok (.ok none)) := by
  constructor
  · intro b t
    obtain ⟨g, built, read⟩ : ∃ g, (b.build t).answer = .ok (.ok g) ∧
        g.read "a b" = .ok .noMatch := exists_read (by decide +kernel)
    obtain ⟨g', built', read'⟩ : ∃ g, (b.build t).answer = .ok (.ok g) ∧
        g.read (" " ++ "a b" ++ "") = .ok (.fields [("n", some "b")]) :=
      exists_read (by decide +kernel)
    obtain rfl : g = g' := by simpa [built] using built'
    exact ⟨letters_neat, by decide +kernel, by decide, by decide, g, built,
      Grammar.parse_of_noMatch read, Grammar.parse_of_fields read'⟩
  · intro b t
    obtain ⟨g, built, read⟩ : ∃ g, (b.build t).answer = .ok (.ok g) ∧
        g.read "a" = .ok (.fields [("n", some "a")]) := exists_read (by decide +kernel)
    obtain ⟨g', built', read'⟩ : ∃ g, (b.build t).answer = .ok (.ok g) ∧
        g.read ("" ++ "a" ++ " ") = .ok .noMatch := exists_read (by decide +kernel)
    obtain rfl : g = g' := by simpa [built] using built'
    have forward : (Fragment.field hasty false).Forward := ⟨⟨_, rfl⟩, by decide +kernel, nofun⟩
    refine ⟨forward, fun text matched => ?_, by decide +kernel, by decide, g, built,
      Grammar.parse_of_fields read, Grammar.parse_of_noMatch read'⟩
    rw [hasty_only text matched]
    decide +kernel

end GrammarBuilder
end LineCommand
