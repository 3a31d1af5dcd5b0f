import LineCommand.Proofs.Grammar.Shape
import LineCommand.Proofs.Pattern.Language
import LineCommand.Proofs.Text.Words

/-! Reading a line word by word. What is left of a pattern reads the words that are left of a line,
where it may start; every way to put patterns together keeps that. -/
namespace LineCommand
open Pattern

def Field.fullMatches (f : Field) (text : String) : Bool :=
  match Expression.read {} f.pattern with
  | .ok e => e.fullMatches text.toList
  | .error _ => false

theorem Field.fullMatches_eq {f : Field} {e : Expression}
    (read : Expression.read {} f.pattern = .ok e) (text : String) :
    f.fullMatches text = e.fullMatches text.toList := by
  rw [fullMatches, read]

/-- Takes the first word, if it is accepted, and goes on with the others. -/
def takeWord (accepted : String → Bool) (add : String → FieldTexts → FieldTexts)
    (read : List String → Option FieldTexts) : List String → Option FieldTexts
  | [] => none
  | word :: rest => if accepted word then (read rest).map (add word) else none

/-! ### Places in a line -/

def groupText (line : List Char) (span? : Option Span) : Option (List Char) :=
  span?.map fun span => (line.drop span.start).take (span.stop - span.start)

def groupTexts (line : List Char) (st : MatchState) : List (Option (List Char)) :=
  st.spans.map (groupText line)

theorem groupText_of_passes {line w : List Char} {c d : Cursor} (ahead : c.ahead = line.drop c.position)
    (passes : c.Passes w d) : groupText line (some ⟨c.position, d.position⟩) = some w := by
  rw [groupText, Option.map_some, ← ahead, passes.ahead, passes.position, Nat.add_sub_cancel_left,
    List.take_left]

/-- A place in a line, with the texts of the groups behind it; `left` groups are still to come. -/
structure Stands (line : List Char) (known : List (Option (List Char))) (left : Nat)
    (st : MatchState) : Prop where
  place : ∃ w, (Cursor.start line).Passes w st.cursor
  spans : ∃ done, st.spans = done ++ List.replicate left none ∧ done.map (groupText line) = known

namespace Stands

variable {line w : List Char} {known : List (Option (List Char))} {left : Nat} {st : MatchState}
  {d : Cursor}

theorem move (stands : Stands line known left st) (passes : st.cursor.Passes w d) :
    Stands line known left ⟨d, st.spans⟩ := by
  obtain ⟨v, before⟩ := stands.place
  exact ⟨⟨v ++ w, before.trans passes⟩, stands.spans⟩

theorem skip (stands : Stands line known (left + 1) st) :
    Stands line (known ++ [none]) left st := by
  obtain ⟨done, spans, rfl⟩ := stands.spans
  refine ⟨stands.place, done ++ [none], ?_, by simp [groupText]⟩
  rw [spans, List.replicate_succ, List.append_assoc]
  rfl

theorem groupTexts_eq (stands : Stands line known 0 st) : groupTexts line st = known := by
  obtain ⟨done, spans, rfl⟩ := stands.spans
  rw [groupTexts, spans, List.replicate_zero, List.append_nil]

theorem groupText_eq (stands : Stands line known left st) (passes : st.cursor.Passes w d) :
    groupText line (some ⟨st.cursor.position, d.position⟩) = some w := by
  obtain ⟨v, before⟩ := stands.place
  have ahead : line = v ++ st.cursor.ahead := before.ahead
  have position : st.cursor.position = v.length := before.position.trans (Nat.zero_add _)
  refine groupText_of_passes ?_ passes
  rw [position, ahead, List.drop_left]

theorem capture (stands : Stands line known (left + 1) st) (passes : st.cursor.Passes w d) {k : Nat}
    (count : known.length = k) :
    Stands line (known ++ [some w]) left
      (MatchState.remember ⟨d, st.spans⟩ (k + 1) ⟨st.cursor.position, d.position⟩) := by
  have text := stands.groupText_eq passes
  obtain ⟨done, spans, rfl⟩ := stands.spans
  rw [List.length_map] at count
  refine ⟨(stands.move passes).place, done ++ [some ⟨st.cursor.position, d.position⟩], ?_, ?_⟩
  · simp [MatchState.remember, spans, List.replicate_succ, ← count]
  · simp [text]

end Stands

/-! ### Reading word by word -/

def wordsOf (cs : List Char) : List String := (Text.wordsFrom [] cs).map String.ofList

theorem wordsOf_blanks {bs : List Char} (blanks : Text.Blanks bs) (cs : List Char) :
    wordsOf (bs ++ cs) = wordsOf cs := by
  rw [wordsOf, Text.wordsFrom_blanks blanks, wordsOf]

theorem wordsOf_solid {w rest : List Char} (solid : Text.Solid w) (edge : Text.Edge rest)
    (some : w ≠ []) : wordsOf (w ++ rest) = String.ofList w :: wordsOf rest := by
  rw [wordsOf, Text.wordsFrom_solid [] solid edge (.inr some)]
  rfl

theorem wordsOf_eq_nil_iff {cs : List Char} : wordsOf cs = [] ↔ Text.Blanks cs := by
  rw [wordsOf, List.map_eq_nil_iff, Text.wordsFrom_eq_nil_iff]

def captured (fields : FieldTexts) : List (Option (List Char)) :=
  fields.map fun field => field.2.map String.toList

/-- A goal behind `k` groups that reads the words ahead, where it may start. -/
structure Reads (line : List Char) (k left : Nat) (admits : List Char → Prop) (goal : Goal)
    (read : List String → Option FieldTexts) : Prop where
  admitted : ∀ {known st}, known.length = k → Stands line known left st → admits st.cursor.ahead →
    (goal st).map (groupTexts line) =
      (read (wordsOf st.cursor.ahead)).map fun fields => known ++ captured fields
  refused : ∀ {known st}, known.length = k → Stands line known left st →
    ¬ admits st.cursor.ahead → goal st = none

section Blank

variable {c : Char} {w : List Char} {st : MatchState} {low : Nat} {manner : Manner}

theorem blank_holds :
    (CharSet.mk [.kind .blank false] false .exact false).holds c = Text.isBlank c := by
  simp [CharSet.holds, SetItem.holds, CharKind.holds]

theorem accepts_blanks : (again low none manner (Fragment.blank {})).Accepts w ↔
    Text.Blanks w ∧ low ≤ w.length := by
  rw [Fragment.blank, accepts_again_one]
  simp only [Text.Blanks, ← blank_holds]
  rfl

theorem forgetful_blanks :
    (again low none .greedy (Fragment.blank {})).Within Construct.Forgetful := by
  intro c used
  obtain rfl := List.mem_singleton.mp used
  exact ⟨.inr (.inl rfl), nofun⟩

end Blank

/-- At the end of a line nothing but blanks is left. -/
theorem run_ending (st : MatchState) :
    ((sequence (Fragment.ending {})).run some st).map MatchState.spans =
      if wordsOf st.cursor.ahead = [] then some st.spans else none := by
  let goal : Goal := fun st => if Anchor.lastLineEnd.holds st.cursor then some st else none
  change ((again 0 none .greedy (Fragment.blank {})).run goal st).map MatchState.spans = _
  refine map_run forgetful_blanks ?_ ?_
  · intro w d last accepts passes reached
    obtain ⟨blanks, _⟩ := accepts_blanks.mp accepts
    obtain ⟨ended, reached⟩ := Option.ite_none_right_eq_some.mp reached
    cases reached
    have rest : Text.Blanks d.ahead := by
      obtain ended | ended := Bool.or_eq_true_iff.mp ended
      · rw [List.isEmpty_iff.mp ended]
        exact List.forall_mem_nil _
      · rw [beq_iff_eq.mp ended]
        exact List.forall_mem_singleton.mpr rfl
    have all : Text.Blanks st.cursor.ahead := by
      rw [passes.ahead]
      exact List.forall_mem_append.mpr ⟨blanks, rest⟩
    rw [if_pos (wordsOf_eq_nil_iff.mpr all)]
  · intro some
    have none : wordsOf st.cursor.ahead = [] := by
      by_cases none : wordsOf st.cursor.ahead = []
      · exact none
      · simp [none] at some
    exact ⟨st.cursor.ahead, _, accepts_blanks.mpr ⟨wordsOf_eq_nil_iff.mp none, Nat.zero_le _⟩,
      Cursor.passes_of_ahead (List.append_nil _).symm, rfl⟩

theorem outcomes_lookahead (st : MatchState) :
    (look .ahead false (sequence (Fragment.ending {}))).outcomes st =
      if wordsOf st.cursor.ahead = [] then [st] else [] := by
  have ended := run_ending st
  rw [run_eq, findSome?_some] at ended
  simp only [outcomes, Option.bind_some, Bool.false_eq_true, if_false]
  generalize ((sequence (Fragment.ending {})).outcomes st).head? = found at ended
  split at ended
  · rename_i none
    obtain ⟨last, rfl, spans⟩ := Option.map_eq_some_iff.mp ended
    rw [if_pos none, Option.map_some, spans]
    rfl
  · rename_i some
    rw [if_neg some, Option.map_eq_none_iff.mp ended]
    rfl

theorem run_lookahead (goal : Goal) (st : MatchState) :
    (look .ahead false (sequence (Fragment.ending {}))).run goal st =
      if wordsOf st.cursor.ahead = [] then goal st else none := by
  rw [run_eq, outcomes_lookahead]
  split <;> simp

section Combine

variable {line : List Char} {k left : Nat} {goal : Goal} {read : List String → Option FieldTexts}
  {known : List (Option (List Char))} {st last : MatchState} {w : List Char} {d : Cursor}

namespace Reads

variable (reads : Reads line k left Text.Opening goal read)
include reads

/-- Behind blanks the words ahead are still the same. -/
theorem behind_blanks (count : known.length = k) (stands : Stands line known left st)
    (blanks : Text.Blanks w) (passes : st.cursor.Passes w d)
    (reached : goal ⟨d, st.spans⟩ = some last) :
    (read (wordsOf st.cursor.ahead)).map (fun fields => known ++ captured fields) =
      some (groupTexts line last) := by
  have here := stands.move passes
  by_cases opening : Text.Opening d.ahead
  · have found := reads.admitted count here opening
    rw [reached] at found
    rw [passes.ahead, wordsOf_blanks blanks]
    exact found.symm
  · rw [reads.refused count here opening] at reached
    cases reached

theorem run_blanks (count : known.length = k) (stands : Stands line known left st) {low : Nat}
    {bs rest : List Char} (ahead : st.cursor.ahead = bs ++ rest) (blanks : Text.Blanks bs)
    (clear : Text.Clear rest) (room : low ≤ bs.length) :
    ((again low none .greedy (Fragment.blank {})).run goal st).map (groupTexts line) =
      (read (wordsOf st.cursor.ahead)).map fun fields => known ++ captured fields := by
  refine map_run forgetful_blanks ?_ ?_
  · intro w d last accepts passes reached
    exact reads.behind_blanks count stands (accepts_blanks.mp accepts).1 passes reached
  · intro some
    have passes := Cursor.passes_of_ahead ahead
    refine ⟨bs, _, accepts_blanks.mpr ⟨blanks, room⟩, passes, ?_⟩
    have found := reads.admitted count (stands.move passes) (.inl clear)
    rw [ahead, wordsOf_blanks blanks, ← found, Option.isSome_map] at some
    exact some

end Reads

/-- A separator stands only where a word has ended. -/
theorem edge_of_separator (accepts : (Fragment.separator {}).Accepts w)
    (passes : st.cursor.Passes w d) : Text.Edge st.cursor.ahead := by
  obtain ⟨blanks, some⟩ := accepts_blanks.mp accepts
  intro c first
  rw [passes.ahead] at first
  cases w with
  | nil => cases some
  | cons b w =>
    cases first
    exact blanks _ List.mem_cons_self

theorem run_separator_none (inside : ¬ Text.Edge st.cursor.ahead) :
    (Fragment.separator {}).run goal st = none := by
  cases ran : (Fragment.separator {}).run goal st with
  | none => rfl
  | some last =>
    obtain ⟨w, d, accepts, passes, _⟩ := exists_of_run forgetful_blanks ran
    exact absurd (edge_of_separator accepts passes) inside

/-- What reads at least one word can be read behind a separator. -/
theorem Reads.separated (reads : Reads line k left Text.Opening goal read) (some : read [] = none) :
    Reads line k left Text.Edge ((Fragment.separator {}).run goal) read where
  admitted := by
    intro known st count stands edge
    obtain ⟨bs, rest, ahead, blanks, clear⟩ := Text.exists_blanks st.cursor.ahead
    cases bs with
    | nil =>
      have none : st.cursor.ahead = [] := edge.eq_nil (by rwa [ahead])
      have unread : read (wordsOf st.cursor.ahead) = Option.none := by
        rw [none]
        exact some
      rw [unread]
      cases ran : (Fragment.separator {}).run goal st with
      | none => rfl
      | some last =>
        obtain ⟨w, d, accepts, passes, reached⟩ := exists_of_run forgetful_blanks ran
        have found := reads.behind_blanks count stands (accepts_blanks.mp accepts).1 passes reached
        rw [unread] at found
        cases found
    | cons b bs => exact reads.run_blanks count stands ahead blanks clear (Nat.succ_pos _)
  refused := fun _ _ inside => run_separator_none inside

/-- A field that nothing stands before is kept apart from the words behind it. -/
theorem Reads.apart (reads : Reads line k left Text.Opening goal read) :
    Reads line k left Text.Edge ((Fragment.apart {}).run goal) read where
  admitted := by
    intro known st count stands edge
    have runs : (Fragment.apart {}).run goal st = ((Fragment.separator {}).run goal st).or
        (if wordsOf st.cursor.ahead = [] then goal st else none) := by
      rw [← run_lookahead]
      exact run_alt ..
    rw [runs]
    obtain ⟨bs, rest, ahead, blanks, clear⟩ := Text.exists_blanks st.cursor.ahead
    by_cases none : wordsOf st.cursor.ahead = []
    · rw [if_pos none]
      cases ran : (Fragment.separator {}).run goal st with
      | some last =>
        obtain ⟨w, d, accepts, passes, reached⟩ := exists_of_run forgetful_blanks ran
        exact (reads.behind_blanks count stands (accepts_blanks.mp accepts).1 passes reached).symm
      | none => exact reads.admitted count stands (.inr (wordsOf_eq_nil_iff.mp none))
    · rw [if_neg none, Option.or_none]
      cases bs with
      | nil =>
        rw [edge.eq_nil (by rwa [ahead])] at none
        exact absurd rfl none
      | cons b bs => exact reads.run_blanks count stands ahead blanks clear (Nat.succ_pos _)
  refused := by
    intro known st _ _ inside
    have words : wordsOf st.cursor.ahead ≠ [] :=
      fun none => inside (wordsOf_eq_nil_iff.mp none).edge
    have looks := run_lookahead goal st
    rw [if_neg words] at looks
    have separates : (sequence [Fragment.separator {}]).run goal st = none :=
      run_separator_none inside
    refine (run_alt ..).trans ?_
    rw [separates]
    exact looks

/-- A field that may be left out. -/
theorem Reads.optional {p : Pattern} {admits : List Char → Prop}
    {taken : List String → Option FieldTexts} {name : String}
    (taking : Reads line k (left + 1) admits (p.run goal) taken)
    (skipping : Reads line (k + 1) left admits goal read) :
    Reads line k (left + 1) admits ((again 0 (some 1) .greedy p).run goal) fun words =>
      (taken words).or ((read words).map ((name, none) :: ·)) where
  admitted := by
    intro known st count stands admitted
    have longer : (known ++ [none]).length = k + 1 := by rw [List.length_append, count]; rfl
    rw [run_optional, Option.map_or, taking.admitted count stands admitted,
      skipping.admitted longer stands.skip admitted, Option.map_or, Option.map_map]
    congr 2
    funext fields
    simp [captured]
  refused := by
    intro known st count stands refused
    have longer : (known ++ [none]).length = k + 1 := by rw [List.length_append, count]; rfl
    rw [run_optional, taking.refused count stands refused,
      skipping.refused longer stands.skip refused]
    rfl

/-! ### Words -/

/-- A pattern that passes accepted texts and nothing else from a place on, as far as it goes up to a
blank or to the end of the text. It remembers nothing. -/
structure TakesWords (p : Pattern) (accepted : List Char → Prop) (st : MatchState) : Prop where
  spans : ∀ last ∈ p.outcomes st, last.spans = st.spans
  ends : ∀ w d, st.cursor.Passes w d → Text.Edge d.ahead →
    (accepted w ↔ ∃ last ∈ p.outcomes st, last.cursor = d)

theorem takesWords_of_forgetful {p : Pattern} (forgetful : p.Within Construct.Forgetful)
    (st : MatchState) : TakesWords p p.Accepts st where
  spans last member := spans_of_within (fun c used => (forgetful c used).2) member
  ends w d passes _ := by
    constructor
    · exact fun accepts => mem_of_accepts (Forgetful.regular forgetful) accepts passes
    · rintro ⟨last, member, rfl⟩
      obtain ⟨u, accepts, passed⟩ := accepts_of_mem (Forgetful.regular forgetful) member
      rwa [List.append_cancel_right (passes.ahead.symm.trans passed.ahead)]

/-- What takes single words only matches all of the word ahead, or nothing, if no word goes on where
it ends. -/
theorem run_word {α : Type} {f : MatchState → α} {v : Option α} {p : Pattern}
    {accepted : List Char → Prop} (takes : TakesWords p accepted st)
    (only : ∀ u, accepted u → Text.Solid u) (solid : Text.Solid w) (passes : st.cursor.Passes w d)
    (edge : Text.Edge d.ahead)
    (refused : ∀ u e, st.cursor.Passes u e → ¬ Text.Edge e.ahead → goal ⟨e, st.spans⟩ = none)
    (accepts : accepted w → (goal ⟨d, st.spans⟩).map f = v) (rejects : ¬ accepted w → v = none) :
    (p.run goal st).map f = v := by
  have forgets : ∀ last ∈ p.outcomes st, goal last = goal ⟨last.cursor, st.spans⟩ := by
    intro last member
    rw [← takes.spans last member]
  cases ran : p.run goal st with
  | some last =>
    rw [run_eq] at ran
    obtain ⟨next, member, reached⟩ := List.exists_of_findSome?_eq_some ran
    rw [forgets next member] at reached
    obtain ⟨u, passed⟩ := exists_passes member
    -- What is matched holds no blank, so it does not reach beyond the word; what ends inside of the
    -- word cannot go on.
    have ended : Text.Edge next.cursor.ahead := by
      by_contra inside
      cases reached.symm.trans (refused u _ passed inside)
    have taken := (takes.ends u _ passed ended).mpr ⟨next, member, rfl⟩
    obtain ⟨x, rfl, rest⟩ := (only u taken).of_append edge (passed.ahead.symm.trans passes.ahead)
    cases x with
    | nil =>
      rw [List.append_nil] at passes accepts
      obtain rfl := passes.unique passed
      rw [← accepts taken, reached, Option.map_some]
    | cons c x =>
      have blank := ended c (by rw [rest]; rfl)
      rw [solid c (by simp)] at blank
      cases blank
  | none =>
    by_cases taken : accepted w
    · obtain ⟨last, member, rfl⟩ := (takes.ends w d passes edge).mp taken
      rw [run_eq, List.findSome?_eq_none_iff] at ran
      rw [← accepts taken, ← forgets last member, ran last member]
    · rw [rejects taken, Option.map_none]

/-- A pattern that matches single words, with a goal that goes on from the end of a word. -/
theorem reads_word {p : Pattern} {accepted : String → Bool}
    (takes : ∀ {known st}, known.length = k → Stands line known left st →
      TakesWords p (fun u => accepted (String.ofList u)) st)
    (only : ∀ u : List Char, accepted (String.ofList u) → u ≠ [] ∧ Text.Solid u)
    {add : String → FieldTexts → FieldTexts} {next : MatchState → Goal} {whole : Goal}
    (runs : ∀ st, whole st = p.run (next st) st)
    (admitted : ∀ {known st w d}, known.length = k → Stands line known left st →
      st.cursor.Passes w d → Text.Edge d.ahead → (next st ⟨d, st.spans⟩).map (groupTexts line) =
        (read (wordsOf d.ahead)).map fun fields => known ++ captured (add (String.ofList w) fields))
    (refused : ∀ {known st w d}, known.length = k → Stands line known left st →
      st.cursor.Passes w d → ¬ Text.Edge d.ahead → next st ⟨d, st.spans⟩ = none) :
    Reads line k left Text.Opening whole (takeWord accepted add read) where
  admitted := by
    intro known st count stands opening
    obtain ⟨w, rest, ahead, solid, edge⟩ := Text.exists_word st.cursor.ahead
    have passes := Cursor.passes_of_ahead ahead
    rw [runs]
    refine run_word (takes count stands) (fun u accepts => (only u accepts).2) solid passes edge
      (fun u e passed => refused count stands passed) ?_ ?_
    · intro accepts
      have words := wordsOf_solid solid edge (only w accepts).1
      rw [admitted count stands passes edge, ahead, words, takeWord, if_pos accepts, Option.map_map]
      rfl
    · intro rejects
      cases w with
      | nil =>
        have none : wordsOf st.cursor.ahead = [] := by
          obtain clear | blanks := opening
          · have ended : Text.Edge st.cursor.ahead := by rwa [ahead]
            rw [ended.eq_nil clear]
            rfl
          · exact wordsOf_eq_nil_iff.mpr blanks
        rw [none]
        rfl
      | cons c w =>
        rw [ahead, wordsOf_solid solid edge (List.cons_ne_nil c w), takeWord, if_neg rejects]
        rfl
  refused := by
    intro known st count stands closed
    obtain ⟨w, rest, ahead, solid, edge⟩ := Text.exists_word st.cursor.ahead
    have empty : w = [] := by
      cases w with
      | nil => rfl
      | cons c w =>
        refine absurd (.inl fun b first => ?_) closed
        rw [ahead] at first
        cases first
        exact solid _ List.mem_cons_self
    subst empty
    rw [runs, ← Option.map_eq_none_iff (f := groupTexts line)]
    exact run_word (takes count stands) (fun u accepts => (only u accepts).2) solid
      (Cursor.passes_of_ahead ahead) edge (fun u e passed => refused count stands passed)
      (fun accepts => absurd rfl (only _ accepts).1) fun _ => rfl

/-- A field takes a word that its pattern matches, and remembers it in its group. -/
theorem Reads.field {p : Pattern} (reads : Reads line (k + 1) left Text.Edge goal read)
    {f : Field} (takes : ∀ {known st}, known.length = k → Stands line known (left + 1) st →
      TakesWords p (fun u => f.fullMatches (String.ofList u)) st)
    (only : ∀ u : List Char, f.fullMatches (String.ofList u) → u ≠ [] ∧ Text.Solid u) :
    Reads line k (left + 1) Text.Opening ((group (k + 1) p).run goal)
      (takeWord f.fullMatches (fun word fields => (f.name, some word) :: fields) read) := by
  refine reads_word takes only (fun st => rfl) ?_ ?_
  · intro known st w d count stands passes edge
    have longer : (known ++ [some w]).length = k + 1 := by rw [List.length_append, count]; rfl
    refine (reads.admitted longer (stands.capture passes count) edge).trans ?_
    congr 1
    funext fields
    simp [captured]
  · intro known st w d count stands passes inside
    have longer : (known ++ [some w]).length = k + 1 := by rw [List.length_append, count]; rfl
    exact reads.refused longer (stands.capture passes count) inside

theorem character_holds {c b : Char} :
    (CharSet.mk [.code c.toNat] false .exact false).holds b ↔ b = c := by
  simp only [CharSet.holds, SetItem.holds, Fold.variants]
  simp [eq_comm, Char.toNat_inj]

theorem accepts_characters {cs u : List Char} :
    (sequence (cs.map (Fragment.character {}))).Accepts u ↔ u = cs := by
  induction cs generalizing u with
  | nil => rfl
  | cons c cs ih =>
    constructor
    · rintro ⟨_, v, ⟨b, holds, rfl⟩, rest, rfl⟩
      rw [character_holds.mp holds, ih.mp rest]
      rfl
    · rintro rfl
      exact ⟨[c], cs, ⟨c, character_holds.mpr rfl, rfl⟩, ih.mpr rfl, rfl⟩

theorem forgetful_characters {cs : List Char} :
    (sequence (cs.map (Fragment.character {}))).Within Construct.Forgetful := by
  refine within_sequence fun p member => ?_
  obtain ⟨c, _, rfl⟩ := List.mem_map.mp member
  exact within_one _

/-- Text that stands for itself takes a word that is equal to it. -/
theorem Reads.literal {text : String} (reads : Reads line k left Text.Edge goal read)
    (some : text ≠ "") (solid : Text.Solid text.toList) :
    Reads line k left Text.Opening
      ((sequence (text.toList.map (Fragment.character {}))).run goal)
      (takeWord (· = text) (fun _ fields => fields) read) := by
  have same : ∀ u : List Char, decide (String.ofList u = text) ↔
      (sequence (text.toList.map (Fragment.character {}))).Accepts u := by
    intro u
    rw [decide_eq_true_iff, accepts_characters]
    constructor
    · rintro rfl
      exact String.toList_ofList.symm
    · rintro rfl
      exact String.ofList_toList
  refine reads_word (fun {known st} count stands => ?_) ?_ (fun st => rfl) ?_ ?_
  · have takes := takesWords_of_forgetful (@forgetful_characters text.toList) st
    exact ⟨takes.spans, fun w d passes edge => (same w).trans (takes.ends w d passes edge)⟩
  · intro u accepted
    rw [accepts_characters.mp ((same u).mp accepted)]
    exact ⟨by simpa using some, solid⟩
  · intro known st w d count stands passes edge
    exact reads.admitted count (stands.move passes) edge
  · intro known st w d count stands passes inside
    exact reads.refused count (stands.move passes) inside

end Combine

end LineCommand
