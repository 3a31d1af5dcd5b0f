import LineCommand.Proofs.Grammar.Layout
import LineCommand.Proofs.Grammar.Required

/-! What lies between the tokens of a template on a line. A separator passes at least one blank between
two tokens that take part, one next after the other. Only where all tokens so far are optional may the
separator be missing, at the end of a line. -/
namespace LineCommand
open Pattern

/-- Two stretches of a line with blanks between them, at least one, and nothing else. -/
structure Separated (line : List Char) (s t : Span) : Prop where
  apart : s.stop < t.start
  blanks : Text.Blanks ((line.drop s.stop).take (t.start - s.stop))

namespace Fragment

variable {pending : Bool} {k : Nat} {xs : List Fragment} {line : List Char} {s t : Span}
  {st last : MatchState} {spans : List (Option Span)}

theorem separated_of_blanks {w rest : List Char} (some : w ≠ []) (blanks : Text.Blanks w)
    (ahead : line.drop s.stop = w ++ rest) (start : t.start = s.stop + w.length) :
    Separated line s t := by
  have longer := List.length_pos_iff.mpr some
  refine ⟨by omega, ?_⟩
  rwa [start, Nat.add_sub_cancel_left, ahead, List.take_left]

theorem Laid.length_eq (laid : Laid pending k xs st spans last) : spans.length = xs.length := by
  induction laid with
  | ended => rfl
  | cons _ _ ih => exact congrArg Nat.succ ih

/-- The next token that takes part begins behind a separator if one is pending, and otherwise right
here. -/
theorem Laid.exists_gap (laid : Laid pending k xs st spans last) {j : Nat}
    (next : spans[j]? = some (some t)) (skipped : ∀ m < j, spans[m]? = some none) :
    ∃ w rest, Text.Blanks w ∧ (w = [] ↔ pending = false) ∧ st.cursor.ahead = w ++ rest ∧
      t.start = st.cursor.position + w.length := by
  induction laid generalizing j with
  | ended => cases next
  | cons here _ ih =>
    cases j with
    | zero =>
      obtain rfl := Option.some.inj next
      cases here with
      | taken gap text rear =>
        obtain ⟨w, passes, _, blanks, none_iff⟩ := gap_passes gap
        exact ⟨w, _, blanks, none_iff, passes.ahead, passes.position⟩
    | succ j =>
      obtain rfl := Option.some.inj (skipped 0 (Nat.succ_pos j))
      cases here with
      | skipped optional =>
        rw [leaves_eq, optional, Bool.not_true, Bool.or_false] at ih
        exact ih next fun m before => skipped (m + 1) (Nat.succ_lt_succ before)

/-- Of two tokens that take part, one next after the other, the second begins behind a separator, unless
no separator was pending so far and nothing but blanks is left. -/
theorem Laid.separated (laid : Laid pending k xs st spans last)
    (ahead : st.cursor.ahead = line.drop st.cursor.position) {i j : Nat} (order : i < j)
    (first : spans[i]? = some (some s)) (second : spans[j]? = some (some t))
    (between : ∀ m, i < m → m < j → spans[m]? = some none) :
    Separated line s t ∨ pending = false ∧ (∀ m ≤ i, ∀ x ∈ xs[m]?, x.optional) ∧
      Text.Blanks (line.drop s.stop) := by
  induction laid generalizing i j with
  | ended => cases first
  | @cons pending k x xs st next last span? spans here rest ih =>
    obtain ⟨j, rfl⟩ := Nat.exists_eq_succ_of_ne_zero (Nat.ne_zero_of_lt order)
    cases i with
    | zero =>
      have skipped : ∀ m < j, spans[m]? = some none := fun m before =>
        between (m + 1) (Nat.succ_pos m) (Nat.succ_lt_succ before)
      obtain ⟨w, left, blanks, none_iff, split, start⟩ := rest.exists_gap second skipped
      obtain rfl := Option.some.inj first
      cases here with
      | @taken here there _ gap text rear =>
        obtain ⟨u, before⟩ := exists_passes gap
        obtain ⟨v, inside⟩ := exists_passes text
        have stop := drop_of_passes ahead (before.trans inside)
        obtain ⟨waits, rfl⟩ | ⟨free, v, passes, _, blanks', open'⟩ := rear_passes rear
        · have some : w ≠ [] := fun none => by simp [none_iff.mp none] at waits
          exact .inl (separated_of_blanks some blanks (stop.symm.trans split) start)
        · -- The separator stands behind the first token, and none before the second.
          rw [none_iff.mpr free, List.length_nil, Nat.add_zero] at start
          by_cases none : v = []
          · rw [leaves_eq, Bool.or_eq_false_iff, Bool.not_eq_false'] at free
            refine .inr ⟨free.1, fun m least y listed => ?_, stop ▸ open' none⟩
            obtain rfl := Nat.le_zero.mp least
            cases listed
            exact free.2
          · exact .inl (separated_of_blanks none blanks' (stop.symm.trans passes.ahead)
              (start.trans passes.position))
    | succ i =>
      obtain ⟨⟨w, passes⟩, _⟩ := here.passes
      have behind : ∀ m, i < m → m < j → spans[m]? = some none := fun m after before =>
        between (m + 1) (Nat.succ_lt_succ after) (Nat.succ_lt_succ before)
      obtain apart | ⟨free, optional, blanks⟩ :=
        ih (drop_of_passes ahead passes) (Nat.lt_of_succ_lt_succ order) first second behind
      · exact .inl apart
      · rw [leaves_eq, Bool.or_eq_false_iff, Bool.not_eq_false'] at free
        refine .inr ⟨free.1, fun m least y listed => ?_, blanks⟩
        cases m with
        | zero =>
          cases listed
          exact free.2
        | succ m => exact optional m (Nat.le_of_succ_le_succ least) y listed

end Fragment

namespace GrammarBuilder

/-- Tokens that take part in a match are kept apart. Every match lays out the tokens of the template on
the line, each with the stretch that its group remembers if it is a field. However that is done, between
two tokens that take part, one next after the other, there is a separator of at least one blank, unless
all tokens up to the first of the two are optional and nothing but blanks is left of the line behind
it. -/
theorem separated_of_match (b : GrammarBuilder) (t : Template) (g : Grammar) (xs : List Fragment)
    (plain : b.flags = {}) (built : (b.build t).answer = .ok (.ok g))
    (found : b.fragments? t = some xs) (spliceable : ∀ x ∈ xs, x.Spliceable {}) (line : String)
    (last : MatchState)
    (ran : g.expression.pattern.run some
      ⟨.start line.toList, List.replicate g.expression.groups none⟩ = some last) :
    (∃ spans, Fragment.LaidOut xs line.toList g.expression.groups spans last) ∧
      ∀ spans, Fragment.LaidOut xs line.toList g.expression.groups spans last →
        spans.length = xs.length ∧
        (∀ before x after, xs = before ++ x :: after → x.slot? ≠ none →
          spans[before.length]? = some (last.span? ((before.map (Fragment.groups {})).sum + 1))) ∧
        ∀ (i j : Nat) (first second : Span), i < j → spans[i]? = some (some first) →
          spans[j]? = some (some second) → (∀ m, i < m → m < j → spans[m]? = some none) →
          Separated line.toList first second ∨
            (∀ m ≤ i, ∀ x ∈ xs[m]?, x.optional) ∧ Text.Blanks (line.toList.drop first.stop) := by
  have made := makes_of_build built found
  rw [plain] at made
  have standalone : ∀ x ∈ xs, x.Standalone {} := fun x member => (spliceable x member).toStandalone
  refine ⟨(made.mem_outcomes_iff spliceable).mp (mem_outcomes_of_run ran), fun spans laidOut => ?_⟩
  obtain ⟨_, st, _, _, stage, laid⟩ := laidOut.exists_start
  refine ⟨laid.length_eq, fun before x after split slot => ?_,
    fun i j first second order here there between => ?_⟩
  · have remembers := laid.span?_of_field stage standalone split slot
    rw [Nat.zero_add] at remembers
    exact remembers (made.room standalone split slot)
  · exact (laid.separated stage.ahead order here there between).imp_right And.right

def maybe : Field := ⟨"b", "\\w*", false, 0⟩

theorem separated_of_match_words :
    let b : GrammarBuilder := { fields := ⟨[⟨"n", "n", word⟩, ⟨"b", "b", maybe⟩]⟩ }
    let t : Template := .text ("\x7b\x7bn?\x7d\x7d (?:a|b)c " ++ Grammar.reference "b")
    let xs : List Fragment := [.field word true, .plain "(?:a|b)c", .field maybe false]
    let line := "x  ac y"
    ∃ g last, (b.build t).answer = .ok (.ok g) ∧
      last.spans = [some ⟨0, 1⟩, some ⟨6, 7⟩] ∧
      ∃ spans, Fragment.LaidOut xs line.toList g.expression.groups spans last ∧
        spans[0]? = some (some ⟨0, 1⟩) ∧ spans[2]? = some (some ⟨6, 7⟩) ∧
        ∀ (i j : Nat) (first second : Span), i < j → spans[i]? = some (some first) →
          spans[j]? = some (some second) → (∀ m, i < m → m < j → spans[m]? = some none) →
          Separated line.toList first second ∨ (∀ m ≤ i, ∀ x ∈ xs[m]?, x.optional) ∧
            Text.Blanks (line.toList.drop first.stop) := by
  intro b t xs line
  let run (g : Grammar) : Option MatchState :=
    g.expression.pattern.run some ⟨.start line.toList, List.replicate g.expression.groups none⟩
  obtain ⟨g, built, ran⟩ : ∃ g, (b.build t).answer = .ok (.ok g) ∧
      run g = some ⟨⟨7, line.toList.reverse, []⟩, [some ⟨0, 1⟩, some ⟨6, 7⟩]⟩ :=
    exists_of_build (by decide +kernel)
  have spliceable : ∀ x ∈ xs, x.Spliceable {} := by
    simp only [xs, List.forall_mem_cons]
    refine ⟨?_, ?_, ?_, nofun⟩
    all_goals
      exact ⟨⟨⟨_, rfl⟩, nofun⟩, ⟨by decide +kernel, .inr (by decide +kernel)⟩, by decide +kernel⟩
  obtain ⟨⟨spans, laid⟩, all⟩ := separated_of_match b t g xs rfl built (by decide +kernel) spliceable
    line _ ran
  obtain ⟨_, fields, apart⟩ := all spans laid
  refine ⟨g, _, built, rfl, spans, laid, ?_, ?_, apart⟩
  · exact fields [] (.field word true) [.plain "(?:a|b)c", .field maybe false] rfl nofun
  · have groups : ([Fragment.field word true, .plain "(?:a|b)c"].map (Fragment.groups {})).sum = 1 := by
      decide +kernel
    have second := fields [.field word true, .plain "(?:a|b)c"] (.field maybe false) [] rfl nofun
    rw [groups] at second
    exact second

/-- At the end of a line no separator is asked for behind an optional token at the start, although a
token may follow that matches nothing. -/
theorem not_separated_of_match :
    let b : GrammarBuilder := { fields := ⟨[⟨"n", "n", word⟩, ⟨"b", "b", maybe⟩]⟩ }
    let t : Template := .text ("\x7b\x7bn?\x7d\x7d " ++ Grammar.reference "b")
    let xs : List Fragment := [.field word true, .field maybe false]
    b.fragments? t = some xs ∧ (∀ x ∈ xs, x.Forward) ∧ ∃ g last,
      (b.build t).answer = .ok (.ok g) ∧ g.read "x" = .ok (.fields [("n", some "x"), ("b", some "")]) ∧
      g.expression.pattern.run some
        ⟨.start "x".toList, List.replicate g.expression.groups none⟩ = some last ∧
      last.span? 1 = some ⟨0, 1⟩ ∧ last.span? 2 = some ⟨1, 1⟩ ∧
      ¬ Separated "x".toList ⟨0, 1⟩ ⟨1, 1⟩ := by
  intro b t xs
  let run (g : Grammar) : Option MatchState :=
    g.expression.pattern.run some ⟨.start "x".toList, List.replicate g.expression.groups none⟩
  obtain ⟨g, built, both⟩ : ∃ g, (b.build t).answer = .ok (.ok g) ∧
      ((g.read "x").toOption.bind fun reading => (run g).map (reading, ·)) =
        some (.fields [("n", some "x"), ("b", some "")],
          ⟨⟨1, ['x'], []⟩, [some ⟨0, 1⟩, some ⟨1, 1⟩]⟩) :=
    exists_of_build (by decide +kernel)
  obtain ⟨reading, read, rest⟩ := Option.bind_eq_some_iff.mp both
  obtain ⟨last, ran, same⟩ := Option.map_eq_some_iff.mp rest
  obtain ⟨rfl, rfl⟩ := Prod.mk.inj same
  have forward : ∀ x ∈ xs, x.Forward := by
    simp only [xs, List.forall_mem_cons]
    exact ⟨⟨⟨_, rfl⟩, by decide +kernel, nofun⟩, ⟨⟨_, rfl⟩, by decide +kernel, nofun⟩, nofun⟩
  exact ⟨by decide +kernel, forward, g, _, built, toOption_eq_some_iff.mp read, ran, rfl, rfl,
    fun separated => absurd separated.apart (Nat.lt_irrefl 1)⟩

end GrammarBuilder
end LineCommand
