import LineCommand.Proofs.Grammar.Required
import LineCommand.Proofs.Pattern.Reach

/-! Where the match of a line ends. The pattern of every grammar ends with the anchor for the end of
a line, which no fragment can get behind unless it has a bar that stands between no parentheses. What
the anchor means is up to the flags: with flags that make every line feed the end of a line, a match
may end long before the text does. -/
namespace LineCommand
open Pattern

def Expression.end? (e : Expression) (line : List Char) : Option Cursor :=
  (e.pattern.run some ⟨.start line, List.replicate e.groups none⟩).map (·.cursor)

namespace Expression

variable {e : Expression} {line : List Char}

theorem isSome_end? : (e.end? line).isSome ↔ (e.match? line).isSome := by
  rw [end?, match?, Option.isSome_map, Option.isSome_map]

theorem exists_passes {c : Cursor} (ended : e.end? line = some c) :
    ∃ w, (Cursor.start line).Passes w c := by
  obtain ⟨last, ran, rfl⟩ := Option.map_eq_some_iff.mp ended
  exact Pattern.exists_passes (mem_outcomes_of_run ran)

end Expression

theorem Pattern.holds_of_outcomes_anchor {ps : List Pattern} {a : Anchor} {st last : MatchState}
    (member : last ∈ (sequence (ps ++ [.anchor a])).outcomes st) : a.holds last.cursor = true := by
  rw [outcomes_sequence_append] at member
  obtain ⟨next, _, member⟩ := List.mem_flatMap.mp member
  obtain ⟨last', member, rest⟩ := List.mem_flatMap.mp member
  obtain rfl := List.mem_singleton.mp rest
  simp only [outcomes] at member
  split at member
  · rename_i holds
    obtain rfl := List.mem_singleton.mp member
    exact holds
  · cases member

namespace Fragment

variable {flags : PatternFlags} {s t : Progress} {pending : Bool} {xs : List Fragment}

/-- Whatever the fragments are read as, the end of a line is put behind it in the same scope. -/
theorem exists_extends_ending (standalone : ∀ x ∈ xs, x.Standalone flags) (begun : s.Begun)
    (same : s.scope.flags = flags) (ran : s.run (allTokens flags.verbose pending xs) = .ok t) :
    ∃ r, s.SameScope r ∧ r.Extends (ending flags) t := by
  induction xs generalizing s pending with
  | nil => exact ⟨s, ⟨rfl, rfl, rfl⟩, same ▸ extends_ending ran⟩
  | cons x xs ih =>
    obtain ⟨here, rests⟩ := List.forall_mem_cons.mp standalone
    obtain ⟨between, ranHere, ran⟩ := Progress.run_append.mp ran
    have kept := (run_tokens here begun same ranHere).1
    have begun' := Progress.run_begun begun ranHere
    obtain ⟨r, scope, extended⟩ := ih rests begun' (kept.flags.trans same) ran
    exact ⟨r, kept.trans scope, extended⟩

end Fragment

namespace GrammarBuilder

variable {flags : PatternFlags} {xs : List Fragment} {g : Grammar}

/-- Without a bar between no parentheses, a grammar's pattern ends with the end of a line. -/
theorem Makes.exists_pattern (made : Makes flags xs g)
    (standalone : ∀ x ∈ xs, x.Standalone flags) (barless : ∀ x ∈ xs, x.bars flags = 0) :
    ∃ ps, g.expression.pattern = .sequence (ps ++ [Fragment.lineEnd flags]) := by
  obtain ⟨last, ran, _, pattern, _⟩ := made.run standalone
  obtain ⟨s, started, ran⟩ := Progress.run_append.mp ran
  have role : s.scope.role = .whole := by
    cases started
    rfl
  obtain ⟨begun, same, _, _, unclosed⟩ := run_startTokens started
  obtain ⟨r, scope, extended⟩ := Fragment.exists_extends_ending standalone begun same ran
  have count := Fragment.length_closed_allTokens standalone begun same ran
  have none : (xs.map (Fragment.bars flags)).sum = 0 := by
    apply List.sum_eq_zero
    intro n member
    obtain ⟨x, listed, rfl⟩ := List.mem_map.mp member
    exact barless x listed
  rw [unclosed, none] at count
  have closed : r.scope.closed = [] := by
    rw [← extended.closed]
    exact List.length_eq_zero_iff.mp count
  rw [pattern, extended.toPattern (scope.role.trans role) closed, Fragment.ending,
    List.append_cons]
  exact ⟨_, rfl⟩

/-- A match of such a grammar ends where the flags say that a line does. -/
theorem Makes.holds_lineEnd (made : Makes flags xs g)
    (standalone : ∀ x ∈ xs, x.Standalone flags) (barless : ∀ x ∈ xs, x.bars flags = 0)
    {line : List Char} {c : Cursor} (ended : g.expression.end? line = some c) :
    (if flags.multiline then Anchor.lineEnd else .lastLineEnd).holds c = true := by
  obtain ⟨ps, pattern⟩ := made.exists_pattern standalone barless
  obtain ⟨last, ran, rfl⟩ := Option.map_eq_some_iff.mp ended
  rw [pattern] at ran
  exact holds_of_outcomes_anchor (mem_outcomes_of_run ran)

end GrammarBuilder

theorem Anchor.ahead_of_lineEnd {c : Cursor} (holds : Anchor.lineEnd.holds c = true) :
    c.ahead = [] ∨ ∃ rest, c.ahead = '\n' :: rest := by
  cases ahead : c.ahead with
  | nil => exact .inl rfl
  | cons d rest =>
    simp only [Anchor.holds, ahead, List.head?_cons, Option.all_some, beq_iff_eq] at holds
    exact .inr ⟨rest, by rw [holds]⟩

theorem Anchor.ahead_of_lastLineEnd {c : Cursor} (holds : Anchor.lastLineEnd.holds c = true) :
    c.ahead = [] ∨ c.ahead = ['\n'] := by
  simpa [Anchor.holds] using holds

/-! ### Lines covered by matches -/

namespace Grammar

/-- The match of the line starts with it, and leaves nothing but blanks of it. -/
def Covers (g : Grammar) (line : String) : Prop :=
  ∃ w c, g.expression.end? line.toList = some c ∧ (Cursor.start line.toList).Passes w c ∧
    Text.Blanks c.ahead

/-- No line in which fields are found has a part apart from blanks that is passed over. -/
def CoversLines (g : Grammar) : Prop :=
  ∀ (line : String) (texts : FieldTexts),
    (g.parse (.text line)).answer = .ok (.ok (some texts)) → g.Covers line

/-- The match of the line starts with it, and ends with it or before a line feed. -/
def EndsLine (g : Grammar) (line : String) : Prop :=
  ∃ w c, g.expression.end? line.toList = some c ∧ (Cursor.start line.toList).Passes w c ∧
    (c.ahead = [] ∨ ∃ rest, c.ahead = '\n' :: rest)

theorem exists_end {g : Grammar} {line : String} {texts : FieldTexts}
    (parsed : (g.parse (.text line)).answer = .ok (.ok (some texts))) :
    ∃ c, g.expression.end? line.toList = some c := by
  rw [← Option.isSome_iff_exists, Expression.isSome_end?]
  by_contra unmatched
  rw [Bool.not_eq_true, Option.isSome_eq_false_iff, Option.isNone_iff_eq_none] at unmatched
  have read : g.read line = .ok .noMatch := by rw [Grammar.read, unmatched]
  rw [parse_of_noMatch read] at parsed
  cases parsed

theorem EndsLine.covers {g : Grammar} {line : String} (ends : g.EndsLine line)
    (blank : ∀ v rest, line.toList = v ++ '\n' :: rest → Text.Blanks rest) : g.Covers line := by
  obtain ⟨w, c, ended, passes, ahead⟩ := ends
  refine ⟨w, c, ended, passes, ?_⟩
  obtain none | ⟨rest, some⟩ := ahead
  · rw [none]
    nofun
  · have split : line.toList = w ++ c.ahead := passes.ahead
    rw [some] at split ⊢
    have behind := blank w rest split
    exact List.forall_mem_cons.mpr ⟨by decide, behind⟩

end Grammar

namespace GrammarBuilder

/-- What a grammar made with flags does to lines in which it finds fields. -/
structure Anchored (flags : PatternFlags) (g : Grammar) : Prop where
  ends : ∀ (line : String) (texts : FieldTexts),
    (g.parse (.text line)).answer = .ok (.ok (some texts)) → g.EndsLine line
  /-- Unless the flags make every line feed the end of a line, nothing is passed over. -/
  covers : flags.multiline = false → g.CoversLines
  /-- Under any flags nothing is passed over in a text of a single line. -/
  single : ∀ (line : String) (texts : FieldTexts),
    (g.parse (.text line)).answer = .ok (.ok (some texts)) →
      (∀ v rest, line.toList = v ++ '\n' :: rest → Text.Blanks rest) → g.Covers line

/-- Where no fragment has a bar that stands between no parentheses, a grammar is anchored: the match
of a line ends with it or before a line feed. This line feed is the last character, unless the flags
make every line feed the end of a line. -/
theorem anchored_of_barless (b : GrammarBuilder) (t : Template) (g : Grammar) (xs : List Fragment)
    (built : (b.build t).answer = .ok (.ok g)) (found : b.fragments? t = some xs)
    (standalone : ∀ x ∈ xs, x.Standalone b.flags) (barless : ∀ x ∈ xs, x.bars b.flags = 0) :
    Anchored b.flags g := by
  obtain ⟨xs', found', made⟩ := build_eq_ok built
  obtain rfl : xs = xs' := Option.some.inj (found.symm.trans found')
  have ends : ∀ (line : String) (texts : FieldTexts),
      (g.parse (.text line)).answer = .ok (.ok (some texts)) → g.EndsLine line := by
    intro line texts parsed
    obtain ⟨c, ended⟩ := Grammar.exists_end parsed
    obtain ⟨w, passes⟩ := Expression.exists_passes ended
    refine ⟨w, c, ended, passes, ?_⟩
    have holds := made.holds_lineEnd standalone barless ended
    split at holds
    · exact Anchor.ahead_of_lineEnd holds
    · exact (Anchor.ahead_of_lastLineEnd holds).imp_right fun one => ⟨[], one⟩
  refine ⟨ends, ?_, ?_⟩
  · intro single line texts parsed
    obtain ⟨c, ended⟩ := Grammar.exists_end parsed
    obtain ⟨w, passes⟩ := Expression.exists_passes ended
    have holds := made.holds_lineEnd standalone barless ended
    rw [single] at holds
    refine ⟨w, c, ended, passes, ?_⟩
    obtain none | one := Anchor.ahead_of_lastLineEnd holds
    · rw [none]
      nofun
    · rw [one]
      exact List.forall_mem_singleton.mpr (by decide)
  · intro line texts parsed blank
    exact (ends line texts parsed).covers blank

theorem anchored_go :
    let b : GrammarBuilder :=
      { fields := ⟨[⟨"n", "n", word⟩]⟩, flags := { ignoreCase := true, dotAll := true, ascii := true } }
    let t : Template := .text ("go " ++ Grammar.reference "n")
    ∃ g, (b.build t).answer = .ok (.ok g) ∧
      (g.parse (.text "GO ab\n")).answer = .ok (.ok (some [("n", some "ab")])) ∧
      g.CoversLines := by
  intro b t
  let xs : List Fragment := [.plain "go", .field word false]
  obtain ⟨g, built, read⟩ : ∃ g, (b.build t).answer = .ok (.ok g) ∧
      g.read "GO ab\n" = .ok (.fields [("n", some "ab")]) := exists_read (by decide +kernel)
  have found : b.fragments? t = some xs := by decide +kernel
  have standalone : ∀ x ∈ xs, x.Standalone b.flags := by
    simp only [xs, List.forall_mem_cons]
    exact ⟨⟨⟨_, rfl⟩, nofun⟩, ⟨⟨_, rfl⟩, nofun⟩, nofun⟩
  have barless : ∀ x ∈ xs, x.bars b.flags = 0 := by decide +kernel
  have anchored := anchored_of_barless b t g xs built found standalone barless
  exact ⟨g, built, Grammar.parse_of_fields read, anchored.covers rfl⟩

/-- If every line feed is the end of a line, a match may pass over all lines but the first. -/
theorem not_coversLines_multiline :
    let b : GrammarBuilder := { fields := ⟨[⟨"n", "n", word⟩]⟩, flags := { multiline := true } }
    let t : Template := .text (Grammar.reference "n")
    ∃ g, (b.build t).answer = .ok (.ok g) ∧ b.fragments? t = some [.field word false] ∧
      (Fragment.field word false).Standalone b.flags ∧ (Fragment.field word false).bars b.flags = 0 ∧
      (g.parse (.text "ab\ncd")).answer = .ok (.ok (some [("n", some "ab")])) ∧
      ¬ g.CoversLines := by
  intro b t
  let observed (g : Grammar) : Option (Grammar.Reading × List Char) := do
    let reading ← (g.read "ab\ncd").toOption
    let c ← g.expression.end? "ab\ncd".toList
    pure (reading, c.ahead)
  obtain ⟨g, built, seen⟩ : ∃ g, (b.build t).answer = .ok (.ok g) ∧
      observed g = some (.fields [("n", some "ab")], "\ncd".toList) :=
    exists_of_build (by decide +kernel)
  obtain ⟨reading, read, seen⟩ := Option.bind_eq_some_iff.mp seen
  obtain ⟨c, ended, seen⟩ := Option.bind_eq_some_iff.mp seen
  obtain ⟨rfl, ahead⟩ := Prod.mk.inj (Option.some.inj seen)
  have parsed := Grammar.parse_of_fields (toOption_eq_some_iff.mp read)
  refine ⟨g, built, by decide +kernel, ⟨⟨_, rfl⟩, nofun⟩, by decide +kernel, parsed, ?_⟩
  intro covers
  obtain ⟨_, c', ended', _, blanks⟩ := covers _ _ parsed
  obtain rfl : c = c' := Option.some.inj (ended.symm.trans ended')
  rw [ahead] at blanks
  have blank := blanks 'c' (by decide)
  cases blank

end GrammarBuilder
end LineCommand
