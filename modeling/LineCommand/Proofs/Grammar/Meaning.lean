import LineCommand.Proofs.Grammar.Layout

/-! What a field matches in a line. Wherever it is referred to, a field takes a text that its pattern
matches by itself, for behind a field comes a blank or the end of the line, and its pattern can tell
neither from the end of a text. -/
namespace LineCommand
open Pattern

namespace Fragment

variable {pending : Bool} {k n : Nat} {x : Fragment} {xs : List Fragment} {line : List Char}
  {st next last : MatchState} {span : Span} {spans : List (Option Span)}

/-- A field whose pattern can be read by itself and refers to its groups by name. It looks at nothing
but what it passes, and where it settles on something inside of what it settles on, that has no
blanks. -/
structure Portable (x : Fragment) : Prop where
  reads : ∃ e, Expression.read {} x.text = .ok e
  movable : Movable (lexemes false x.text.toList)
  shallow : (x.body {}).Shallow

theorem Portable.spliceable (portable : x.Portable) (slot : x.slot? ≠ none) : x.Spliceable {} :=
  ⟨⟨portable.reads, nofun⟩, portable.movable, fun none => absurd none slot⟩

/-- A field matches by itself the text where it lies on a line. -/
theorem Placed.fullMatches (placed : x.Placed pending k st (some span) next)
    (stage : Stage line n k st) (rest : Laid (x.leaves pending) (k + x.groups {}) xs next spans last)
    (slot : x.slot? ≠ none) (room : k + x.groups {} ≤ n) {e : Expression}
    (read : Expression.read {} x.text = .ok e) (shallow : e.pattern.Shallow) :
    ∃ text, groupText line (some span) = some text ∧ e.fullMatches text := by
  cases placed with
  | @taken here there _ gap text rear =>
    have edge := edge_behind rear rest
    obtain ⟨u, before, kept, _⟩ := gap_passes gap
    have ahead := drop_of_passes stage.ahead before
    obtain ⟨field, some⟩ := Option.ne_none_iff_exists'.mp slot
    rw [core, some, grouped, body, read] at text
    obtain ⟨inner, found, rfl⟩ := List.mem_map.mp text
    obtain ⟨w, passes⟩ := exists_passes found
    have own : x.groups {} = e.groups + 1 := by rw [groups_eq_of_slot {} slot, Fragment.own, read]
    refine ⟨w, groupText_of_passes ahead passes, ?_⟩
    refine Expression.fullMatches_of_mem read (k := k + 1) passes.ahead edge ?_ (fun i => ?_) shallow
      found rfl
    · rw [kept, stage.groups]
      omega
    · rw [span?_of_spans kept]
      exact stage.fresh _ (by omega)

end Fragment

namespace GrammarBuilder

/-- A field means the same wherever it is referred to. Without flags, where literals are plain text and
fields are portable, the text of the group around a field in any match of a line is one that the pattern
of the field matches by itself, from its start to its end. -/
theorem fullMatches_of_match (b : GrammarBuilder) (t : Template) (g : Grammar) (xs : List Fragment)
    (plain : b.flags = {}) (built : (b.build t).answer = .ok (.ok g))
    (found : b.fragments? t = some xs)
    (literals : ∀ x ∈ xs, x.slot? = none → Plain x.text.toList)
    (fields : ∀ x ∈ xs, x.slot? ≠ none → x.Portable) (line : String)
    (captures : List (Option (List Char))) (matched : g.expression.match? line.toList = some captures)
    (before after : List Fragment) (f : Field) (optional : Bool)
    (split : xs = before ++ .field f optional :: after) (text : List Char)
    (took : captures[(before.map (Fragment.groups {})).sum]? = some (some text)) :
    f.fullMatches (String.ofList text) := by
  have made := makes_of_build built found
  rw [plain] at made
  have spliceable : ∀ x ∈ xs, x.Spliceable {} := by
    intro x member
    by_cases slot : x.slot? = none
    · exact (Fragment.insertable_of_plain rfl (literals x member slot)).toSpliceable
    · exact (fields x member slot).spliceable slot
  have standalone : ∀ x ∈ xs, x.Standalone {} := fun x member => (spliceable x member).toStandalone
  have here : Fragment.field f optional ∈ xs := by simp [split]
  have slot : (Fragment.field f optional).slot? ≠ none := nofun
  obtain ⟨e, read⟩ := (fields _ here slot).reads
  have shallow := (fields _ here slot).shallow
  rw [Fragment.body, read] at shallow
  obtain ⟨last, ran, remembered⟩ := Expression.exists_of_match? matched
  obtain ⟨spans, laidOut⟩ := (made.mem_outcomes_iff spliceable).mp (mem_outcomes_of_run ran)
  obtain ⟨_, st, _, _, stage, laid⟩ := laidOut.exists_start
  have around : groupText line.toList (last.span? ((before.map (Fragment.groups {})).sum + 1)) =
      some text := by
    have told := remembered (before.map (Fragment.groups {})).sum
    rw [took] at told
    exact told.symm
  obtain ⟨span, taken, _⟩ := Option.map_eq_some_iff.mp around
  have total := made.groups standalone
  rw [split, List.map_append, List.sum_append, List.map_cons, List.sum_cons] at total
  have own := Fragment.groups_eq_of_slot {} slot
  have remembers := laid.span?_of_field stage standalone split slot (by omega)
  obtain ⟨pending, here, span?, next, back, listed, stage, placed, rest⟩ :=
    laid.exists_placed stage standalone split
  rw [Nat.zero_add] at *
  rw [listed, taken] at remembers
  obtain rfl := Option.some.inj remembers
  obtain ⟨text', same, full⟩ := placed.fullMatches stage rest slot (by omega) read shallow
  rw [taken, same] at around
  obtain rfl := Option.some.inj around
  rw [Field.fullMatches_eq read, String.toList_ofList]
  exact full

/-- Letters and blanks between two quotation marks of one kind. -/
def quoted : Field := ⟨"q", "(?P<mark>['\"])(?>[a-z ]+)(?P=mark)", false, 1⟩

theorem fullMatches_of_match_quoted :
    let b : GrammarBuilder := { fields := ⟨[⟨"n", "n", trailing⟩, ⟨"q", "q", quoted⟩]⟩ }
    let t : Template := .text ("say \x7b\x7bn?\x7d\x7d " ++ Grammar.reference "q")
    ∃ g, (b.build t).answer = .ok (.ok g) ∧
      g.expression.match? "say xy 'a b'".toList =
        some [some ['x', 'y'], some ['y'], some "'a b'".toList, some ['\'']] ∧
      quoted.fullMatches (String.ofList "'a b'".toList) := by
  intro b t
  let xs : List Fragment := [.plain "say", .field trailing true, .field quoted false]
  obtain ⟨g, built, matched⟩ : ∃ g, (b.build t).answer = .ok (.ok g) ∧
      g.expression.match? "say xy 'a b'".toList =
        some [some ['x', 'y'], some ['y'], some "'a b'".toList, some ['\'']] :=
    exists_of_build (by decide +kernel)
  refine ⟨g, built, matched, ?_⟩
  have literals : ∀ x ∈ xs, x.slot? = none → Plain x.text.toList := by decide +kernel
  have fields : ∀ x ∈ xs, x.slot? ≠ none → x.Portable := by
    simp only [xs, List.forall_mem_cons]
    refine ⟨fun slot => absurd rfl slot, fun _ => ?_, fun _ => ?_, nofun⟩
    · exact ⟨⟨_, rfl⟩, ⟨by decide +kernel, .inl (by decide +kernel)⟩, by decide +kernel⟩
    · exact ⟨⟨_, rfl⟩, ⟨by decide +kernel, .inl (by decide +kernel)⟩, by decide +kernel⟩
  exact fullMatches_of_match b t g xs rfl built (by decide +kernel) literals fields "say xy 'a b'" _
    matched [.plain "say", .field trailing true] [] quoted false rfl "'a b'".toList
    (by decide +kernel)

def letter : Field := ⟨"a", "\\w", false, 0⟩

def doubled : Field := ⟨"b", "(\\w)\\1", false, 1⟩

/-- Settles on what it can pass before it passes more. -/
def hurried : Field := ⟨"w", "(?>(?>aa b|)a|aa)", false, 0⟩

/-- Behind other groups, the number of a group stands for another one. What is settled on inside of
what is settled on may reach beyond the field, and come to nothing. -/
theorem not_fullMatches_of_match :
    (let b : GrammarBuilder := { fields := ⟨[⟨"a", "a", letter⟩, ⟨"b", "b", doubled⟩]⟩ }
      let t : Template := .text (Grammar.reference "a" ++ " " ++ Grammar.reference "b")
      let xs : List Fragment := [.field letter false, .field doubled false]
      b.fragments? t = some xs ∧ (∀ x ∈ xs, ∃ e, Expression.read {} x.text = .ok e) ∧
        (∀ x ∈ xs, ∀ y ∈ lexemes false x.text.toList, ∀ c ∈ y.token.construct?,
          c = .group ∨ c = .back) ∧
        (∀ x ∈ xs, x.excess {} = 0) ∧ ∃ g, (b.build t).answer = .ok (.ok g) ∧
          g.expression.match? "x yx".toList = some [some ['x'], some ['y', 'x'], some ['y']] ∧
          doubled.fullMatches "yx" = false) ∧
    (let b : GrammarBuilder := { fields := ⟨[⟨"w", "w", hurried⟩]⟩ }
      let t : Template := .text (Grammar.reference "w" ++ " b")
      let xs : List Fragment := [.field hurried false, .plain "b"]
      b.fragments? t = some xs ∧ (∀ x ∈ xs, ∃ e, Expression.read {} x.text = .ok e) ∧
        (∀ y ∈ lexemes false hurried.pattern.toList, ∀ c ∈ y.token.construct?, c = .atomic) ∧
        (∀ x ∈ xs, x.excess {} = 0) ∧ Plain "b".toList ∧ ∃ g, (b.build t).answer = .ok (.ok g) ∧
          g.expression.match? "aa b".toList = some [some ['a', 'a']] ∧
          hurried.fullMatches "aa" = false) := by
  constructor
  · intro b t xs
    obtain ⟨g, built, matched⟩ : ∃ g, (b.build t).answer = .ok (.ok g) ∧
        g.expression.match? "x yx".toList = some [some ['x'], some ['y', 'x'], some ['y']] :=
      exists_of_build (by decide +kernel)
    refine ⟨by decide +kernel, ?_, by decide +kernel, by decide +kernel, g, built, matched,
      by decide +kernel⟩
    exact List.forall_mem_cons.mpr ⟨⟨_, rfl⟩, List.forall_mem_singleton.mpr ⟨_, rfl⟩⟩
  · intro b t xs
    obtain ⟨g, built, matched⟩ : ∃ g, (b.build t).answer = .ok (.ok g) ∧
        g.expression.match? "aa b".toList = some [some ['a', 'a']] :=
      exists_of_build (by decide +kernel)
    refine ⟨by decide +kernel, ?_, by decide +kernel, by decide +kernel, by decide, g, built, matched,
      by decide +kernel⟩
    exact List.forall_mem_cons.mpr ⟨⟨_, rfl⟩, List.forall_mem_singleton.mpr ⟨_, rfl⟩⟩

end GrammarBuilder
end LineCommand
