import LineCommand.Proofs.Grammar.Captures
import LineCommand.Proofs.Grammar.Sources

/-! The policies for references that no registered field answers to. The lenient policy takes everything
that the strict one takes and makes the same of it; what it takes beyond that, the strict policy refuses
for the first such reference. -/
namespace LineCommand

/-- The name in a reference that no registered field answers to. -/
def TemplateToken.stranger? (r : FieldRegistry) : TemplateToken → Option String
  | .literal _ => none
  | .reference name _ _ => if (NameTable.get? r (.text name)).isNone then some name else none

theorem TemplateToken.stranger?_eq_some_iff {r : FieldRegistry} {token : TemplateToken}
    {name : String} : token.stranger? r = some name ↔
      ∃ optional raw, token = .reference name optional raw ∧
        NameTable.get? r (.text name) = none := by
  cases token with
  | literal text => simp [stranger?]
  | reference other optional raw =>
    simp only [stranger?, Option.isNone_iff_eq_none, Option.ite_none_right_eq_some, Option.some.injEq,
      reference.injEq]
    constructor
    · rintro ⟨missing, rfl⟩
      exact ⟨optional, raw, ⟨rfl, rfl, rfl⟩, missing⟩
    · rintro ⟨_, _, ⟨rfl, -, -⟩, missing⟩
      exact ⟨missing, rfl⟩

/-- The first name in a template that no registered field answers to. -/
def Template.stranger? (t : Template) (r : FieldRegistry) : Option String :=
  (t.tokens.toOption.getD []).findSome? (·.stranger? r)

theorem Template.stranger?_of_tokens {t : Template} {tokens : List TemplateToken}
    (read : t.tokens = .ok tokens) (r : FieldRegistry) :
    t.stranger? r = tokens.findSome? (·.stranger? r) := by
  rw [Template.stranger?, read]
  rfl

namespace GrammarBuilder

abbrev strictly (fields : FieldRegistry) (flags : PatternFlags) : GrammarBuilder :=
  ⟨fields, .strict, flags⟩

abbrev leniently (fields : FieldRegistry) (flags : PatternFlags) : GrammarBuilder :=
  ⟨fields, .lenient, flags⟩

variable {fields : FieldRegistry} {flags : PatternFlags} {token : TemplateToken}
  {tokens : List TemplateToken} {a last : Assembly} {name : String} {t : Template} {g : Grammar}

/-! ### Tokens -/

theorem resolve_of_known (known : token.stranger? fields = none) :
    (strictly fields flags).resolve token = (leniently fields flags).resolve token := by
  cases token with
  | literal text => rfl
  | reference name optional raw =>
    cases found : NameTable.get? fields (.text name) with
    | none => exact absurd known (by simp [TemplateToken.stranger?, found])
    | some f => simp only [resolve, found]

theorem resolve_of_stranger (strange : token.stranger? fields = some name) :
    (strictly fields flags).resolve token = .error (.unrecognized name) := by
  obtain ⟨optional, raw, rfl, missing⟩ := TemplateToken.stranger?_eq_some_iff.mp strange
  simp only [resolve, missing]

/-! ### Runs over tokens

Both policies keep the same assembly up to the first reference that no field answers to. -/

theorem extend_of_known (known : tokens.findSome? (·.stranger? fields) = none) (a : Assembly) :
    (strictly fields flags).extend a tokens = (leniently fields flags).extend a tokens := by
  induction tokens generalizing a with
  | nil => rfl
  | cons token rest ih =>
    obtain ⟨here, others⟩ := List.forall_mem_cons.mp (List.findSome?_eq_none_iff.mp known)
    have behind := ih (List.findSome?_eq_none_iff.mpr others)
    simp only [extend, resolve_of_known here, behind]

/-- The strict policy gets no further than to such a reference. -/
theorem extend_of_stranger (flags : PatternFlags)
    (strange : tokens.findSome? (·.stranger? fields) = some name) (a : Assembly) :
    ∃ b refusal, (strictly fields flags).extend a tokens = (b, some refusal) ∧
      ∀ last, (leniently fields flags).extend a tokens = (last, none) →
        refusal = .unrecognized name := by
  induction tokens generalizing a with
  | nil => cases strange
  | cons token rest ih =>
    rw [List.findSome?_cons] at strange
    cases here : token.stranger? fields with
    | some other =>
      rw [here] at strange
      cases strange
      refine ⟨a, .unrecognized name, ?_, fun _ _ => rfl⟩
      simp only [extend, resolve_of_stranger here, Except.bind]
    | none =>
      rw [here] at strange
      simp only [extend, resolve_of_known here]
      cases ((leniently fields flags).resolve token).bind a.add with
      | ok next => exact ih strange next
      | error refusal => exact ⟨a, refusal, rfl, fun last taken => by cases taken⟩

/-! ### Templates -/

theorem build_of_known (known : t.stranger? fields = none) :
    (strictly fields flags).build t = (leniently fields flags).build t := by
  have assembled :
      (strictly fields flags).assembleNoted t = (leniently fields flags).assembleNoted t := by
    unfold assembleNoted
    cases read : t.tokens with
    | error fault => rfl
    | ok tokens =>
      rw [Template.stranger?_of_tokens read] at known
      have same : (strictly fields flags).assemble tokens =
          (leniently fields flags).assemble tokens := by
        rw [assemble, extend_of_known known, assemble]
      change Act.bind _ _ = Act.bind _ _
      simp only [Act.bind, Act.ofExcept, same]
  rw [build, build, assembled]

/-- What the strict policy takes has no such reference. -/
theorem known_of_build (built : ((strictly fields flags).build t).answer = .ok (.ok g)) :
    t.stranger? fields = none := by
  obtain ⟨a, assembled, _⟩ := build_eq_ok_iff_assembleNoted.mp built
  obtain ⟨tokens, read, _, extended⟩ := assembleNoted_eq_ok_iff.mp assembled
  rw [Template.stranger?_of_tokens read]
  cases strange : tokens.findSome? (·.stranger? fields) with
  | none => rfl
  | some name =>
    obtain ⟨b, refusal, refused, _⟩ := extend_of_stranger flags strange .start
    rw [extended] at refused
    cases refused

/-- What the lenient policy takes with such a reference, the strict one refuses for the first of them. -/
theorem build_of_stranger (strange : t.stranger? fields = some name)
    (built : ((leniently fields flags).build t).answer = .ok (.ok g)) :
    ((strictly fields flags).build t).answer =
      .ok (fail .unrecognizedField s!"Unrecognized property {name}") := by
  obtain ⟨a, assembled, _⟩ := build_eq_ok_iff_assembleNoted.mp built
  obtain ⟨tokens, read, filled, extended⟩ := assembleNoted_eq_ok_iff.mp assembled
  rw [Template.stranger?_of_tokens read] at strange
  obtain ⟨b, refusal, refused, unrecognized⟩ := extend_of_stranger flags strange .start
  obtain rfl := unrecognized a extended
  have stopped : (strictly fields flags).assemble tokens = (b, some (.unrecognized name)) := by
    rw [assemble, if_neg (by simpa using filled), refused]
  apply build_of_refused
  simp only [assembleNoted, read, stopped, Act.answer_bind, Act.answer_ofExcept, Except.bind,
    answer_forM fun _ => Act.answer_note ..]
  rfl

/-- Whatever builds under the strict policy builds alike under the lenient one. What builds under the
lenient policy builds alike under the strict one, or is refused by it for the first reference that no
registered field answers to. -/
theorem lenient_extends_strict (fields : FieldRegistry) (flags : PatternFlags) (t : Template)
    (g : Grammar) :
    (((strictly fields flags).build t).answer = .ok (.ok g) →
      ((leniently fields flags).build t).answer = .ok (.ok g)) ∧
    (((leniently fields flags).build t).answer = .ok (.ok g) →
      ((strictly fields flags).build t).answer = .ok
        (match t.stranger? fields with
        | none => .ok g
        | some name => fail .unrecognizedField s!"Unrecognized property {name}")) := by
  constructor
  · intro built
    rwa [← build_of_known (known_of_build built)]
  · intro built
    cases strange : t.stranger? fields with
    | none => rwa [build_of_known strange]
    | some name => exact build_of_stranger strange built

theorem lenient_extends_strict_unknown :
    let fields : FieldRegistry := ⟨[⟨"n", "n", { name := "n", pattern := "\\w+" }⟩]⟩
    let known : Template := .text ("go " ++ Grammar.reference "n")
    let other : Template := .text (Grammar.reference "n" ++ " \x7b\x7bx?\x7d\x7d \x7b\x7by\x7d\x7d")
    (∃ g, ((strictly fields {}).build known).answer = .ok (.ok g) ∧
      ((leniently fields {}).build known).answer = .ok (.ok g)) ∧
    (∃ g, ((leniently fields {}).build other).answer = .ok (.ok g)) ∧
      ((strictly fields {}).build other).answer =
        .ok (fail .unrecognizedField "Unrecognized property x") := by
  intro fields known other
  obtain ⟨g, strict⟩ : ∃ g, ((strictly fields {}).build known).answer = .ok (.ok g) :=
    exists_build (by decide +kernel)
  obtain ⟨g', lenient⟩ : ∃ g, ((leniently fields {}).build other).answer = .ok (.ok g) :=
    exists_build (by decide +kernel)
  have strange : other.stranger? fields = some "x" := by decide +kernel
  have refused := (lenient_extends_strict fields {} other g').2 lenient
  rw [strange] at refused
  exact ⟨⟨g, strict, (lenient_extends_strict fields {} known g).1 strict⟩, ⟨g', lenient⟩, refused⟩

end GrammarBuilder
end LineCommand
