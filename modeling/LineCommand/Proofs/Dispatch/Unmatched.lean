import LineCommand.Proofs.Dispatch.Filtering
import LineCommand.Proofs.Dispatch.Restraint

/-! Commands that a line does not match. Every loop goes on behind such a command as if it were not
there, so it can be put anywhere into a table without any dispatch of the line showing it. -/
namespace LineCommand

variable {c : Command} {line : Value}

/-! ### One command -/

/-- A grammar that does not match leaves nothing but that answer. -/
theorem Grammar.parse_of_unmatched {g : Grammar}
    (unmatched : (g.parse line).answer = .ok (.ok none)) : g.parse line = pure (.ok none) := by
  obtain ⟨text, worded⟩ := exists_text?_of_parse unmatched
  rw [g.parse_of_text? worded] at unmatched ⊢
  rw [answer_parse_text] at unmatched
  cases read : g.read text with
  | error fault =>
    rw [read] at unmatched
    cases unmatched
  | ok reading =>
    rw [read] at unmatched
    cases reading with
    | noMatch =>
      simp only [parse, Value.text?, read]
    | fields texts => cases unmatched
    | mismatch found =>
      dsimp only at unmatched
      cases within : withinDigitLimit g.expected <;> rw [within] at unmatched <;> cases unmatched

section Unmatched

variable (unmatched : (c.grammar.parse line).answer = .ok (.ok none))
include unmatched

theorem Command.validate_of_unmatched : c.validate line = pure (.ok none) := by
  unfold Command.validate
  rw [Grammar.parse_of_unmatched unmatched]
  rfl

namespace Processor

theorem evaluateFor_of_unmatched (p : Processor) (t : FormatTarget) :
    p.evaluateFor t line c = pure .notMatched := by
  unfold evaluateFor Command.execute
  rw [Command.validate_of_unmatched unmatched]
  rfl

/-! ### Loops

What stands before the command is gone through in the same way; behind it the loop goes on. -/

theorem validateEach_insert (before after : List Command) :
    validateEach line (before ++ c :: after) = validateEach line (before ++ after) := by
  induction before with
  | nil =>
    rw [List.nil_append, validateEach, Command.validate_of_unmatched unmatched]
    exact Act.bind_pure (validateEach line after)
  | cons b before ih => simp only [List.cons_append, validateEach, ih]

theorem validateStrictly_insert (before after : List Command) :
    validateStrictly line (before ++ c :: after) = validateStrictly line (before ++ after) := by
  induction before with
  | nil =>
    rw [List.nil_append, validateStrictly, Command.validate_of_unmatched unmatched]
    have same : ∀ others : Outcome (List ValidatedCommand), others.map ([] ++ ·) = others := by
      intro others
      cases others <;> rfl
    change (validateStrictly line after >>= fun others => pure (others.map ([] ++ ·))) =
      validateStrictly line after
    simp only [same, Act.bind_pure]
  | cons b before ih => simp only [List.cons_append, validateStrictly, ih]

theorem sweep_insert (p : Processor) (t : FormatTarget) (before after : List Command) :
    p.sweep t line (before ++ c :: after) = p.sweep t line (before ++ after) := by
  induction before with
  | nil =>
    rw [List.nil_append, sweep, evaluateFor_of_unmatched unmatched]
    rfl
  | cons b before ih => simp only [List.cons_append, sweep, ih]

theorem firstAccepted_insert (p : Processor) (t : FormatTarget) (rejection : Option Failure)
    (before after : List Command) :
    p.firstAccepted t line rejection (before ++ c :: after) =
      p.firstAccepted t line rejection (before ++ after) := by
  induction before generalizing rejection with
  | nil =>
    rw [List.nil_append, firstAccepted, evaluateFor_of_unmatched unmatched]
    rfl
  | cons b before ih => simp only [List.cons_append, firstAccepted, ih]

end Processor
end Unmatched

namespace Processor

variable {p q : Processor} {target : Value}

/-! ### Tables -/

theorem sweep_congr (validators : q.validator = p.validator) (t : FormatTarget) (line : Value)
    (cs : List Command) : q.sweep t line cs = p.sweep t line cs := by
  induction cs with
  | nil => rfl
  | cons c rest ih => simp only [sweep, evaluateFor_congr validators, ih]

theorem firstAccepted_congr (validators : q.validator = p.validator) (t : FormatTarget)
    (line : Value) (rejection : Option Failure) (cs : List Command) :
    q.firstAccepted t line rejection cs = p.firstAccepted t line rejection cs := by
  induction cs generalizing rejection with
  | nil => rfl
  | cons c rest ih => simp only [firstAccepted, evaluateFor_congr validators, ih]

/-- Two processors dispatch a line alike: with the same answers, and the same events on the way. -/
structure AlikeFor (q p : Processor) (line target : Value) : Prop where
  validateAll : q.validateAll line = p.validateAll line
  validateOne : q.validateOne line = p.validateOne line
  processAll : q.processAll line target = p.processAll line target
  processFirst : q.processFirst line target = p.processFirst line target
  processOne : q.processOne line target = p.processOne line target

/-- A command that the line does not match makes no difference wherever it stands in the table. -/
theorem alikeFor_of_insert {before after : List Command}
    (unmatched : (c.grammar.parse line).answer = .ok (.ok none))
    (rest : p.commands.values = before ++ after)
    (table : q.commands.values = before ++ c :: after) (validators : q.validator = p.validator)
    (targets : q.target = p.target) : q.AlikeFor p line target := by
  have resolved : q.resolveTarget target = p.resolveTarget target := by
    simp only [resolveTarget, targets]
  have strictly : validateStrictly line q.commands.values =
      validateStrictly line p.commands.values := by
    rw [table, rest, validateStrictly_insert unmatched]
  have swept : ∀ t, q.sweep t line q.commands.values = p.sweep t line p.commands.values := by
    intro t
    rw [table, rest, sweep_congr validators, sweep_insert unmatched]
  have first : ∀ t, q.firstAccepted t line none q.commands.values =
      p.firstAccepted t line none p.commands.values := by
    intro t
    rw [table, rest, firstAccepted_congr validators, firstAccepted_insert unmatched]
  have all : q.validateAll line = p.validateAll line := by
    simp only [validateAll, table, rest, validateEach_insert unmatched]
  constructor
  · exact all
  · simp only [validateOne, all]
  · simp only [processAll, resolved, swept]
  · simp only [processFirst, resolved, first]
  · simp only [processOne, resolved, validators, swept, strictly]

/-- A command with a new name that the line does not match can be registered anywhere among the
others, and no dispatch of the line shows it. -/
theorem alikeFor_insert (p : Processor) (before after : List Command) (c : Command) (line : Value)
    (registered : p.Registered) (table : p.commands.values = before ++ after)
    (named : nameKey c.name ≠ "")
    (fresh : ∀ d ∈ p.commands.values, nameKey d.name ≠ nameKey c.name)
    (unmatched : (c.grammar.parse line).answer = .ok (.ok none)) :
    ∃ q, (create (before ++ c :: after) p.validator p.target.toValue).answer = .ok q ∧
      q.commands.values = before ++ c :: after ∧ ∀ target, q.AlikeFor p line target := by
  have moved : (before ++ c :: after).Perm (c :: p.commands.values) :=
    table ▸ List.perm_middle
  have allNamed : ∀ d ∈ before ++ c :: after, nameKey d.name ≠ "" := by
    intro d member
    obtain rfl | old := List.mem_cons.mp (moved.subset member)
    · exact named
    · exact registered.named d old
  have distinct : ((before ++ c :: after).map fun d => nameKey d.name).Nodup := by
    rw [(moved.map _).nodup_iff, List.map_cons, List.nodup_cons, ← registered.keys]
    refine ⟨?_, registered.proper.unique⟩
    rw [registered.keys]
    intro taken
    obtain ⟨d, member, same⟩ := List.mem_map.mp taken
    exact fresh d member same
  obtain ⟨q, created, values, validators, targets⟩ :=
    create_of_distinct p.validator p.target allNamed distinct
  refine ⟨q, created, values, fun target => ?_⟩
  exact alikeFor_of_insert unmatched table values validators targets

theorem alikeFor_insert_between :
    guarded.Registered ∧ ∃ one ∈ divided.commands.values,
      (one.grammar.parse (.text "x y")).answer = .ok (.ok none) ∧
        ∃ q : Processor, q.commands.values.map (·.name) = ["one", "three", "two"] ∧
          q.AlikeFor guarded (.text "x y") .none := by
  have created : (create guarded.commands.values (some onlyOne) (.text "text")).answer =
      .ok guarded := by rfl
  have registered := registered_of_create created
  refine ⟨registered, _, List.mem_cons_self, by rfl, ?_⟩
  let three : Command := { divided.commands.values.head nofun with name := "three" }
  obtain ⟨q, _, values, alike⟩ := guarded.alikeFor_insert [_] [_] three (.text "x y") registered rfl
    (by decide +kernel) (by decide +kernel) (by rfl)
  exact ⟨q, by rw [values]; rfl, alike .none⟩

end Processor
end LineCommand
