import Mathlib.Algebra.Order.Ring.Int
import LineCommand.Grammar.Basic

/-! How a grammar hands the groups of a match to its slots. If no slot declares a negative number of
groups, every slot finds its groups, so reading a line has an answer; it is told where the number of
groups declared in all can be written. -/
namespace LineCommand

theorem length_stretch {α : Type} (xs : List α) {start stop : Int} (first : 0 ≤ start)
    (order : start ≤ stop) (last : stop ≤ xs.length) :
    ((stretch xs start stop).length : Int) = stop - start := by
  simp only [stretch, List.length_drop, List.length_take]
  rw [if_neg (by omega), if_neg (by omega)]
  omega

theorem stretch_natCast {α : Type} (xs : List α) (start stop : Nat) :
    stretch xs start stop = (xs.take stop).drop start := by
  have place : ∀ n : Nat, ¬ (n : Int) < 0 := fun n => Int.not_lt.mpr (Int.natCast_nonneg n)
  simp [stretch, place]

namespace Grammar

/-- No slot declares a negative number of groups of its own. -/
def Counted (g : Grammar) : Prop := ∀ s ∈ g.slots, 0 ≤ s.embedded

theorem expected_eq (g : Grammar) : g.expected = (g.slots.map Slot.captures).sum := rfl

theorem captures_sum_nonneg {slots : List Slot} (counted : ∀ s ∈ slots, 0 ≤ s.embedded) :
    0 ≤ (slots.map Slot.captures).sum := by
  induction slots with
  | nil => exact Int.le_refl 0
  | cons s rest ih =>
    have rests := ih fun s member => counted s (List.mem_cons_of_mem _ member)
    have here := counted s List.mem_cons_self
    simp only [List.map_cons, List.sum_cons, Slot.captures]
    omega

theorem slotText_of_ne_nil {groups : List (Option (List Char))} (some : groups ≠ []) :
    ∃ text, slotText groups = .ok text := by
  cases groups with
  | nil => contradiction
  | cons whole own => exact ⟨_, rfl⟩

theorem assign_total {captures : List (Option (List Char))} {slots : List Slot}
    (counted : ∀ s ∈ slots, 0 ≤ s.embedded) {start : Int} (first : 0 ≤ start)
    (room : start + (slots.map Slot.captures).sum ≤ captures.length) :
    ∃ texts, assign captures start slots = .ok texts := by
  induction slots generalizing start with
  | nil => exact ⟨[], rfl⟩
  | cons s rest ih =>
    have restCounted : ∀ s ∈ rest, 0 ≤ s.embedded :=
      fun s member => counted s (List.mem_cons_of_mem _ member)
    have here := counted s List.mem_cons_self
    have rests := captures_sum_nonneg restCounted
    simp only [List.map_cons, List.sum_cons, Slot.captures] at room
    have size : ((stretch captures start (start + s.captures)).length : Int) =
        start + s.captures - start :=
      length_stretch captures first (by simp only [Slot.captures]; omega)
        (by simp only [Slot.captures] at rests ⊢; omega)
    have filled : stretch captures start (start + s.captures) ≠ [] := by
      intro empty
      rw [empty] at size
      simp only [Slot.captures, List.length_nil] at size
      omega
    obtain ⟨text, found⟩ := slotText_of_ne_nil filled
    obtain ⟨texts, others⟩ : ∃ texts, assign captures (start + s.captures) rest = .ok texts :=
      ih restCounted (by simp only [Slot.captures]; omega)
        (by simp only [Slot.captures] at room ⊢; omega)
    exact ⟨(s.name, text) :: texts, by simp only [assign, found, others]; rfl⟩

/-- What a grammar finds in a line: its fields, where the line matches and the groups are as many as
the slots declare. -/
theorem read_of_counted {g : Grammar} (counted : g.Counted) (line : String) :
    (g.expression.match? line.toList = none ∧ g.read line = .ok .noMatch) ∨
      ∃ captures, g.expression.match? line.toList = some captures ∧
        (((captures.length : Int) ≠ g.expected ∧ g.read line = .ok (.mismatch captures.length)) ∨
          ((captures.length : Int) = g.expected ∧
            ∃ texts, assign captures 0 g.slots = .ok texts ∧
              g.read line = .ok (.fields texts))) := by
  unfold read
  cases g.expression.match? line.toList with
  | none => exact .inl ⟨rfl, rfl⟩
  | some captures =>
    refine .inr ⟨captures, rfl, ?_⟩
    dsimp only
    by_cases same : (captures.length : Int) = g.expected
    · have room : 0 + (g.slots.map Slot.captures).sum ≤ captures.length := by
        rw [same, expected_eq]
        omega
      obtain ⟨texts, assigned⟩ := assign_total counted (Int.le_refl 0) room
      refine .inr ⟨same, texts, assigned, ?_⟩
      rw [if_neg (not_not_intro same), assigned]
      rfl
    · exact .inl ⟨same, if_pos same⟩

/-- The failure of a line with another number of groups than is declared. -/
def mismatch (g : Grammar) (found : Nat) : Failure :=
  .of .mismatchedCaptures
    s!"Mismatched capture count: got {found}, expected {(Value.int g.expected).written}"

theorem answer_mismatched {α : Type} (g : Grammar) (found : Nat) :
    (g.mismatched found : Act (Outcome α)).answer =
      if withinDigitLimit g.expected then .ok (.error (g.mismatch found)) else .error .tooLong := by
  unfold mismatched Value.said
  rw [Act.answer_bind, Act.answer_ofExcept]
  change (Except.bind (if withinDigitLimit g.expected = true then _ else _) _) = _
  cases withinDigitLimit g.expected <;> rfl

theorem parse_of_text? (g : Grammar) {line : Value} {s : String} (worded : line.text? = some s) :
    g.parse line = g.parse (.text s) := by
  rw [parse, worded, parse, Value.text?]

/-- A text is read, and nothing else is done to it. -/
theorem answer_parse_text (g : Grammar) (s : String) :
    (g.parse (.text s)).answer =
      match g.read s with
      | .error fault => .error fault
      | .ok .noMatch => .ok (.ok none)
      | .ok (.fields texts) => .ok (.ok (some texts))
      | .ok (.mismatch found) =>
        if withinDigitLimit g.expected then .ok (.error (g.mismatch found))
        else .error .tooLong := by
  simp only [parse, Value.text?]
  cases g.read s with
  | error fault => rfl
  | ok reading =>
    cases reading with
    | noMatch | fields => rfl
    | mismatch found => exact g.answer_mismatched found

/-- What is no text is refused, if it can be shown. -/
theorem answer_parse_of_not_text (g : Grammar) {line : Value} (worded : line.text? = none) :
    (g.parse line).answer = line.shown.map fun shown =>
      fail .conversion s!"Cannot parse non-string input {shown}." := by
  simp only [parse, worded]
  cases line.shown <;> rfl

/-- Nothing but a text matches or fails to match. -/
theorem exists_text?_of_parse {g : Grammar} {line : Value} {texts? : Option FieldTexts}
    (parsed : (g.parse line).answer = .ok (.ok texts?)) : ∃ s, line.text? = some s := by
  cases worded : line.text? with
  | some s => exact ⟨s, rfl⟩
  | none =>
    rw [answer_parse_of_not_text g worded] at parsed
    cases shown : line.shown <;> rw [shown] at parsed <;> cases parsed

/-- A line that is a text, or can at least be shown, is read wherever the number of groups declared
can be written. -/
theorem parse_of_counted {g : Grammar} (counted : g.Counted)
    (declared : withinDigitLimit g.expected = true) {line : Value} (writable : line.writable = true) :
    ∃ outcome, (g.parse line).answer = .ok outcome := by
  cases worded : line.text? with
  | none =>
    have shown : line.shown = .ok line.written := if_pos writable
    exact ⟨_, by rw [answer_parse_of_not_text g worded, shown, Except.map]⟩
  | some text =>
    simp only [parse, worded]
    obtain ⟨_, h⟩ | ⟨captures, _, ⟨_, h⟩ | ⟨_, texts, _, h⟩⟩ := read_of_counted counted text
    all_goals rw [h]
    · exact ⟨_, rfl⟩
    · exact ⟨_, (g.answer_mismatched captures.length).trans (if_pos declared)⟩
    · exact ⟨_, rfl⟩

/-- What no field's number of groups prevents from being read faults over nothing but a mismatch with a
number that cannot be written. -/
theorem tooLong_of_parse {g : Grammar} (counted : g.Counted) {line : String} {fault : Fault}
    (faulted : (g.parse (.text line)).answer = .error fault) :
    fault = .tooLong ∧ withinDigitLimit g.expected = false := by
  rw [answer_parse_text] at faulted
  obtain ⟨_, read⟩ | ⟨captures, _, ⟨_, read⟩ | ⟨_, texts, _, read⟩⟩ := read_of_counted counted line
  all_goals rw [read] at faulted
  · cases faulted
  · dsimp only at faulted
    cases within : withinDigitLimit g.expected <;> rw [within] at faulted <;> cases faulted
    exact ⟨rfl, rfl⟩
  · cases faulted

theorem parse_of_fields {g : Grammar} {line : String} {texts : FieldTexts}
    (read : g.read line = .ok (.fields texts)) :
    (g.parse (.text line)).answer = .ok (.ok (some texts)) := by
  rw [answer_parse_text, read]

theorem parse_of_noMatch {g : Grammar} {line : String} (read : g.read line = .ok .noMatch) :
    (g.parse (.text line)).answer = .ok (.ok none) := by
  rw [answer_parse_text, read]

theorem names_of_assign {captures : List (Option (List Char))} {slots : List Slot} {start : Int}
    {texts : FieldTexts} (assigned : assign captures start slots = .ok texts) :
    texts.map (·.1) = slots.map (·.name) := by
  induction slots generalizing start texts with
  | nil =>
    cases assigned
    rfl
  | cons slot rest ih =>
    rw [assign] at assigned
    cases found : slotText (stretch captures start (start + slot.captures)) with
    | error fault =>
      rw [found] at assigned
      cases assigned
    | ok text =>
      rw [found] at assigned
      cases behind : assign captures (start + slot.captures) rest with
      | error fault =>
        simp only [behind] at assigned
        cases assigned
      | ok others =>
        simp only [behind] at assigned
        cases assigned
        rw [List.map_cons, List.map_cons, ih behind]

/-- Fields found in a line have been assigned the groups of a match. -/
theorem exists_assign_of_parse {g : Grammar} {line : Value} {texts : FieldTexts}
    (parsed : (g.parse line).answer = .ok (.ok (some texts))) :
    ∃ text captures, line.text? = some text ∧ assign captures 0 g.slots = .ok texts := by
  cases worded : line.text? with
  | none =>
    rw [answer_parse_of_not_text g worded] at parsed
    cases shown : line.shown <;> rw [shown] at parsed <;> cases parsed
  | some text =>
    simp only [parse, worded, read] at parsed
    cases matched : g.expression.match? text.toList with
    | none =>
      rw [matched] at parsed
      cases parsed
    | some captures =>
      rw [matched] at parsed
      dsimp only at parsed
      by_cases counted : (captures.length : Int) = g.expected
      · rw [if_neg (not_not_intro counted)] at parsed
        cases assigned : assign captures 0 g.slots with
        | error fault =>
          rw [assigned] at parsed
          cases parsed
        | ok found =>
          rw [assigned] at parsed
          cases parsed
          exact ⟨text, captures, rfl, assigned⟩
      · rw [if_pos counted, answer_mismatched] at parsed
        split at parsed <;> cases parsed

/-- The fields found in a line are those of the grammar, in their order. -/
theorem names_of_parse {g : Grammar} {line : Value} {texts : FieldTexts}
    (parsed : (g.parse line).answer = .ok (.ok (some texts))) :
    texts.map (·.1) = g.fields := by
  obtain ⟨text, captures, _, assigned⟩ := exists_assign_of_parse parsed
  exact names_of_assign assigned

/-! ### Pairs of letters -/

def reference (name : String) : String := "\x7b\x7b" ++ name ++ "\x7d\x7d"

/-- The grammar of two fields of one word character each, as far as their slots say so. -/
def letterPair (first second : Slot) : Grammar :=
  let blanks (least : Nat) : Pattern :=
    .again least none .greedy (.one ⟨[.kind .blank false], false, .exact, false⟩)
  let letter (index : Nat) : Pattern :=
    .group index (.sequence [.one ⟨[.kind .word false], false, .exact, false⟩])
  { expression :=
      { source := "^\\s*(\\w)\\s+(\\w)\\s*$"
        pattern := .sequence [.anchor .textStart, blanks 0, letter 1, blanks 1, letter 2, blanks 0,
          .anchor .lastLineEnd]
        groups := 2 }
    slots := [first, second]
    template := reference first.name ++ " " ++ reference second.name }

end Grammar

namespace GrammarBuilder

theorem exists_build {b : GrammarBuilder} {t : Template}
    (builds : ((b.build t).answer.toOption.bind Except.toOption).isSome) :
    ∃ g, (b.build t).answer = .ok (.ok g) := by
  cases answer : (b.build t).answer with
  | error fault =>
    rw [answer] at builds
    cases builds
  | ok outcome =>
    cases outcome with
    | error failure =>
      rw [answer] at builds
      cases builds
    | ok g => exact ⟨g, rfl⟩

theorem exists_of_build {b : GrammarBuilder} {t : Template} {α : Type} {f : Grammar → Option α}
    {a : α} (found : ((b.build t).answer.toOption.bind Except.toOption).bind f = some a) :
    ∃ g, (b.build t).answer = .ok (.ok g) ∧ f g = some a := by
  obtain ⟨g, some, found⟩ := Option.bind_eq_some_iff.mp found
  obtain ⟨h, built⟩ := exists_build (b := b) (t := t) (by rw [some]; rfl)
  rw [built] at some
  obtain rfl : h = g := Option.some.inj some
  exact ⟨h, built, found⟩

theorem exists_read {b : GrammarBuilder} {t : Template} {line : String} {reading : Grammar.Reading}
    (reads : ((b.build t).answer.toOption.bind Except.toOption).bind
      (fun g => (g.read line).toOption) = some reading) :
    ∃ g, (b.build t).answer = .ok (.ok g) ∧ g.read line = .ok reading := by
  obtain ⟨h, built, read⟩ := exists_of_build reads
  refine ⟨h, built, ?_⟩
  cases answer : h.read line with
  | error fault =>
    rw [answer] at read
    cases read
  | ok found =>
    rw [answer] at read
    cases read
    rfl

end GrammarBuilder

def GrammarBuilder.grammar? (fields : List Field) (template : String) : Option Grammar := do
  let builder ← (make fields (.text "strict") {}).toOption
  let built ← (builder.build (.text template)).answer.toOption
  built.toOption

end LineCommand
