import LineCommand.Proofs.Dispatch.Gate
import LineCommand.Proofs.Dispatch.Registration

/-! The leading word of a group. It is given once, and stays what it is whatever is registered. Where it
is a single word, the lines of the group are those that have it as their first word. -/
namespace LineCommand

namespace Group

variable {g next : Group} {lead : Option String}

theorem leadWord_addSupplied {c : Supplied Command}
    (added : (g.addSupplied c).answer = .ok (.ok next)) : next.leadWord = g.leadWord := by
  obtain ⟨outcome, _, answered⟩ := Act.answer_bind_eq_ok_iff.mp added
  cases outcome with
  | ok processor =>
    cases answered
    rfl
  | error failure =>
    obtain ⟨_, _, refused⟩ := Act.answer_bind_eq_ok_iff.mp answered
    cases c <;> cases refused

theorem leadWord_fill {cs : List Command} {problems : List String}
    (filled : (g.fill cs).answer = .ok (next, problems)) : next.leadWord = g.leadWord := by
  induction cs generalizing g problems with
  | nil =>
    cases filled
    rfl
  | cons c cs ih =>
    obtain ⟨outcome, added, answered⟩ := Act.answer_bind_eq_ok_iff.mp filled
    cases outcome with
    | ok taken => exact (ih answered).trans (leadWord_addSupplied added)
    | error failure =>
      obtain ⟨⟨final, others⟩, rest, answered⟩ := Act.answer_bind_eq_ok_iff.mp answered
      cases answered
      exact ih rest

theorem empty_eq_ok {validator : Option Callback} {target : Value}
    (made : empty lead validator target = .ok g) :
    g.leadWord = (lead.filter fun s => !s.isEmpty).map Text.trimmed ∧
      g.processor.validator = validator ∧ g.processor.commands.values = [] ∧
      FormatTarget.ofValue target = .ok g.processor.target := by
  obtain ⟨processor, bare, rfl⟩ := except_map_eq_ok_iff.mp made
  obtain ⟨t, valid, rfl⟩ := Processor.empty_eq_ok bare
  exact ⟨rfl, rfl, rfl, valid⟩

/-- The group was made with a leading word, which is given with blanks around it or not; commands may
have been registered since. -/
inductive OpenedWith (lead : Option String) : Group → Prop
  | created {commands : List Command} {validator : Option Callback} {target : Value} {g : Group}
      (made : (create commands lead validator target).answer = .ok g) : OpenedWith lead g
  | added {c : Supplied Command} {g next : Group} (opened : OpenedWith lead g)
      (taken : (g.addSupplied c).answer = .ok (.ok next)) : OpenedWith lead next

theorem OpenedWith.leadWord (opened : OpenedWith lead g) :
    g.leadWord = (lead.filter fun s => !s.isEmpty).map Text.trimmed := by
  induction opened with
  | created made =>
    obtain ⟨bare, started, made⟩ := Act.answer_bind_eq_ok_iff.mp made
    obtain ⟨⟨final, problems⟩, filled, made⟩ := Act.answer_bind_eq_ok_iff.mp made
    cases problems with
    | cons problem others => cases made
    | nil =>
      cases made
      exact (leadWord_fill filled).trans (empty_eq_ok started).1
  | added _ taken ih => exact (leadWord_addSupplied taken).trans ih

/-! ### Words -/

/-- A word followed by an edge is cut off rightly, whatever longer words begin with it. -/
theorem startsWith_iff {w : List Char} (solid : Text.Solid w) (some : w ≠ []) (cs : List Char) :
    startsWith w cs = true ↔ (Text.wordsFrom [] cs).head? = .some w := by
  obtain ⟨bs, behind, rfl, blanks, clear⟩ := Text.exists_blanks cs
  obtain ⟨v, rest, rfl, solid', edge⟩ := Text.exists_word behind
  rw [Text.wordsFrom_blanks blanks]
  cases v with
  | nil =>
    -- No word is left, so that nothing begins with the one looked for.
    obtain rfl := edge.eq_nil clear
    have nothing : Text.trim (bs ++ ([] ++ [])) = [] := by
      rw [List.append_nil, List.append_nil, Text.trim, Text.trimStart,
        List.dropWhile_eq_nil_iff.mpr blanks]
      rfl
    obtain ⟨c, w, rfl⟩ := List.exists_cons_of_ne_nil some
    rw [startsWith, nothing]
    simp [Text.dropStart?, Text.wordsFrom]
  | cons c v =>
    rw [Text.wordsFrom_solid [] solid' edge (.inr (List.cons_ne_nil c v)), List.reverse_nil,
      List.nil_append, List.head?_cons, Option.some.injEq]
    constructor
    · intro starts
      rw [startsWith, Text.trim_append blanks solid' (List.cons_ne_nil c v)] at starts
      have kept : Text.Edge (Text.trimEnd rest) := edge.of_prefix (List.rdropWhile_prefix _ _)
      cases dropped : Text.dropStart? w (c :: v ++ Text.trimEnd rest) with
      | none =>
        rw [dropped] at starts
        cases starts
      | some others =>
        rw [dropped] at starts
        have edge' : Text.Edge others := by
          cases others with
          | nil => simp [Text.Edge]
          | cons d others =>
            rintro _ ⟨⟩
            exact starts
        exact (solid'.append_inj solid kept edge' (Text.dropStart?_eq_some_iff.mp dropped)).1
    · rintro rfl
      exact startsWith_append blanks solid' (List.cons_ne_nil c v) edge

/-- A group that was opened with a single word takes the lines with that word in front, and no others. -/
theorem couldBeCommand_iff_head_words {given word : String} (opened : OpenedWith (some given) g)
    (trimmed : Text.trimmed given = word) (filled : word ≠ "") (solid : Text.Solid word.toList)
    (text : String) :
    g.couldBeCommand (.text text) = true ↔ (Text.words text).head? = some word := by
  have named : given.isEmpty = false := by
    rw [String.isEmpty_eq_false_iff]
    rintro rfl
    exact filled trimmed.symm
  have lead : g.leadWord = some word := by
    rw [opened.leadWord, Option.filter_some, named, ← trimmed]
    rfl
  have some : word.toList ≠ [] := by simpa using filled
  have plain : word.isEmpty = false := by simpa using filled
  simp only [couldBeCommand, Value.text?, lead, plain, Bool.false_or]
  rw [startsWith_iff solid some, Text.words, List.head?_map]
  constructor
  · intro first
    rw [first, Option.map_some, String.ofList_toList]
  · intro first
    obtain ⟨w, front, rfl⟩ := Option.map_eq_some_iff.mp first
    rw [front, String.toList_ofList]

theorem couldBeCommand_iff_head_words_raid :
    ∃ g : Group, OpenedWith (some " !raid\t") g ∧ Text.trimmed " !raid\t" = "!raid" ∧
      g.couldBeCommand (.text "\u3000!raid\u2003east gate") = true ∧
      g.couldBeCommand (.text "!raids east gate") = false ∧
      g.couldBeCommand (.text " \u00a0") = false := by
  obtain ⟨g, made⟩ : ∃ g, (create [] (some " !raid\t") none (.text "text")).answer = .ok g :=
    ⟨_, rfl⟩
  have opened := OpenedWith.created made
  have trimmed : Text.trimmed " !raid\t" = "!raid" := by decide +kernel
  have takes := couldBeCommand_iff_head_words opened trimmed (by decide) (by decide +kernel)
  refine ⟨g, opened, trimmed, (takes _).mpr (by decide +kernel), ?_, ?_⟩
  · rw [← Bool.not_eq_true, takes]
    decide +kernel
  · rw [← Bool.not_eq_true, takes]
    decide +kernel

end Group
end LineCommand
