import LineCommand.Proofs.Catalog.Entries

/-! Examples in dispatch. Checking a catalog tries every example with the grammar of its own command
only. A group sends it past its gate and to every command, so an example that stands the check
reaches its command just if the gate lets it through and no other grammar fails on it. -/
namespace LineCommand

/-- A list of values that come out holds one for each element. -/
theorem mem_of_mapM {α β ε : Type} {f : α → Except ε β} {xs : List α} {ys : List β}
    (made : xs.mapM f = .ok ys) : ∀ x ∈ xs, ∃ y ∈ ys, f x = .ok y := by
  induction xs generalizing ys with
  | nil => nofun
  | cons x xs ih =>
    rw [List.mapM_cons] at made
    obtain ⟨y, here, made⟩ := except_bind_eq_ok_iff.mp made
    obtain ⟨others, rests, made⟩ := except_bind_eq_ok_iff.mp made
    cases made
    refine List.forall_mem_cons.mpr ⟨⟨y, List.mem_cons_self, here⟩, fun x' member => ?_⟩
    obtain ⟨y', listed, there⟩ := ih rests x' member
    exact ⟨y', List.mem_cons_of_mem y listed, there⟩

namespace Act

theorem answer_mapM_loop {α β : Type} (f : α → Act β) (xs : List α) (before : List β) :
    (List.mapM.loop f xs before).answer =
      (xs.mapM fun x => (f x).answer).map (before.reverse ++ ·) := by
  induction xs generalizing before with
  | nil => exact congrArg Except.ok (List.append_nil _).symm
  | cons x xs ih =>
    rw [List.mapM_cons]
    change (f x >>= fun y => List.mapM.loop f xs (y :: before)).answer = _
    rw [answer_bind]
    cases (f x).answer with
    | error fault => rfl
    | ok y =>
      change (List.mapM.loop f xs (y :: before)).answer = _
      rw [ih]
      cases xs.mapM fun x => (f x).answer with
      | error fault => rfl
      | ok ys => exact congrArg Except.ok (by simp)

/-- A list of acts answers what their answers come to. -/
theorem answer_mapM {α β : Type} (f : α → Act β) (xs : List α) :
    (xs.mapM f).answer = xs.mapM fun x => (f x).answer := by
  refine (answer_mapM_loop f xs []).trans ?_
  cases xs.mapM fun x => (f x).answer <;> rfl

end Act

namespace Catalog

variable {c : Catalog} {gs : Grammars} {unknown target : Value} {t : FormatTarget}
  {spec : CommandSpec} {g : Grammar} {line : String}

/-! ### Examples -/

theorem exists_fields_of_exampleProblem (clean : (exampleProblem spec g line).answer = .ok none) :
    ∃ fields, (g.parse (.text line)).answer = .ok (.ok (some fields)) := by
  obtain ⟨parsed, read, reported⟩ := Act.answer_bind_eq_ok_iff.mp clean
  match parsed with
  | .error failure => cases reported
  | .ok none => cases reported
  | .ok (some fields) => exact ⟨fields, read⟩

/-- Where the check has nothing to report, every example is matched by its own grammar. -/
theorem exists_fields_of_checkExamples (clean : (c.checkExamples gs).answer = .ok [])
    (member : spec ∈ c.commands) (found : gs.lookup spec.name = some g)
    (listed : line ∈ spec.examples) :
    ∃ fields, (g.parse (.text line)).answer = .ok (.ok (some fields)) := by
  obtain ⟨reports, answered, none⟩ := Act.answer_bind_eq_ok_iff.mp clean
  rw [Act.answer_mapM] at answered
  obtain ⟨report, reported, here⟩ := mem_of_mapM answered spec member
  rw [found, Act.answer_mapM] at here
  obtain ⟨problem?, told, answer⟩ := mem_of_mapM here line listed
  have silent := List.filterMap_eq_nil_iff.mp (Except.ok.inj none) problem?
    (List.mem_flatten_of_mem reported told)
  obtain rfl : problem? = .none := silent
  exact exists_fields_of_exampleProblem answer

/-! ### Examples in dispatch -/

/-- No grammar of the catalog fails on the line, whether or not it matches it. -/
def Reads (c : Catalog) (gs : Grammars) (line : String) : Prop :=
  ∀ spec ∈ c.commands, ∀ g, gs.lookup spec.name = some g →
    ∃ texts?, (g.parse (.text line)).answer = .ok (.ok texts?)

theorem Fills.unrefused_iff {group : Group} (fills : c.Fills gs group) :
    c.commands.findSome? (refusal? gs line) = none ↔ c.Reads gs line := by
  rw [List.findSome?_eq_none_iff]
  constructor
  · intro unrefused spec member g found
    exact (refusal?_eq_none_iff found).mp (unrefused spec member)
  · intro reads spec member
    obtain ⟨g, command, found, _⟩ := fills.exists_command member
    exact (refusal?_eq_none_iff found).mpr (reads spec member g found)

/-- The dispatch of the line succeeds, and one of the results says that it comes from the entry's
command. -/
def ReachesCommand (group : Group) (spec : CommandSpec) (line target : Value) : Prop :=
  ∃ rs, (group.processAll line target).answer = .ok (.ok rs) ∧
    ∃ r ∈ rs, r.commandName? = some (Text.trimmed spec.name)

theorem Fills.reachesCommand_iff {group : Group} (fills : c.Fills gs group)
    (clean : (c.checkExamples gs).answer = .ok [])
    (resolved : group.processor.resolveTarget target = .ok (.ok t)) (member : spec ∈ c.commands)
    (listed : line ∈ spec.examples) :
    ReachesCommand group spec (.text line) target ↔
      group.couldBeCommand (.text line) = true ∧ c.Reads gs line := by
  by_cases belongs : group.couldBeCommand (.text line) = true
  · rw [ReachesCommand, fills.answer_processAll line resolved belongs, and_iff_right belongs,
      ← fills.unrefused_iff]
    cases refused : c.commands.findSome? (refusal? gs line) with
    | some stop => cases stop <;> simp
    | none =>
      refine iff_of_true ⟨_, rfl, ?_⟩ rfl
      obtain ⟨g, command, found, _⟩ := fills.exists_command member
      obtain ⟨fields, read⟩ := exists_fields_of_checkExamples clean member found listed
      have here : fields? gs line spec = some fields := fields?_eq_some_iff.mpr ⟨g, found, read⟩
      refine ⟨(reply t spec fields).toValue, ?_, rfl⟩
      exact List.mem_filterMap.mpr ⟨spec, member, by rw [here, Option.map_some]⟩
  · refine iff_of_false ?_ fun both => belongs both.1
    rintro ⟨rs, all, r, found, _⟩
    rw [Group.processAll, if_neg belongs] at all
    obtain rfl := Except.ok.inj (Except.ok.inj all)
    cases found

/-- An example that stands the check reaches its command exactly if the gate of the group lets it
through and no grammar of the catalog fails on it. -/
theorem reachesCommand_iff_reads (c : Catalog) (unknown home target : Value) (group : Group)
    (spec : CommandSpec) (line : String) (passes : c.Passes unknown gs)
    (built : (c.buildGroup unknown none home).answer = .ok (.ok group))
    (resolved : group.processor.resolveTarget target = .ok (.ok t)) (member : spec ∈ c.commands)
    (listed : line ∈ spec.examples) :
    ReachesCommand group spec (.text line) target ↔
      group.couldBeCommand (.text line) = true ∧ c.Reads gs line :=
  (fills_of_buildGroup passes.compiled built).reachesCommand_iff passes.clean resolved member listed

/-- A catalog of two commands for one word, the first of which has an example. -/
def sampling (leadWord : Option String) (pattern : String) : Catalog :=
  { version := "1"
    fields := ⟨[⟨"n", "n", ⟨"n", "\\w+", false, 0⟩⟩, ⟨"m", "m", ⟨"m", pattern, false, 0⟩⟩]⟩
    commands := [⟨"one", "", "\x7b\x7bn\x7d\x7d", ["x"]⟩, ⟨"two", "", "\x7b\x7bm\x7d\x7d", []⟩]
    leadWord
    source := some ⟨"", ["catalog.yaml"]⟩ }

/-- The grammar of the second command, where its field declares the groups that it has. -/
def otherGrammar : Grammar :=
  { wordGrammar with slots := [⟨"m", 0⟩], template := "\x7b\x7bm\x7d\x7d" }

theorem exists_sampling (leadWord : Option String) (pattern : String)
    (compiled : ((sampling leadWord pattern).compile (.text "strict")).answer = .ok (.ok gs)) :
    ∃ group, ((sampling leadWord pattern).buildGroup (.text "strict") none (.text "text")).answer =
      .ok (.ok group) := by
  have valid : FormatTarget.ofValue (.text "text") = .ok .text := by rfl
  obtain ⟨outcome, answered, registered⟩ := buildGroup_answers none compiled valid
  have nameable : (sampling leadWord pattern).Nameable := by
    have keys : (sampling leadWord pattern).commands.map (fun spec => nameKey spec.name) =
        ["one", "two"].map nameKey := rfl
    refine ⟨?_, by rw [keys]; decide +kernel⟩
    intro spec member
    have key := List.mem_map_of_mem (f := fun spec : CommandSpec => nameKey spec.name) member
    rw [keys] at key
    have named : ∀ key ∈ ["one", "two"].map nameKey, key ≠ "" := by decide +kernel
    exact named _ key
  obtain ⟨group, rfl⟩ := registered.mpr nameable
  exact ⟨group, answered⟩

theorem reachesCommand_sampling :
    let c := sampling none "\\w+"
    let gs : Grammars := [("one", wordGrammar), ("two", otherGrammar)]
    c.Passes (.text "strict") gs ∧
      ∃ group, (c.buildGroup (.text "strict") none (.text "text")).answer = .ok (.ok group) ∧
        ∃ spec ∈ c.commands, "x" ∈ spec.examples ∧
          ReachesCommand group spec (.text "x") .none := by
  intro c gs
  have passes : c.Passes (.text "strict") gs := passes_of_compile (by decide +kernel) (by rfl)
  obtain ⟨group, built⟩ := exists_sampling none "\\w+" passes.compiled
  have lead : group.leadWord = none := (fills_of_buildGroup passes.compiled built).leadWord
  have belongs : group.couldBeCommand (.text "x") = true := by
    simp [Group.couldBeCommand, Value.text?, lead]
  have reads : c.Reads gs "x" := by
    intro spec member g found
    simp only [c, sampling, List.mem_cons, List.not_mem_nil, or_false] at member
    obtain rfl | rfl := member
    · obtain rfl : wordGrammar = g := Option.some.inj found
      exact ⟨some [("n", some "x")], by rfl⟩
    · obtain rfl : otherGrammar = g := Option.some.inj found
      exact ⟨some [("m", some "x")], by rfl⟩
  refine ⟨passes, group, built, _, List.mem_cons_self, List.mem_cons_self, ?_⟩
  exact (reachesCommand_iff_reads c _ _ .none group _ "x" passes built rfl List.mem_cons_self
    List.mem_cons_self).mpr ⟨belongs, reads⟩

/-- The grammar of the second command, where its field has a group that it does not declare. -/
def nestedGrammar : Grammar :=
  { expression :=
      { source := "^\\s*((\\w+))\\s*$"
        pattern := .sequence [.anchor .textStart,
          .again 0 none .greedy (.one ⟨[.kind .blank false], false, .exact, false⟩),
          .group 1 (.sequence [.group 2 (.sequence
            [.again 1 none .greedy (.one ⟨[.kind .word false], false, .exact, false⟩)])]),
          .again 0 none .greedy (.one ⟨[.kind .blank false], false, .exact, false⟩),
          .anchor .lastLineEnd]
        groups := 2 }
    slots := [⟨"m", 0⟩]
    template := "\x7b\x7bm\x7d\x7d" }

/-- A text describes a catalog that passes and makes a group, and yet an example does not reach its
command. -/
def LosesExample (reader : Reader) (text : String) : Prop :=
  ∃ c gs group, (load reader ⟨"", ["catalog.yaml"]⟩ (.file text)).answer = .ok c ∧
    c.Passes (.text "strict") gs ∧
    (c.buildGroup (.text "strict") none (.text "text")).answer = .ok (.ok group) ∧
    ∃ spec ∈ c.commands, ∃ line ∈ spec.examples, ¬ ReachesCommand group spec (.text line) .none

theorem losesExample_of_load {reader : Reader} {text pattern : String} {leadWord : Option String}
    (loaded : (load reader ⟨"", ["catalog.yaml"]⟩ (.file text)).answer =
      .ok (sampling leadWord pattern))
    (passes : (sampling leadWord pattern).Passes (.text "strict") gs)
    (lost : ∀ group, (sampling leadWord pattern).Fills gs group →
      group.couldBeCommand (.text "x") = true → ¬ (sampling leadWord pattern).Reads gs "x") :
    LosesExample reader text := by
  obtain ⟨group, built⟩ := exists_sampling leadWord pattern passes.compiled
  have fills := fills_of_buildGroup passes.compiled built
  refine ⟨_, _, group, loaded, passes, built, _, List.mem_cons_self, "x", List.mem_cons_self, ?_⟩
  rw [fills.reachesCommand_iff passes.clean rfl List.mem_cons_self List.mem_cons_self]
  rintro ⟨belongs, reads⟩
  exact lost group fills belongs reads

/-- Examples stand the check that the gate turns away, or on which the grammar of another command
fails as its field has a group that it does not declare. -/
theorem losesExample_sampling :
    let text (lead pattern : String) := "version: 1\nprefix: " ++ lead
      ++ "\nfields:\n  n: \x7bpattern: \\w+\x7d\n  m: \x7bpattern: " ++ pattern ++ "\x7d\ncommands:\n"
      ++ "  one: \x7btemplate: '\x7b\x7bn\x7d\x7d', examples: [x]\x7d\n"
      ++ "  two: \x7btemplate: '\x7b\x7bm\x7d\x7d', examples: []\x7d\n"
    let told (lead : Option String) (pattern : String) :=
      document lead [("n", "\\w+"), ("m", pattern)]
        [("one", "\x7b\x7bn\x7d\x7d", ["x"]), ("two", "\x7b\x7bm\x7d\x7d", [])]
    let gated := text "'!go'" "\\w+"
    let nested := text "" "(\\w+)"
    LosesExample (Reader.only gated (told (some "!go") "\\w+")) gated ∧
      LosesExample (Reader.only nested (told none "(\\w+)")) nested := by
  intro text told gated nested
  constructor
  · have passes : (sampling (some "!go") "\\w+").Passes (.text "strict")
        [("one", wordGrammar), ("two", otherGrammar)] :=
      passes_of_compile (by decide +kernel) (by rfl)
    apply losesExample_of_load (by decide +kernel) passes
    intro group fills belongs _
    have lead : group.leadWord = some "!go" := fills.leadWord.trans (by decide +kernel)
    simp only [Group.couldBeCommand, Value.text?, lead] at belongs
    revert belongs
    decide +kernel
  · have passes : (sampling none "(\\w+)").Passes (.text "strict")
        [("one", wordGrammar), ("two", nestedGrammar)] :=
      passes_of_compile (by decide +kernel) (by rfl)
    apply losesExample_of_load (by decide +kernel) passes
    intro group _ _ reads
    obtain ⟨texts?, read⟩ := reads _ (List.mem_cons_of_mem _ List.mem_cons_self) nestedGrammar rfl
    have surplus : nestedGrammar.read "x" = .ok (.mismatch 2) := by rfl
    rw [Grammar.answer_parse_text, surplus] at read
    dsimp only at read
    cases within : withinDigitLimit nestedGrammar.expected <;> rw [within] at read <;> cases read

end Catalog
end LineCommand
