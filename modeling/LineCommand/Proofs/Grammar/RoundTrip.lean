import LineCommand.Proofs.Grammar.Layout
import LineCommand.Proofs.Grammar.Leading
import LineCommand.Proofs.Grammar.Optional

/-! Lines made from a template. Where no field may be left out, a line that has a sample for every field
in its place is parsed into these samples again. All fields but one at the end must be matched by words
only, for the line to show where their samples end. -/
namespace LineCommand
open Pattern

/-- A field that has no groups of its own, and looks at nothing but the text ahead. -/
structure Field.Bare (f : Field) : Prop where
  reads : ∃ e, Expression.read {} f.pattern = .ok e ∧ e.groups = 0
  tame : ∀ y ∈ lexemes false f.pattern.toList, y.token.tame
  embedded : f.embedded = 0

/-- A field that words alone match. Where it settles on what it passes, it passes no blanks. -/
structure Field.Compact (f : Field) : Prop where
  settles : ∀ e, Expression.read {} f.pattern = .ok e → e.pattern.Exact
  words : ∀ text, f.fullMatches text → text ≠ "" ∧ Text.Solid text.toList

/-- A text that a field matches, without blanks around it. -/
structure Field.Sample (f : Field) (text : String) : Prop where
  matched : f.fullMatches text
  some : text ≠ ""
  trimmed : Text.trimmed text = text

namespace Field

variable {f : Field}

theorem Bare.forward (bare : f.Bare) : (Fragment.field f false).Forward := by
  obtain ⟨e, read, _⟩ := bare.reads
  exact ⟨⟨e, read⟩, bare.tame, nofun⟩

end Field

namespace Fragment

def field? : Fragment → Option Field
  | .field f _ => some f
  | _ => none

variable (sample : Field → String)

/-- What stands for a fragment on a line, a sample if it is a field. -/
def sampled : Fragment → String
  | .field f _ => sample f
  | x => x.text

/-- What stands for fragments on a line, with a blank in front of each one where one is pending. -/
def inLine : Bool → List Fragment → List Char
  | _, [] => []
  | pending, x :: xs =>
    (if pending then [' '] else []) ++ ((x.sampled sample).toList ++ inLine true xs)

/-- What can be left of a line behind a fragment that has `xs` behind it. -/
structure Left (xs : List Fragment) (rest : List Char) : Prop where
  edge : Text.Edge rest
  last : xs = [] → Text.Blanks rest

/-- Fragments that are found again in the line made of them. Each of them begins with no blank, and what
stands for those behind it is what it leaves, if it leaves what can be left of a line. -/
def Found : List Fragment → Prop
  | [] => True
  | x :: xs =>
    Text.Clear ((x.sampled sample).toList ++ inLine sample true xs) ∧
      (∀ rest, Left xs rest → ((x.body {}).Leaves ((x.sampled sample).toList ++ inLine sample true xs)
        rest ↔ rest = inLine sample true xs)) ∧
      Found xs

variable {sample} {pending : Bool} {k : Nat} {x : Fragment} {xs : List Fragment} {f : Field}
  {text rest line : List Char} {st last : MatchState} {spans : List (Option Span)}

theorem toList_joined (xs : List Fragment) :
    (Text.joined " " (xs.map (·.sampled sample))).toList = inLine sample false xs := by
  rw [Text.joined, String.toList_intercalate, List.map_map]
  have behind : ∀ x ys, [' '].intercalate ((x :: ys).map (String.toList ∘ (·.sampled sample))) =
      (x.sampled sample).toList ++ inLine sample true ys := by
    intro x ys
    induction ys generalizing x with
    | nil => simp [inLine]
    | cons y ys ih =>
      rw [List.map_cons, List.map_cons, List.intercalate_cons_cons, ← List.map_cons, ih]
      simp [inLine]
  cases xs with
  | nil => rfl
  | cons x xs => exact behind x xs

theorem left_inLine : Left xs (inLine sample true xs) := by
  cases xs with
  | nil => exact ⟨nofun, fun _ => List.forall_mem_nil _⟩
  | cons x xs =>
    refine ⟨?_, nofun⟩
    rintro c ⟨⟩
    rfl

/-! ### Finding fragments -/

/-- Fragments match the line made of them. -/
theorem Found.fits (found : Found sample xs) (required : ∀ x ∈ xs, x.optional = false) :
    Fits pending xs (inLine sample pending xs) := by
  induction xs generalizing pending with
  | nil => exact List.forall_mem_nil _
  | cons x xs ih =>
    obtain ⟨here, rests⟩ := List.forall_mem_cons.mp required
    obtain ⟨_, leaves, others⟩ := found
    refine ⟨_, (takes_of_required here).mpr ⟨_, ?_, (leaves _ left_inLine).mpr rfl⟩, ?_⟩
    · cases pending with
      | false => rfl
      | true => exact ⟨[' '], List.forall_mem_singleton.mpr rfl, nofun, rfl⟩
    · rw [leaves_eq, here, Bool.not_false, Bool.or_true]
      exact ih others rests

/-- In front of a text that begins with no blank, a separator passes the one blank that is there. -/
theorem ahead_of_gap {here : MatchState} (gap : here ∈ (sequence (gapParts {} pending)).outcomes st)
    (ahead : st.cursor.ahead = (if pending then [' '] else []) ++ text) (clear : Text.Clear text) :
    here.cursor.ahead = text := by
  obtain ⟨w, passes, _, blanks, none_iff⟩ := gap_passes gap
  have split := passes.ahead.symm.trans ahead
  cases pending with
  | false => rwa [none_iff.mpr rfl] at split
  | true =>
    cases w with
    | nil => cases none_iff.mp rfl
    | cons c w =>
      obtain ⟨-, split⟩ := List.cons.inj split
      change w ++ here.cursor.ahead = text at split
      have none : w = [] := (split ▸ clear).eq_nil_of_blanks (List.forall_mem_cons.mp blanks).2
      rwa [none] at split

/-- However fragments lie on the line made of them, each one lies where it stands. -/
theorem Laid.texts_eq (laid : Laid pending k xs st spans last) (found : Found sample xs)
    (forward : ∀ x ∈ xs, x.Forward) (required : ∀ x ∈ xs, x.optional = false)
    (place : st.cursor.ahead = line.drop st.cursor.position)
    (ahead : st.cursor.ahead = inLine sample pending xs) :
    spans.map (groupText line) = xs.map fun x => some (x.sampled sample).toList := by
  induction laid with
  | ended => rfl
  | @cons pending k x xs st next last _ spans here behind ih =>
    obtain ⟨straight, forwards⟩ := List.forall_mem_cons.mp forward
    obtain ⟨always, requireds⟩ := List.forall_mem_cons.mp required
    obtain ⟨clear, leaves, others⟩ := found
    have waits : x.leaves pending = true := by rw [leaves_eq, always, Bool.not_false, Bool.or_true]
    cases here with
    | skipped optional => simp [always] at optional
    | @taken here there _ gap text rear =>
      obtain ⟨w, passes⟩ := exists_passes gap
      obtain ⟨v, inside⟩ := exists_passes text
      have start := drop_of_passes place passes
      have begins : here.cursor.ahead = (x.sampled sample).toList ++ inLine sample true xs :=
        ahead_of_gap gap ahead clear
      obtain ⟨_, rfl⟩ | ⟨free, _⟩ := rear_passes rear
      · have left : Left xs next.cursor.ahead := by
          refine ⟨edge_behind rear behind, ?_⟩
          rintro rfl
          cases behind with
          | ended rest => exact blanks_of_ending rest
        have reached := (reaches_core straight k here _).mp ⟨next, text, rfl⟩
        rw [begins] at reached
        have rest := (leaves _ left).mp reached
        have same : v = (x.sampled sample).toList := by
          have split := inside.ahead.symm.trans begins
          rwa [rest, List.append_cancel_right_eq] at split
        rw [List.map_cons, groupText_of_passes start inside, same, List.map_cons]
        rw [waits] at ih
        exact congrArg (_ :: ·) (ih others forwards requireds (drop_of_passes start inside) rest)
      · rw [waits] at free
        cases free

/-! ### Which fragments are found -/

/-- A fragment that words alone match ends where the word ends. -/
theorem found_word (accepts : List Char → Prop) (solid : ∀ {w}, accepts w → Text.Solid w)
    (leaves_iff : ∀ {w rest}, Text.Edge rest → ((x.body {}).Leaves (w ++ rest) rest ↔ accepts w))
    (some : x.sampled sample ≠ "") (matched : accepts (x.sampled sample).toList)
    (found : Found sample xs) : Found sample (x :: xs) := by
  refine ⟨(solid matched).clear.append (by simpa using some) _, fun rest left => ?_, found⟩
  constructor
  · intro leaves
    obtain ⟨w, split⟩ := leaves.exists_front
    rw [split] at leaves
    have full := (leaves_iff left.edge).mp leaves
    exact ((solid matched).append_inj (solid full) left_inLine.edge left.edge split).2.symm
  · rintro rfl
    exact (leaves_iff left_inLine.edge).mpr matched

theorem found_plain (word : PlainWord x.text) (slot : x.slot? = none) (found : Found sample xs) :
    Found sample (x :: xs) := by
  have same : x.sampled sample = x.text := by
    cases x with
    | plain | unknown => rfl
    | field => cases slot
  refine found_word (· = x.text.toList) (fun is => is ▸ word.solid) (fun _ => ?_)
    (same ▸ word.some) (congrArg _ same) found
  rw [leaves_plain word.plain, List.append_cancel_right_eq]

theorem found_compact (bare : f.Bare) (compact : f.Compact) (chosen : f.Sample (sample f))
    (found : Found sample xs) : Found sample (.field f false :: xs) := by
  refine found_word (fun w => f.fullMatches (String.ofList w)) (fun {w} full => ?_)
    (Field.leaves_iff bare.forward compact.settles) chosen.some ?_ found
  · have solid := (compact.words _ full).2
    rwa [String.toList_ofList] at solid
  · rw [sampled, String.ofList_toList]
    exact chosen.matched

/-- At the end, a field may have blanks in its sample, but none around it. -/
theorem found_last (bare : f.Bare) (chosen : f.Sample (sample f)) :
    Found sample [.field f false] := by
  obtain ⟨e, read, none⟩ := bare.reads
  have trimmed : Text.trim (sample f).toList = (sample f).toList := by
    rw [← String.toList_ofList (l := Text.trim _)]
    exact congrArg String.toList chosen.trimmed
  refine ⟨(Text.clear_of_trim trimmed).append (by simpa using chosen.some) _, fun rest left => ?_,
    trivial⟩
  simp only [sampled, inLine, List.append_nil]
  constructor
  · intro leaves
    obtain ⟨w, split⟩ := leaves.exists_front
    rw [split] at trimmed
    exact Text.eq_nil_of_trim trimmed (left.last rfl)
  · rintro rfl
    have matched := chosen.matched
    rw [Field.fullMatches_eq read, Expression.fullMatches_iff_mem, none] at matched
    rw [body, text, read]
    exact matched

theorem found_of_samples (required : ∀ x ∈ xs, x.optional = false)
    (literals : ∀ x ∈ xs, x.slot? = none → PlainWord x.text)
    (bare : ∀ f, .field f false ∈ xs → f.Bare)
    (compact : ∀ f, .field f false ∈ xs.dropLast → f.Compact)
    (samples : ∀ f, .field f false ∈ xs → f.Sample (sample f)) : Found sample xs := by
  induction xs with
  | nil => trivial
  | cons x xs ih =>
    have found : Found sample xs := by
      refine ih (List.forall_mem_cons.mp required).2 (List.forall_mem_cons.mp literals).2
        (fun f member => bare f (.tail _ member)) (fun f member => compact f ?_)
        (fun f member => samples f (.tail _ member))
      cases xs with
      | nil => cases member
      | cons y ys => exact .tail _ member
    cases x with
    | plain | unknown => exact found_plain (literals _ List.mem_cons_self rfl) rfl found
    | field f optional =>
      obtain rfl : optional = false := required _ List.mem_cons_self
      have here := bare f List.mem_cons_self
      have chosen := samples f List.mem_cons_self
      cases xs with
      | nil => exact found_last here chosen
      | cons y ys => exact found_compact here (compact f List.mem_cons_self) chosen found

/-! ### Samples from groups -/

theorem forward_of_bare (required : x.optional = false) (literal : x.slot? = none → PlainWord x.text)
    (bare : ∀ f, x = .field f false → f.Bare) : x.Forward ∧ x.own {} = 0 ∧ x.excess {} = 0 := by
  have own_of_word : ∀ {y : Fragment}, y.ForWords → y.declared = 0 → y.own {} = 0 ∧ y.excess {} = 0 := by
    intro y word none
    exact ⟨word.own_eq_zero, by rw [excess, word.own_eq_zero, none]; rfl⟩
  cases x with
  | plain | unknown =>
    exact ⟨forward_plain (literal rfl).plain, own_of_word (literal rfl) rfl⟩
  | field f optional =>
    obtain rfl : optional = false := required
    have bare := bare f rfl
    obtain ⟨e, read, none⟩ := bare.reads
    have own : (Fragment.field f false).own {} = 0 := by
      rw [Fragment.own, text, read]
      exact none
    exact ⟨bare.forward, own, by rw [excess, own, declared, bare.embedded]; rfl⟩

theorem Found.clear (found : Found sample xs) : Text.Clear (inLine sample false xs) := by
  cases xs with
  | nil => exact nofun
  | cons x xs => exact found.1

/-- The line made of the fragments of a grammar is matched, with what stands for each field in its
group. -/
theorem Found.exists_captures {g : Grammar} (found : Found sample xs)
    (made : GrammarBuilder.Makes {} xs g) (forward : ∀ x ∈ xs, x.Forward)
    (required : ∀ x ∈ xs, x.optional = false) :
    ∃ captures, g.expression.match? (inLine sample false xs) = some captures ∧
      ∀ before x after, xs = before ++ x :: after → x.slot? ≠ none →
        captures[(before.map (groups {})).sum]?.join = some (x.sampled sample).toList := by
  have standalone : ∀ x ∈ xs, x.Standalone {} := fun x member => (forward x member).standalone
  have matched : (g.expression.match? (inLine sample false xs)).isSome :=
    (made.isSome_match?_iff forward).mpr ⟨[], _, List.forall_mem_nil _, rfl, found.fits required⟩
  obtain ⟨captures, matched⟩ := Option.isSome_iff_exists.mp matched
  refine ⟨captures, matched, fun before x after split slot => ?_⟩
  obtain ⟨last, ran, remembered⟩ := Expression.exists_of_match? matched
  obtain ⟨spans, laidOut⟩ := (made.mem_outcomes_iff fun x member => (forward x member).spliceable).mp
    (mem_outcomes_of_run ran)
  obtain ⟨w, st, blanks, start, stage, laid⟩ := laidOut.exists_start
  have none : w = [] := Text.Clear.eq_nil_of_blanks (start ▸ found.clear) blanks
  rw [none, List.nil_append] at start
  have texts := laid.texts_eq found forward required stage.ahead start.symm
  have remembers := laid.span?_of_field stage standalone split slot
    (by rw [Nat.zero_add]; exact made.room standalone split slot)
  have listed : xs[before.length]? = some x := by simp [split]
  have here := congrArg (·[before.length]?) texts
  simp only [List.getElem?_map, remembers, listed, Option.map_some, Nat.zero_add] at here
  rw [remembered]
  exact Option.some.inj here

/-- Fields that have one group each are given the texts of these groups. -/
theorem texts_eq_samples {captures : List (Option (List Char))}
    (single : ∀ x ∈ xs, x.own {} = 0)
    (trimmed : ∀ f optional, .field f optional ∈ xs → Text.trimmed (sample f) = sample f)
    (told : ∀ before x after, xs = before ++ x :: after → x.slot? ≠ none →
      captures[(before.map (groups {})).sum]?.join = some (x.sampled sample).toList) :
    texts {} captures xs = (xs.filterMap field?).map fun f => (f.name, some (sample f)) := by
  induction xs generalizing captures with
  | nil => rfl
  | cons x xs ih =>
    have others : texts {} (captures.drop (x.groups {})) xs =
        (xs.filterMap field?).map fun f => (f.name, some (sample f)) := by
      refine ih (List.forall_mem_cons.mp single).2
        (fun f optional member => trimmed f optional (.tail _ member)) ?_
      intro before y after split slot
      have here := told (x :: before) y after (by rw [split]; rfl) slot
      rwa [List.map_cons, List.sum_cons, ← List.getElem?_drop] at here
    have none := single x List.mem_cons_self
    rw [texts, others]
    cases x with
    | plain | unknown => rfl
    | field f optional =>
      have slot : (Fragment.field f optional).slot? ≠ .none := Option.some_ne_none _
      have one : (Fragment.field f optional).groups {} = 1 := by
        rw [groups_eq_of_slot {} slot, none]
      have first := told [] _ xs rfl slot
      have text : fieldText (captures.take 1) = some (sample f) := by
        obtain _ | ⟨c, captures⟩ := captures
        · cases first
        · obtain rfl : c = some (sample f).toList := first
          exact congrArg some (trimmed f optional List.mem_cons_self)
      rw [one, text]
      rfl

end Fragment

/-! ### Templates -/

namespace GrammarBuilder

theorem text_of_resolve {b : GrammarBuilder} {word : String} {x : Fragment} (some : word ≠ "")
    (resolved : b.resolve (.ofWord word) = .ok x) (slot : x.slot? = none) : x.text = word := by
  unfold TemplateToken.ofWord at resolved
  split at resolved
  · simp only [resolve] at resolved
    split at resolved
    · cases resolved
      cases slot
    · split at resolved
      · cases resolved
      · cases resolved
        simp [Fragment.text, some]
  · cases resolved
    rfl

/-- What stands in a template that is a text comes of the words of the text. -/
theorem exists_word_of_fragments {b : GrammarBuilder} {s : String} {xs : List Fragment}
    (found : b.fragments? (.text s) = some xs) : ∀ x ∈ xs, ∃ word, word ≠ "" ∧
      Text.Solid word.toList ∧ b.resolve (.ofWord word) = .ok x := by
  intro x member
  obtain ⟨tokens, listed, resolved⟩ := fragments?_eq_some_iff.mp found
  obtain ⟨token, chosen, same⟩ := (mem_iff_of_mapM resolved).mp member
  obtain ⟨_, among, rfl⟩ := List.mem_filterMap.mp chosen
  obtain ⟨v, item, read⟩ := (mem_iff_of_mapM listed).mp among
  obtain ⟨word, cut, rfl⟩ := List.mem_map.mp item
  have solid : Text.Solid word.toList := by
    obtain ⟨w, listed, rfl⟩ := List.mem_map.mp cut
    rw [String.toList_ofList]
    exact Text.solid_of_mem_wordsFrom (List.forall_mem_nil _) listed
  by_cases none : word = ""
  · subst none
    cases read
  · have some : (!(Value.text word).isTrue) = false := by simp [Value.isTrue, none]
    have token : Template.tokenOf? (.text word) = .ok (.some (.ofWord word)) := by
      simp [Template.tokenOf?, some]
    rw [token] at read
    cases read
    exact ⟨word, none, solid, toOption_eq_some_iff.mp same⟩

/-- What is no field in a template that is a text is a word of it. -/
theorem word_of_fragments {b : GrammarBuilder} {s : String} {xs : List Fragment}
    (found : b.fragments? (.text s) = some xs) :
    ∀ x ∈ xs, x.slot? = none → x.text ≠ "" ∧ Text.Solid x.text.toList := by
  intro x member slot
  obtain ⟨word, some, solid, resolved⟩ := exists_word_of_fragments found x member
  rw [text_of_resolve some resolved slot]
  exact ⟨some, solid⟩

/-- Parsing finds the samples that a line was made of. Without flags, let a template that is a text have
plain words and fields that may not be left out, none with groups of its own, of which words alone match
all but one at the end. Then with a sample for every field in its place, and single blanks between the
tokens, parsing the line gives every field its sample. -/
theorem parse_joined (b : GrammarBuilder) (s : String) (g : Grammar) (xs : List Fragment)
    (plain : b.flags = {}) (built : (b.build (.text s)).answer = .ok (.ok g))
    (fragments : b.fragments? (.text s) = some xs)
    (required : ∀ x ∈ xs, x.optional = false)
    (literals : ∀ x ∈ xs, x.slot? = none → Plain x.text.toList)
    (bare : ∀ f, .field f false ∈ xs → f.Bare)
    (compact : ∀ f, .field f false ∈ xs.dropLast → f.Compact)
    (sample : Field → String) (samples : ∀ f, .field f false ∈ xs → f.Sample (sample f)) :
    (g.parse (.text (Text.joined " " (xs.map (·.sampled sample))))).answer =
      .ok (.ok (some ((xs.filterMap Fragment.field?).map fun f => (f.name, some (sample f))))) := by
  have made := makes_of_build built fragments
  rw [plain] at made
  have words : ∀ x ∈ xs, x.slot? = none → PlainWord x.text := by
    intro x member slot
    obtain ⟨some, solid⟩ := word_of_fragments fragments x member slot
    exact ⟨some, solid, literals x member slot⟩
  have found : Fragment.Found sample xs :=
    Fragment.found_of_samples required words bare compact samples
  have each : ∀ x ∈ xs, x.Forward ∧ x.own {} = 0 ∧ x.excess {} = 0 := fun x member =>
    Fragment.forward_of_bare (required x member) (words x member) fun f same =>
      bare f (same ▸ member)
  have forward : ∀ x ∈ xs, x.Forward := fun x member => (each x member).1
  obtain ⟨captures, matched, told⟩ := found.exists_captures made forward required
  rw [← Fragment.toList_joined] at matched
  obtain ⟨none, _⟩ | ⟨captures', matched', _, read⟩ :=
    made.read (fun x member => (forward x member).standalone)
      (fun x member => (each x member).2.2) (Text.joined " " (xs.map (·.sampled sample)))
  · rw [matched] at none
    cases none
  · obtain rfl : captures = captures' := Option.some.inj (matched.symm.trans matched')
    rw [Fragment.texts_eq_samples (fun x member => (each x member).2.1) ?_ told] at read
    · exact Grammar.parse_of_fields read
    · intro f optional member
      obtain rfl : optional = false := required _ member
      exact (samples f member).trimmed

theorem letters_bare : letters.Bare := ⟨⟨_, rfl, rfl⟩, by decide +kernel, rfl⟩

theorem letters_compact : letters.Compact := by
  refine ⟨fun e read => ?_, letters_forWords.words⟩
  cases read
  decide +kernel

def phrase : Field := ⟨"m", "[a-z][a-z ]*", false, 0⟩

theorem parse_joined_phrase :
    let b : GrammarBuilder := { fields := ⟨[⟨"n", "n", letters⟩, ⟨"m", "m", phrase⟩]⟩ }
    let s := "go " ++ Grammar.reference "n" ++ " " ++ Grammar.reference "m"
    ∃ g, (b.build (.text s)).answer = .ok (.ok g) ∧ letters.Compact ∧ phrase.Sample "big red dice" ∧
      (g.parse (.text "go ab big red dice")).answer =
        .ok (.ok (some [("n", some "ab"), ("m", some "big red dice")])) := by
  intro b s
  let xs : List Fragment := [.plain "go", .field letters false, .field phrase false]
  let sample (f : Field) : String := if f.name = "n" then "ab" else "big red dice"
  obtain ⟨g, built⟩ : ∃ g, (b.build (.text s)).answer = .ok (.ok g) := exists_build (by decide +kernel)
  have phraseBare : phrase.Bare := ⟨⟨_, rfl, rfl⟩, by decide +kernel, rfl⟩
  have chosen : letters.Sample "ab" := ⟨by decide +kernel, by decide, by decide +kernel⟩
  have chosen' : phrase.Sample "big red dice" := ⟨by decide +kernel, by decide, by decide +kernel⟩
  refine ⟨g, built, letters_compact, chosen', ?_⟩
  refine parse_joined b s g xs rfl built (by decide +kernel) (by decide) (by decide +kernel) ?_ ?_
    sample ?_
  · simp only [xs, List.mem_cons]
    rintro f (same | same | same | same) <;> cases same
    · exact letters_bare
    · exact phraseBare
  · simp only [xs, List.dropLast, List.mem_cons]
    rintro f (same | same | same) <;> cases same
    exact letters_compact
  · simp only [xs, List.mem_cons]
    rintro f (same | same | same | same) <;> cases same
    · exact chosen
    · exact chosen'

/-- A field that settles on all of the line behind its sample is not matched any more, although its
pattern matches one word and nothing else. -/
theorem not_parse_joined :
    let b : GrammarBuilder := { fields := ⟨[⟨"n", "n", hasty⟩]⟩ }
    let s := Grammar.reference "n" ++ " c"
    let xs : List Fragment := [.field hasty false, .plain "c"]
    (∀ x ∈ lexemes false hasty.pattern.toList, ∀ c ∈ x.token.construct?,
        c = .again .greedy ∨ c = .again .lazy ∨ c = .again .possessive) ∧
      hasty.Bare ∧ (∀ text, hasty.fullMatches text → text ≠ "" ∧ Text.Solid text.toList) ∧
      Plain "c".toList ∧ b.fragments? (.text s) = some xs ∧ hasty.Sample "a" ∧
      ∃ g, (b.build (.text s)).answer = .ok (.ok g) ∧
        (g.parse (.text (Text.joined " " (xs.map (·.sampled fun _ => "a"))))).answer =
          .ok (.ok none) := by
  intro b s xs
  obtain ⟨g, built, read⟩ : ∃ g, (b.build (.text s)).answer = .ok (.ok g) ∧
      g.read "a c" = .ok .noMatch := exists_read (by decide +kernel)
  have bare : hasty.Bare := ⟨⟨_, rfl, rfl⟩, by decide +kernel, rfl⟩
  have chosen : hasty.Sample "a" := ⟨by decide +kernel, by decide, by decide +kernel⟩
  refine ⟨by decide +kernel, bare, fun text matched => ?_, by decide, by decide +kernel, chosen, g,
    built, Grammar.parse_of_noMatch read⟩
  rw [hasty_only text matched]
  decide

end GrammarBuilder
end LineCommand
