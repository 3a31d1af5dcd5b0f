import LineCommand.Proofs.Grammar.Captures
import LineCommand.Proofs.Grammar.Reading
import LineCommand.Proofs.Pattern.Excerpt

/-! Templates of words. Where every literal is a word and every field is matched by single words, a
grammar reads the words of a line one by one, however they are set apart. -/
namespace LineCommand
open Pattern

/-- The fields of a line, by its words. A field that may be left out takes a word rather than none,
but takes none where what is left of the line does not match otherwise. -/
def Fragment.matchWords : List Fragment → List String → Option FieldTexts
  | [], words => if words.isEmpty then some [] else none
  | .field f optional :: xs, words =>
    let taken := takeWord f.fullMatches (fun word fields => (f.name, some word) :: fields)
      (matchWords xs) words
    if optional then taken.or ((matchWords xs words).map ((f.name, none) :: ·)) else taken
  | x :: xs, words => takeWord (· = x.text) (fun _ fields => fields) (matchWords xs) words

/-! ### Templates -/

/-- Whether a construct goes on through the text ahead and remembers nothing. -/
def Pattern.Construct.bare : Construct → Bool
  | .again _ | .atomic => true
  | _ => false

/-- A field whose pattern is made of characters, alternatives and repetitions, passes no blanks where it
settles on what it passes, and matches single words only. -/
structure Field.ForWords (f : Field) : Prop where
  reads : ∃ e, Expression.read {} f.pattern = .ok e
  bare : ∀ x ∈ lexemes false f.pattern.toList, ∀ c ∈ x.token.construct?, c.bare
  settles : ∀ e, Expression.read {} f.pattern = .ok e → e.pattern.Exact
  words : ∀ text : String, f.fullMatches text → text ≠ "" ∧ Text.Solid text.toList
  embedded : f.embedded = 0

theorem Pattern.Progress.opens_literals (cs : List Char) : Progress.opens (literals cs) = 0 := by
  refine List.sum_eq_zero_iff_forall_eq_nat.mpr fun n member => ?_
  obtain ⟨_, listed, rfl⟩ := List.mem_map.mp member
  obtain ⟨c, _, rfl⟩ := List.mem_map.mp listed
  rfl

/-- A word that stands for itself. -/
structure PlainWord (text : String) : Prop where
  some : text ≠ ""
  solid : Text.Solid text.toList
  plain : Plain text.toList

def Fragment.ForWords : Fragment → Prop
  | .field f _ => f.ForWords
  | x => PlainWord x.text

namespace Field.ForWords

variable {f : Field} (words : f.ForWords)
include words

theorem only (u : List Char) (accepts : f.fullMatches (String.ofList u)) : u ≠ [] ∧ Text.Solid u := by
  obtain ⟨some, solid⟩ := words.words _ accepts
  rw [String.toList_ofList] at solid
  exact ⟨fun none => some (by rw [none]), solid⟩

theorem opens : Progress.opens (lexemes false f.pattern.toList) = 0 := by
  refine List.sum_eq_zero_iff_forall_eq_nat.mpr fun n member => ?_
  obtain ⟨x, listed, rfl⟩ := List.mem_map.mp member
  cases token : x.token with
  | openGroup name =>
    cases words.bare x listed .group (by rw [token]; rfl)
  | _ => rfl

end Field.ForWords

namespace Fragment.ForWords

variable {x : Fragment} (words : x.ForWords)
include words

theorem insertable : x.Insertable {} := by
  cases x with
  | plain | unknown => exact insertable_of_plain rfl (PlainWord.plain words)
  | field f optional =>
    refine ⟨⟨⟨Field.ForWords.reads words, nofun⟩,
      movable_of_settled fun lexeme member c asked => ?_, nofun⟩, nofun⟩
    have bare := Field.ForWords.bare words lexeme member c asked
    constructor <;> rintro rfl <;> cases bare

theorem own_eq_zero : x.own {} = 0 := by
  have plain : ∀ {y : Fragment}, PlainWord y.text →
      Progress.opens (lexemes false y.text.toList) = 0 := by
    intro y word
    rw [lexemes_plain word.plain, Progress.opens_literals]
  refine (opens_text words.insertable.toStandalone).symm.trans ?_
  cases x with
  | plain | unknown => exact plain words
  | field f optional => exact Field.ForWords.opens words

end Fragment.ForWords

/-- Where a pattern goes on: from the end of a word if a separator is pending, else from the start
of one. -/
def Admits : Bool → List Char → Prop
  | true => Text.Edge
  | false => Text.Opening

section Fragments

variable {line : List Char} {k left : Nat} {goal : Goal} {read : List String → Option FieldTexts}
  {pending : Bool}

theorem Reads.gapped (reads : Reads line k left Text.Opening goal read) (some : read [] = none) :
    Reads line k left (Admits pending) ((sequence (Fragment.gapParts {} pending)).run goal)
      read := by
  cases pending with
  | true => exact reads.separated some
  | false => exact reads

theorem reads_ending : Reads line k 0 (Admits pending) ((sequence (Fragment.ending {})).run some)
    (Fragment.matchWords []) where
  admitted := by
    intro known st _ stands _
    have ended := congrArg (Option.map (List.map (groupText line))) (run_ending st)
    rw [Option.map_map] at ended
    refine ended.trans ?_
    by_cases none : wordsOf st.cursor.ahead = []
    · have all : st.spans.map (groupText line) = known := stands.groupTexts_eq
      simp [none, Fragment.matchWords, captured, all]
    · simp [none, Fragment.matchWords]
  refused := by
    intro known st _ _ refused
    have some : wordsOf st.cursor.ahead ≠ [] := by
      intro none
      have blanks := wordsOf_eq_nil_iff.mp none
      cases pending with
      | true => exact refused blanks.edge
      | false => exact refused (.inr blanks)
    have ended := run_ending st
    rwa [if_neg some, Option.map_eq_none_iff] at ended

/-- In a place where no group is behind, the pattern of a field for words takes the words that it
matches by themselves. -/
theorem Field.ForWords.takesWords {f : Field} (words : f.ForWords) {e : Expression}
    (found : Expression.read {} f.pattern = .ok e) {known : List (Option (List Char))}
    {st : MatchState} (count : known.length = k) (stands : Stands line known (left + 1) st) :
    TakesWords (e.pattern.shift (k + 1)) (fun u => f.fullMatches (String.ofList u)) st where
  spans last member := by
    refine spans_of_within (fun c used => ?_) member
    rw [constructs_shift] at used
    have bare := Expression.within_of_read found words.bare c used
    rintro rfl
    cases bare
  ends w d passes edge := by
    have groups : e.groups = 0 := by
      have own := Fragment.ForWords.own_eq_zero (x := .field f false) words
      rwa [Fragment.own, Fragment.text, found] at own
    obtain ⟨done, spans, rfl⟩ := stands.spans
    rw [List.length_map] at count
    have room : e.groups + (k + 1) ≤ st.spans.length := by
      simp [groups, spans, count]
    have fresh : ∀ i, st.span? (i + (k + 1)) = none := by
      intro i
      rw [MatchState.span?, if_neg (by omega), spans, List.getElem?_append_right (by omega),
        List.getElem?_replicate]
      split <;> rfl
    rw [Field.fullMatches_eq found, String.toList_ofList]
    refine (Expression.fullMatches_iff_exists found passes.ahead edge room fresh
      (words.settles e found)).trans (exists_congr fun last => and_congr_right fun member => ?_)
    constructor
    · rintro left
      obtain ⟨u, passed⟩ := exists_passes member
      have same : u = w := List.append_cancel_right
        ((left ▸ passed.ahead).symm.trans passes.ahead)
      exact (same ▸ passed).unique passes
    · rintro rfl
      rfl

theorem Reads.grouped (reads : Reads line (k + 1) left Text.Edge goal read) {f : Field}
    (words : f.ForWords) {optional : Bool} :
    Reads line k (left + 1) Text.Opening (((Fragment.field f optional).grouped {} k).run goal)
      (takeWord f.fullMatches (fun word fields => (f.name, some word) :: fields) read) := by
  obtain ⟨e, found⟩ := words.reads
  have body : (Fragment.field f optional).body {} = e.pattern := by
    rw [Fragment.body, Fragment.text, found]
  rw [Fragment.grouped, body]
  exact reads.field (words.takesWords found) words.only

/-- The pattern of fragments for words reads the words of a line. -/
theorem reads_fragments {xs : List Fragment} (words : ∀ x ∈ xs, x.ForWords) (k : Nat)
    (pending : Bool) :
    Reads line k (xs.filterMap Fragment.slot?).length (Admits pending)
      ((sequence (Fragment.allParts {} pending k xs)).run some) (Fragment.matchWords xs) := by
  induction xs generalizing k pending with
  | nil => exact reads_ending
  | cons x xs ih =>
    obtain ⟨here, rests⟩ := List.forall_mem_cons.mp words
    have own := here.own_eq_zero
    have literal : PlainWord x.text → x.slot? = none →
        x.parts {} pending k = Fragment.gapParts {} pending ++
          x.text.toList.map (Fragment.character {}) → x.leaves pending = true →
        Reads line k ((x :: xs).filterMap Fragment.slot?).length (Admits pending)
          ((sequence (Fragment.allParts {} pending k (x :: xs))).run some)
          (takeWord (· = x.text) (fun _ fields => fields) (Fragment.matchWords xs)) := by
      intro word slot parts leaves
      have count : k + x.groups {} = k := by rw [Fragment.groups, slot, own]; rfl
      have after := ih rests k true
      rw [Fragment.allParts, count, leaves, run_sequence_append, parts, run_sequence_append,
        List.filterMap_cons, slot]
      exact (Reads.literal after word.some word.solid).gapped rfl
    cases x with
    | plain text => exact literal here rfl rfl rfl
    | unknown name text => exact literal here rfl rfl rfl
    | field f optional =>
      have count : k + (Fragment.field f optional).groups {} = k + 1 := by
        rw [Fragment.groups, own]
        rfl
      rw [Fragment.allParts, count, run_sequence_append]
      cases optional with
      | false =>
        have after := ih rests (k + 1) true
        rw [Fragment.parts, run_sequence_append]
        exact (Reads.grouped after here).gapped rfl
      | true =>
        cases pending with
        | true =>
          have after := ih rests (k + 1) true
          exact Reads.optional ((Reads.grouped after here).separated rfl) after
        | false =>
          have after := ih rests (k + 1) false
          exact Reads.optional (Reads.grouped after.apart here) after

end Fragments

/-! ### Grammars -/

theorem takeWord_eq_some {accepted : String → Bool} {add : String → FieldTexts → FieldTexts}
    {read : List String → Option FieldTexts} {words : List String} {fields : FieldTexts}
    (taken : takeWord accepted add read words = some fields) :
    ∃ word rest others, words = word :: rest ∧ read rest = some others ∧
      fields = add word others := by
  cases words with
  | nil => cases taken
  | cons word rest =>
    obtain ⟨_, taken⟩ := Option.ite_none_right_eq_some.mp taken
    obtain ⟨others, found, rfl⟩ := Option.map_eq_some_iff.mp taken
    exact ⟨word, rest, others, rfl, found, rfl⟩

theorem assign_single {before captures : List (Option (List Char))} {name : String}
    {text? : Option String} {slots : List Slot} {others : FieldTexts}
    (solid : ∀ text ∈ text?, Text.Solid text.toList)
    (assigned : Grammar.assign (before ++ [text?.map String.toList] ++ captures) (before.length + 1)
      slots = .ok others) :
    Grammar.assign (before ++ text?.map String.toList :: captures) before.length
      (⟨name, 0⟩ :: slots) = .ok ((name, text?) :: others) := by
  have group : stretch (before ++ text?.map String.toList :: captures) before.length
      (before.length + 1) = [text?.map String.toList] := by
    refine (stretch_natCast _ before.length (before.length + 1)).trans ?_
    rw [List.drop_take, List.drop_left, Nat.add_sub_cancel_left]
    rfl
  have text : Grammar.slotText [text?.map String.toList] = .ok text? := by
    cases text? with
    | none => rfl
    | some text =>
      have same := Text.trim_solid (solid text rfl)
      simp [Grammar.slotText, same]
  rw [List.append_assoc, List.singleton_append] at assigned
  simp only [Grammar.assign, Slot.captures, Int.add_zero, group, text, assigned]
  rfl

/-- The groups of a match are handed to the fields that they were captured for. -/
theorem assign_matchWords {xs : List Fragment} (words : ∀ x ∈ xs, x.ForWords) {line : List String}
    (solid : ∀ word ∈ line, Text.Solid word.toList) {fields : FieldTexts}
    (matched : Fragment.matchWords xs line = some fields) (before : List (Option (List Char))) :
    Grammar.assign (before ++ captured fields) before.length (xs.filterMap Fragment.slot?) =
      .ok fields := by
  induction xs generalizing line fields before with
  | nil =>
    obtain ⟨_, matched⟩ := Option.ite_none_right_eq_some.mp matched
    cases matched
    rfl
  | cons x xs ih =>
    obtain ⟨here, rests⟩ := List.forall_mem_cons.mp words
    have literal : x.slot? = none →
        takeWord (· = x.text) (fun _ fields => fields) (Fragment.matchWords xs) line = some fields →
        Grammar.assign (before ++ captured fields) before.length
          ((x :: xs).filterMap Fragment.slot?) = .ok fields := by
      intro slot taken
      obtain ⟨word, rest, others, rfl, found, rfl⟩ := takeWord_eq_some taken
      rw [List.filterMap_cons, slot]
      exact ih rests (List.forall_mem_cons.mp solid).2 found before
    cases x with
    | plain | unknown => exact literal rfl matched
    | field f optional =>
      have slots : (Fragment.field f optional :: xs).filterMap Fragment.slot? =
          ⟨f.name, 0⟩ :: xs.filterMap Fragment.slot? := by
        rw [List.filterMap_cons, Fragment.slot?, Field.ForWords.embedded here]
      have behind : ∀ {text? : Option String} {rest : List String} {others : FieldTexts},
          (∀ text ∈ text?, Text.Solid text.toList) → (∀ word ∈ rest, Text.Solid word.toList) →
          Fragment.matchWords xs rest = some others →
          Grammar.assign (before ++ captured ((f.name, text?) :: others)) before.length
            ((Fragment.field f optional :: xs).filterMap Fragment.slot?) =
              .ok ((f.name, text?) :: others) := by
        intro text? rest others first rest_solid found
        rw [slots]
        refine assign_single first ?_
        have assigned := ih rests rest_solid found (before ++ [text?.map String.toList])
        rwa [List.length_append, Int.natCast_add] at assigned
      have taken : takeWord f.fullMatches (fun word fields => (f.name, some word) :: fields)
          (Fragment.matchWords xs) line = some fields →
          Grammar.assign (before ++ captured fields) before.length
            ((Fragment.field f optional :: xs).filterMap Fragment.slot?) = .ok fields := by
        intro taken
        obtain ⟨word, rest, others, rfl, found, rfl⟩ := takeWord_eq_some taken
        obtain ⟨first, rest_solid⟩ := List.forall_mem_cons.mp solid
        refine behind ?_ rest_solid found
        rintro text ⟨⟩
        exact first
      cases optional with
      | false => exact taken matched
      | true =>
        obtain took | ⟨_, skipped⟩ := Option.or_eq_some_iff.mp matched
        · exact taken took
        · obtain ⟨others, found, rfl⟩ := Option.map_eq_some_iff.mp skipped
          refine behind ?_ solid found
          rintro _ ⟨⟩

/-- Every field has one group, and there are no others. -/
theorem groups_words {g : Grammar} {xs : List Fragment} (made : GrammarBuilder.Makes {} xs g)
    (words : ∀ x ∈ xs, x.ForWords) :
    g.expression.groups = (xs.filterMap Fragment.slot?).length := by
  rw [made.groups fun x member => (words x member).insertable.toStandalone]
  clear made
  induction xs with
  | nil => rfl
  | cons x xs ih =>
    obtain ⟨here, rests⟩ := List.forall_mem_cons.mp words
    rw [List.map_cons, List.sum_cons, ih rests, Fragment.groups, here.own_eq_zero,
      List.filterMap_cons]
    cases x.slot? <;> simp [Nat.add_comm]

theorem sum_captures {xs : List Fragment} (words : ∀ x ∈ xs, x.ForWords) :
    ((xs.filterMap Fragment.slot?).map Slot.captures).sum =
      (xs.filterMap Fragment.slot?).length := by
  induction xs with
  | nil => rfl
  | cons x xs ih =>
    obtain ⟨here, rests⟩ := List.forall_mem_cons.mp words
    rw [List.filterMap_cons]
    cases x with
    | plain | unknown => exact ih rests
    | field f optional =>
      have embedded : f.embedded = 0 := Field.ForWords.embedded here
      simp [Fragment.slot?, Slot.captures, embedded, ih rests, Int.add_comm]

/-- A match of a line has the texts that its words give to the fields. -/
theorem match_words {g : Grammar} {xs : List Fragment} (made : GrammarBuilder.Makes {} xs g)
    (words : ∀ x ∈ xs, x.ForWords) (line : List Char) :
    g.expression.match? line = (Fragment.matchWords xs (wordsOf line)).map captured := by
  have insertable : ∀ x ∈ xs, x.Insertable {} := fun x member => (words x member).insertable
  have groups := groups_words made words
  let start : MatchState := ⟨.start line, List.replicate g.expression.groups none⟩
  have stands : Stands line [] (xs.filterMap Fragment.slot?).length start :=
    ⟨⟨[], .refl _⟩, [], by rw [← groups, List.nil_append], rfl⟩
  have runs : g.expression.match? line =
      ((again 0 none .greedy (Fragment.blank {})).run
        ((sequence (Fragment.allParts {} false 0 xs)).run some) start).map (groupTexts line) := by
    rw [Expression.match?, made.pattern insertable]
    rfl
  obtain ⟨bs, rest, ahead, blanks, clear⟩ := Text.exists_blanks line
  rw [runs]
  exact (reads_fragments words 0 false).run_blanks rfl stands ahead blanks clear (Nat.zero_le _)

namespace GrammarBuilder

/-- Without flags, a grammar of words gives the fields that the words of a line have, and none if
they do not match. -/
theorem parse_eq_matchWords (b : GrammarBuilder) (t : Template) (g : Grammar) (xs : List Fragment)
    (flags : b.flags = {}) (built : (b.build t).answer = .ok (.ok g))
    (found : b.fragments? t = some xs) (words : ∀ x ∈ xs, x.ForWords) (line : String) :
    (g.parse (.text line)).answer = .ok (.ok (Fragment.matchWords xs (Text.words line))) := by
  obtain ⟨ys, known, made⟩ := build_eq_ok built
  obtain rfl := Option.some.inj (found.symm.trans known)
  rw [flags] at made
  have matched := match_words made words line.toList
  change _ = (Fragment.matchWords xs (Text.words line)).map captured at matched
  have solid : ∀ word ∈ Text.words line, Text.Solid word.toList := by
    intro word member
    obtain ⟨w, listed, rfl⟩ := List.mem_map.mp member
    rw [String.toList_ofList]
    exact Text.solid_of_mem_wordsFrom (List.forall_mem_nil _) listed
  simp only [Grammar.parse, Value.text?, Grammar.read, matched]
  cases read : Fragment.matchWords xs (Text.words line) with
  | none => rfl
  | some fields =>
    rw [read] at matched
    have assigned := assign_matchWords words solid read []
    have count : ((captured fields).length : Int) = g.expected := by
      rw [Expression.length_match matched, groups_words made words, Grammar.expected_eq, made.slots,
        sum_captures words]
    rw [← made.slots, List.nil_append] at assigned
    simp only [Option.map_some]
    rw [if_neg (not_not_intro count)]
    change Grammar.assign _ 0 _ = _ at assigned
    rw [assigned]
    rfl

def letters : Field := ⟨"n", "[ab]+", false, 0⟩

theorem letters_regular {e : Expression} (read : Expression.read {} letters.pattern = .ok e) :
    e.pattern.Within Construct.Regular := by
  cases read
  intro c used
  obtain rfl := List.mem_singleton.mp used
  exact .inr (.inl rfl)

theorem letters_forWords : letters.ForWords := by
  let e : Expression := ⟨"[ab]+", sequence [.again 1 none .greedy
      (.one ⟨[.code 97, .code 98], false, .exact, false⟩)], 0⟩
  have read : Expression.read {} letters.pattern = .ok e := rfl
  refine ⟨⟨e, read⟩, by decide +kernel, fun e' read' => ?_, fun text matched => ?_, rfl⟩
  · cases read.symm.trans read'
    decide +kernel
  rw [Field.fullMatches_eq read] at matched
  obtain ⟨u, _, accepts, rfl, same⟩ := (Expression.fullMatches_iff (letters_regular read)).mp matched
  obtain ⟨holds, least⟩ := accepts_again_one.mp accepts
  rw [List.append_nil] at same
  rw [← same] at holds least
  refine ⟨?_, fun c member => ?_⟩
  · rintro rfl
    cases least
  · have found := holds c member
    have either : c.toNat = 97 ∨ c.toNat = 98 := by
      simp [CharSet.holds, SetItem.holds, Fold.variants] at found
      omega
    obtain code | code := either <;> rw [Text.isBlank, code] <;> rfl

/-- A field that stands in front of a word may be left out. -/
theorem parse_eq_matchWords_optional :
    let b : GrammarBuilder := { fields := ⟨[⟨"n", "n", letters⟩]⟩ }
    b.flags = {} ∧ (∀ x ∈ [Fragment.field letters true, .plain "go"], x.ForWords) ∧
      ∃ g, (b.build (.text "\x7b\x7bn?\x7d\x7d go")).answer = .ok (.ok g) ∧
        (g.parse (.text " ab\tgo ")).answer = .ok (.ok (some [("n", some "ab")])) ∧
        (g.parse (.text "go")).answer = .ok (.ok (some [("n", none)])) := by
  intro b
  have words : ∀ x ∈ [Fragment.field letters true, .plain "go"], x.ForWords := by
    intro x member
    obtain rfl | member := List.mem_cons.mp member
    · exact letters_forWords
    · obtain rfl := List.mem_singleton.mp member
      exact ⟨by decide, by decide, by decide⟩
  obtain ⟨g, built⟩ : ∃ g, (b.build (.text "\x7b\x7bn?\x7d\x7d go")).answer = .ok (.ok g) :=
    exists_build (by decide +kernel)
  have found : b.fragments? (.text "\x7b\x7bn?\x7d\x7d go") =
      some [.field letters true, .plain "go"] := by decide +kernel
  have parses := parse_eq_matchWords b _ g _ rfl built found words
  have full : Fragment.matchWords [.field letters true, .plain "go"] (Text.words " ab\tgo ") =
      some [("n", some "ab")] := by decide +kernel
  have short : Fragment.matchWords [.field letters true, .plain "go"] (Text.words "go") =
      some [("n", none)] := by decide +kernel
  exact ⟨rfl, words, g, built, by rw [parses, full], by rw [parses, short]⟩

/-- A set that every character belongs to, taken as often as it can be, leaves nothing. -/
theorem moreRounds_everything {set : CharSet} (every : ∀ c, set.holds c) {n : Nat}
    {began : Option Nat} {st : MatchState} (room : st.cursor.ahead.length < n)
    (moved : began ≠ some st.cursor.position) :
    ∃ last, moreRounds (one set).run some n began st = some last ∧ last.cursor.ahead = [] := by
  induction n generalizing began st with
  | zero => cases room
  | succ n ih =>
    cases ahead : st.cursor.ahead with
    | nil =>
      have stuck : ∀ goal : Goal, (one set).run goal st = none := by
        intro goal
        simp only [run, runOne, ahead]
      exact ⟨st, by simp [moreRounds, moved, stuck], ahead⟩
    | cons c rest =>
      rw [ahead] at room
      let next : MatchState := ⟨⟨st.cursor.position + 1, c :: st.cursor.behind, rest⟩, st.spans⟩
      have passed : ∀ goal : Goal, (one set).run goal st = goal next := by
        intro goal
        simp only [run, runOne, ahead, every, if_true]
        rfl
      have smaller : next.cursor.ahead.length < n := Nat.lt_of_succ_lt_succ room
      have later : some st.cursor.position ≠ some next.cursor.position :=
        began_ne (List.cons_ne_nil c []) ⟨rfl, rfl, ahead⟩
      obtain ⟨last, found, ended⟩ := ih smaller later
      exact ⟨last, by simp [moreRounds, moved, passed, found], ended⟩

theorem ahead_everything {set : CharSet} (every : ∀ c, set.holds c) {st last : MatchState}
    (ran : (again 0 none .greedy (one set)).run some st = some last) : last.cursor.ahead = [] := by
  have first : none ≠ some st.cursor.position := nofun
  obtain ⟨found, reached, ended⟩ :=
    moreRounds_everything every (Nat.lt_succ_self st.cursor.ahead.length) first
  rw [run, rounds, roundsLeft, reached] at ran
  cases ran
  exact ended

/-- What may be left out possessively is taken for good if it can be. -/
theorem run_possessive (p rest : Pattern) (goal : Goal) (st : MatchState) :
    (seq (again 0 (some 1) .possessive p) rest).run goal st =
      rest.run goal ((p.run some st).getD st) := by
  have room : roundsLeft 0 (some 1) st = 1 := by simp [roundsLeft]
  simp only [run, settledRounds, Option.bind_some, room, allRounds, reduceCtorEq, if_false]
  cases p.run some st <;> rfl

/-- A field for one letter. With a blank behind the letter it goes to the end of the line, and is
not matched any more. -/
def hasty : Field := ⟨"n", "(?:a\\s[\\s\\S]*)?+a", false, 0⟩

def everything : CharSet := ⟨[.kind .blank false, .kind .blank true], false, .exact, false⟩

def letterA : CharSet := ⟨[.code 97], false, .exact, false⟩

theorem hasty_only (text : String) (matched : hasty.fullMatches text) : text = "a" := by
  let rush : Pattern := sequence [one letterA, one ⟨[.kind .blank false], false, .exact, false⟩,
    again 0 none .greedy (one everything)]
  let e : Expression :=
    ⟨hasty.pattern, sequence [again 0 (some 1) .possessive rush, one letterA], 0⟩
  have read : Expression.read {} hasty.pattern = .ok e := rfl
  have every : ∀ c, everything.holds c := by
    intro c
    cases blank : Text.isBlank c <;>
      simp [everything, CharSet.holds, SetItem.holds, CharKind.holds, blank]
  let start : MatchState := ⟨.start text.toList, []⟩
  -- Where the group is taken, the end of the line is reached.
  have rushed : ∀ next, rush.run some start = some next → next.cursor.ahead = [] := by
    intro next ran
    change (one letterA).run ((one _).run ((again 0 none .greedy (one everything)).run some))
      start = some next at ran
    obtain ⟨_, d, _, _, ran⟩ := exists_of_run (within_one _) ran
    obtain ⟨_, d', _, _, ran⟩ := exists_of_run (within_one _) ran
    exact ahead_everything every ran
  let goal : Goal := fun st => if st.cursor.ahead.isEmpty then some st else none
  have left : ∀ next, ((one letterA).run goal next).isSome → next.cursor.ahead = ['a'] := by
    intro next found
    obtain ⟨last, ran⟩ := Option.isSome_iff_exists.mp found
    obtain ⟨w, d, ⟨c, holds, rfl⟩, passes, ended⟩ := exists_of_run (within_one _) ran
    obtain rfl : c = 'a' := character_holds.mp holds
    obtain ⟨empty, _⟩ := Option.ite_none_right_eq_some.mp ended
    rw [passes.ahead, List.isEmpty_iff.mp empty]
    rfl
  have pattern : e.pattern = seq (again 0 (some 1) .possessive rush) (seq (one letterA) empty) :=
    rfl
  rw [Field.fullMatches_eq read, Expression.fullMatches, pattern, run_possessive] at matched
  have reached := left _ matched
  cases ran : rush.run some start with
  | some next =>
    change ((rush.run some start).getD start).cursor.ahead = ['a'] at reached
    rw [ran, Option.getD_some, rushed next ran] at reached
    cases reached
  | none =>
    change ((rush.run some start).getD start).cursor.ahead = ['a'] at reached
    rw [ran] at reached
    exact String.toList_inj.mp reached

/-- A literal of two words is matched, though no word is equal to it; a field whose pattern does not
give back what it took is not matched, though its pattern matches the word. -/
theorem not_parse_eq_matchWords :
    (let b : GrammarBuilder := { fields := ⟨[⟨"n", "n", letters⟩]⟩ }
      let t : Template := .pieces [.literal "a b", .reference "n" false ""]
      let xs : List Fragment := [.plain "a b", .field letters false]
      letters.ForWords ∧ Plain "a b".toList ∧ b.fragments? t = some xs ∧
        Fragment.matchWords xs (Text.words "a b ab") = none ∧
        ∃ g, (b.build t).answer = .ok (.ok g) ∧
          (g.parse (.text "a b ab")).answer = .ok (.ok (some [("n", some "ab")]))) ∧
    (let b : GrammarBuilder := { fields := ⟨[⟨"n", "n", hasty⟩]⟩ }
      let t : Template := .text (Grammar.reference "n" ++ " c")
      let xs : List Fragment := [.field hasty false, .plain "c"]
      (∀ x ∈ lexemes false hasty.pattern.toList, ∀ c ∈ x.token.construct?,
          c = .again .greedy ∨ c = .again .lazy ∨ c = .again .possessive) ∧
        (∀ text, hasty.fullMatches text → text ≠ "" ∧ Text.Solid text.toList) ∧
        hasty.embedded = 0 ∧ PlainWord "c" ∧ b.fragments? t = some xs ∧
        Fragment.matchWords xs (Text.words "a c") = some [("n", some "a")] ∧
        ∃ g, (b.build t).answer = .ok (.ok g) ∧
          (g.parse (.text "a c")).answer = .ok (.ok none)) := by
  constructor
  · intro b t xs
    obtain ⟨g, built, read⟩ : ∃ g, (b.build t).answer = .ok (.ok g) ∧
        g.read "a b ab" = .ok (.fields [("n", some "ab")]) := exists_read (by decide +kernel)
    exact ⟨letters_forWords, by decide, by decide +kernel, by decide +kernel, g, built,
      Grammar.parse_of_fields read⟩
  · intro b t xs
    obtain ⟨g, built, read⟩ : ∃ g, (b.build t).answer = .ok (.ok g) ∧
        g.read "a c" = .ok .noMatch := exists_read (by decide +kernel)
    refine ⟨by decide +kernel, fun text matched => ?_, rfl, ⟨by decide, by decide, by decide⟩,
      by decide +kernel, by decide +kernel, g, built, Grammar.parse_of_noMatch read⟩
    rw [hasty_only text matched]
    decide

end GrammarBuilder

end LineCommand
