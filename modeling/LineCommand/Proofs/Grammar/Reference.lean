import LineCommand.Proofs.Text.Words
import LineCommand.Template

/-! How references are written. A word of a template is read as a reference exactly if it is written as
one, and its name and its mark are then found in one way only. One line feed behind the closing braces
goes unnoticed, which the words of a text cannot have but pieces of a template can. -/
namespace LineCommand.TemplateToken
open Text

/-- A name that a reference can hold. -/
structure Referable (name : List Char) : Prop where
  filled : name ≠ []
  plain : ∀ c ∈ name, c ∉ ['{', '}', '?'] ∧ isBlank c = false

def mark (optional : Bool) : List Char := if optional then ['?'] else []

/-- How a reference is written: a name between doubled braces, which blanks may stand around, and
blanks around the mark behind it. -/
inductive ReferenceText (name : List Char) (optional : Bool) : List Char → Prop
  | intro {front gap back : List Char} (named : Referable name) (before : Blanks front)
      (between : Blanks gap) (behind : Blanks back) :
      ReferenceText name optional
        ('{' :: '{' :: (front ++ (name ++ (gap ++ (mark optional ++ (back ++ ['}', '}']))))))

variable {name name' front gap back text after rest tail : List Char} {optional optional' : Bool}

theorem endsName_eq_false_iff {c : Char} :
    endsName c = false ↔ c ∉ ['{', '}', '?'] ∧ isBlank c = false := by
  simp [endsName, and_assoc]

/-- Whether there is a mark, and what is behind it, or behind the name if there is none. -/
def pastMark : List Char → Bool × List Char
  | '?' :: more => (true, trimStart more)
  | after => (false, after)

/-- A reference is closed at its end, or before a line feed at its end. -/
def Closing (rest : List Char) : Prop := rest = ['}', '}'] ∨ rest = ['}', '}', '\n']

instance (rest : List Char) : Decidable (Closing rest) := inferInstanceAs (Decidable (_ ∨ _))

/-- The name goes to the first character that ends it. -/
theorem readReference_eq (before : Blanks front) (clear : Clear (name ++ (gap ++ rest)))
    (inside : ∀ c ∈ name, endsName c = false) (stops : ∀ c ∈ (gap ++ rest).head?, endsName c = true)
    (between : Blanks gap) (clear' : Clear rest) :
    readReference ('{' :: '{' :: (front ++ (name ++ (gap ++ rest)))) =
      if name ≠ [] ∧ Closing (pastMark rest).2 then some (name, (pastMark rest).1) else none := by
  have named : ∀ c ∈ name, (!endsName c) = true := by simpa using inside
  have ended : ∀ c ∈ (gap ++ rest).head?, (!endsName c) = false := by simpa using stops
  obtain ⟨taken, left⟩ := span_front named ended
  simp only [readReference, trimStart_blanks before clear, taken, left, trimStart_blanks between clear']
  cases name with
  | nil => simp
  | cons c name =>
    simp only [List.isEmpty_cons, Bool.false_eq_true, if_false, Closing, ne_eq, reduceCtorEq,
      not_false_eq_true, true_and]
    cases rest with
    | nil => rfl
    | cons d more =>
      by_cases marked : d = '?'
      · subst marked
        rfl
      · simp [pastMark, marked]

/-- What is behind a name begins with a mark or it does not, and the mark may have blanks behind it. -/
theorem exists_pastMark (rest : List Char) :
    ∃ back, Blanks back ∧ rest = mark (pastMark rest).1 ++ (back ++ (pastMark rest).2) := by
  unfold pastMark
  split
  case h_1 more =>
    refine ⟨more.takeWhile isBlank, List.all_eq_true.mp List.all_takeWhile, ?_⟩
    simp only [mark, if_true, trimStart, List.takeWhile_append_dropWhile]
    rfl
  case h_2 =>
    exact ⟨[], List.forall_mem_nil _, rfl⟩

/-- A mark is found behind the blanks behind the name; without one, these go to the braces. -/
theorem pastMark_mark (optional : Bool) (behind : Blanks back) (clear : Clear tail)
    (unmarked : tail.head? ≠ some '?') :
    ∃ gap rest, Blanks gap ∧ Clear rest ∧ pastMark rest = (optional, tail) ∧
      gap ++ rest = mark optional ++ (back ++ tail) := by
  cases optional with
  | true =>
    refine ⟨[], '?' :: (back ++ tail), List.forall_mem_nil _, ?_, ?_, rfl⟩
    · rintro c ⟨⟩
      rfl
    · rw [pastMark, trimStart_blanks behind clear]
  | false =>
    refine ⟨back, tail, behind, clear, ?_, rfl⟩
    unfold pastMark
    split
    · exact absurd rfl unmarked
    · rfl

def Stops (cs : List Char) : Prop := ∀ c ∈ cs.head?, endsName c = true

theorem Stops.append (stops : Stops rest) (blanks : Blanks gap) : Stops (gap ++ rest) := by
  cases gap with
  | nil => exact stops
  | cons b gap =>
    rintro c ⟨⟩
    simp [endsName, blanks b List.mem_cons_self]

theorem stops_mark (behind : Blanks back) (stops : Stops tail) :
    Stops (mark optional ++ (back ++ tail)) := by
  cases optional with
  | true =>
    rintro c ⟨⟩
    rfl
  | false => exact stops.append behind

/-- What is written as a reference is read as one, with a line feed behind it or without. -/
theorem ReferenceText.reads (written : ReferenceText name optional text)
    (feed : tail = [] ∨ tail = ['\n']) : readReference (text ++ tail) = some (name, optional) := by
  cases written with
  | @intro front gap back named before between behind =>
  have closing : Closing ('}' :: '}' :: tail) := by
    rcases feed with rfl | rfl
    · exact .inl rfl
    · exact .inr rfl
  have ended : Stops ('}' :: '}' :: tail) := by
    rintro c ⟨⟩
    rfl
  have closed : Clear ('}' :: '}' :: tail) := by
    rintro c ⟨⟩
    rfl
  obtain ⟨gap', rest, between', clear, marked, same⟩ :=
    pastMark_mark optional behind closed (by simp)
  have gaps : Blanks (gap ++ gap') := List.forall_mem_append.mpr ⟨between, between'⟩
  have stops : Stops (gap ++ gap' ++ rest) := by
    rw [List.append_assoc, same]
    exact (stops_mark behind ended).append between
  have starts : Clear (name ++ (gap ++ gap' ++ rest)) := by
    apply Clear.append _ named.filled
    exact fun c first => (named.plain c (List.mem_of_head? first)).2
  have inside : ∀ c ∈ name, endsName c = false := fun c member =>
    endsName_eq_false_iff.mpr (named.plain c member)
  have read := readReference_eq before starts inside stops gaps clear
  rw [if_pos ⟨named.filled, by rwa [marked]⟩, marked] at read
  rw [← read]
  simp [same]

/-- What is read as a reference is written as one, but for a line feed behind it. -/
theorem exists_referenceText (read : readReference text = some (name, optional)) :
    ∃ front tail, ReferenceText name optional front ∧ (tail = [] ∨ tail = ['\n']) ∧
      text = front ++ tail := by
  obtain ⟨rest, rfl⟩ : ∃ rest, text = '{' :: '{' :: rest := by
    unfold readReference at read
    split at read
    · exact ⟨_, rfl⟩
    · cases read
  obtain ⟨front, inner, rfl, before, clear⟩ := exists_blanks rest
  obtain ⟨word, after, rfl, inside, stops⟩ := exists_front (!endsName ·) inner
  obtain ⟨gap, rest, rfl, between, clear'⟩ := exists_blanks after
  simp only [Bool.not_eq_true', Bool.not_eq_false'] at inside stops
  rw [readReference_eq before clear inside stops between clear',
    Option.ite_none_right_eq_some] at read
  obtain ⟨⟨filled, closing⟩, same⟩ := read
  cases same
  obtain ⟨back, behind, parts⟩ := exists_pastMark rest
  have named : Referable name := ⟨filled, fun c member =>
    endsName_eq_false_iff.mp (inside c member)⟩
  have written : ReferenceText name (pastMark rest).1 _ := .intro named before between behind
  rcases closing with closes | closes
  · refine ⟨_, [], written, .inl rfl, ?_⟩
    simp [← closes, ← parts]
  · refine ⟨_, ['\n'], written, .inr rfl, ?_⟩
    have feed : ['}', '}'] ++ ['\n'] = (pastMark rest).2 := closes.symm
    simp only [List.cons_append, List.append_assoc, feed, ← parts]

/-! ### Words -/

/-- The text is a reference, or a reference with a line feed behind it. -/
def Refers (name : List Char) (optional : Bool) (text : List Char) : Prop :=
  ∃ front, ReferenceText name optional front ∧ (text = front ∨ text = front ++ ['\n'])

theorem readReference_eq_some_iff :
    readReference text = some (name, optional) ↔ Refers name optional text := by
  constructor
  · intro read
    obtain ⟨front, tail, written, feed, rfl⟩ := exists_referenceText read
    rcases feed with rfl | rfl
    · exact ⟨front, written, .inl (List.append_nil front)⟩
    · exact ⟨front, written, .inr rfl⟩
  · rintro ⟨front, written, rfl | rfl⟩
    · simpa using written.reads (.inl rfl)
    · exact written.reads (.inr rfl)

theorem ReferenceText.not_feed {front : List Char} (written : ReferenceText name optional text) :
    text ≠ front ++ ['\n'] := by
  have last : text.getLast? = some '}' := by
    rw [List.getLast?_eq_some_iff]
    cases written with
    | @intro front gap back =>
    exact ⟨'{' :: '{' :: (front ++ (name ++ (gap ++ (mark optional ++ (back ++ ['}']))))), by simp⟩
  rintro rfl
  simp at last

variable {word raw label : String}

theorem ofWord_eq_reference_iff : ofWord word = .reference label optional raw ↔
    Refers label.toList optional word.toList ∧ raw = word := by
  rw [← readReference_eq_some_iff, ofWord]
  cases read : readReference word.toList with
  | none => simp
  | some found =>
    simp only [reference.injEq, Option.some.injEq, Prod.ext_iff, ← String.toList_inj,
      String.toList_ofList]
    tauto

theorem ofWord_eq_literal_iff : ofWord word = .literal raw ↔
    (∀ name optional, ¬ Refers name optional word.toList) ∧ raw = word := by
  simp only [← readReference_eq_some_iff, ofWord]
  cases read : readReference word.toList with
  | none => simp [eq_comm]
  | some found =>
    simp only [reduceCtorEq, false_iff, not_and]
    intro unread
    exact absurd rfl (unread found.1 found.2)

/-- A word is a reference if it is written as one, with the name and the mark that stand there, and
any other word is a literal. -/
structure ReadsExactly (word : String) : Prop where
  reference : ∀ name optional raw, ofWord word = .reference name optional raw ↔
    ReferenceText name.toList optional word.toList ∧ raw = word
  literal : ∀ raw, ofWord word = .literal raw ↔
    (∀ name optional, ¬ ReferenceText name optional word.toList) ∧ raw = word

theorem refers_iff {cs : List Char}
    (unbroken : ∀ front name optional, ReferenceText name optional front → cs ≠ front ++ ['\n']) :
    Refers name optional cs ↔ ReferenceText name optional cs := by
  constructor
  · rintro ⟨front, written, rfl | feed⟩
    · exact written
    · exact absurd feed (unbroken front name optional written)
  · intro written
    exact ⟨cs, written, .inl rfl⟩

theorem readsExactly_iff : ReadsExactly word ↔ ∀ front name optional,
    ReferenceText name optional front → word.toList ≠ front ++ ['\n'] := by
  constructor
  · intro exact front name optional written feed
    have read : ofWord word = .reference (String.ofList name) optional word := by
      rw [ofWord_eq_reference_iff, String.toList_ofList]
      exact ⟨⟨front, written, .inr feed⟩, rfl⟩
    exact ((exact.reference _ _ _).mp read).1.not_feed feed
  · intro unbroken
    constructor
    · intro name optional raw
      rw [ofWord_eq_reference_iff, refers_iff unbroken]
    · intro raw
      simp only [ofWord_eq_literal_iff, refers_iff unbroken]

/-- Blanks end a word, so that no line feed stands behind a reference in a text. -/
theorem readsExactly_of_mem_words {s : String} (member : word ∈ Text.words s) :
    ReadsExactly word := by
  obtain ⟨w, listed, rfl⟩ := List.mem_map.mp member
  rw [readsExactly_iff, String.toList_ofList]
  rintro front name optional _ rfl
  have solid : Solid (front ++ ['\n']) := solid_of_mem_wordsFrom (List.forall_mem_nil _) listed
  have blank := solid '\n' (by simp)
  cases blank

/-- A word is read as a reference exactly if it is written as one or a line feed alone is behind what
is, and its name and its mark are then those that stand there. It is read as it should be unless there
is such a line feed, which no word of a text has. -/
theorem readsExactly_iff_unbroken (word : String) :
    (∀ name optional raw, ofWord word = .reference name optional raw ↔
      Refers name.toList optional word.toList ∧ raw = word) ∧
    (∀ raw, ofWord word = .literal raw ↔
      (∀ name optional, ¬ Refers name optional word.toList) ∧ raw = word) ∧
    (ReadsExactly word ↔ ∀ front name optional, ReferenceText name optional front →
      word.toList ≠ front ++ ['\n']) ∧
    ∀ s, word ∈ Text.words s → ReadsExactly word :=
  ⟨fun _ _ _ => ofWord_eq_reference_iff, fun _ => ofWord_eq_literal_iff, readsExactly_iff,
    fun _ => readsExactly_of_mem_words⟩

/-- A reference with a line feed behind it is read as a reference. -/
theorem not_readsExactly_feed :
    let word := "\x7b\x7ba\x7d\x7d\n"
    ofWord word = .reference "a" false word ∧ ¬ ReadsExactly word := by
  intro word
  refine ⟨by decide +kernel, ?_⟩
  rw [readsExactly_iff]
  intro unbroken
  have named : Referable ['a'] := ⟨List.cons_ne_nil _ _, List.forall_mem_singleton.mpr (by decide)⟩
  have none : Blanks [] := List.forall_mem_nil _
  have written : ReferenceText ['a'] false _ := .intro named none none none
  exact unbroken _ _ _ written (by decide)

end LineCommand.TemplateToken
