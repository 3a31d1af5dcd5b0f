import LineCommand.Proofs.Conversion.Settling
import LineCommand.Proofs.Number.Decimal
import LineCommand.Proofs.Text.Words

/-! Texts that are converted to numbers: what the grammar has a number for is that number, and all other
texts are refused. -/
namespace LineCommand

/-- A text with a fraction or an exponent whose number is in the range of double precision, and the number
that it comes to there. -/
inductive FloatText (cs : List Char) (x : Double) : Prop
  | intro {p : DecimalParts} (fractional : ∀ n, ¬ IntegerText cs n) (decimal : DecimalText cs p)
    (finite : p.magnitude < 2 ^ 1024 - 2 ^ 970) (rounds : Double.Rounds p.negative p.magnitude x)

variable {cs : List Char} {s : String} {n : Int} {x y : Double}

theorem FloatText.eq (float : FloatText cs x) (float' : FloatText cs y) : x = y := by
  obtain ⟨_, decimal, _, rounds⟩ := float
  obtain ⟨_, decimal', _, rounds'⟩ := float'
  obtain rfl := decimal.eq decimal'
  exact rounds.eq rounds'

theorem FloatText.fractional (float : FloatText cs x) : ∀ n, ¬ IntegerText cs n := by
  obtain ⟨fractional, _, _, _⟩ := float
  exact fractional

theorem floatText_iff (fractional : ∀ n, ¬ IntegerText cs n) : FloatText cs x ↔
    ((DecimalParts.ofText? cs).map DecimalParts.toDouble).filter Double.isFinite = some x := by
  simp only [Option.filter_eq_some_iff, Option.map_eq_some_iff, DecimalParts.ofText?_eq_some_iff]
  constructor
  · rintro ⟨_, decimal, finite, rounds⟩
    obtain rfl := decimal.rounds.eq rounds
    exact ⟨⟨_, decimal, rfl⟩, decimal.rounds.isFinite_iff.mpr finite⟩
  · rintro ⟨⟨p, decimal, rfl⟩, finite⟩
    exact ⟨fractional, decimal, decimal.rounds.isFinite_iff.mp finite, decimal.rounds⟩

namespace Converter

/-- What becomes of a text that is to be a number. -/
structure NumberOutcome (s : String) (outcome : Outcome Value) : Prop where
  int : ∀ n, outcome = .ok (.int n) ↔ IntegerText (Text.trim s.toList) n
  float : ∀ x, outcome = .ok (.float x) ↔ FloatText (Text.trim s.toList) x
  refused : (∃ shown, (Value.text s).describe = .ok shown ∧
      outcome = fail .conversion ("Not a number: " ++ shown)) ↔
    (∀ n, ¬ IntegerText (Text.trim s.toList) n) ∧ ∀ x, ¬ FloatText (Text.trim s.toList) x

theorem numberOutcome_int (integer : IntegerText (Text.trim s.toList) n) :
    NumberOutcome s (.ok (.int n)) := by
  constructor
  case int =>
    intro m
    constructor
    · rintro ⟨⟩
      exact integer
    · exact fun other => by rw [integer.eq other]
  case float => exact fun x => iff_of_false nofun fun float => float.fractional n integer
  case refused => exact iff_of_false nofun fun none => none.1 n integer

theorem numberOutcome_float (float : FloatText (Text.trim s.toList) x) :
    NumberOutcome s (.ok (.float x)) := by
  constructor
  case int => exact fun n => iff_of_false nofun (float.fractional n)
  case float =>
    intro y
    constructor
    · rintro ⟨⟩
      exact float
    · exact fun other => by rw [float.eq other]
  case refused => exact iff_of_false nofun fun none => none.2 x float

theorem numberOutcome_refused {shown : String} (described : (Value.text s).describe = .ok shown)
    (fractional : ∀ n, ¬ IntegerText (Text.trim s.toList) n)
    (outside : ∀ x, ¬ FloatText (Text.trim s.toList) x) :
    NumberOutcome s (fail .conversion ("Not a number: " ++ shown)) where
  int n := iff_of_false nofun (fractional n)
  float x := iff_of_false nofun (outside x)
  refused := iff_of_true ⟨shown, described, rfl⟩ ⟨fractional, outside⟩

theorem numberOf?_of_integerText (short : ¬ Overlong s)
    (integer : IntegerText (Text.trim s.toList) n) : numberOf? s.toList = .ok (some (.int n)) := by
  obtain ⟨found, read⟩ := exists_numberOf?_iff.mpr short
  unfold numberOf? at read ⊢
  dsimp only at read ⊢
  rw [canonicalInt?_eq_some_iff.mpr integer] at read ⊢
  dsimp only at read ⊢
  split
  case isTrue long =>
    rw [if_pos long] at read
    cases read
  case isFalse => rfl

theorem numberOf?_of_fractional (fractional : ∀ n, ¬ IntegerText (Text.trim s.toList) n) :
    numberOf? s.toList = .ok ((((DecimalParts.ofText? (Text.trim s.toList)).map
      DecimalParts.toDouble).filter Double.isFinite).map Value.float) := by
  unfold numberOf?
  dsimp only
  rw [not_integerText_iff.mp fractional]

theorem number_convert_of_some {v : Value} (read : numberOf? s.toList = .ok (some v)) :
    number.convert (.text s) = .ok (.ok v) := by
  unfold number
  dsimp only [Value.text?, Option.map_some, Option.getD_some]
  rw [read]
  rfl

theorem number_convert_of_none {shown : String} (read : numberOf? s.toList = .ok none)
    (described : (Value.text s).describe = .ok shown) :
    number.convert (.text s) = .ok (fail .conversion ("Not a number: " ++ shown)) := by
  unfold number
  dsimp only [Value.text?, Option.map_some, Option.getD_some]
  rw [read, reject, described]
  rfl

theorem exists_numberOutcome (short : ¬ Overlong s) :
    ∃ outcome, number.convert (.text s) = .ok outcome ∧ NumberOutcome s outcome := by
  by_cases whole : ∃ n, IntegerText (Text.trim s.toList) n
  · obtain ⟨n, integer⟩ := whole
    have read := numberOf?_of_integerText short integer
    exact ⟨_, number_convert_of_some read, numberOutcome_int integer⟩
  · have fractional : ∀ n, ¬ IntegerText (Text.trim s.toList) n := not_exists.mp whole
    have read := numberOf?_of_fractional fractional
    cases found : ((DecimalParts.ofText? (Text.trim s.toList)).map
      DecimalParts.toDouble).filter Double.isFinite with
    | some x =>
      rw [found] at read
      have float := (floatText_iff fractional).mpr found
      exact ⟨_, number_convert_of_some read, numberOutcome_float float⟩
    | none =>
      rw [found] at read
      obtain ⟨shown, described⟩ := @Value.exists_describe (.text s) rfl
      refine ⟨_, number_convert_of_none read described,
        numberOutcome_refused described fractional fun x float => ?_⟩
      cases ((floatText_iff fractional).mp float).symm.trans found

/-! ### Integers among blanks -/

theorem isBlank_of_isAsciiDigit {c : Char} (digit : isAsciiDigit c = true) :
    Text.isBlank c = false := by
  have apart : ∀ code < 58, 48 ≤ code → Text.blankRanges.holds code = false := by decide
  obtain ⟨low, high⟩ := isAsciiDigit_iff.mp digit
  exact apart c.toNat (Nat.lt_succ_of_le high) low

theorem solid_of_integerText (integer : IntegerText cs n) : Text.Solid cs := by
  obtain @⟨sign, ds, _, signed, digits, _⟩ := integer
  have front : Text.Solid sign := by cases signed <;> decide
  exact List.forall_mem_append.mpr
    ⟨front, fun c listed => isBlank_of_isAsciiDigit (digits c listed)⟩

theorem trim_padded {u v : List Char} (blanks : Text.Blanks u) (blanks' : Text.Blanks v)
    (integer : IntegerText cs n) : Text.trim (u ++ (cs ++ v)) = cs := by
  have some : cs ≠ [] := by
    obtain ⟨_, _, some⟩ := integer
    exact List.append_ne_nil_of_right_ne_nil _ some
  have none : Text.trimEnd v = [] := List.rdropWhile_eq_nil_iff.mpr blanks'
  rw [Text.trim_append blanks (solid_of_integerText integer) some, none, List.append_nil]

theorem not_overlong_of_trim (within : withinDigitLimit n = true)
    (written : Text.trim s.toList = (toString n).toList) : ¬ Overlong s := by
  rintro ⟨long, _⟩
  rw [written, takeSign_toString] at long
  rw [withinDigitLimit, decide_eq_true_iff] at within
  have positive : 0 < digitLimit := by decide
  -- The bound is a power that must not be computed.
  generalize digitLimit = limit at *
  exact Nat.not_lt.mpr ((Nat.length_toDigits_le_iff (by decide) positive).mpr within) long

/-- A text is converted to a number just if the grammar has one for it, and to that number. Integers that
are written are so converted to themselves, with blanks around them too. -/
theorem number_convert_text_iff : (∀ s, ¬ Overlong s →
      ∃ outcome, number.convert (.text s) = .ok outcome ∧ NumberOutcome s outcome) ∧
    ∀ n u v, withinDigitLimit n = true → Text.Blanks u → Text.Blanks v →
      number.convert (.text (String.ofList u ++ toString n ++ String.ofList v)) =
        .ok (.ok (.int n)) := by
  refine ⟨fun s => exists_numberOutcome, fun n u v within blanks blanks' => ?_⟩
  have integer := integerText_toString n
  have trimmed : Text.trim (String.ofList u ++ toString n ++ String.ofList v).toList =
      (toString n).toList := by
    rw [String.toList_append, String.toList_append, String.toList_ofList, String.toList_ofList,
      List.append_assoc]
    exact trim_padded blanks blanks' integer
  obtain ⟨outcome, converted, numbers⟩ := exists_numberOutcome (not_overlong_of_trim within trimmed)
  rw [← trimmed] at integer
  rw [converted, (numbers.int n).mpr integer]

theorem number_convert_text_iff_padded :
    number.convert (.text "\t-0042\u2003") = .ok (.ok (.int (-42))) ∧
      number.convert (.text ".5e1") = .ok (.ok (.float (.finite false (5 * Double.unitsPerOne)))) ∧
      number.convert (.text "1e400") = .ok (fail .conversion "Not a number: \"1e400\"") ∧
      number.convert (.text "\u00a0-7\n") = .ok (.ok (.int (-7))) := by
  obtain ⟨texts, integers⟩ := number_convert_text_iff
  have within : withinDigitLimit (-7) = true :=
    @withinDigitLimit_of_canonicalInt? ['-', '7'] (-7) rfl (by decide)
  refine ⟨?_, ?_, ?_, integers (-7) ['\u00a0'] ['\n'] within (by decide) (by decide)⟩
  · obtain ⟨outcome, converted, numbers⟩ := texts "\t-0042\u2003" fun long => absurd long.1 (by decide)
    rw [converted, (numbers.int (-42)).mpr (canonicalInt?_eq_some_iff.mp (by decide))]
  · obtain ⟨outcome, converted, numbers⟩ := texts ".5e1" fun long => absurd long.1 (by decide)
    have fractional := (@not_integerText_iff (Text.trim ".5e1".toList)).mpr rfl
    have five : FloatText (Text.trim ".5e1".toList) (.finite false (5 * Double.unitsPerOne)) :=
      (floatText_iff fractional).mpr (by decide +kernel)
    rw [converted, (numbers.float _).mpr five]
  · obtain ⟨outcome, converted, numbers⟩ := texts "1e400" fun long => absurd long.1 (by decide)
    have fractional := (@not_integerText_iff (Text.trim "1e400".toList)).mpr rfl
    have outside : ∀ x, ¬ FloatText (Text.trim "1e400".toList) x := by
      intro x float
      cases (floatText_iff fractional).mp float
    obtain ⟨shown, described, refused⟩ := numbers.refused.mpr ⟨fractional, outside⟩
    have quoted : "\"1e400\"" = shown := Except.ok.inj described
    rw [converted, refused, ← quoted]
    rfl

end Converter
end LineCommand
