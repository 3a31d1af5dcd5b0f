import LineCommand.Number.Decimal
import LineCommand.Proofs.Number.Rounding
import LineCommand.Proofs.Text.Words

/-! The grammar of numbers in canonical form, and what its texts denote. The readers agree with it: they
read its texts, and no others. -/
namespace LineCommand

/-- An optional sign. -/
inductive SignText : List Char → Bool → Prop
  | none : SignText [] false
  | plus : SignText ['+'] false
  | minus : SignText ['-'] true

/-- A text of digits alone. It may have none. -/
def Digits (cs : List Char) : Prop := ∀ c ∈ cs, isAsciiDigit c = true

/-- An optional sign and one digit at least, with the integer that they denote in base ten. -/
inductive IntegerText : List Char → Int → Prop
  | intro {sign ds : List Char} {negative : Bool} (signed : SignText sign negative)
    (digits : Digits ds) (some : ds ≠ []) : IntegerText (sign ++ ds)
      (if negative then -(Nat.ofDigitChars 10 ds 0 : Int) else Nat.ofDigitChars 10 ds 0)

/-- Digits with a point or without, of which there is one at least, with all digits in a row and the
number of those behind the point. -/
inductive MantissaText : List Char → List Char → Nat → Prop
  | whole {ds : List Char} (digits : Digits ds) (some : ds ≠ []) : MantissaText ds ds 0
  | point {ds fs : List Char} (digits : Digits ds) (fraction : Digits fs) (some : ds ++ fs ≠ []) :
    MantissaText (ds ++ '.' :: fs) (ds ++ fs) fs.length

/-- An optional power of ten. -/
inductive ExponentText : List Char → Int → Prop
  | none : ExponentText [] 0
  | power {mark : Char} {cs : List Char} {n : Int} (marked : mark = 'e' ∨ mark = 'E')
    (exponent : IntegerText cs n) : ExponentText (mark :: cs) n

/-- An optional sign, digits and an optional power of ten, with the parts that they give. -/
inductive DecimalText : List Char → DecimalParts → Prop
  | intro {sign ms ds es : List Char} {negative : Bool} {places : Nat} {n : Int}
    (signed : SignText sign negative) (mantissa : MantissaText ms ds places)
    (exponent : ExponentText es n) :
    DecimalText (sign ++ (ms ++ es)) ⟨negative, ds, n - places⟩

def DecimalParts.magnitude (p : DecimalParts) : ℚ := Nat.ofDigitChars 10 p.digits 0 * 10 ^ p.exponent

variable {c : Char} {cs ds es ms rest sign : List Char} {negative : Bool} {places : Nat} {n : Int}
  {p : DecimalParts}

/-! ### Digits and signs -/

theorem isAsciiDigit_iff : isAsciiDigit c = true ↔ 48 ≤ c.toNat ∧ c.toNat ≤ 57 := by
  rw [isAsciiDigit, Bool.and_eq_true, decide_eq_true_iff, decide_eq_true_iff]
  exact Iff.rfl

theorem baseDigit?_of_isAsciiDigit (digit : isAsciiDigit c = true) :
    baseDigit? c = some (c.toNat - 48) := if_pos (by simpa [isAsciiDigit] using digit)

theorem natIn_eq (digits : Digits ds) : natIn 10 ds = Nat.ofDigitChars 10 ds 0 := by
  have read (before : Nat) : ds.foldl (fun total c => total.bind fun n => (baseDigit? c).bind fun d =>
      if d < 10 then some (10 * n + d) else none) (some before) =
        some (Nat.ofDigitChars 10 ds before) := by
    induction ds generalizing before with
    | nil => simp
    | cons c ds ih =>
      obtain ⟨first, others⟩ := List.forall_mem_cons.mp digits
      have bounds := isAsciiDigit_iff.mp first
      rw [List.foldl_cons, Option.bind_some, baseDigit?_of_isAsciiDigit first, Option.bind_some,
        if_pos (by omega), ih others, Nat.ofDigitChars_cons]
      rfl
  rw [natIn, digitsIn?, read, Option.getD_some]

/-- A text that no sign starts. -/
def Unsigned (cs : List Char) : Prop := ∀ c ∈ cs.head?, c ≠ '+' ∧ c ≠ '-'

theorem takeSign_append (signed : SignText sign negative) (unsigned : Unsigned rest) :
    takeSign (sign ++ rest) = (negative, rest) := by
  cases signed with
  | plus | minus => rfl
  | none =>
    rw [List.nil_append, takeSign]
    · rintro _ rfl
      exact (unsigned _ rfl).2 rfl
    · rintro _ rfl
      exact (unsigned _ rfl).1 rfl

theorem exists_signText (cs : List Char) :
    ∃ sign, SignText sign (takeSign cs).1 ∧ sign ++ (takeSign cs).2 = cs := by
  unfold takeSign
  split
  · exact ⟨_, .minus, rfl⟩
  · exact ⟨_, .plus, rfl⟩
  · exact ⟨_, .none, rfl⟩

theorem Digits.unsigned (digits : Digits ds) : Unsigned ds := by
  intro c first
  have digit := digits c (List.mem_of_head? first)
  constructor <;> (rintro rfl; cases digit)

/-! ### Integers -/

theorem canonicalInt?_eq_some_iff : canonicalInt? cs = some n ↔ IntegerText cs n := by
  constructor
  · intro read
    unfold canonicalInt? at read
    dsimp only at read
    split at read
    case isTrue => cases read
    case isFalse filled =>
      obtain ⟨sign, signed, whole⟩ := exists_signText cs
      obtain ⟨some, digits⟩ : (takeSign cs).2 ≠ [] ∧ Digits (takeSign cs).2 := by
        simpa [Digits] using filled
      rw [natIn_eq digits] at read
      obtain rfl := Option.some.inj read
      have text := IntegerText.intro signed digits some
      rwa [whole] at text
  · rintro @⟨sign, ds, negative, signed, digits, some⟩
    have filled : ¬ (ds.isEmpty || !ds.all isAsciiDigit) = true := by
      simpa [some, Digits] using digits
    rw [canonicalInt?, takeSign_append signed digits.unsigned]
    dsimp only
    rw [if_neg filled, natIn_eq digits]

theorem not_integerText_iff : (∀ n, ¬ IntegerText cs n) ↔ canonicalInt? cs = none := by
  simp only [Option.eq_none_iff_forall_ne_some, ne_eq, canonicalInt?_eq_some_iff]

theorem IntegerText.eq {m : Int} (integer : IntegerText cs n) (integer' : IntegerText cs m) : n = m :=
  Option.some.inj
    ((canonicalInt?_eq_some_iff.mpr integer).symm.trans (canonicalInt?_eq_some_iff.mpr integer'))

theorem digits_toDigits (m : Nat) : Digits (Nat.toDigits 10 m) := fun _ =>
  Nat.isDigit_of_mem_toDigits (by decide) (by decide)

/-- The text of an integer has a sign if it is negative, and no zeros in front of its digits. -/
theorem exists_toString_eq (n : Int) : ∃ sign negative, SignText sign negative ∧
    (toString n).toList = sign ++ Nat.toDigits 10 n.natAbs ∧
    (if negative then -(n.natAbs : Int) else n.natAbs) = n := by
  rw [Int.toString_eq_repr]
  cases n with
  | ofNat m => exact ⟨_, _, .none, Nat.toList_repr, rfl⟩
  | negSucc m =>
    refine ⟨_, _, .minus, ?_, rfl⟩
    rw [Int.repr, String.toList_append, Nat.toList_repr]
    rfl

theorem integerText_toString (n : Int) : IntegerText (toString n).toList n := by
  obtain ⟨sign, negative, signed, written, whole⟩ := exists_toString_eq n
  have text := IntegerText.intro signed (digits_toDigits n.natAbs) Nat.toDigits_ne_nil
  rwa [Nat.ofDigitChars_ten_toDigits, whole, ← written] at text

theorem takeSign_toString (n : Int) : (takeSign (toString n).toList).2 = Nat.toDigits 10 n.natAbs := by
  obtain ⟨sign, negative, signed, written, _⟩ := exists_toString_eq n
  rw [written, takeSign_append signed (digits_toDigits _).unsigned]

theorem DecimalParts.exponent?_eq_some_iff : DecimalParts.exponent? cs = some n ↔ ExponentText cs n := by
  cases cs with
  | nil =>
    constructor
    · rintro ⟨⟩
      exact .none
    · rintro ⟨⟩
      rfl
  | cons mark cs =>
    have same : DecimalParts.exponent? (mark :: cs) =
      if mark = 'e' ∨ mark = 'E' then canonicalInt? cs else none := rfl
    rw [same]
    split
    case isTrue marked =>
      rw [canonicalInt?_eq_some_iff]
      constructor
      · exact .power marked
      · rintro (_ | ⟨_, exponent⟩)
        exact exponent
    case isFalse unmarked =>
      refine iff_of_false nofun ?_
      rintro (_ | ⟨marked, _⟩)
      exact unmarked marked

/-! ### Decimals -/

theorem MantissaText.digits (mantissa : MantissaText ms ds places) : Digits ds := by
  cases mantissa with
  | whole digits some => exact digits
  | point digits fraction some => exact List.forall_mem_append.mpr ⟨digits, fraction⟩

theorem DecimalText.digits (decimal : DecimalText cs p) : Digits p.digits := by
  obtain ⟨_, mantissa, _⟩ := decimal
  exact mantissa.digits

/-- What follows the digits of a number begins with no digit, and with no point. -/
theorem ExponentText.stops (exponent : ExponentText es n) :
    ∀ c ∈ es.head?, isAsciiDigit c = false ∧ c ≠ '.' := by
  cases exponent with
  | none => nofun
  | power marked =>
    rintro _ ⟨⟩
    obtain rfl | rfl := marked <;> decide

theorem MantissaText.unsigned (mantissa : MantissaText ms ds places) (es : List Char) :
    Unsigned (ms ++ es) := by
  cases mantissa with
  | whole digits some =>
    obtain ⟨d, ds, rfl⟩ := List.exists_cons_of_ne_nil some
    exact digits.unsigned
  | point digits fraction some =>
    rename_i ds fs
    cases ds with
    | nil =>
      rintro _ ⟨⟩
      decide
    | cons d ds => exact digits.unsigned

/-- What the reader makes of the digits around the point and the rest. -/
theorem DecimalParts.assemble_eq_some_iff {fs : List Char} :
    (if (ds.isEmpty && fs.isEmpty) = true then none
      else (DecimalParts.exponent? es).map fun e => ⟨negative, ds ++ fs, e - fs.length⟩) = some p ↔
      ds ++ fs ≠ [] ∧ ∃ e, ExponentText es e ∧ ⟨negative, ds ++ fs, e - fs.length⟩ = p := by
  have filled : (ds.isEmpty && fs.isEmpty) = true ↔ ds ++ fs = [] := by simp
  split
  case isTrue none => exact iff_of_false nofun fun parts => parts.1 (filled.mp none)
  case isFalse some =>
    simp only [Option.map_eq_some_iff, DecimalParts.exponent?_eq_some_iff]
    exact (and_iff_right (mt filled.mpr some)).symm

theorem DecimalText.ofText? (decimal : DecimalText cs p) : DecimalParts.ofText? cs = some p := by
  obtain @⟨sign, ms, ds, es, negative, places, n, signed, mantissa, exponent⟩ := decimal
  have stops : ∀ c ∈ es.head?, isAsciiDigit c = false := fun c first => (exponent.stops c first).1
  rw [DecimalParts.ofText?, takeSign_append signed (mantissa.unsigned es)]
  cases mantissa with
  | whole digits some =>
    obtain ⟨front, behind⟩ := Text.span_front digits stops
    dsimp only
    rw [front, behind]
    split
    case h_1 => exact absurd rfl (exponent.stops '.' rfl).2
    case h_2 =>
      have parts : (⟨negative, ms ++ [], n - ([] : List Char).length⟩ : DecimalParts) =
        ⟨negative, ms, n - (0 : Nat)⟩ := by rw [List.append_nil, List.length_nil]
      exact DecimalParts.assemble_eq_some_iff.mpr ⟨by rwa [List.append_nil], n, exponent, parts⟩
  | @point ds fs digits fraction some =>
    have point : ∀ c ∈ ('.' :: (fs ++ es)).head?, isAsciiDigit c = false := by
      rintro _ ⟨⟩
      rfl
    obtain ⟨front, behind⟩ := Text.span_front digits point
    obtain ⟨front', behind'⟩ := Text.span_front fraction stops
    rw [List.append_assoc, List.cons_append]
    simp only [front, behind, front', behind']
    exact DecimalParts.assemble_eq_some_iff.mpr ⟨some, n, exponent, rfl⟩

theorem decimalText_of_ofText? (read : DecimalParts.ofText? cs = some p) : DecimalText cs p := by
  obtain ⟨sign, signed, whole⟩ := exists_signText cs
  unfold DecimalParts.ofText? at read
  dsimp only at read
  generalize (takeSign cs).2 = unsigned at whole read
  have digits (text : List Char) : Digits (text.takeWhile isAsciiDigit) := fun _ =>
    List.mem_takeWhile_imp
  split at read
  case h_1 more point =>
    obtain ⟨some, n, exponent, rfl⟩ := DecimalParts.assemble_eq_some_iff.mp read
    have text := DecimalText.intro signed (.point (digits unsigned) (digits more) some) exponent
    rwa [List.append_assoc, List.cons_append, List.takeWhile_append_dropWhile, ← point,
      List.takeWhile_append_dropWhile, whole] at text
  case h_2 =>
    obtain ⟨some, n, exponent, rfl⟩ := DecimalParts.assemble_eq_some_iff.mp read
    rw [List.append_nil] at some ⊢
    have text := DecimalText.intro signed (.whole (digits unsigned) some) exponent
    rwa [List.takeWhile_append_dropWhile, whole] at text

theorem DecimalParts.ofText?_eq_some_iff : DecimalParts.ofText? cs = some p ↔ DecimalText cs p :=
  ⟨decimalText_of_ofText?, DecimalText.ofText?⟩

theorem DecimalText.eq {q : DecimalParts} (decimal : DecimalText cs p) (decimal' : DecimalText cs q) :
    p = q := Option.some.inj (decimal.ofText?.symm.trans decimal'.ofText?)

/-- The number that is read is the nearest one to what the text denotes. -/
theorem DecimalText.rounds (decimal : DecimalText cs p) :
    Double.Rounds p.negative p.magnitude p.toDouble := by
  rw [DecimalParts.toDouble, DecimalParts.magnitude, natIn_eq decimal.digits]
  exact Double.rounds_ofDecimal ..

end LineCommand
