import LineCommand.Text.Quoted

/-! What can be wrong with the text of a pattern, and how that is worded. -/
namespace LineCommand

inductive Complaint
  | endsInEscape
  | badEscape (text : String)
  | incompleteEscape (text : String)
  | octalTooLarge (text : String)
  | noBrace
  | undefinedCharacter (name : String)
  | missing (what : String)
  | unterminatedName (terminator : String)
  | badGroupName (name : String)
  | unknownGroupName (name : String)
  | redefinedGroup (name : String) (index former : Nat)
  | openGroup
  | groupOfSameLookBehind
  | invalidGroup (index : Nat)
  | badGroupNumber
  | unterminatedSet
  | badRange (low high : String)
  | minAboveMax
  | repeatTooLarge
  | tooManyDigits (count : Nat)
  | nothingToRepeat
  | multipleRepeat
  | unexpectedEnd
  | unknownExtension (text : String)
  | unterminatedComment
  | unterminatedGroup
  | unbalanced
  | threeBranches
  | flagsNotAtStart
  | localeFlag
  | incompatibleFlags
  | unknownFlag
  | globalFlagOn
  | globalFlagOff
  | typeFlagOff
  | flagOnAndOff
  | asciiAndUnicode
  | variableLookBehind
  | longLookBehind
  deriving DecidableEq, Repr

def Complaint.text : Complaint → String
  | .endsInEscape => "bad escape (end of pattern)"
  | .badEscape text => s!"bad escape {text}"
  | .incompleteEscape text => s!"incomplete escape {text}"
  | .octalTooLarge text => s!"octal escape value {text} outside of range 0-0o377"
  | .noBrace => "missing \x7b"
  | .undefinedCharacter name => s!"undefined character name {Text.quoted name}"
  | .missing what => s!"missing {what}"
  | .unterminatedName terminator => s!"missing {terminator}, unterminated name"
  | .badGroupName name => s!"bad character in group name {Text.quoted name}"
  | .unknownGroupName name => s!"unknown group name {Text.quoted name}"
  | .redefinedGroup name index former =>
    s!"redefinition of group name {Text.quoted name} as group {index}; was group {former}"
  | .openGroup => "cannot refer to an open group"
  | .groupOfSameLookBehind => "cannot refer to group defined in the same lookbehind subpattern"
  | .invalidGroup index => s!"invalid group reference {index}"
  | .badGroupNumber => "bad group number"
  | .unterminatedSet => "unterminated character set"
  | .badRange low high => s!"bad character range {low}-{high}"
  | .minAboveMax => "min repeat greater than max repeat"
  | .repeatTooLarge => "the repetition number is too large"
  | .tooManyDigits count =>
    s!"Exceeds the limit (4300 digits) for integer string conversion: value has {count} digits; "
      ++ "use sys.set_int_max_str_digits() to increase the limit"
  | .nothingToRepeat => "nothing to repeat"
  | .multipleRepeat => "multiple repeat"
  | .unexpectedEnd => "unexpected end of pattern"
  | .unknownExtension text => s!"unknown extension {text}"
  | .unterminatedComment => "missing ), unterminated comment"
  | .unterminatedGroup => "missing ), unterminated subpattern"
  | .unbalanced => "unbalanced parenthesis"
  | .threeBranches => "conditional backref with more than two branches"
  | .flagsNotAtStart => "global flags not at the start of the expression"
  | .localeFlag => "bad inline flags: cannot use 'L' flag with a str pattern"
  | .incompatibleFlags => "bad inline flags: flags 'a', 'u' and 'L' are incompatible"
  | .unknownFlag => "unknown flag"
  | .globalFlagOn => "bad inline flags: cannot turn on global flag"
  | .globalFlagOff => "bad inline flags: cannot turn off global flag"
  | .typeFlagOff => "bad inline flags: cannot turn off flags 'a', 'u' and 'L'"
  | .flagOnAndOff => "bad inline flags: flag turned on and off"
  | .asciiAndUnicode => "ASCII and UNICODE flags are incompatible"
  | .variableLookBehind => "look-behind requires fixed-width pattern"
  | .longLookBehind => "looks too much behind"

/-- A complaint and the place it is about, counted in characters from the start of the text. Some
complaints are about no place. -/
structure Misreading where
  complaint : Complaint
  position : Option Nat
  deriving DecidableEq, Repr

def lineAndColumn (text : List Char) (position : Nat) : Nat × Nat :=
  let before := text.take position
  (before.count '\n' + 1, (before.reverse.takeWhile (· != '\n')).length + 1)

/-- The full wording: the place follows, and in a text of several lines its line and column. -/
def Misreading.message (source : List Char) (m : Misreading) : String :=
  match m.position with
  | none => m.complaint.text
  | some position =>
    let place := s!"{m.complaint.text} at position {position}"
    if source.contains '\n' then
      let (line, column) := lineAndColumn source position
      s!"{place} (line {line}, column {column})"
    else place

end LineCommand
