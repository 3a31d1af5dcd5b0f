import LineCommand.Console.Interface
import LineCommand.Text.Numeral
import LineCommand.Text.Quoted

/-!
Reading the words of a command line. Each word first gets a role: a flag, which may be shortened as
long as only one has such a name, a text, or the divider after which all words are texts. Then flags
take their values and the operand is found.
-/
namespace LineCommand.Console

/-! ### Complaints -/

inductive Complaint
  | unknownArguments (words : List String)
  | missing (name : String)
  | noValue (argument : String)
  | badChoice (argument value : String) (choices : List String)
  | valueIgnored (argument value : String)
  | ambiguous (word : String) (names : List String)
  deriving DecidableEq, Repr

def Complaint.message : Complaint → String
  | unknownArguments words => "unrecognized arguments: " ++ Text.joined " " words
  | missing name => s!"the following arguments are required: {name}"
  | noValue argument => s!"argument {argument}: expected one argument"
  | badChoice argument value choices =>
    let listed := Text.joined ", " (choices.map Text.quoted)
    s!"argument {argument}: invalid choice: {Text.quoted value} (choose from {listed})"
  | valueIgnored argument value =>
    s!"argument {argument}: ignored explicit argument {Text.quoted value}"
  | ambiguous word names => s!"ambiguous option: {word} could match " ++ Text.joined ", " names

/-- Why a command line asks for nothing: it asks for help, or it is wrong. -/
inductive Stop
  | help (i : Interface)
  | complaint (i : Interface) (c : Complaint)
  deriving DecidableEq, Repr

/-! ### Roles -/

/-- What a word is. A flag may have its value in the same word; `after` is what follows the name of
a flag for help there. -/
inductive Role
  | text
  | divider
  | help (after : List Char)
  | flag (f : Flag) (value : Option String)
  | unknown
  deriving DecidableEq, Repr

structure Word where
  written : String
  role : Role
  deriving DecidableEq, Repr

def splitValue (cs : List Char) : String × Option String :=
  let name := String.ofList (cs.takeWhile (· != '='))
  match cs.dropWhile (· != '=') with
  | [] => (name, none)
  | _ :: value => (name, some (String.ofList value))

/-- The role of a word that names a flag and gives a value after an equals sign, or gives none. -/
def Role.ofFlag (flag : Option Flag) (value : Option String) : Role :=
  match flag, value with
  | some f, value => .flag f value
  | none, some value => .help ('=' :: value.toList)
  | none, none => .help []

/-- The flags that the start of a word can stand for. A long name may be cut short; after the one
letter of a short name comes the value. -/
def Interface.candidates (i : Interface) (cs : List Char) : List (String × Role) :=
  match cs with
  | '-' :: '-' :: _ =>
    let (start, value) := splitValue cs
    (i.names.filter fun (name, _) => start.toList.isPrefixOf name.toList).map
      fun (name, flag) => (name, .ofFlag flag value)
  | '-' :: letter :: after =>
    (i.names.filter fun (name, _) => name.toList == ['-', letter]).map fun (name, flag) =>
      match flag with
      | some f => (name, .flag f (some (String.ofList after)))
      | none => (name, .help after)
  | _ => []

/-- Whether a text is a number below zero without an exponent. A line feed may end it. -/
def isNegative (cs : List Char) : Bool :=
  match cs with
  | '-' :: rest =>
    let rest := if rest.getLast? == some '\n' then rest.dropLast else rest
    match rest.dropWhile Text.isDigit with
    | [] => !rest.isEmpty
    | '.' :: fraction => !fraction.isEmpty && fraction.all Text.isDigit
    | _ => false
  | _ => false

/-- The role of a word that is not the divider. A word that could be a flag but names none is a text
if it is a negative number or has a space in it. -/
def Interface.roleOf (i : Interface) (written : String) : Except Complaint Role :=
  let cs := written.toList
  let (name, value) := splitValue cs
  match i.names.lookup written, value, i.names.lookup name with
  | some flag, _, _ => .ok (.ofFlag flag none)
  | none, some value, some flag => .ok (.ofFlag flag (some value))
  | none, _, _ =>
    if cs.head? != some '-' || cs.length = 1 then .ok .text
    else
      match i.candidates cs with
      | [] => .ok (if isNegative cs || cs.contains ' ' then .text else .unknown)
      | [(_, role)] => .ok role
      | several => .error (.ambiguous written (several.map (·.1)))

def Interface.words (i : Interface) : List String → Except Complaint (List Word)
  | [] => .ok []
  | "--" :: rest => .ok (⟨"--", .divider⟩ :: rest.map (⟨·, .text⟩))
  | written :: rest => do
    let role ← i.roleOf written
    let words ← i.words rest
    .ok (⟨written, role⟩ :: words)

/-! ### Reading -/

/-- What is given: values under the names of their flags, the last one first, the operand with the
words after it, and words that mean nothing. -/
structure Given where
  values : List (String × String) := []
  operand : Option (String × List String) := none
  unknown : List String := []
  deriving DecidableEq, Repr

def Given.value? (g : Given) (name : String) : Option String := g.values.lookup name

def Given.set (g : Given) (f : Flag) (value : String) : Except Complaint Given :=
  match f.values with
  | .oneOf words =>
    if words.contains value then .ok { g with values := (f.name, value) :: g.values }
    else .error (.badChoice f.cited value words)
  | .any _ => .ok { g with values := (f.name, value) :: g.values }

def Given.ignore (g : Given) (written : String) : Given :=
  { g with unknown := g.unknown ++ [written] }

/-- What asking for help comes to. In the same word may follow letters of other flags without
values; a value is not taken. `next` says whether the next word is a text. -/
def Interface.helpWith (i : Interface) (next : Bool) : List Char → Stop
  | [] => .help i
  | '=' :: value =>
    .complaint i (.valueIgnored (Text.joined "/" helpNames) (String.ofList value))
  | '-' :: value =>
    .complaint i (.valueIgnored (Text.joined "/" helpNames) (String.ofList ('-' :: value)))
  | 'h' :: after => i.helpWith next after
  | letter :: after =>
    match i.flags.find? fun f => f.names.contains (String.ofList ['-', letter]) with
    | some f => if after.isEmpty && !next then .complaint i (.noValue f.cited) else .help i
    | none => .help i

def startWithText : List Word → Bool
  | ⟨_, .text⟩ :: _ => true
  | _ => false

/-- Reads words from the left. The divider in front of the operand or right after it is passed over,
unless the operand is a command. -/
def Interface.read (i : Interface) (g : Given) : List Word → Except Stop Given
  | [] => .ok g
  | ⟨written, .unknown⟩ :: rest => i.read (g.ignore written) rest
  | ⟨_, .help after⟩ :: rest => .error (i.helpWith (startWithText rest) after)
  | ⟨_, .flag f (some value)⟩ :: rest =>
    match g.set f value with
    | .ok g => i.read g rest
    | .error c => .error (.complaint i c)
  | ⟨_, .flag f none⟩ :: ⟨value, .text⟩ :: rest =>
    match g.set f value with
    | .ok g => i.read g rest
    | .error c => .error (.complaint i c)
  | ⟨_, .flag f none⟩ :: _ => .error (.complaint i (.noValue f.cited))
  | ⟨written, .text⟩ :: rest =>
    match i.operand, g.operand, rest with
    | .text .., none, ⟨_, .divider⟩ :: rest => i.read { g with operand := some (written, []) } rest
    | .text .., none, rest => i.read { g with operand := some (written, []) } rest
    | .command .., none, rest =>
      .ok { g with operand := some (written, rest.map Word.written) }
    | _, _, rest => i.read (g.ignore written) rest
  | ⟨written, .divider⟩ :: rest =>
    match i.operand, g.operand, rest with
    | .text .., none, ⟨word, _⟩ :: rest => i.read { g with operand := some (word, []) } rest
    | .command .., none, _ :: _ =>
      .ok { g with operand := some (written, rest.map Word.written) }
    | _, _, rest => i.read (g.ignore written) rest

/-- What a command line gives. A text that is the operand has to be there. -/
def Interface.given (i : Interface) (arguments : List String) : Except Stop Given := do
  let words ← (i.words arguments).mapError (.complaint i)
  let g ← i.read {} words
  match i.operand, g.operand with
  | .text name _, none => .error (.complaint i (.missing name))
  | _, _ => .ok g

end LineCommand.Console
