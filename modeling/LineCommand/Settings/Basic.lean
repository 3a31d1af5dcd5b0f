import LineCommand.Dispatch.Target
import LineCommand.Grammar.Assembly
import LineCommand.Path
import LineCommand.Settings.Ini

/-!
Settings in three layers: built-in ones, those of a settings file, and those of the environment. A
layer that has no text for a setting, or a text that the setting does not know, leaves it as it is.
-/
namespace LineCommand

inductive LogFormat
  | simple
  | detailed
  | json
  deriving DecidableEq, Repr, Inhabited

def LogFormat.words : List (String × LogFormat) :=
  [("simple", .simple), ("detailed", .detailed), ("json", .json)]

def LogFormat.ofWord? (s : String) : Option LogFormat := words.lookup s

def LogFormat.word : LogFormat → String
  | .simple => "simple"
  | .detailed => "detailed"
  | .json => "json"

/-- What comes of several commands that accept a line. -/
inductive MatchPolicy
  | all
  | first
  | one
  deriving DecidableEq, Repr, Inhabited

def MatchPolicy.words : List (String × MatchPolicy) :=
  [("all", .all), ("first", .first), ("one", .one)]

def MatchPolicy.ofWord? (s : String) : Option MatchPolicy := words.lookup s

def MatchPolicy.word : MatchPolicy → String
  | .all => "all"
  | .first => "first"
  | .one => "one"

structure Settings where
  logLevel : String := "INFO"
  logFormat : LogFormat := .detailed
  strictFields : Bool := true
  target : FormatTarget := .text
  policy : MatchPolicy := .one
  catalog : String := "data/commands.yaml"
  deriving DecidableEq, Repr, Inhabited

structure SettingTexts where
  logLevel : Option String
  logFormat : Option String
  strictFields : Option String
  target : Option String
  policy : Option String
  catalog : Option String
  deriving DecidableEq, Repr

namespace Settings

def yesWords : List String := ["true", "yes", "1", "on", "enabled"]

def saysYes (text : String) : Bool := yesWords.contains (Text.lowered text)

/-- The destination that a text names, in any case and with blanks around it. -/
def targetOf? (text : String) : Option FormatTarget :=
  FormatTarget.ofValue? (.text (Text.lowered (Text.trimmed text)))

def layered (s : Settings) (t : SettingTexts) : Settings where
  logLevel := (t.logLevel.map Text.raised).getD s.logLevel
  logFormat := (t.logFormat.bind fun w => LogFormat.ofWord? (Text.lowered w)).getD s.logFormat
  strictFields := (t.strictFields.map saysYes).getD s.strictFields
  target := (t.target.bind targetOf?).getD s.target
  policy := (t.policy.bind fun w => MatchPolicy.ofWord? (Text.lowered w)).getD s.policy
  catalog := t.catalog.getD s.catalog

def fileTexts (ini : Ini) : Except Fault SettingTexts := do
  let logLevel ← ini.get? "logging" "level"
  let logFormat ← ini.get? "logging" "format"
  let strictFields ← ini.get? "grammar" "strict_fields"
  let target ← ini.get? "dispatch" "format_target"
  let policy ← ini.get? "dispatch" "match_policy"
  let catalog ← ini.get? "catalog" "path"
  .ok { logLevel, logFormat, strictFields, target, policy, catalog }

/-- The texts of the environment. An empty one is none. -/
def environmentTexts (environment : String → Option String) : SettingTexts :=
  let text (name : String) := (environment name).filter fun s => !s.isEmpty
  { logLevel := text "CMD_LOG_LEVEL"
    logFormat := text "CMD_LOG_FORMAT"
    strictFields := text "CMD_STRICT_FIELDS"
    target := text "CMD_FORMAT_TARGET"
    policy := text "CMD_MATCH_POLICY"
    catalog := text "CMD_CATALOG_PATH" }

def file : Path := ⟨"", ["config", "engine.ini"]⟩

def exampleFile : Path := ⟨"", ["config", "engine.example.ini"]⟩

/-- The settings for a settings file, if there is one, and an environment. -/
def ofLayers (text : Option String) (environment : String → Option String) :
    Except Fault Settings := do
  let base : Settings := {}
  let withFile ←
    match text with
    | none => .ok base
    | some text => do
      let ini ← Ini.read text
      let texts ← fileTexts ini
      .ok (base.layered texts)
  .ok (withFile.layered (environmentTexts environment))

/-- The text of the settings file that counts. A directory in its place has none. -/
def fileText? (look : Path → Entry) : Option String :=
  let textAt (p : Path) : Option String :=
    match look p with
    | .file text => some text
    | _ => none
  if (look file).isThere then textAt file else textAt exampleFile

/-- The settings, given what lies at every path and the environment. -/
def load (look : Path → Entry) (environment : String → Option String) : Except Fault Settings :=
  ofLayers (fileText? look) environment

def unknownFields (s : Settings) : UnknownFields := if s.strictFields then .strict else .lenient

def catalogPath (s : Settings) : Path := .ofText s.catalog

def usingCatalog (s : Settings) (p : Path) : Settings := { s with catalog := p.text }

end Settings
end LineCommand
