import LineCommand.Settings.Basic

/-! What users are told about the settings and where they come from. -/
namespace LineCommand

structure SettingsStatus where
  fileExists : Bool
  file : Path
  usingExample : Bool
  catalog : Path
  catalogExists : Bool
  strictFields : Bool
  policy : MatchPolicy
  deriving DecidableEq, Repr

namespace Settings

def status (s : Settings) (look : Path → Entry) : SettingsStatus where
  fileExists := (look file).isThere
  file := file
  usingExample := !(look file).isThere && (look exampleFile).isThere
  catalog := s.catalogPath
  catalogExists := (look s.catalogPath).isThere
  strictFields := s.strictFields
  policy := s.policy

def rule (c : Char) : String := String.ofList (List.replicate 60 c)

def summary (s : Settings) (look : Path → Entry) : List String :=
  let status := s.status look
  let note :=
    if status.usingExample then ["NOTE: Using example config (copy to engine.ini to customise)"]
    else []
  ["", rule '=', "ENGINE CONFIGURATION", rule '=',
   s!"Config file: {status.file.text}", s!"File exists: {Value.boolText status.fileExists}"]
  ++ note
  ++ [rule '-', s!"Catalog:       {status.catalog.text}",
   s!"Strict fields: {Value.boolText s.strictFields}", s!"Match policy:  {s.policy.word}",
   s!"Format target: {s.target.word}", s!"Log level:     {s.logLevel} ({s.logFormat.word})",
   rule '=', ""]

end Settings
end LineCommand
