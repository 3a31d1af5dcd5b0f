import LineCommand.Console.Basic
import LineCommand.Yaml.Basic
import Std.Time.Format

/-! The program. It reads the settings files, the catalog and the environment, and prints what the
run comes to. The text of a catalog is read as YAML. -/
namespace LineCommand.Main

open Console

def variableNames : List String :=
  ["CMD_LOG_LEVEL", "CMD_LOG_FORMAT", "CMD_CATALOG_PATH", "CMD_STRICT_FIELDS", "CMD_FORMAT_TARGET",
   "CMD_MATCH_POLICY"]

/-- What lies at a path. A directory can be opened but not read. -/
def entryAt (p : Path) : IO Entry := do
  try
    return .file (← IO.FS.readFile p.text)
  catch
    | .noFileOrDirectory .. => return .absent
    | .inappropriateType none _ _ => return .directory
    | .inappropriateType .. => return .absent
    | error => throw error

/-- What lies at some paths; nothing is known of the others. -/
def entriesAt (paths : List Path) : IO (List (Path × Entry)) :=
  paths.mapM fun p => do return (p, ← entryAt p)

def timeFor (now : Std.Time.PlainDateTime) (format : LogFormat) : String :=
  match format with
  | .json => now.format "uuuu-MM-dd HH:mm:ss"
  | _ => now.format "uuuu-MM-dd HH:mm:ss,SSS"

end LineCommand.Main

open LineCommand LineCommand.Console LineCommand.Main in
def main (arguments : List String) : IO UInt32 := do
  let values ← variableNames.mapM fun name => do return (name, ← IO.getEnv name)
  let environment (name : String) : Option String := (values.lookup name).getD none
  let lookIn (known : List (Path × Entry)) (p : Path) : Entry := (known.lookup p).getD .absent
  let files ← entriesAt [Settings.file, Settings.exampleFile]
  let catalogs ← entriesAt (catalogPath? (lookIn files) environment arguments).toList
  let now ← Std.Time.PlainDateTime.now
  let run := Console.run Yaml.load (lookIn (files ++ catalogs)) environment (timeFor now) arguments
  for line in run.err do IO.eprintln line
  for line in run.out do IO.println line
  match run.ended with
  | .ok code => return code.toUInt32
  | .error fault => do
    IO.eprintln s!"{fault.kind.label}: {fault.message.getD fault.kind.label}"
    return 1
