import LineCommand.Journal
import LineCommand.Settings.Basic
import LineCommand.Value.Json

/-! The lines that notes leave in the log, and the threshold that a note has to reach. -/
namespace LineCommand

/-- Something to be logged: the part of the program that logs it, how much it matters, and a
text. -/
structure LogEntry where
  logger : String
  level : Int
  message : String
  deriving DecidableEq, Repr

namespace LogEntry

def levels : List (Int × String) :=
  [(0, "NOTSET"), (10, "DEBUG"), (20, "INFO"), (30, "WARNING"), (40, "ERROR"), (50, "CRITICAL")]

def levelName (level : Int) : String := (levels.lookup level).getD s!"Level {level}"

/-- The name of the part of the program that leaves notes. -/
def loggerOf : Origin → String
  | .compiler => "command_engine.grammar.compiler"
  | .command => "command_engine.dispatch.command"
  | .processor => "command_engine.dispatch.processor"
  | .group => "command_engine.dispatch.group"
  | .catalog => "command_engine.catalog"

def levelOf : NoteLevel → Int
  | .debug => 10
  | .info => 20
  | .warning => 30
  | .error => 40

def ofNote (note : Note) : LogEntry := ⟨loggerOf note.origin, levelOf note.level, note.text⟩

def member (name value : String) : String :=
  Json.text false name ++ ": " ++ Json.text false value

def line (format : LogFormat) (time : String) (e : LogEntry) : String :=
  let level := levelName e.level
  match format with
  | .simple => s!"{level}: {e.message}"
  | .detailed => s!"{time} - {e.logger} - {level} - {e.message}"
  | .json =>
    Value.enclosed "\x7b" "\x7d"
      [member "timestamp" time, member "level" level, member "logger" e.logger,
       member "message" e.message]

end LogEntry

def plainPattern : String := "%(levelname)s:%(name)s:%(message)s"

/-- The names that stand for no level but for log line patterns, and the faults they lead to. -/
def patternNames : List (String × Fault) :=
  let entry (mark kind pattern : String) : String :=
    s!"'{mark}': (<class 'logging.{kind}'>, '{pattern}')"
  let braces := "\x7blevelname\x7d:\x7bname\x7d:\x7bmessage\x7d"
  let dollars := "$\x7blevelname\x7d:$\x7bname\x7d:$\x7bmessage\x7d"
  let all := Value.enclosed "\x7b" "\x7d"
    [entry "%" "PercentStyle" plainPattern, entry "\x7b" "StrFormatStyle" braces,
     entry "$" "StringTemplateStyle" dollars]
  [("BASIC_FORMAT", .badValue s!"Unknown level: {Text.quoted plainPattern}"),
   ("_STYLES", .wrongType s!"Level not an integer or a valid string: {all}")]

def levelSynonyms : List (String × Int) := [("WARN", 30), ("FATAL", 50)]

/-- The level from which entries are logged. A name that stands for nothing is taken for INFO. -/
def Settings.threshold (s : Settings) : Except Fault Int :=
  match patternNames.lookup s.logLevel with
  | some fault => .error fault
  | none =>
    let named := LogEntry.levels.map fun (level, name) => (name, level)
    .ok (((named ++ levelSynonyms).lookup s.logLevel).getD 20)

end LineCommand
