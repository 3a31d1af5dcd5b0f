import LineCommand.Settings.Basic
import LineCommand.Proofs.Settings.References
import LineCommand.Proofs.Value.Dictionary

/-! The layers of the settings. Each setting is decided by itself: its variable of the environment, its
option in the settings file and its built-in value are asked in this order, and what one of them does not
know or does not say is left to the next. -/
namespace LineCommand

theorem LogFormat.ofWord?_eq_some_iff {s : String} {f : LogFormat} :
    ofWord? s = some f ↔ f.word = s := by
  rw [ofWord?, lookup_eq_some_iff_mem (by decide)]
  cases f <;> simp [words, word, eq_comm]

theorem LogFormat.word_mem (f : LogFormat) : f.word ∈ ["simple", "detailed", "json"] := by
  cases f <;> decide

theorem MatchPolicy.ofWord?_eq_some_iff {s : String} {p : MatchPolicy} :
    ofWord? s = some p ↔ p.word = s := by
  rw [ofWord?, lookup_eq_some_iff_mem (by decide)]
  cases p <;> simp [words, word, eq_comm]

theorem MatchPolicy.word_mem (p : MatchPolicy) : p.word ∈ ["all", "first", "one"] := by
  cases p <;> decide

theorem FormatTarget.ofValue?_text_eq_some_iff {s : String} {t : FormatTarget} :
    ofValue? (.text s) = some t ↔ t.word = s := by
  constructor
  · intro found
    have named := List.find?_some (show all.find? (·.word == s) = some t from found)
    simpa using named
  · rintro rfl
    exact ofValue?_toValue t

theorem FormatTarget.word_mem (t : FormatTarget) : t.word ∈ ["text", "markdown", "embed"] := by
  cases t <;> decide

theorem Settings.targetOf?_eq_some_iff {text : String} {t : FormatTarget} :
    targetOf? text = some t ↔ t.word = Text.lowered (Text.trimmed text) := by
  rw [targetOf?, FormatTarget.ofValue?_text_eq_some_iff]

/-- The settings, each by itself. -/
inductive Setting
  | logLevel
  | logFormat
  | strictFields
  | target
  | policy
  | catalog
  deriving DecidableEq, Repr

namespace Setting

def Choice : Setting → Type
  | logLevel => String
  | logFormat => LogFormat
  | strictFields => Bool
  | target => FormatTarget
  | policy => MatchPolicy
  | catalog => String

def variableName : Setting → String
  | logLevel => "CMD_LOG_LEVEL"
  | logFormat => "CMD_LOG_FORMAT"
  | strictFields => "CMD_STRICT_FIELDS"
  | target => "CMD_FORMAT_TARGET"
  | policy => "CMD_MATCH_POLICY"
  | catalog => "CMD_CATALOG_PATH"

def title : Setting → String
  | logLevel | logFormat => "logging"
  | strictFields => "grammar"
  | target | policy => "dispatch"
  | catalog => "catalog"

def optionName : Setting → String
  | logLevel => "level"
  | logFormat => "format"
  | strictFields => "strict_fields"
  | target => "format_target"
  | policy => "match_policy"
  | catalog => "path"

/-- What a text says about a setting: a level in upper case, yes or no, a path as it is, or one of a few
words in any case, of which the one for the destination may have blanks around it. -/
def Says : (k : Setting) → String → k.Choice → Prop
  | logLevel, text, v => v = Text.raised text
  | logFormat, text, v => LogFormat.word v = Text.lowered text
  | strictFields, text, v =>
    v = decide (Text.lowered text ∈ ["true", "yes", "1", "on", "enabled"])
  | target, text, v => FormatTarget.word v = Text.lowered (Text.trimmed text)
  | policy, text, v => MatchPolicy.word v = Text.lowered text
  | catalog, text, v => v = text

def read? : (k : Setting) → String → Option k.Choice
  | logLevel, text => some (Text.raised text)
  | logFormat, text => LogFormat.ofWord? (Text.lowered text)
  | strictFields, text => some (Settings.saysYes text)
  | target, text => Settings.targetOf? text
  | policy, text => MatchPolicy.ofWord? (Text.lowered text)
  | catalog, text => some text

theorem read?_eq_some_iff {k : Setting} {text : String} {v : k.Choice} :
    k.read? text = some v ↔ k.Says text v := by
  cases k with
  | logLevel | catalog => exact Option.some_inj.trans eq_comm
  | logFormat => exact LogFormat.ofWord?_eq_some_iff
  | strictFields =>
    have same : Settings.saysYes text =
        decide (Text.lowered text ∈ ["true", "yes", "1", "on", "enabled"]) := by
      rw [Settings.saysYes, Settings.yesWords, List.contains_eq_mem]
    exact (Option.some_inj.trans eq_comm).trans (by rw [same]; rfl)
  | target => exact Settings.targetOf?_eq_some_iff
  | policy => exact MatchPolicy.ofWord?_eq_some_iff

end Setting

def Settings.value (s : Settings) : (k : Setting) → k.Choice
  | .logLevel => s.logLevel
  | .logFormat => s.logFormat
  | .strictFields => s.strictFields
  | .target => s.target
  | .policy => s.policy
  | .catalog => s.catalog

def SettingTexts.text (t : SettingTexts) : Setting → Option String
  | .logLevel => t.logLevel
  | .logFormat => t.logFormat
  | .strictFields => t.strictFields
  | .target => t.target
  | .policy => t.policy
  | .catalog => t.catalog

namespace Settings

theorem value_layered (s : Settings) (t : SettingTexts) (k : Setting) :
    (s.layered t).value k = ((t.text k).bind k.read?).getD (s.value k) := by
  cases k with
  | logLevel | strictFields => exact congrArg (Option.getD · _) Option.map_eq_bind
  | logFormat | target | policy => rfl
  | catalog => exact congrArg (Option.getD · _) (Option.bind_fun_some _).symm

/-- A layer decides a setting that it has a text for which the setting knows. -/
theorem value_layered_of_told {s : Settings} {t : SettingTexts} {k : Setting} {text : String}
    {v : k.Choice} (given : t.text k = some text) (told : k.Says text v) :
    (s.layered t).value k = v := by
  rw [value_layered, given, Option.bind_some, Setting.read?_eq_some_iff.mpr told, Option.getD_some]

/-- Any other layer leaves it to the layers below. -/
theorem value_layered_of_silent {s : Settings} {t : SettingTexts} {k : Setting}
    (silent : ∀ text v, t.text k = some text → ¬ k.Says text v) :
    (s.layered t).value k = s.value k := by
  have nothing : (t.text k).bind k.read? = none := by
    rw [Option.eq_none_iff_forall_not_mem]
    intro v read
    obtain ⟨text, given, told⟩ := Option.bind_eq_some_iff.mp read
    exact silent text v given (Setting.read?_eq_some_iff.mp told)
  rw [value_layered, nothing, Option.getD_none]

theorem text_environmentTexts (environment : String → Option String) (k : Setting) :
    (environmentTexts environment).text k =
      (environment k.variableName).filter fun s => !s.isEmpty := by
  cases k <;> rfl

/-- The options of a settings file are read one by one. -/
theorem fileTexts_eq_ok_iff {ini : Ini} {texts : SettingTexts} : fileTexts ini = .ok texts ↔
    ∀ k : Setting, ini.get? k.title k.optionName = .ok (texts.text k) := by
  constructor
  · intro read k
    obtain ⟨_, level, read⟩ := except_bind_eq_ok_iff.mp read
    obtain ⟨_, format, read⟩ := except_bind_eq_ok_iff.mp read
    obtain ⟨_, strict, read⟩ := except_bind_eq_ok_iff.mp read
    obtain ⟨_, target, read⟩ := except_bind_eq_ok_iff.mp read
    obtain ⟨_, policy, read⟩ := except_bind_eq_ok_iff.mp read
    obtain ⟨_, catalog, read⟩ := except_bind_eq_ok_iff.mp read
    cases read
    cases k <;> assumption
  · intro options
    have level := options .logLevel
    have format := options .logFormat
    have strict := options .strictFields
    have target := options .target
    have policy := options .policy
    have catalog := options .catalog
    simp only [Setting.title, Setting.optionName] at level format strict target policy catalog
    simp only [fileTexts, level, format, strict, target, policy, catalog]
    rfl

/-- What the settings file has. A file that is not there is like an empty one. -/
def fileIni (look : Path → Entry) : Except Fault Ini :=
  match fileText? look with
  | none => .ok ⟨[], []⟩
  | some text => Ini.read text

theorem load_eq (look : Path → Entry) (environment : String → Option String) :
    load look environment = (fileIni look).bind fun ini => (fileTexts ini).map fun texts =>
      (({} : Settings).layered texts).layered (environmentTexts environment) := by
  unfold load ofLayers fileIni
  cases fileText? look with
  | none => rfl
  | some text =>
    dsimp only
    cases Ini.read text with
    | error fault => rfl
    | ok ini => cases fileTexts ini <;> rfl

end Settings

/-- What a setting comes to with a variable and an option: the choice that the variable says, unless it is
empty, else the one that the option says, else the built-in one. -/
inductive Setting.Decided (k : Setting) (var option : Option String) : k.Choice → Prop
  | environment {text : String} {v : k.Choice} (set : var = some text) (filled : text ≠ "")
      (told : k.Says text v) : k.Decided var option v
  | file {text : String} {v : k.Choice}
      (silent : ∀ text v, var = some text → text ≠ "" → ¬ k.Says text v)
      (given : option = some text) (told : k.Says text v) : k.Decided var option v
  | builtIn (silent : ∀ text v, var = some text → text ≠ "" → ¬ k.Says text v)
      (mute : ∀ text v, option = some text → ¬ k.Says text v) :
      k.Decided var option (({} : Settings).value k)

namespace Settings

theorem decided_layered (environment : String → Option String) (texts : SettingTexts)
    (k : Setting) :
    k.Decided (environment k.variableName) (texts.text k)
      (((({} : Settings).layered texts).layered (environmentTexts environment)).value k) := by
  have filled {text : String} : (environmentTexts environment).text k = some text ↔
      environment k.variableName = some text ∧ text ≠ "" := by
    simp [text_environmentTexts, Option.filter_eq_some_iff]
  by_cases speaks : ∃ text v, (environmentTexts environment).text k = some text ∧ k.Says text v
  · obtain ⟨text, v, given, told⟩ := speaks
    rw [value_layered_of_told given told]
    exact .environment (filled.mp given).1 (filled.mp given).2 told
  · rw [value_layered_of_silent fun text v given told => speaks ⟨text, v, given, told⟩]
    have silent : ∀ text v, environment k.variableName = some text → text ≠ "" → ¬ k.Says text v :=
      fun text v set some told => speaks ⟨text, v, filled.mpr ⟨set, some⟩, told⟩
    by_cases tells : ∃ text v, texts.text k = some text ∧ k.Says text v
    · obtain ⟨text, v, given, told⟩ := tells
      rw [value_layered_of_told given told]
      exact .file silent given told
    · have mute : ∀ text v, texts.text k = some text → ¬ k.Says text v :=
        fun text v given told => tells ⟨text, v, given, told⟩
      rw [value_layered_of_silent mute]
      exact .builtIn silent mute

end Settings

theorem Setting.Says.eq {k : Setting} {text : String} {v w : k.Choice} (told : k.Says text v)
    (told' : k.Says text w) : v = w := by
  rw [← Setting.read?_eq_some_iff] at told told'
  exact Option.some.inj (told.symm.trans told')

theorem Setting.Decided.eq {k : Setting} {var option : Option String} {v w : k.Choice}
    (decided : k.Decided var option v) (decided' : k.Decided var option w) : v = w := by
  cases decided with
  | environment set filled told =>
    cases decided' with
    | environment set' _ told' =>
      cases set.symm.trans set'
      exact told.eq told'
    | file silent _ _ | builtIn silent _ => exact absurd told (silent _ _ set filled)
  | file silent given told =>
    cases decided' with
    | environment set filled told' => exact absurd told' (silent _ _ set filled)
    | file _ given' told' =>
      cases given.symm.trans given'
      exact told.eq told'
    | builtIn _ mute => exact absurd told (mute _ _ given)
  | builtIn silent mute =>
    cases decided' with
    | environment set filled told => exact absurd told (silent _ _ set filled)
    | file _ given told => exact absurd told (mute _ _ given)
    | builtIn => rfl

namespace Settings

variable {look : Path → Entry} {environment : String → Option String} {ini : Ini} {s : Settings}

theorem exists_texts_of_load (read : fileIni look = .ok ini)
    (loaded : load look environment = .ok s) :
    ∃ texts, fileTexts ini = .ok texts ∧
      s = (({} : Settings).layered texts).layered (environmentTexts environment) := by
  rw [load_eq, read] at loaded
  obtain ⟨texts, expanded, rfl⟩ := except_map_eq_ok_iff.mp loaded
  exact ⟨texts, expanded, rfl⟩

/-- Settings are decided one by one, from what an environment has and what the options of a file say. -/
structure DecidedApart (environment : String → Option String) (ini : Ini)
    (given : Setting → Option String) (s : Settings) : Prop where
  decided : ∀ (k : Setting) (v : k.Choice),
    s.value k = v ↔ k.Decided (environment k.variableName) (given k) v
  /-- An option says something just if its section is there and has it, or all sections have it. -/
  present : ∀ k : Setting, (given k).isSome = (ini.raw? k.title k.optionName).isSome
  formats : s.logFormat.word ∈ ["simple", "detailed", "json"]
  targets : s.target.word ∈ ["text", "markdown", "embed"]
  policies : s.policy.word ∈ ["all", "first", "one"]
  /-- Another environment and another file make no difference to a setting, unless its own variable is
  another one, or the value of its own option or of one that this one refers to. -/
  apart : ∀ (look' : Path → Entry) (environment' : String → Option String) (ini' : Ini)
    (s' : Settings) (k : Setting), fileIni look' = .ok ini' → load look' environment' = .ok s' →
      environment' k.variableName = environment k.variableName →
      (∀ name, Ini.DependsOn (ini.raw? k.title) k.optionName name →
        ini'.raw? k.title name = ini.raw? k.title name) →
      s'.value k = s.value k

/-- Where the settings file can be read and its options have texts behind their references, the settings
are loaded, and each is decided by itself. -/
theorem load_decidedApart {given : Setting → Option String} (read : fileIni look = .ok ini)
    (expands : ∀ k : Setting, ini.get? k.title k.optionName = .ok (given k)) :
    ∃ s, load look environment = .ok s ∧ DecidedApart environment ini given s := by
  obtain ⟨texts, same⟩ : ∃ texts : SettingTexts, texts.text = given := by
    refine ⟨⟨given .logLevel, given .logFormat, given .strictFields, given .target, given .policy,
      given .catalog⟩, ?_⟩
    funext k
    cases k <;> rfl
  subst same
  have expanded := fileTexts_eq_ok_iff.mpr expands
  refine ⟨(({} : Settings).layered texts).layered (environmentTexts environment), ?_, ?_⟩
  · rw [load_eq, read, Except.bind, expanded]
    rfl
  · have decided := decided_layered environment texts
    constructor
    case decided => exact fun k v => ⟨fun same => same ▸ decided k, (decided k).eq⟩
    case present => exact fun k => (Ini.isSome_raw?_of_get? (expands k)).symm
    case formats => exact LogFormat.word_mem _
    case targets => exact FormatTarget.word_mem _
    case policies => exact MatchPolicy.word_mem _
    case apart =>
      intro look' environment' ini' s' k read' loaded' variable' options'
      obtain ⟨texts', expanded', rfl⟩ := exists_texts_of_load read' loaded'
      have option' : texts'.text k = texts.text k := by
        have reads := fileTexts_eq_ok_iff.mp expanded' k
        rw [Ini.get?_congr options', expands k] at reads
        exact (Except.ok.inj reads).symm
      have decided' := decided_layered environment' texts' k
      rw [variable', option'] at decided'
      exact decided'.eq (decided k)

theorem load_decidedApart_referring :
    let text := "[DEFAULT]\nlevel = warning\n[logging]\nformat = simple\n[dispatch]\n" ++
      "format_target = Markdown\nmatch_policy = %(usual)s\nusual = FIRST\n"
    let look (p : Path) : Entry := if p = file then .file text else .absent
    let environment (name : String) : Option String :=
      [("CMD_LOG_FORMAT", "Json"), ("CMD_FORMAT_TARGET", " html "), ("CMD_MATCH_POLICY", "")].lookup
        name
    let ini : Ini := ⟨[("level", "warning")], [("logging", [("format", "simple")]),
      ("dispatch", [("format_target", "Markdown"), ("match_policy", "%(usual)s"),
        ("usual", "FIRST")])]⟩
    let given (k : Setting) : Option String :=
      match k with
      | .logLevel => some "warning"
      | .logFormat => some "simple"
      | .target => some "Markdown"
      | .policy => some "FIRST"
      | .strictFields | .catalog => none
    fileIni look = .ok ini ∧ (∀ k : Setting, ini.get? k.title k.optionName = .ok (given k)) ∧
      ∃ s, load look environment = .ok s ∧ DecidedApart environment ini given s ∧
        s.logLevel = "WARNING" ∧ s.logFormat = .json ∧ s.target = .markdown ∧ s.policy = .first := by
  intro text look environment ini given
  have read : fileIni look = .ok ini := toOption_eq_some_iff.mp (by decide +kernel)
  have expands : ∀ k : Setting, ini.get? k.title k.optionName = .ok (given k) := by
    intro k
    cases k with
    | policy =>
      have referred := @Ini.expand_reference [("format_target", "Markdown"),
        ("match_policy", "%(usual)s"), ("usual", "FIRST"), ("level", "warning")] "%(usual)s" "usual"
        "FIRST" 9 (by decide +kernel) rfl (by simp)
      exact congrArg (Except.map some) referred
    | _ => exact toOption_eq_some_iff.mp (by decide +kernel)
  obtain ⟨s, loaded, apart⟩ := load_decidedApart read expands
  refine ⟨read, expands, s, loaded, apart, ?_, ?_, ?_, ?_⟩
  · refine (apart.decided .logLevel "WARNING").mpr (.file nofun rfl ?_)
    change "WARNING" = Text.raised "warning"
    decide +kernel
  · refine (apart.decided .logFormat LogFormat.json).mpr (.environment rfl (by decide) ?_)
    change "json" = Text.lowered "Json"
    decide +kernel
  · refine (apart.decided .target FormatTarget.markdown).mpr (.file ?_ rfl ?_)
    · rintro _ v ⟨⟩ -
      change FormatTarget.word v ≠ Text.lowered (Text.trimmed " html ")
      cases v <;> decide +kernel
    · change "markdown" = Text.lowered (Text.trimmed "Markdown")
      decide +kernel
  · refine (apart.decided .policy MatchPolicy.first).mpr (.file ?_ rfl ?_)
    · rintro _ v ⟨⟩ filled
      exact absurd rfl filled
    · change "first" = Text.lowered "FIRST"
      decide +kernel

end Settings
end LineCommand
