import LineCommand.Proofs.Settings.Layers

/-! Words that settings know. A setting that is chosen by a word stays what it is where a layer has
another text for it, with one exception: what is not a yes to strict fields counts as a no. -/
namespace LineCommand

namespace Setting

/-- A setting that is chosen by one of a few words. The others take any text. -/
def Closed (k : Setting) : Prop := k ∈ [logFormat, strictFields, target, policy]

def words : Setting → List String
  | logFormat => ["simple", "detailed", "json"]
  | strictFields =>
    ["true", "yes", "1", "on", "enabled", "false", "no", "0", "off", "disabled"]
  | target => ["text", "markdown", "embed"]
  | policy => ["all", "first", "one"]
  | logLevel | catalog => []

/-- A text is one of the words for a setting in some letter case; the one for the destination may have
blanks around it. -/
def Recognises (k : Setting) (text : String) : Prop :=
  match k with
  | target => Text.lowered (Text.trimmed text) ∈ target.words
  | k => Text.lowered text ∈ k.words

instance (k : Setting) (text : String) : Decidable (k.Recognises text) := by
  unfold Recognises
  split <;> infer_instance

variable {k : Setting} {text : String}

theorem says_false_of_unrecognised (unknown : ¬ strictFields.Recognises text) :
    strictFields.Says text false := by
  change false = decide (Text.lowered text ∈ ["true", "yes", "1", "on", "enabled"])
  rw [eq_comm, decide_eq_false_iff_not]
  exact fun yes => unknown (List.mem_append_left ["false", "no", "0", "off", "disabled"] yes)

/-- All settings but one take a text for a choice only if they know it. -/
theorem recognises_of_says {v : k.Choice} (closed : k.Closed) (other : k ≠ strictFields)
    (told : k.Says text v) : k.Recognises text := by
  cases k with
  | logFormat =>
    have named : LogFormat.word v = Text.lowered text := told
    have member := LogFormat.word_mem v
    rw [named] at member
    exact member
  | target =>
    have named : FormatTarget.word v = Text.lowered (Text.trimmed text) := told
    have member := FormatTarget.word_mem v
    rw [named] at member
    exact member
  | policy =>
    have named : MatchPolicy.word v = Text.lowered text := told
    have member := MatchPolicy.word_mem v
    rw [named] at member
    exact member
  | strictFields => exact absurd rfl other
  | logLevel | catalog => simp [Closed] at closed

end Setting

namespace Settings

variable {s : Settings} {k : Setting} {text : String}

theorem value_layered_of_unrecognised {t : SettingTexts} (closed : k.Closed)
    (given : t.text k = some text) (unknown : ¬ k.Recognises text) :
    (s.layered t).value k = s.value k ↔ (k = .strictFields → s.strictFields = false) := by
  by_cases strict : k = .strictFields
  · subst strict
    rw [value_layered_of_told given (Setting.says_false_of_unrecognised unknown)]
    exact ⟨fun same _ => same.symm, fun no => (no rfl).symm⟩
  · refine iff_of_true (value_layered_of_silent fun text' v given' told => ?_) (absurd · strict)
    obtain rfl := Option.some.inj (given.symm.trans given')
    exact unknown (Setting.recognises_of_says closed strict told)

/-- A setting of a lower layer stays what it is where the file or the environment has the text. -/
structure Ignores (s : Settings) (k : Setting) (text : String) : Prop where
  file : ∀ (ini : Ini) (texts : SettingTexts), fileTexts ini = .ok texts →
    texts.text k = some text → (s.layered texts).value k = s.value k
  environment : ∀ environment : String → Option String, environment k.variableName = some text →
    (s.layered (environmentTexts environment)).value k = s.value k

/-- A text that is none of the words for a setting changes nothing, unless it stands for a yes or no and
the layers below say yes. -/
theorem ignores_iff (closed : k.Closed) (unknown : ¬ k.Recognises text) :
    s.Ignores k text ↔ (k = .strictFields → s.strictFields = false) := by
  constructor
  · rintro ⟨file, environment⟩ rfl
    by_cases filled : text = ""
    · -- An empty variable is no text, but an empty option is one.
      subst filled
      let ini : Ini := ⟨[], [("grammar", [("strict_fields", "")])]⟩
      obtain ⟨texts, read, given⟩ : ∃ texts, fileTexts ini = .ok texts ∧
          texts.text .strictFields = some "" := ⟨⟨none, none, some "", none, none, none⟩, rfl, rfl⟩
      exact (value_layered_of_unrecognised closed given unknown).mp (file ini texts read given) rfl
    · have given : (environmentTexts fun _ => some text).text .strictFields = some text := by
        simp [text_environmentTexts, filled]
      have same := environment (fun _ => some text) rfl
      exact (value_layered_of_unrecognised closed given unknown).mp same rfl
  · intro no
    constructor
    · exact fun ini texts _ given => (value_layered_of_unrecognised closed given unknown).mpr no
    · intro environment set
      by_cases filled : text = ""
      · refine value_layered_of_silent fun text' v given _ => ?_
        simp [text_environmentTexts, set, filled] at given
      · refine (value_layered_of_unrecognised closed ?_ unknown).mpr no
        simp [text_environmentTexts, set, filled]

theorem ignores_iff_random :
    Setting.policy.Closed ∧ ¬ Setting.policy.Recognises "random" ∧
      ({ policy := .all } : Settings).Ignores .policy "random" ∧
      ¬ Setting.strictFields.Recognises " yes" ∧
      ({ strictFields := false } : Settings).Ignores .strictFields " yes" := by
  have closed : Setting.policy.Closed := by simp [Setting.Closed]
  have unknown : ¬ Setting.policy.Recognises "random" := by decide +kernel
  have closed' : Setting.strictFields.Closed := by simp [Setting.Closed]
  have unknown' : ¬ Setting.strictFields.Recognises " yes" := by decide +kernel
  exact ⟨closed, unknown, (ignores_iff closed unknown).mpr nofun, unknown',
    (ignores_iff closed' unknown').mpr fun _ => rfl⟩

/-- What is neither a yes nor a no turns strict fields off. -/
theorem not_ignores_maybe :
    let environment (name : String) : Option String :=
      if name = "CMD_STRICT_FIELDS" then some "maybe" else none
    Setting.strictFields.Closed ∧ ¬ Setting.strictFields.Recognises "maybe" ∧
      (load (fun _ => .absent) environment).map (·.strictFields) = .ok false ∧
      ¬ ({} : Settings).Ignores .strictFields "maybe" := by
  intro environment
  refine ⟨by simp [Setting.Closed], by decide +kernel,
    toOption_eq_some_iff.mp (by decide +kernel), fun ignores => ?_⟩
  have kept : (({} : Settings).layered (environmentTexts environment)).strictFields = true :=
    ignores.environment environment rfl
  exact absurd kept (by decide +kernel)

end Settings
end LineCommand
