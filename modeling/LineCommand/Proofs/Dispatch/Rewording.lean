import LineCommand.Proofs.Dispatch.Registration
import LineCommand.Proofs.Dispatch.Restraint
import LineCommand.Proofs.Dispatch.Uniqueness

/-! Wording results anew. A result names the command that it comes from, and wording it anew looks
that command up among all that are registered. Without a validator this is the command that has left
the result, so the text is the message that the result already has. -/
namespace LineCommand

namespace Command

variable {c : Command} {params reply target : Value} {e : Execution}

theorem format_of_conclude (concluded : c.conclude reply target = .ok (.ok e)) :
    c.format e.result target = .ok (.ok e.message) := by
  unfold conclude at concluded
  split at concluded
  case h_1 => cases concluded
  case h_2 => cases concluded
  case h_3 result _ =>
    obtain ⟨worded, formatted, made⟩ := except_map_eq_ok_iff.mp concluded
    cases worded with
    | error failure => cases made
    | ok message =>
      cases made
      exact formatted

/-- The message of an execution is the text of its result. -/
theorem format_of_produce (produced : c.produce params target = .ok (.ok e)) :
    c.format e.result target = .ok (.ok e.message) := by
  unfold produce at produced
  split at produced
  case h_1 => cases produced
  case h_2 => cases produced
  case h_3 => exact format_of_conclude produced

end Command

namespace Processor

variable {p : Processor} {t : FormatTarget} {line target r : Value} {c : Command} {e : Execution}

/-- The value is that of an execution, and wording it anew gives the message that it has. -/
def KeepsMessage (p : Processor) (target r : Value) : Prop :=
  ∃ e : Execution, r = e.toValue ∧ p.format r target = .ok (.ok e.message)

/-- What a registered command has left keeps its message. -/
theorem keepsMessage_of_produce {params : Value} (registered : p.Registered)
    (resolved : p.resolveTarget target = .ok (.ok t)) (member : c ∈ p.commands.values)
    (produced : c.produce params t.toValue = .ok (.ok e)) : p.KeepsMessage target e.toValue := by
  refine ⟨e, rfl, ?_⟩
  have named : e.toValue.member? "command" = some (.text c.name) := by
    rw [← Command.produce_command produced]
    rfl
  have left : e.toValue.member? "result" = some e.result := rfl
  simp only [format, named, registered.get?_eq_some_iff.mpr ⟨member, rfl⟩, resolved, left]
  exact Command.format_of_produce produced

theorem keepsMessage_of_trial (registered : p.Registered) (free : p.validator = none)
    (resolved : p.resolveTarget target = .ok (.ok t)) (member : c ∈ p.commands.values)
    (accepted : p.trial t line c = .ok (.accepted r)) : p.KeepsMessage target r := by
  obtain ⟨_, e, _, produced, assessed⟩ := stages_of_accepted accepted
  rw [assess_unchecked free] at assessed
  cases assessed
  exact keepsMessage_of_produce registered resolved member produced

/-- All results for a line keep their messages, whichever policy has chosen them. -/
structure KeepsMessages (p : Processor) (line target : Value) : Prop where
  all : ∀ rs, (p.processAll line target).answer = .ok (.ok rs) → ∀ r ∈ rs, p.KeepsMessage target r
  first : ∀ r, (p.processFirst line target).answer = .ok (.ok r) → p.KeepsMessage target r
  one : ∀ r, (p.processOne line target).answer = .ok (.ok r) → p.KeepsMessage target r

section Resolved

variable (registered : p.Registered) (free : p.validator = none)
  (resolved : p.resolveTarget target = .ok (.ok t))
include registered free resolved

theorem keepsMessage_of_processAll {rs : List Value}
    (all : (p.processAll line target).answer = .ok (.ok rs)) :
    ∀ r ∈ rs, p.KeepsMessage target r := by
  rw [answer_processAll line resolved, rejections_unchecked free] at all
  split at all
  case h_1 => cases all
  case h_2 => cases all
  case h_3 =>
    obtain rfl : p.accepted t line p.commands.values = rs := by
      cases listed : p.accepted t line p.commands.values <;> simp_all
    intro r listed
    obtain ⟨c, member, accepted⟩ := List.mem_filterMap.mp listed
    exact keepsMessage_of_trial registered free resolved member
      (Trial.accepted?_eq_some_iff.mp accepted)

theorem keepsMessage_of_processFirst
    (first : (p.processFirst line target).answer = .ok (.ok r)) : p.KeepsMessage target r := by
  rw [answer_processFirst line resolved] at first
  cases ended : p.commands.values.findSome? fun c => Trial.final? (p.trial t line c) with
  | none =>
    rw [ended, Option.getD_none] at first
    cases rejected : (p.rejections t line p.commands.values).getLast? with
    | some reason =>
      rw [rejected] at first
      cases first
    | none =>
      rw [rejected, nothingFound] at first
      cases told : noMatch line <;> rw [told] at first <;> cases first
  | some answer =>
    rw [ended] at first
    obtain rfl : answer = .ok (.ok r) := first
    obtain ⟨c, member, here⟩ := List.exists_of_findSome?_eq_some ended
    unfold Trial.final? at here
    split at here <;> cases here
    rename_i accepted
    exact keepsMessage_of_trial registered free resolved member accepted

theorem keepsMessage_of_processOne
    (one : (p.processOne line target).answer = .ok (.ok r)) : p.KeepsMessage target r := by
  rw [answer_processOne_unchecked line free resolved] at one
  split at one
  case h_1 => cases one
  case h_2 => cases one
  case h_3 =>
    split at one
    case h_1 => cases told : noMatch line <;> rw [told] at one <;> cases one
    case h_2 v only =>
      obtain ⟨c, member, validated⟩ := List.mem_filterMap.mp (only ▸ List.mem_singleton_self v)
      obtain rfl := Command.validated?_command validated
      obtain ⟨executed, produced, same⟩ := except_map_eq_ok_iff.mp one
      cases executed with
      | error failure => cases same
      | ok e =>
        cases same
        exact keepsMessage_of_produce registered resolved member produced
    case h_3 => cases one

end Resolved

/-- Without a validator, wording a result for the destination that it was made for gives its message
again. -/
theorem keepsMessages (p : Processor) (line target : Value) (registered : p.Registered)
    (free : p.validator = none) : p.KeepsMessages line target := by
  obtain ⟨t, resolved⟩ | ⟨stop, unresolved⟩ := p.resolveTarget_cases target
  · exact ⟨fun rs => keepsMessage_of_processAll registered free resolved,
      fun r => keepsMessage_of_processFirst registered free resolved,
      fun r => keepsMessage_of_processOne registered free resolved⟩
  -- A destination that there is not leaves no results.
  · refine ⟨fun rs all => ?_, fun r first => ?_, fun r one => ?_⟩
    · rw [answer_processAll_unresolved _ _ unresolved] at all
      cases stop <;> cases all
    · rw [answer_processFirst_unresolved _ _ unresolved] at first
      cases stop <;> cases first
    · rw [answer_processOne_unresolved _ _ unresolved] at one
      cases stop <;> cases one

theorem keepsMessages_divided :
    divided.Registered ∧ divided.validator = none ∧
      ∃ e, (divided.processOne (.text "x y") .none).answer = .ok (.ok e) ∧
        divided.KeepsMessage .none e := by
  have created : (create divided.commands.values none (.text "text")).answer = .ok divided := by
    rfl
  have registered := registered_of_create created
  have keeps := divided.keepsMessages (.text "x y") .none registered rfl
  obtain ⟨e, one⟩ : ∃ e, (divided.processOne (.text "x y") .none).answer = .ok (.ok e) := ⟨_, by rfl⟩
  exact ⟨registered, rfl, e, one, keeps.one e one⟩

end Processor
end LineCommand
