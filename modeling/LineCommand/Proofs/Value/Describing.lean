import LineCommand.Outcome.Basic
import LineCommand.Proofs.Number.Integer
import LineCommand.Proofs.Value.Dictionary
import LineCommand.Value.Json

/-! Which values can be described: those in which all integers can be written. Where there is no JSON
form for another reason, the text that shows the type stands in for it. -/
namespace LineCommand

theorem Json.integer_eq_ok {n : Int} {s : String} (made : Json.integer n = .ok s) :
    withinDigitLimit n = true := by
  unfold Json.integer at made
  split at made
  case isTrue within => exact within
  case isFalse => cases made

namespace Value

theorem writableItems_iff {items : List Value} :
    writableItems items = true ↔ ∀ x ∈ items, x.writable = true := by
  induction items with
  | nil => simp [writableItems]
  | cons x xs ih => simp [writableItems, ih]

theorem writableEntries_iff {entries : List (Value × Value)} :
    writableEntries entries = true ↔
      ∀ e ∈ entries, e.1.writable = true ∧ e.2.writable = true := by
  induction entries with
  | nil => simp [writableEntries]
  | cons e rest ih => simp [writableEntries, ih, and_assoc]

theorem writableMembers_iff {members : List (String × Value)} :
    writableMembers members = true ↔ ∀ e ∈ members, e.2.writable = true := by
  induction members with
  | nil => simp [writableMembers]
  | cons e rest ih => simp [writableMembers, ih]

/-! ### Moments -/

theorem le_of_dayProblem? {d : Day} (sound : MomentNumbers.dayProblem? d = Option.none) :
    d.year ≤ 9999 ∧ d.month ≤ 12 ∧ d.day ≤ 31 := by
  have longest : MomentNumbers.monthLength d.year d.month ≤ 31 := by
    unfold MomentNumbers.monthLength
    split
    · split <;> decide
    · split <;> decide
  unfold MomentNumbers.dayProblem? at sound
  split at sound
  · cases sound
  · split at sound
    · cases sound
    · split at sound
      · cases sound
      · omega

theorem le_of_clockProblem? {c : Clock} (sound : MomentNumbers.clockProblem? c = Option.none) :
    c.hour ≤ 23 ∧ c.minute ≤ 59 ∧ c.second ≤ 59 ∧ c.micro ≤ 999999 := by
  unfold MomentNumbers.clockProblem? at sound
  split at sound
  · cases sound
  · split at sound
    · cases sound
    · split at sound
      · cases sound
      · split at sound
        · cases sound
        · omega

/-- The numbers of a moment are small enough to be written. -/
theorem writable_momentMembers (m : Moment) : writableMembers (momentMembers m) = true := by
  obtain ⟨⟨day, clock⟩, sound⟩ := m
  have small (n : Nat) (below : n ≤ 999999) : withinDigitLimit n = true :=
    @withinDigitLimit_of_lt n 6 (by decide) (Nat.lt_of_le_of_lt below (by decide))
  simp only [MomentNumbers.problem?, Option.or_eq_none_iff] at sound
  obtain ⟨_, ofDay, ofClock⟩ := sound
  obtain ⟨year, month, days⟩ := le_of_dayProblem? ofDay
  have dated : withinDigitLimit day.year = true ∧ withinDigitLimit day.month = true ∧
      withinDigitLimit day.day = true :=
    ⟨small _ (by omega), small _ (by omega), small _ (by omega)⟩
  cases clock with
  | none => simp [momentMembers, writableMembers, writable, dated]
  | some c =>
    obtain ⟨hour, minute, second, micro⟩ := le_of_clockProblem? ofClock
    have timed : withinDigitLimit c.hour = true ∧ withinDigitLimit c.minute = true ∧
        withinDigitLimit c.second = true ∧ withinDigitLimit c.micro = true :=
      ⟨small _ (by omega), small _ (by omega), small _ (by omega), small _ micro⟩
    have folded : withinDigitLimit 0 = true := small 0 (by decide)
    have zoned : ((c.offset.map zone).getD none).writable = true := by cases c.offset <;> rfl
    simp [momentMembers, writableMembers, writable, dated, timed, folded, zoned]

/-! ### JSON -/

theorem writable_of_jsonKey {key : Value} {s : String} (made : key.jsonKey = .ok s) :
    key.writable = true := by
  cases key with
  | int n => exact Json.integer_eq_ok made
  | none | bool | float | text | kind => rfl
  | _ => cases made

mutual

theorem writable_of_json (v : Value) (s : String) (made : v.json = .ok s) : v.writable = true := by
  cases v with
  | int n => exact Json.integer_eq_ok made
  | none | bool | float | text | kind => rfl
  | list items | tuple items =>
    unfold json at made
    cases listed : jsonList items with
    | error fault =>
      rw [listed] at made
      cases made
    | ok texts => exact writable_of_jsonList items texts listed
  | dict entries =>
    unfold json at made
    cases listed : jsonEntries entries with
    | error fault =>
      rw [listed] at made
      cases made
    | ok texts => exact writable_of_jsonEntries entries texts listed
  | _ => cases made

theorem writable_of_jsonList (items : List Value) (texts : List String)
    (made : jsonList items = .ok texts) : writableItems items = true := by
  cases items with
  | nil => rfl
  | cons x xs =>
    unfold jsonList at made
    obtain ⟨first, here, made⟩ := except_bind_eq_ok_iff.mp made
    obtain ⟨rest, others, _⟩ := except_bind_eq_ok_iff.mp made
    rw [writableItems, writable_of_json x first here, writable_of_jsonList xs rest others]
    rfl

theorem writable_of_jsonEntries (entries : List (Value × Value)) (texts : List String)
    (made : jsonEntries entries = .ok texts) : writableEntries entries = true := by
  cases entries with
  | nil => rfl
  | cons e rest =>
    obtain ⟨key, v⟩ := e
    unfold jsonEntries at made
    obtain ⟨name, named, made⟩ := except_bind_eq_ok_iff.mp made
    obtain ⟨value, here, made⟩ := except_bind_eq_ok_iff.mp made
    obtain ⟨others, listed, _⟩ := except_bind_eq_ok_iff.mp made
    rw [writableEntries, writable_of_jsonKey named, writable_of_json v value here,
      writable_of_jsonEntries rest others listed]
    rfl

end

/-! ### Descriptions -/

theorem exists_describe {v : Value} (writable : v.writable = true) : ∃ s, v.describe = .ok s := by
  unfold describe shown
  cases v.json with
  | ok s => exact ⟨s, rfl⟩
  | error fault => exact ⟨v.written, if_pos writable⟩

theorem describe_of_unwritable {v : Value} (unwritable : v.writable = false) :
    v.describe = .error .tooLong := by
  unfold describe shown
  cases made : v.json with
  | ok s => cases unwritable.symm.trans (writable_of_json v s made)
  | error fault => exact if_neg (by simp [unwritable])

/-- A value can be described just if all integers in it can be written. -/
theorem exists_describe_iff {v : Value} : (∃ s, v.describe = .ok s) ↔ v.writable = true := by
  constructor
  · rintro ⟨s, described⟩
    cases writable : v.writable with
    | true => rfl
    | false => cases (describe_of_unwritable writable).symm.trans described
  · exact exists_describe

/-! ### What is said -/

theorem writable_of_text? {v : Value} {s : String} (text : v.text? = some s) :
    v.writable = true := by
  cases v with
  | text | kind => rfl
  | _ => cases text

theorem sayable_of_writable {v : Value} (writable : v.writable = true) : v.sayable = true := by
  cases v with
  | failure => rfl
  | _ => exact writable

theorem said_of_sayable {v : Value} (sayable : v.sayable = true) : v.said = .ok v.plain :=
  if_pos sayable

theorem said_of_not_sayable {v : Value} (mute : v.sayable = false) : v.said = .error .tooLong :=
  if_neg (by simp [mute])

end Value
end LineCommand
