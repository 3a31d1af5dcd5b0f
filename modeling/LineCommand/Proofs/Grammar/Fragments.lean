import Mathlib.Data.List.Nodup
import LineCommand.Grammar.Basic

/-! The text of a pattern by the fragments it is put together from. What stands in front of a
fragment depends on the fragments before it only through whether a separator is pending. -/
namespace LineCommand

theorem mem_iff_of_mapM {α β : Type} {f : α → Option β} {xs : List α} {ys : List β}
    (mapped : xs.mapM f = some ys) {y : β} : y ∈ ys ↔ ∃ x ∈ xs, f x = some y := by
  induction xs generalizing ys with
  | nil =>
    cases mapped
    simp
  | cons x xs ih =>
    rw [List.mapM_cons] at mapped
    obtain ⟨z, here, rest⟩ := Option.bind_eq_some_iff.mp mapped
    obtain ⟨zs, others, listed⟩ := Option.bind_eq_some_iff.mp rest
    cases listed
    rw [List.mem_cons, ih others, List.exists_mem_cons_iff, here, Option.some.injEq, eq_comm]

theorem filterMap_of_mapM {α β γ : Type} {f : α → Option β} {xs : List α} {ys : List β}
    (mapped : xs.mapM f = some ys) (h : β → Option γ) :
    ys.filterMap h = xs.filterMap fun x => (f x).bind h := by
  induction xs generalizing ys with
  | nil =>
    cases mapped
    rfl
  | cons x xs ih =>
    rw [List.mapM_cons] at mapped
    obtain ⟨y, here, rest⟩ := Option.bind_eq_some_iff.mp mapped
    obtain ⟨others, behind, listed⟩ := Option.bind_eq_some_iff.mp rest
    cases listed
    rw [List.filterMap_cons, List.filterMap_cons, here, Option.bind_some, ih behind]

/-- Choosing entries that keep their keys keeps the order of the keys. -/
theorem map_filterMap_sublist {α β γ : Type} {f : α → Option β} {k : α → γ} {l : β → γ}
    (same : ∀ x y, f x = some y → l y = k x) (xs : List α) :
    ((xs.filterMap f).map l).Sublist (xs.map k) := by
  induction xs with
  | nil => exact .slnil
  | cons x xs ih =>
    rw [List.filterMap_cons, List.map_cons]
    cases found : f x with
    | none => exact ih.cons (k x)
    | some y =>
      rw [← same x y found]
      exact ih.cons_cons (l y)

namespace Fragment

def text : Fragment → String
  | .plain text => text
  | .unknown _ text => text
  | .field f _ => f.pattern

def slot? : Fragment → Option Slot
  | .field f _ => some ⟨f.name, f.embedded⟩
  | _ => none

/-- The normal form of the name of a fragment that is a field. -/
def key? : Fragment → Option String
  | .field f _ => some (nameKey f.name)
  | _ => none

def gap (pending : Bool) : String := if pending then Assembly.separator else ""

def written (pending : Bool) : Fragment → String
  | .plain text => gap pending ++ text
  | .unknown _ text => gap pending ++ text
  | .field f false => gap pending ++ "(" ++ f.pattern ++ ")"
  | .field f true =>
    if pending then "(?:" ++ Assembly.separator ++ "(" ++ f.pattern ++ "))?"
    else "(?:(" ++ f.pattern ++ ")(?:\\s+|(?=\\s*$)))?"

def leaves (pending : Bool) : Fragment → Bool
  | .field _ true => pending
  | _ => true

def allWritten (pending : Bool) : List Fragment → String
  | [] => "\\s*$"
  | x :: xs => x.written pending ++ allWritten (x.leaves pending) xs

end Fragment

def TemplateToken.field? (r : FieldRegistry) : TemplateToken → Option Field
  | .literal _ => none
  | .reference name _ _ => NameTable.get? r (.text name)

def Template.referred (t : Template) (r : FieldRegistry) : List Field :=
  (t.tokens.toOption.getD []).filterMap (·.field? r)

namespace GrammarBuilder

variable {b : GrammarBuilder} {t : Template}

/-- The fragments that a template stands for, if all of its references are known. -/
def fragments? (b : GrammarBuilder) (t : Template) : Option (List Fragment) :=
  t.tokens.toOption.bind fun tokens => tokens.mapM fun token => (b.resolve token).toOption

theorem add_eq_ok {a next : Assembly} {x : Fragment} (added : a.add x = .ok next) :
    next.source = a.source ++ x.written a.pending ∧ next.pending = x.leaves a.pending ∧
      next.slots = a.slots ++ x.slot?.toList ∧ next.seen = a.seen ++ x.key?.toList ∧
      ∀ key ∈ x.key?, key ∉ a.seen := by
  cases x with
  | plain text | unknown name text =>
    cases added
    simp [Fragment.written, Fragment.leaves, Fragment.slot?, Fragment.key?, Fragment.gap,
      Assembly.gap, String.append_assoc]
  | field f optional =>
    simp only [Assembly.add] at added
    split at added
    · cases added
    · rename_i fresh
      cases added
      cases optional <;> cases pending : a.pending <;>
        simpa [Assembly.addField, Fragment.written, Fragment.leaves, Fragment.slot?, Fragment.key?,
          Fragment.gap, Assembly.gap, String.append_assoc, pending] using fresh

theorem exists_add {a : Assembly} {x : Fragment} (fresh : ∀ key ∈ x.key?, key ∉ a.seen) :
    ∃ next, a.add x = .ok next := by
  cases x with
  | plain | unknown => exact ⟨_, rfl⟩
  | field f optional =>
    refine ⟨_, if_neg ?_⟩
    rw [List.contains_iff_mem]
    exact fresh _ rfl

/-- What is assembled is the text of the fragments, and a slot for every field among them; no field is
there twice. -/
theorem extend_eq_ok {tokens : List TemplateToken} {a last : Assembly}
    (extended : b.extend a tokens = (last, none)) (nodup : a.seen.Nodup) :
    ∃ xs, tokens.mapM (fun token => (b.resolve token).toOption) = some xs ∧
      last.finish = a.source ++ Fragment.allWritten a.pending xs ∧
      last.slots = a.slots ++ xs.filterMap Fragment.slot? ∧ last.slots ≠ [] ∧
      (a.seen ++ xs.filterMap Fragment.key?).Nodup := by
  induction tokens generalizing a with
  | nil =>
    simp only [extend, Prod.mk.injEq] at extended
    obtain ⟨rfl, some⟩ := extended
    refine ⟨[], rfl, rfl, by simp, ?_, by simpa using nodup⟩
    intro none
    simp [none] at some
  | cons token rest ih =>
    simp only [extend] at extended
    cases resolved : b.resolve token with
    | error refusal =>
      rw [resolved] at extended
      cases extended
    | ok x =>
      rw [resolved] at extended
      cases added : a.add x with
      | error refusal =>
        rw [Except.bind, added] at extended
        cases extended
      | ok next =>
        simp only [Except.bind, added] at extended
        obtain ⟨source, pending, slots, seen, fresh⟩ := add_eq_ok added
        have still : next.seen.Nodup := by
          rw [seen]
          cases key : x.key? with
          | none => simpa using nodup
          | some k =>
            exact List.nodup_append_comm.mpr (List.nodup_cons.mpr ⟨fresh k key, nodup⟩)
        obtain ⟨xs, found, finish, allSlots, filled, allKeys⟩ := ih extended still
        refine ⟨x :: xs, ?_, ?_, ?_, filled, ?_⟩
        · rw [List.mapM_cons, resolved, found]
          rfl
        · rw [finish, source, pending, Fragment.allWritten, String.append_assoc]
        · rw [allSlots, slots, List.append_assoc]
          cases slot : x.slot? <;> simp [slot]
        · rw [seen, List.append_assoc] at allKeys
          cases key : x.key? <;> simpa [key] using allKeys

/-- Fragments can be assembled if there is a field among them, and none is there twice. -/
theorem exists_extend {tokens : List TemplateToken} {a : Assembly} {xs : List Fragment}
    (found : tokens.mapM (fun token => (b.resolve token).toOption) = some xs)
    (some : a.slots ++ xs.filterMap Fragment.slot? ≠ [])
    (different : (a.seen ++ xs.filterMap Fragment.key?).Nodup) :
    ∃ last, b.extend a tokens = (last, none) := by
  induction tokens generalizing a xs with
  | nil =>
    obtain rfl : [] = xs := Option.some.inj found
    rw [List.filterMap_nil, List.append_nil] at some
    exact ⟨a, by simp [extend, some]⟩
  | cons token rest ih =>
    rw [List.mapM_cons] at found
    obtain ⟨x, here, others⟩ := Option.bind_eq_some_iff.mp found
    obtain ⟨ys, rests, listed⟩ := Option.bind_eq_some_iff.mp others
    obtain rfl : x :: ys = xs := Option.some.inj listed
    have resolved : b.resolve token = .ok x := toOption_eq_some_iff.mp here
    have keys : (x :: ys).filterMap Fragment.key? = x.key?.toList ++ ys.filterMap Fragment.key? := by
      cases key : x.key? <;> simp [key]
    have slots : (x :: ys).filterMap Fragment.slot? =
        x.slot?.toList ++ ys.filterMap Fragment.slot? := by
      cases slot : x.slot? <;> simp [slot]
    rw [keys, ← List.append_assoc] at different
    rw [slots, ← List.append_assoc] at some
    have fresh : ∀ key ∈ x.key?, key ∉ a.seen := by
      intro key named seen
      have apart := (List.nodup_append.mp (List.nodup_append.mp different).1).2.2
      exact apart key seen key (Option.mem_toList.mpr named) rfl
    obtain ⟨next, added⟩ := exists_add fresh
    obtain ⟨_, _, nextSlots, nextSeen, _⟩ := add_eq_ok added
    rw [← nextSlots] at some
    rw [← nextSeen] at different
    obtain ⟨last, extended⟩ := ih rests some different
    exact ⟨last, by simpa [extend, resolved, Except.bind, added] using extended⟩

/-- What a grammar built from fragments is. -/
structure Makes (flags : PatternFlags) (xs : List Fragment) (g : Grammar) : Prop where
  expression : Expression.read flags ("^\\s*" ++ Fragment.allWritten false xs) = .ok g.expression
  slots : g.slots = xs.filterMap Fragment.slot?
  filled : g.slots ≠ []

theorem answer_forM {α : Type} {f : α → Act Unit} (answers : ∀ x, (f x).answer = .ok ())
    (xs : List α) : (xs.forM f).answer = .ok () := by
  induction xs with
  | nil => rfl
  | cons x xs ih =>
    rw [List.forM_eq_forM, List.forM_cons, Act.answer_bind, answers]
    exact ih

theorem assembleNoted_eq_ok_iff {a : Assembly} : (b.assembleNoted t).answer = .ok (.ok a) ↔
    ∃ tokens, t.tokens = .ok tokens ∧ tokens ≠ [] ∧ b.extend .start tokens = (a, none) := by
  unfold assembleNoted
  rw [Act.answer_bind, Act.answer_ofExcept]
  cases read : t.tokens with
  | error fault => simp [Except.bind]
  | ok tokens =>
    have assembled : b.assemble tokens = (a, none) ↔
        tokens ≠ [] ∧ b.extend .start tokens = (a, none) := by
      unfold assemble
      cases tokens <;> simp
    simp only [Except.bind, Act.answer_bind, answer_forM fun _ => Act.answer_note .., Except.ok.injEq,
      exists_eq_left', ← assembled]
    generalize b.assemble tokens = result
    obtain ⟨next, refusal?⟩ := result
    cases refusal? with
    | none => simp
    | some refusal =>
      simp only [Act.answer_bind, Act.answer_ofExcept]
      cases refusalFailure t refusal <;> simp [Except.bind]

/-- What a template is assembled to, of which the text and the slots matter. -/
theorem exists_assembleNoted_iff {source : String} {slots : List Slot} :
    (∃ a, (b.assembleNoted t).answer = .ok (.ok a) ∧ a.finish = source ∧ a.slots = slots) ↔
      ∃ xs, b.fragments? t = some xs ∧ "^\\s*" ++ Fragment.allWritten false xs = source ∧
        xs.filterMap Fragment.slot? = slots ∧ slots ≠ [] ∧ (xs.filterMap Fragment.key?).Nodup := by
  simp only [assembleNoted_eq_ok_iff, fragments?, Option.bind_eq_some_iff, toOption_eq_some_iff]
  constructor
  · rintro ⟨a, ⟨tokens, read, _, extended⟩, rfl, rfl⟩
    obtain ⟨xs, found, finish, listed, some, different⟩ := extend_eq_ok extended List.nodup_nil
    exact ⟨xs, ⟨tokens, read, found⟩, finish.symm, listed.symm, some, different⟩
  · rintro ⟨xs, ⟨tokens, read, found⟩, rfl, rfl, some, different⟩
    obtain ⟨last, extended⟩ := exists_extend (a := .start) found some different
    obtain ⟨ys, found', finish, listed, _⟩ := extend_eq_ok extended List.nodup_nil
    obtain rfl : ys = xs := Option.some.inj (found'.symm.trans found)
    have filled : tokens ≠ [] := by
      rintro rfl
      obtain rfl : [] = ys := Option.some.inj found
      exact some rfl
    exact ⟨last, ⟨tokens, read, filled, extended⟩, finish, listed⟩

/-- A grammar holds what its template is assembled to, once it is read. -/
theorem build_eq_ok_iff_assembleNoted {g : Grammar} : (b.build t).answer = .ok (.ok g) ↔
    ∃ a, (b.assembleNoted t).answer = .ok (.ok a) ∧ t.shown = .ok g.template ∧
      Expression.read b.flags a.finish = .ok g.expression ∧ a.slots = g.slots := by
  unfold build
  rw [Act.answer_bind]
  cases (b.assembleNoted t).answer with
  | error fault => simp [Except.bind]
  | ok outcome =>
    cases outcome with
    | error failure => simp [Except.bind]
    | ok a =>
      simp only [Except.bind, Act.answer_bind, Act.answer_ofExcept, Except.ok.injEq, exists_eq_left']
      cases t.shown with
      | error fault => simp
      | ok template =>
        cases Expression.read b.flags a.finish with
        | error misreading => simp [fail]
        | ok e =>
          obtain ⟨expression, slots, shown⟩ := g
          simp [Act.answer_bind, Except.bind, and_left_comm, and_comm]

/-- A grammar is built of the fragments that a template stands for, if there is a field among them and
none is there twice, and if the template can be shown and the text of the fragments be read. -/
theorem build_eq_ok_iff {g : Grammar} : (b.build t).answer = .ok (.ok g) ↔
    ∃ xs, b.fragments? t = some xs ∧ Makes b.flags xs g ∧ (xs.filterMap Fragment.key?).Nodup ∧
      t.shown = .ok g.template := by
  rw [build_eq_ok_iff_assembleNoted]
  constructor
  · rintro ⟨a, assembled, shown, read, slots⟩
    obtain ⟨xs, found, source, listed, some, different⟩ :=
      exists_assembleNoted_iff.mp ⟨a, assembled, rfl, slots⟩
    exact ⟨xs, found, ⟨source ▸ read, listed.symm, some⟩, different, shown⟩
  · rintro ⟨xs, found, made, different, shown⟩
    obtain ⟨a, assembled, source, slots⟩ := exists_assembleNoted_iff.mpr
      ⟨xs, found, rfl, made.slots.symm, made.filled, different⟩
    exact ⟨a, assembled, shown, source ▸ made.expression, slots⟩

/-- A grammar is made of the fragments that its template stands for. -/
theorem build_eq_ok {g : Grammar} (built : (b.build t).answer = .ok (.ok g)) :
    ∃ xs, b.fragments? t = some xs ∧ Makes b.flags xs g := by
  obtain ⟨xs, found, made, _⟩ := build_eq_ok_iff.mp built
  exact ⟨xs, found, made⟩

theorem makes_of_build {g : Grammar} {xs : List Fragment} (built : (b.build t).answer = .ok (.ok g))
    (found : b.fragments? t = some xs) : Makes b.flags xs g := by
  obtain ⟨ys, found', made⟩ := build_eq_ok built
  obtain rfl : xs = ys := Option.some.inj (found.symm.trans found')
  exact made

/-- A token brings a field to a pattern just if it refers to one, and then that one. -/
theorem field_of_resolve {α : Type} {h : Fragment → Option α} {k : Field → α}
    (field : ∀ f optional, h (.field f optional) = some (k f))
    (none : ∀ x : Fragment, x.slot? = none → h x = none) (b : GrammarBuilder)
    (token : TemplateToken) :
    (b.resolve token).toOption.bind h = (token.field? b.fields).map k := by
  cases token with
  | literal text => exact none _ rfl
  | reference name optional raw =>
    simp only [resolve, TemplateToken.field?]
    cases NameTable.get? b.fields (.text name) with
    | some f => exact field f _
    | none =>
      cases b.unknown with
      | strict => rfl
      | lenient => exact none _ rfl

/-- What the fields among fragments bring to a pattern is what the fields bring that the template refers
to, in order. -/
theorem filterMap_fragments {α : Type} {h : Fragment → Option α} {k : Field → α}
    (field : ∀ f optional, h (.field f optional) = some (k f))
    (none : ∀ x : Fragment, x.slot? = none → h x = none) {xs : List Fragment}
    (found : b.fragments? t = some xs) : xs.filterMap h = (t.referred b.fields).map k := by
  obtain ⟨tokens, read, mapped⟩ := Option.bind_eq_some_iff.mp found
  rw [filterMap_of_mapM mapped, Template.referred, read, Option.getD_some, List.map_filterMap]
  exact List.filterMap_congr fun token _ => field_of_resolve field none b token

/-- The slots of a grammar are those of the fields that its template refers to, in order. -/
theorem slots_of_build {g : Grammar} (built : (b.build t).answer = .ok (.ok g)) :
    g.slots = (t.referred b.fields).map fun f => ⟨f.name, f.embedded⟩ := by
  obtain ⟨xs, found, made⟩ := build_eq_ok built
  rw [made.slots, filterMap_fragments (fun _ _ => rfl) (fun _ slot => slot) found]

/-- The fields of a grammar are those that its template refers to, in order. -/
theorem fields_of_build {g : Grammar} (built : (b.build t).answer = .ok (.ok g)) :
    g.fields = (t.referred b.fields).map (·.name) := by
  rw [Grammar.fields, slots_of_build built, List.map_map]
  rfl

/-- A grammar is built only of references to fields whose names differ in normal form. -/
theorem nodup_keys_of_build {g : Grammar} (built : (b.build t).answer = .ok (.ok g)) :
    ((t.referred b.fields).map fun f => nameKey f.name).Nodup := by
  obtain ⟨xs, found, _, different, _⟩ := build_eq_ok_iff.mp built
  rwa [← filterMap_fragments (h := Fragment.key?) (fun _ _ => rfl) _ found]
  intro x slot
  cases x with
  | plain | unknown => rfl
  | field f optional => cases slot

end GrammarBuilder
end LineCommand
