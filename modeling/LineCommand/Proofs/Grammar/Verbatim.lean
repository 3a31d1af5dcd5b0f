import LineCommand.Proofs.Grammar.RoundTrip

/-! References that stand for their own text. Where the lenient policy lets a reference stand for what
was written, the writing is read as part of the pattern. What it matches is decided by its characters,
and a line that repeats the template is matched if each such writing matches itself. -/
namespace LineCommand
open Pattern

/-! ### How references are written -/

def TemplateToken.written (name : List Char) (optional : Bool) : List Char :=
  '{' :: '{' :: (name ++ ((if optional then ['?'] else []) ++ ['}', '}']))

theorem Text.Solid.trimStart {cs : List Char} (solid : Text.Solid cs) : Text.trimStart cs = cs :=
  Text.trimStart_clear solid.clear

/-- A name is taken if what is behind it, after a mark if there is one, is closed by braces. -/
theorem TemplateToken.ended_eq_some {name front : List Char} {optional : Bool}
    {after : Bool × List Char} (solid : Text.Solid after.2)
    (read : (if front.isEmpty then none
      else if after.2 = ['}', '}'] ∨ after.2 = ['}', '}', '\n'] then some (front, after.1)
      else none) = some (name, optional)) :
    after = (optional, ['}', '}']) ∧ front = name ∧ name ≠ [] := by
  rw [Option.ite_none_left_eq_some, Option.ite_none_right_eq_some] at read
  obtain ⟨some, closes | feed, same⟩ := read
  · cases same
    exact ⟨Prod.ext rfl closes, rfl, by simpa using some⟩
  · have blank := solid '\n' (by simp [feed])
    cases blank

theorem TemplateToken.eq_written {cs name : List Char} {optional : Bool} (solid : Text.Solid cs)
    (read : readReference cs = some (name, optional)) :
    cs = written name optional ∧ name ≠ [] ∧ ∀ c ∈ name, endsName c = false := by
  unfold readReference at read
  split at read
  case h_2 => cases read
  case h_1 rest =>
    obtain ⟨_, _, inside⟩ : _ ∧ _ ∧ Text.Solid rest := by
      simpa only [Text.Solid, List.forall_mem_cons] using solid
    have parts := List.takeWhile_append_dropWhile (p := (!endsName ·)) (l := rest)
    have named : ∀ c ∈ rest.takeWhile (!endsName ·), endsName c = false := fun c member => by
      simpa using List.mem_takeWhile_imp member
    have behind : Text.Solid (rest.dropWhile (!endsName ·)) := fun c member =>
      inside c ((List.dropWhile_suffix _).mem member)
    simp only [inside.trimStart, behind.trimStart] at read
    generalize rest.takeWhile (!endsName ·) = front at parts named read
    generalize rest.dropWhile (!endsName ·) = after at parts behind read
    subst parts
    -- A mark may stand behind the name, and where it does the rest behind the mark is looked at.
    have marked := fun solid => ended_eq_some solid read
    split at marked
    case h_1 more =>
      obtain ⟨_, further⟩ : _ ∧ Text.Solid more := List.forall_mem_cons.mp behind
      rw [further.trimStart] at marked
      obtain ⟨same, rfl, some⟩ := marked further
      cases same
      exact ⟨rfl, some, named⟩
    case h_2 =>
      obtain ⟨same, rfl, some⟩ := marked behind
      cases same
      exact ⟨rfl, some, named⟩

/-! ### Fragments that words alone match -/

def Field.ofPattern (pattern : String) : Field := { name := "", pattern }

namespace Fragment

def alone : Fragment → Field
  | .field f _ => f
  | x => .ofPattern x.text

/-- A fragment that words alone match. It has alternatives outside of parentheses only if it is a
field. -/
structure Wordy (x : Fragment) : Prop where
  bare : x.alone.Bare
  compact : x.alone.Compact
  straight : x.slot? = none → Pattern.straight [false] (lexemes false x.text.toList)
  required : x.optional = false

variable {sample : Field → String} {pending : Bool} {x : Fragment} {xs : List Fragment}
  {text rest here : List Char}

theorem alone_pattern (x : Fragment) : x.alone.pattern = x.text := by
  cases x <;> rfl

namespace Wordy

variable (wordy : x.Wordy)
include wordy

theorem forward : x.Forward := by
  obtain ⟨e, read, _⟩ := wordy.bare.reads
  have tame := wordy.bare.tame
  rw [alone_pattern] at read tame
  exact ⟨⟨e, read⟩, tame, wordy.straight⟩

theorem own : x.own {} = 0 := by
  obtain ⟨e, read, none⟩ := wordy.bare.reads
  rw [alone_pattern] at read
  rw [Fragment.own, read]
  exact none

theorem excess : x.excess {} = 0 := by
  have declared : x.declared = 0 := by
    cases x with
    | plain | unknown => rfl
    | field f optional => exact wordy.bare.embedded
  rw [Fragment.excess, wordy.own, declared]
  rfl

theorem leaves_iff (edge : Text.Edge rest) :
    (x.body {}).Leaves (text ++ rest) rest ↔ x.alone.fullMatches (String.ofList text) := by
  have same : x.body {} = (Fragment.field x.alone false).body {} := by
    rw [body, body, Fragment.text, alone_pattern]
  rw [same]
  exact Field.leaves_iff wordy.bare.forward wordy.compact.settles edge

theorem solid (matched : x.alone.fullMatches (String.ofList text)) : text ≠ [] ∧ Text.Solid text := by
  obtain ⟨some, solid⟩ := wordy.compact.words _ matched
  rw [String.toList_ofList] at solid
  exact ⟨fun none => some (by rw [none]), solid⟩

end Wordy

/-! ### Words in a line -/

/-- Where fragments match what stands for them, they are found again. -/
theorem found_of_matched (wordy : ∀ x ∈ xs, x.Wordy)
    (matched : ∀ x ∈ xs, x.alone.fullMatches (x.sampled sample)) : Found sample xs := by
  induction xs with
  | nil => trivial
  | cons x xs ih =>
    obtain ⟨here, rests⟩ := List.forall_mem_cons.mp wordy
    obtain ⟨first, others⟩ := List.forall_mem_cons.mp matched
    refine found_word _ (fun full => (here.solid full).2) here.leaves_iff
      (here.compact.words _ first).1 ?_ (ih rests others)
    rwa [String.ofList_toList]

/-- A blank in front of a text that begins with none is all that a separator passes. -/
theorem gapped_iff (clear : Text.Clear text) :
    Gapped pending ((if pending then [' '] else []) ++ text) here ↔ here = text := by
  cases pending with
  | false => exact Iff.rfl
  | true =>
    constructor
    · rintro ⟨w, blanks, some, split⟩
      obtain ⟨c, w, rfl⟩ := List.exists_cons_of_ne_nil some
      obtain ⟨-, split⟩ := List.cons.inj split
      change text = w ++ here at split
      have none : w = [] := (split ▸ clear).eq_nil_of_blanks (List.forall_mem_cons.mp blanks).2
      rw [split, none, List.nil_append]
    · rintro rfl
      exact ⟨[' '], List.forall_mem_singleton.mpr rfl, nofun, rfl⟩

/-- Fragments that words alone match take the words of a line one by one. -/
theorem fits_inLine_iff (wordy : ∀ x ∈ xs, x.Wordy)
    (words : ∀ x ∈ xs, x.sampled sample ≠ "" ∧ Text.Solid (x.sampled sample).toList) :
    Fits pending xs (inLine sample pending xs) ↔ ∀ x ∈ xs, x.alone.fullMatches (x.sampled sample) := by
  induction xs generalizing pending with
  | nil => exact iff_of_true (List.forall_mem_nil _) nofun
  | cons x xs ih =>
    obtain ⟨here, rests⟩ := List.forall_mem_cons.mp wordy
    obtain ⟨⟨some, solid⟩, others⟩ := List.forall_mem_cons.mp words
    have behind : Fits true xs (inLine sample true xs) ↔ _ := ih rests others
    have waits : x.leaves pending = true := by rw [leaves_eq, here.required, Bool.not_false, Bool.or_true]
    have clear : Text.Clear ((x.sampled sample).toList ++ inLine sample true xs) :=
      solid.clear.append (by simpa using some) _
    rw [List.forall_mem_cons, ← behind]
    constructor
    · rintro ⟨rest, taken, fits⟩
      rw [waits] at fits
      obtain ⟨start, gap, leaves⟩ := (takes_of_required here.required).mp taken
      rw [(gapped_iff clear).mp gap] at leaves
      -- What is left begins with a blank, if it is not empty, so the word taken is the whole one.
      obtain ⟨w, split⟩ := leaves.exists_front
      have edge := edge_of_fits fits
      rw [split] at leaves
      have matched := (here.leaves_iff edge).mp leaves
      obtain ⟨word, same⟩ := solid.append_inj (here.solid matched).2 left_inLine.edge edge split
      rw [← word, String.ofList_toList] at matched
      exact ⟨matched, same ▸ fits⟩
    · rintro ⟨matched, fits⟩
      refine ⟨inLine sample true xs, (takes_of_required here.required).mpr
        ⟨_, (gapped_iff clear).mpr rfl, (here.leaves_iff left_inLine.edge).mpr ?_⟩, ?_⟩
      · rwa [String.ofList_toList]
      · rwa [waits]

theorem isSome_match?_inLine_iff {g : Grammar} (made : GrammarBuilder.Makes {} xs g)
    (wordy : ∀ x ∈ xs, x.Wordy)
    (words : ∀ x ∈ xs, x.sampled sample ≠ "" ∧ Text.Solid (x.sampled sample).toList) :
    (g.expression.match? (inLine sample false xs)).isSome ↔
      ∀ x ∈ xs, x.alone.fullMatches (x.sampled sample) := by
  rw [made.isSome_match?_iff fun x member => (wordy x member).forward,
    ← fits_inLine_iff wordy words]
  constructor
  · rintro ⟨w, mid, blanks, split, fits⟩
    have clear : Text.Clear (inLine sample false xs) := by
      cases xs with
      | nil => exact nofun
      | cons x xs =>
        obtain ⟨some, solid⟩ := words x List.mem_cons_self
        exact solid.clear.append (by simpa using some) _
    have none : w = [] := (split ▸ clear).eq_nil_of_blanks blanks
    rwa [split, none]
  · intro fits
    exact ⟨[], _, List.forall_mem_nil _, rfl, fits⟩

/-- A line whose words are matched by the fragments of a grammar is parsed into the words of its
fields. -/
theorem parse_joined_of_matched {g : Grammar} (made : GrammarBuilder.Makes {} xs g)
    (wordy : ∀ x ∈ xs, x.Wordy) (matched : ∀ x ∈ xs, x.alone.fullMatches (x.sampled sample)) :
    (g.parse (.text (Text.joined " " (xs.map (·.sampled sample))))).answer =
      .ok (.ok (some ((xs.filterMap field?).map fun f => (f.name, some (sample f))))) := by
  have forward : ∀ x ∈ xs, x.Forward := fun x member => (wordy x member).forward
  obtain ⟨captures, found, told⟩ := (found_of_matched wordy matched).exists_captures made forward
    fun x member => (wordy x member).required
  rw [← toList_joined] at found
  obtain ⟨none, _⟩ | ⟨captures', found', _, read⟩ :=
    made.read (fun x member => (forward x member).standalone)
      (fun x member => (wordy x member).excess) (Text.joined " " (xs.map (·.sampled sample)))
  · rw [found] at none
    cases none
  · obtain rfl : captures = captures' := Option.some.inj (found.symm.trans found')
    rw [texts_eq_samples (fun x member => (wordy x member).own) ?_ told] at read
    · exact Grammar.parse_of_fields read
    · intro f optional member
      have solid := ((wordy _ member).compact.words _ (matched _ member)).2
      exact (congrArg String.ofList (Text.trim_solid solid)).trans String.ofList_toList

/-! ### What stands for itself -/

/-- Literals and references whose writing has no special meaning: no character with one, and no number
between the braces that would be read as the bounds of a repetition. -/
def Verbatim : Fragment → Prop
  | .plain text => Plain text.toList
  | .unknown name text =>
    text = Grammar.reference name ∧ Plain name.toList ∧ isBounds name.toList = false
  | .field .. => False

instance (x : Fragment) : Decidable x.Verbatim := by
  cases x <;> unfold Verbatim <;> infer_instance

theorem toList_reference (name : String) :
    (Grammar.reference name).toList = TemplateToken.written name.toList false := by
  simp [Grammar.reference, TemplateToken.written]

/-- A word that is cut into single characters is matched by itself alone. -/
theorem wordy_of_literals (cut : lexemes false x.text.toList = literals x.text.toList)
    (slot : x.slot? = none) (some : x.text ≠ "") (solid : Text.Solid x.text.toList) :
    x.Wordy ∧ x.alone.fullMatches x.text := by
  have forward : x.Forward := forward_literals cut
  obtain ⟨e, read⟩ := forward.reads
  have body : e.pattern = sequence (x.text.toList.map (character {})) := by
    rw [← body_literals cut, Fragment.body, read]
  have groups : e.groups = 0 := by
    rw [Expression.groups_of_read read]
    exact (congrArg Progress.opens cut).trans (Progress.opens_literals _)
  have exact : e.pattern.Exact := by
    rw [body]
    refine guarded_sequence fun p member => ?_
    obtain ⟨c, _, rfl⟩ := List.mem_map.mp member
    trivial
  have read' : Expression.read {} x.alone.pattern = .ok e := by rwa [alone_pattern]
  have matched (word : String) : x.alone.fullMatches word ↔ word = x.text := by
    rw [Field.fullMatches_eq read',
      Expression.fullMatches_iff (body ▸ Forgetful.regular forgetful_characters), body,
      accepts_characters, String.toList_inj]
  have none : x.alone.embedded = 0 ∧ x.optional = false := by
    cases x with
    | plain | unknown => exact ⟨rfl, rfl⟩
    | field => cases slot
  constructor
  · refine ⟨⟨⟨e, read', groups⟩, ?_, none.1⟩, ⟨?_, ?_⟩, forward.straight, none.2⟩
    · rw [alone_pattern]
      exact forward.tame
    · intro other again
      rwa [← Except.ok.inj (read'.symm.trans again)]
    · intro word full
      obtain rfl := (matched word).mp full
      exact ⟨some, solid⟩
  · exact (matched _).mpr rfl

end Fragment

namespace GrammarBuilder

variable {b : GrammarBuilder} {s : String} {xs : List Fragment} {name text : String}

/-- A reference that stands for its own text is written with its name between braces, and perhaps with
a mark behind it. -/
theorem exists_written (found : b.fragments? (.text s) = some xs)
    (member : .unknown name text ∈ xs) : ∃ optional,
      text.toList = TemplateToken.written name.toList optional ∧ name.toList ≠ [] ∧
        ∀ c ∈ name.toList, TemplateToken.endsName c = false := by
  obtain ⟨word, some, solid, resolved⟩ := exists_word_of_fragments found _ member
  unfold TemplateToken.ofWord at resolved
  split at resolved
  case h_2 => cases resolved
  case h_1 front optional read =>
    obtain ⟨written, named, inside⟩ := TemplateToken.eq_written solid read
    simp only [resolve] at resolved
    split at resolved
    · cases resolved
    · split at resolved
      · cases resolved
      · cases resolved
        have raw : (if word.isEmpty then String.ofList front else word) = word := by simp [some]
        rw [raw, String.toList_ofList]
        exact ⟨optional, written, named, inside⟩

theorem wordy_of_verbatim (found : b.fragments? (.text s) = some xs) {x : Fragment}
    (member : x ∈ xs) (verbatim : x.Verbatim) : x.Wordy ∧ x.alone.fullMatches x.text := by
  cases x with
  | field => cases verbatim
  | plain text =>
    obtain ⟨some, solid⟩ := word_of_fragments found _ member rfl
    exact Fragment.wordy_of_literals (lexemes_plain verbatim) rfl some solid
  | unknown name text =>
    obtain ⟨some, solid⟩ := word_of_fragments found _ member rfl
    obtain ⟨_, _, named, inside⟩ := exists_written found member
    obtain ⟨written, plain, free⟩ := verbatim
    have closed : '}' ∉ name.toList := fun ends => by cases inside '}' ends
    refine Fragment.wordy_of_literals ?_ rfl some solid
    change lexemes false text.toList = literals text.toList
    rw [written, Fragment.toList_reference]
    exact lexemes_braced named plain closed free

/-- On a line, what is written stands as it is. It is matched if it stands for itself. -/
theorem sampled_of_written (found : b.fragments? (.text s) = some xs) {x : Fragment}
    (member : x ∈ xs) (slot : x.slot? = none) (other : x.Verbatim ∨ x.Wordy)
    (sample : Field → String) :
    x.Wordy ∧ (x.sampled sample ≠ "" ∧ Text.Solid (x.sampled sample).toList) ∧
      (x.alone.fullMatches (x.sampled sample) ↔
        (x.slot? = none → x.Verbatim ∨ x.alone.fullMatches x.text)) := by
  have same : x.sampled sample = x.text := by
    cases x with
    | plain | unknown => rfl
    | field => cases slot
  have verbatim := wordy_of_verbatim found member
  rw [same, imp_iff_right slot, or_iff_right_of_imp fun plain => (verbatim plain).2]
  exact ⟨other.elim (fun plain => (verbatim plain).1) id, word_of_fragments found x member slot,
    Iff.rfl⟩

/-- A line that repeats a template is matched if what stands in the template for itself matches itself.
Without flags, let a template that is a text have fields that may not be left out and that words alone
match, none with groups of its own; and let what else stands in it, literals and references that no
registered field answers to, have no special meaning or be a pattern that words alone match. Then the
line of a sample for every field, and of all else as it is written, is matched exactly if the patterns
written match their own writing, and parsing it gives every field its sample. -/
theorem parse_verbatim (b : GrammarBuilder) (s : String) (g : Grammar) (xs : List Fragment)
    (plain : b.flags = {}) (built : (b.build (.text s)).answer = .ok (.ok g))
    (fragments : b.fragments? (.text s) = some xs)
    (required : ∀ x ∈ xs, x.optional = false)
    (others : ∀ x ∈ xs, x.slot? = none → x.Verbatim ∨ x.Wordy)
    (bare : ∀ f, .field f false ∈ xs → f.Bare) (compact : ∀ f, .field f false ∈ xs → f.Compact)
    (sample : Field → String) (samples : ∀ f, .field f false ∈ xs → f.fullMatches (sample f)) :
    let line := Text.joined " " (xs.map (·.sampled sample))
    let stands := ∀ x ∈ xs, x.slot? = none → x.Verbatim ∨ x.alone.fullMatches x.text
    (∀ name text, .unknown name text ∈ xs → ∃ optional,
      text.toList = TemplateToken.written name.toList optional) ∧
    ((g.expression.match? line.toList).isSome ↔ stands) ∧
    (stands → (g.parse (.text line)).answer =
      .ok (.ok (some ((xs.filterMap Fragment.field?).map fun f => (f.name, some (sample f)))))) := by
  intro line stands
  have made := makes_of_build built fragments
  rw [plain] at made
  have each : ∀ x ∈ xs, x.Wordy ∧
      (x.sampled sample ≠ "" ∧ Text.Solid (x.sampled sample).toList) ∧
      (x.alone.fullMatches (x.sampled sample) ↔
        (x.slot? = none → x.Verbatim ∨ x.alone.fullMatches x.text)) := by
    intro x member
    cases x with
    | plain | unknown =>
      exact sampled_of_written fragments member rfl (others _ member rfl) sample
    | field f optional =>
      obtain rfl : optional = false := required _ member
      have matched := samples f member
      exact ⟨⟨bare f member, compact f member, nofun, rfl⟩, (compact f member).words _ matched,
        iff_of_true matched nofun⟩
  have wordy : ∀ x ∈ xs, x.Wordy := fun x member => (each x member).1
  have matched_iff : (∀ x ∈ xs, x.alone.fullMatches (x.sampled sample)) ↔ stands :=
    forall₂_congr fun x member => (each x member).2.2
  refine ⟨fun name text member => ?_, ?_, fun stand => ?_⟩
  · obtain ⟨optional, written, _⟩ := exists_written fragments member
    exact ⟨optional, written⟩
  · rw [← matched_iff, Fragment.toList_joined]
    exact Fragment.isSome_match?_inLine_iff made wordy fun x member => (each x member).2.1
  · exact Fragment.parse_joined_of_matched made wordy (matched_iff.mpr stand)

theorem parse_verbatim_unknown :
    let b : GrammarBuilder := ⟨⟨[⟨"n", "n", letters⟩]⟩, .lenient, {}⟩
    let s := "go " ++ Grammar.reference "n" ++ " " ++ Grammar.reference "x-2"
    ∃ g, (b.build (.text s)).answer = .ok (.ok g) ∧
      b.fragments? (.text s) = some
        [.plain "go", .field letters false, .unknown "x-2" (Grammar.reference "x-2")] ∧
      (g.parse (.text ("go ab " ++ Grammar.reference "x-2"))).answer =
        .ok (.ok (some [("n", some "ab")])) := by
  intro b s
  let xs : List Fragment :=
    [.plain "go", .field letters false, .unknown "x-2" (Grammar.reference "x-2")]
  obtain ⟨g, built⟩ : ∃ g, (b.build (.text s)).answer = .ok (.ok g) := exists_build (by decide +kernel)
  have found : b.fragments? (.text s) = some xs := by decide +kernel
  have verbatim : ∀ x ∈ xs, x.slot? = none → x.Verbatim := by decide +kernel
  have only : ∀ f, .field f false ∈ xs → f = letters := by
    simp only [xs, List.mem_cons]
    rintro f (same | same | same | same) <;> cases same
    rfl
  refine ⟨g, built, found, ?_⟩
  refine (parse_verbatim b s g xs rfl built found (by decide)
    (fun x member slot => .inl (verbatim x member slot)) (fun f member => ?_) (fun f member => ?_)
    (fun _ => "ab") (fun f member => ?_)).2.2 fun x member slot => .inl (verbatim x member slot)
  · exact only f member ▸ letters_bare
  · exact only f member ▸ letters_compact
  · rw [only f member]
    decide +kernel

/-- A reference that is marked, one whose name is a number of rounds, and one whose name has a sign of
the pattern language do not match what is written. And a field that settles on all of the line behind
its sample keeps even a plain one from matching. -/
theorem not_parse_verbatim :
    (let b : GrammarBuilder := ⟨⟨[⟨"n", "n", letters⟩]⟩, .lenient, {}⟩
      let written := ["\x7b\x7bx?\x7d\x7d", "\x7b\x7b5\x7d\x7d", "\x7b\x7ba+b\x7d\x7d"]
      letters.ForWords ∧ letters.fullMatches "a" ∧ ∀ raw ∈ written,
        ∃ g, (b.build (.text (Grammar.reference "n" ++ " " ++ raw))).answer = .ok (.ok g) ∧
          (g.parse (.text ("a " ++ raw))).answer = .ok (.ok none)) ∧
    (let b : GrammarBuilder := ⟨⟨[⟨"n", "n", hasty⟩]⟩, .lenient, {}⟩
      let s := Grammar.reference "n" ++ " " ++ Grammar.reference "x"
      hasty.Bare ∧ (∀ text, hasty.fullMatches text → text ≠ "" ∧ Text.Solid text.toList) ∧
        hasty.fullMatches "a" ∧ ∃ g, (b.build (.text s)).answer = .ok (.ok g) ∧
          (g.parse (.text ("a " ++ Grammar.reference "x"))).answer = .ok (.ok none)) := by
  have unmatched {b : GrammarBuilder} {s line : String}
      (reads : ∃ g, (b.build (.text s)).answer = .ok (.ok g) ∧ g.read line = .ok .noMatch) :
      ∃ g, (b.build (.text s)).answer = .ok (.ok g) ∧ (g.parse (.text line)).answer = .ok (.ok none) := by
    obtain ⟨g, built, read⟩ := reads
    exact ⟨g, built, Grammar.parse_of_noMatch read⟩
  constructor
  · refine ⟨letters_forWords, by decide +kernel, ?_⟩
    simp only [List.forall_mem_cons]
    refine ⟨?_, ?_, ?_, nofun⟩
    all_goals exact unmatched (exists_read (by decide +kernel))
  · refine ⟨⟨⟨_, rfl, rfl⟩, by decide +kernel, rfl⟩, fun text matched => ?_, by decide +kernel,
      unmatched (exists_read (by decide +kernel))⟩
    rw [hasty_only text matched]
    decide

end GrammarBuilder
end LineCommand
