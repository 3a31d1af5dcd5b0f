import LineCommand.Proofs.Grammar.Declarations
import LineCommand.Proofs.Grammar.Reading
import LineCommand.Proofs.Pattern.Reach

/-! Fragments that look at nothing but the text ahead. Such fragments can be put together to a pattern
in any order, if no two groups have the same name, and what the pattern matches is what the fragments
match one after the other. -/
namespace LineCommand
open Pattern

namespace Pattern

/-! ### Tokens -/

/-- Whether a token asks for nothing but characters, groups, alternatives and repetitions. -/
def Token.tame : Token → Bool
  | .nothing | .literal _ | .anyChar | .set .. | .again .. | .bar | .openGroup _ | .openPlain
  | .openAtomic | .openFlags _ | .close => true
  | _ => false

namespace Token

variable {token : Token} (tame : token.tame)
include tame

theorem onward_of_tame : ∀ c ∈ token.construct?, c.Onward := by
  intro c asked
  cases token with
  | again | openGroup | openAtomic =>
    cases asked
    simp [Construct.Onward]
  | nothing | literal | anyChar | set | bar | openPlain | openFlags | close => cases asked
  | _ => cases tame

theorem settled_of_tame : token.Settled := by
  intro c asked
  have onward := onward_of_tame tame c asked
  constructor
  all_goals
    rintro rfl
    simp [Construct.Onward] at onward

theorem quiet_of_tame : token.quiet := by
  cases token with
  | openNumbered | flags => cases tame
  | _ => rfl

theorem unflagged_of_tame : ∀ on, token ≠ .flags on := by
  rintro on rfl
  cases tame

end Token

/-- What goes on through the text ahead does not look behind. -/
theorem behindWidths_of_onward {p : Pattern} (onward : p.Within Construct.Onward) :
    p.behindWidths = [] := by
  induction p with
  | empty | one => rfl
  | seq first rest first_ih rest_ih | alt first rest first_ih rest_ih =>
    have parts := List.forall_mem_append.mp onward
    rw [behindWidths, first_ih parts.1, rest_ih parts.2, List.append_nil]
  | group index body ih | again low high manner body ih | atomic body ih =>
    exact ih (List.forall_mem_cons.mp onward).2
  | anchor | look | back | cond =>
    exact absurd (onward _ List.mem_cons_self) (by simp [Construct.Onward])

theorem behindWidths_cons (p : Pattern) (ps : List Pattern) :
    (sequence (p :: ps)).behindWidths = p.behindWidths ++ (sequence ps).behindWidths := rfl

theorem behindWidths_append (ps qs : List Pattern) : (sequence (ps ++ qs)).behindWidths =
    (sequence ps).behindWidths ++ (sequence qs).behindWidths := by
  induction ps with
  | nil => rfl
  | cons p ps ih =>
    rw [List.cons_append, behindWidths_cons, behindWidths_cons, ih, List.append_assoc]

/-- A pattern that matches nothing of a text of blanks, not even the empty text. -/
def Filled (p : Pattern) : Prop := ∀ text rest, Text.Blanks text → ¬ p.Leaves text rest

theorem filled_one {set : CharSet} (solid : ∀ c, set.holds c → Text.isBlank c = false) :
    (one set).Filled := by
  rintro text rest blanks ⟨last, member, _⟩
  simp only [outcomes, oneOutcomes, Cursor.start] at member
  cases text with
  | nil => cases member
  | cons c text =>
    have blank := blanks c List.mem_cons_self
    have other : ¬ set.holds c := by
      intro holds
      rw [solid c holds] at blank
      cases blank
    dsimp only at member
    rw [if_neg other] at member
    cases member

theorem Filled.seq {p : Pattern} (filled : p.Filled) (q : Pattern) : (seq p q).Filled := by
  rintro text rest blanks ⟨last, member, _⟩
  obtain ⟨next, before, _⟩ := List.mem_flatMap.mp member
  exact filled text _ blanks ⟨next, before, rfl⟩

/-- For a regular pattern it is enough that it does not match all of a text of blanks. -/
theorem filled_of_fullMatches {e : Expression} (regular : e.pattern.Within Construct.Regular)
    (some : ∀ text, Text.Blanks text → e.fullMatches text = false) : e.pattern.Filled := by
  intro text rest blanks left
  obtain ⟨w, accepts, rfl⟩ := (reaches_of_regular regular _ rest).mp left
  have matched := (Expression.fullMatches_iff regular).mpr accepts
  rw [some w (List.forall_mem_append.mp blanks).1] at matched
  cases matched

namespace Progress

variable {r s t : Progress} {R S : List Char → List Char → Prop}

theorem Extends.parts_ne_nil {ps : List Pattern} (extended : s.Extends ps t)
    (some : s.scope.parts ≠ []) : t.scope.parts ≠ [] := by
  intro none
  have parts := extended.parts
  rw [none] at parts
  simp at parts
  exact some parts.1

/-- Reading has put patterns behind those of the innermost scope which leave of the text ahead what
`R` says. -/
def Adds (s : Progress) (R : List Char → List Char → Prop) (t : Progress) : Prop :=
  ∃ ps, s.Extends ps t ∧ (sequence ps).behindWidths = [] ∧ (sequence ps).Reaches R

theorem Adds.trans (first : r.Adds R s) (second : s.Adds S t) :
    r.Adds (fun text rest => ∃ mid, R text mid ∧ S mid rest) t := by
  obtain ⟨ps, extended, widths, reaches⟩ := first
  obtain ⟨qs, extended', widths', reaches'⟩ := second
  refine ⟨ps ++ qs, extended.trans extended', ?_, reaches.append reaches'⟩
  rw [behindWidths_append, widths, widths', List.append_nil]

end Progress
end Pattern

namespace Fragment

/-! ### What separators leave -/

/-- What lies behind a separator. -/
def Parted (text rest : List Char) : Prop := ∃ w, Text.Blanks w ∧ w ≠ [] ∧ text = w ++ rest

/-- What lies behind the separator, where one is pending. -/
def Gapped (pending : Bool) (text rest : List Char) : Prop :=
  if pending then Parted text rest else rest = text

/-- What lies behind a field that is kept apart: the text behind a separator, or blanks up to the end
of the line. -/
def SetApart (text rest : List Char) : Prop := Parted text rest ∨ Text.Blanks text ∧ rest = text

/-- What lies behind a field that may be left out. -/
def Loosed (pending : Bool) (text rest : List Char) : Prop :=
  if pending then rest = text else SetApart text rest

def Ended (text rest : List Char) : Prop :=
  (rest = [] ∨ rest = ['\n']) ∧ ∃ w, Text.Blanks w ∧ text = w ++ rest

theorem exists_ended_iff {text : List Char} : (∃ rest, Ended text rest) ↔ Text.Blanks text := by
  constructor
  · rintro ⟨rest, ended, w, blanks, rfl⟩
    refine List.forall_mem_append.mpr ⟨blanks, ?_⟩
    obtain rfl | rfl := ended
    · exact List.forall_mem_nil _
    · exact List.forall_mem_singleton.mpr rfl
  · intro blanks
    exact ⟨[], .inl rfl, text, blanks, (List.append_nil _).symm⟩

theorem reaches_blanks (low : Nat) : (again low none .greedy (blank {})).Reaches fun text rest =>
    ∃ w, (Text.Blanks w ∧ low ≤ w.length) ∧ text = w ++ rest :=
  (reaches_of_regular (Forgetful.regular forgetful_blanks)).congr fun _ _ =>
    exists_congr fun _ => and_congr_left' accepts_blanks

theorem reaches_separator : (separator {}).Reaches Parted :=
  (reaches_blanks 1).congr fun text rest => exists_congr fun w => by
    rw [and_assoc, Nat.one_le_iff_ne_zero, Ne, List.length_eq_zero_iff]

theorem reaches_gap (pending : Bool) : (sequence (gapParts {} pending)).Reaches (Gapped pending) := by
  cases pending with
  | false => exact reaches_empty
  | true => exact reaches_separator.single

theorem reaches_ending : (sequence (ending {})).Reaches Ended := by
  have both := (reaches_blanks 0).seq reaches_anchor_lastLineEnd.single
  refine both.congr fun text rest => ?_
  constructor
  · rintro ⟨mid, ⟨w, ⟨blanks, _⟩, rfl⟩, ended, rfl⟩
    exact ⟨ended, w, blanks, rfl⟩
  · rintro ⟨ended, w, blanks, rfl⟩
    exact ⟨rest, ⟨w, ⟨blanks, Nat.zero_le _⟩, rfl⟩, ended, rfl⟩

theorem reaches_apart : (apart {}).Reaches SetApart := by
  have both := reaches_separator.single.alt reaches_ending.ahead.single
  refine both.congr fun text rest => ?_
  rw [exists_ended_iff]
  rfl

/-! ### Forward fragments -/

/-- A fragment that can be read by itself and looks at nothing but the text ahead. It has alternatives
outside of parentheses only if it is a field. -/
structure Forward (x : Fragment) : Prop where
  reads : ∃ e, Expression.read {} x.text = .ok e
  tame : ∀ y ∈ lexemes false x.text.toList, y.token.tame
  straight : x.slot? = none → straight [false] (lexemes false x.text.toList)

/-- A fragment that can be read by itself and looks at nothing but the text ahead, of which it matches
more than blanks. It has as many groups as it declares, and alternatives outside of parentheses only
if it is a field. -/
structure Tame (x : Fragment) : Prop where
  reads : ∃ e, Expression.read {} x.text = .ok e
  tame : ∀ y ∈ lexemes false x.text.toList, y.token.tame
  straight : x.slot? = none → straight [false] (lexemes false x.text.toList)
  declared : x.excess {} = 0
  filled : (x.body {}).Filled

theorem Tame.forward {x : Fragment} (tame : x.Tame) : x.Forward :=
  ⟨tame.reads, tame.tame, tame.straight⟩

def names (x : Fragment) : List String := Progress.named (lexemes false x.text.toList)

variable {x : Fragment} {xs : List Fragment} {pending : Bool}

namespace Forward

variable (forward : x.Forward)
include forward

theorem standalone : x.Standalone {} := ⟨forward.reads, nofun⟩

theorem settled : ∀ y ∈ lexemes false x.text.toList, y.token.Settled :=
  fun y member => Token.settled_of_tame (forward.tame y member)

theorem unflagged : ∀ y ∈ lexemes false x.text.toList, ∀ on, y.token ≠ .flags on :=
  fun y member => Token.unflagged_of_tame (forward.tame y member)

theorem spliceable : x.Spliceable {} :=
  ⟨forward.standalone, movable_of_settled forward.settled, forward.straight⟩

theorem insertable (slot : x.slot? ≠ none) : x.Insertable {} :=
  ⟨forward.spliceable, fun none => absurd none slot⟩

theorem onward : (x.body {}).Within Construct.Onward := by
  obtain ⟨e, read⟩ := forward.reads
  have body : x.body {} = e.pattern := by rw [Fragment.body, read]
  rw [body]
  exact Expression.within_of_read read fun y member => Token.onward_of_tame (forward.tame y member)

theorem reaches_grouped (k : Nat) : (x.grouped {} k).Reaches (x.body {}).Leaves :=
  (reaches_shift forward.onward (k + 1)).group (k + 1)

theorem behindWidths_shift (k : Nat) : ((x.body {}).shift k).behindWidths = [] := by
  refine behindWidths_of_onward fun c used => forward.onward c ?_
  rwa [constructs_shift] at used

end Forward

/-- What a fragment leaves of a text, with the separators around it. -/
def Takes (pending : Bool) (x : Fragment) (text rest : List Char) : Prop :=
  match x with
  | .field _ true =>
    (∃ here behind, Gapped pending text here ∧ (x.body {}).Leaves here behind ∧
      Loosed pending behind rest) ∨ rest = text
  | _ => ∃ here, Gapped pending text here ∧ (x.body {}).Leaves here rest

/-- Fragments can be matched one after the other, up to the end of a line. -/
def Fits (pending : Bool) : List Fragment → List Char → Prop
  | [], text => Text.Blanks text
  | x :: xs, text => ∃ rest, x.Takes pending text rest ∧ Fits (x.leaves pending) xs rest

/-! ### Reading forward fragments -/

variable {s : Progress}

theorem exists_run_gap (s : Progress) (pending : Bool) : ∃ t, s.run (gapTokens pending) = .ok t := by
  cases pending with
  | false => exact ⟨s, rfl⟩
  | true => exact ⟨_, rfl⟩

theorem exists_run_rear (s : Progress) (pending : Bool) :
    ∃ t, s.run (if pending then [] else apartTokens) = .ok t := by
  cases pending with
  | true => exact ⟨s, rfl⟩
  | false => exact ⟨_, rfl⟩

theorem exists_run_ending (s : Progress) : ∃ t, s.run endTokens = .ok t := ⟨_, rfl⟩

theorem known_gap {t : Progress} (ran : s.run (gapTokens pending) = .ok t) : t.known = s.known := by
  rw [Progress.run_names ran]
  cases pending <;> rfl

theorem exists_run_grouped (pending : Bool) (forward : x.Forward) (flags : s.scope.flags = {})
    (fresh : ∀ name ∈ x.names, name ∉ s.known) :
    ∃ t, s.run (gapTokens pending ++ (⟨.openGroup none, 1⟩ ::
      (lexemes false x.text.toList ++ [⟨.close, 1⟩]))) = .ok t := by
  obtain ⟨between, ranGap⟩ := exists_run_gap s pending
  obtain ⟨alone, ran, balanced, _⟩ := forward.standalone.cut
  obtain ⟨t, ranGroup⟩ := Progress.exists_run_group (s := between) forward.settled forward.unflagged
    (by rw [known_gap ranGap]; exact fresh) ran balanced ((extends_gap ranGap).flags.trans flags)
  exact ⟨t, Progress.run_append.mpr ⟨between, ranGap, ranGroup⟩⟩

theorem exists_run_field {f : Field} {optional : Bool} (pending : Bool)
    (forward : (field f optional).Forward) (flags : s.scope.flags = {})
    (fresh : ∀ name ∈ (field f optional).names, name ∉ s.known) :
    ∃ t, s.run ((field f optional).tokens false pending) = .ok t := by
  cases optional with
  | false =>
    obtain ⟨t, ran⟩ := exists_run_grouped pending forward flags fresh
    refine ⟨t, ?_⟩
    change s.run (gapTokens pending ++ [⟨.openGroup none, 1⟩] ++
      (lexemes false f.pattern.toList ++ [⟨.close, 1⟩])) = .ok t
    rw [List.append_assoc]
    exact ran
  | true =>
    let grouped := gapTokens pending ++ (⟨.openGroup none, 1⟩ ::
      (lexemes false (field f true).text.toList ++ [⟨.close, 1⟩]))
    let inner := grouped ++ if pending then [] else apartTokens
    have back : ∀ r : Progress, r.scope.flags = s.scope.flags → r.known = s.known →
        ∃ r', r.run inner = .ok r' ∧ r'.outer = r.outer := by
      intro r same known
      obtain ⟨between, ranField⟩ := exists_run_grouped pending forward (same.trans flags)
        (by rw [known]; exact fresh)
      obtain ⟨r', ranRear⟩ := exists_run_rear between pending
      refine ⟨r', Progress.run_append.mpr ⟨between, ranField, ranRear⟩, ?_⟩
      exact (extends_rear ranRear).outer.trans
        (extends_field forward.spliceable (same.trans flags) ranField).outer
    obtain ⟨t, ran⟩ := Progress.exists_run_optional back
    refine ⟨t, ?_⟩
    simpa [tokens, frontTokens, rearTokens, inner, grouped] using ran

theorem reaches_field {f : Field} {optional : Bool} (forward : (field f optional).Forward)
    (k : Nat) : (sequence ((field f optional).parts {} pending k)).Reaches
      ((field f optional).Takes pending) := by
  have grouped := forward.reaches_grouped k
  cases optional with
  | false => exact (reaches_gap pending).append grouped.single
  | true =>
    have rear : (sequence (if pending then [] else [apart {}])).Reaches (Loosed pending) := by
      cases pending with
      | true => exact reaches_empty
      | false => exact reaches_apart.single
    have inner := (reaches_gap pending).append (grouped.cons rear)
    refine inner.optional.single.congr fun text rest => or_congr_left ?_
    constructor
    · rintro ⟨here, gap, behind, left, apart⟩
      exact ⟨here, behind, gap, left, apart⟩
    · rintro ⟨here, behind, gap, left, apart⟩
      exact ⟨here, gap, behind, left, apart⟩

theorem behindWidths_field {f : Field} {optional : Bool} (forward : (field f optional).Forward)
    (k : Nat) : (sequence ((field f optional).parts {} pending k)).behindWidths = [] := by
  have grouped : ((field f optional).grouped {} k).behindWidths = [] :=
    forward.behindWidths_shift (k + 1)
  have gap : (sequence (gapParts {} pending)).behindWidths = [] := by cases pending <;> rfl
  cases optional with
  | false =>
    rw [parts, behindWidths_append, gap, behindWidths_cons, grouped]
    rfl
  | true =>
    have rear : (sequence (if pending then [] else [apart {}])).behindWidths = [] := by
      cases pending <;> rfl
    have inner : (sequence (gapParts {} pending ++ (field f true).grouped {} k ::
        if pending then [] else [apart {}])).behindWidths = [] := by
      rw [behindWidths_append, gap, behindWidths_cons, grouped, rear]
      rfl
    rw [parts, behindWidths_cons]
    exact List.append_eq_nil_iff.mpr ⟨inner, rfl⟩

/-- A forward fragment can be read wherever its groups have new names, and takes its part of the
text. -/
theorem exists_run_tokens (pending : Bool) (forward : x.Forward) (flags : s.scope.flags = {})
    (plain : ∀ index, s.scope.role ≠ .condition index) (some : s.scope.parts ≠ [])
    (fresh : ∀ name ∈ x.names, name ∉ s.known) :
    ∃ t, s.run (x.tokens false pending) = .ok t ∧ s.Adds (x.Takes pending) t := by
  -- A literal is read into the scope around it; a field has a group, and thus a scope, of its own.
  have literal : x.slot? = none → ∃ t,
      s.run (gapTokens pending ++ lexemes false x.text.toList) = .ok t ∧
        s.Adds (fun text rest => ∃ here, Gapped pending text here ∧
          (x.body {}).Leaves here rest) t := by
    intro slot
    obtain ⟨between, ranGap⟩ := exists_run_gap s pending
    have gap := extends_gap ranGap
    obtain ⟨e, read⟩ := forward.reads
    obtain ⟨alone, ran, balanced, rfl⟩ := Expression.read_eq_ok read
    have fresh : ∀ name ∈ x.names, name ∉ between.known := by
      rw [known_gap ranGap]
      exact fresh
    have plain : ∀ index, between.scope.role ≠ .condition index := by
      rw [gap.role]
      exact plain
    obtain ⟨t, ranText⟩ := Progress.exists_run_spliced (s := between) forward.unflagged fresh plain
      ran (gap.flags.trans flags) forward.settled (.inr (forward.straight slot))
    obtain ⟨ps, same, closed, parts, pattern⟩ := Progress.run_behind forward.unflagged fresh plain
      ran (gap.flags.trans flags) (movable_of_settled forward.settled) balanced ranText
      (gap.parts_ne_nil some) (forward.straight slot)
    have body : x.body {} = alone.scope.toPattern alone.widths := by rw [Fragment.body, read]
    rw [← body] at pattern
    have gapAdds : s.Adds (Gapped pending) between := by
      refine ⟨_, gap, ?_, ?_⟩
      · rw [flags]
        cases pending <;> rfl
      · rw [flags]
        exact reaches_gap pending
    have textAdds : between.Adds (x.body {}).Leaves t := by
      refine ⟨ps, ⟨same.outer, same.role, same.flags, closed, parts⟩, ?_, ?_⟩
      · rw [pattern]
        exact forward.behindWidths_shift _
      · rw [pattern]
        exact reaches_shift forward.onward _
    exact ⟨t, Progress.run_append.mpr ⟨between, ranGap, ranText⟩, gapAdds.trans textAdds⟩
  cases x with
  | plain content | unknown name content =>
    obtain ⟨t, ran, adds⟩ := literal rfl
    refine ⟨t, ?_, adds⟩
    change s.run (gapTokens pending ++ (lexemes false content.toList ++ [])) = .ok t
    rw [List.append_nil]
    exact ran
  | field f optional =>
    obtain ⟨t, ran⟩ := exists_run_field pending forward flags fresh
    have extended := extends_tokens (forward.insertable (Option.some_ne_none _)) flags ran
    exact ⟨t, ran, _, extended, behindWidths_field forward _, reaches_field forward _⟩

theorem named_tokens (pending : Bool) (x : Fragment) :
    Progress.named (x.tokens false pending) = x.names := by
  have front : Progress.named (x.frontTokens pending) = [] := by
    cases x with
    | plain | unknown => cases pending <;> rfl
    | field f optional => cases optional <;> cases pending <;> rfl
  have rear : Progress.named (x.rearTokens pending) = [] := by
    cases x with
    | plain | unknown => rfl
    | field f optional => cases optional <;> cases pending <;> rfl
  rw [tokens, Progress.named_append, Progress.named_append, front, rear, List.append_nil]
  rfl

/-- Forward fragments the groups of which have different names can be read, and take the text up to
the end of the line one after the other. -/
theorem exists_run_allTokens (pending : Bool) (forward : ∀ x ∈ xs, x.Forward)
    (flags : s.scope.flags = {}) (plain : ∀ index, s.scope.role ≠ .condition index)
    (some : s.scope.parts ≠ []) (different : (s.known.reverse ++ xs.flatMap names).Nodup) :
    ∃ t R, s.run (allTokens false pending xs) = .ok t ∧ s.Adds R t ∧
      ∀ text, (∃ rest, R text rest) ↔ Fits pending xs text := by
  -- The names known so far, with those still to come, stay the same list from fragment to fragment.
  induction xs generalizing s pending with
  | nil =>
    obtain ⟨t, ran⟩ := exists_run_ending s
    have extended := extends_ending ran
    rw [flags] at extended
    exact ⟨t, Ended, ran, ⟨_, extended, rfl, reaches_ending⟩, fun text => exists_ended_iff⟩
  | cons x xs ih =>
    obtain ⟨here, rests⟩ := List.forall_mem_cons.mp forward
    rw [List.flatMap_cons, ← List.append_assoc] at different
    have fresh : ∀ name ∈ x.names, name ∉ s.known := by
      intro name named known
      have apart := (List.nodup_append.mp (List.nodup_append.mp different).1).2.2
      exact apart name (List.mem_reverse.mpr known) name named rfl
    obtain ⟨between, ranHere, adds⟩ := exists_run_tokens pending here flags plain some fresh
    have known : between.known.reverse = s.known.reverse ++ x.names := by
      rw [Progress.run_names ranHere, named_tokens, List.reverse_append, List.reverse_reverse]
    obtain ⟨ps, extended, adds⟩ := adds
    obtain ⟨t, R, ranRest, addsRest, fits⟩ := ih (x.leaves pending) rests
      (extended.flags.trans flags) (by rw [extended.role]; exact plain)
      (extended.parts_ne_nil some) (by rw [known]; exact different)
    refine ⟨t, _, Progress.run_append.mpr ⟨between, ranHere, ranRest⟩,
      Progress.Adds.trans ⟨ps, extended, adds⟩ addsRest, fun text => ?_⟩
    constructor
    · rintro ⟨rest, mid, taken, left⟩
      exact ⟨mid, taken, (fits mid).mp ⟨rest, left⟩⟩
    · rintro ⟨mid, taken, others⟩
      obtain ⟨rest, left⟩ := (fits mid).mpr others
      exact ⟨rest, mid, taken, left⟩

theorem quiet_tokens (forward : x.Forward) : ∀ y ∈ x.tokens false pending, y.token.quiet := by
  have front : ∀ y ∈ x.frontTokens pending, y.token.quiet := by
    refine List.all_eq_true.mp ?_
    cases x with
    | plain | unknown => cases pending <;> rfl
    | field f optional => cases optional <;> cases pending <;> rfl
  have rear : ∀ y ∈ x.rearTokens pending, y.token.quiet := by
    refine List.all_eq_true.mp ?_
    cases x with
    | plain | unknown => rfl
    | field f optional => cases optional <;> cases pending <;> rfl
  have text : ∀ y ∈ lexemes false x.text.toList, y.token.quiet :=
    fun y member => Token.quiet_of_tame (forward.tame y member)
  exact List.forall_mem_append.mpr ⟨front, List.forall_mem_append.mpr ⟨text, rear⟩⟩

theorem quiet_allTokens (forward : ∀ x ∈ xs, x.Forward) :
    ∀ y ∈ allTokens false pending xs, y.token.quiet := by
  induction xs generalizing pending with
  | nil => exact List.all_eq_true.mp rfl
  | cons x xs ih =>
    obtain ⟨here, rests⟩ := List.forall_mem_cons.mp forward
    exact List.forall_mem_append.mpr ⟨quiet_tokens here, ih rests⟩

theorem lexemes_forward (forward : ∀ x ∈ xs, x.Forward) :
    lexemes false ("^\\s*" ++ allWritten false xs).toList =
      startTokens ++ allTokens false false xs := by
  have standalone : ∀ x ∈ xs, x.Standalone {} := fun x member => (forward x member).standalone
  have cut := lexemes_allWritten false standalone fun x member => (forward x member).unflagged
  have whole := lexemes_pattern standalone
  rw [cut] at whole
  exact whole

theorem named_allTokens (pending : Bool) (xs : List Fragment) :
    Progress.named (allTokens false pending xs) = xs.flatMap names := by
  induction xs generalizing pending with
  | nil => rfl
  | cons x xs ih => rw [allTokens, Progress.named_append, named_tokens, ih, List.flatMap_cons]

/-- The groups of a pattern that can be read have different names. -/
theorem nodup_names (forward : ∀ x ∈ xs, x.Forward) {e : Expression}
    (read : Expression.read {} ("^\\s*" ++ allWritten false xs) = .ok e) :
    (xs.flatMap names).Nodup := by
  obtain ⟨r, ran, _⟩ := Expression.read_eq_ok read
  have nodup := Progress.run_nodup (r := .start {}) List.nodup_nil ran
  have cut : lexemes (PatternFlags.verbose {}) ("^\\s*" ++ allWritten false xs).toList =
      startTokens ++ allTokens false false xs := lexemes_forward forward
  rw [Progress.run_names ran, cut, Progress.named_append, named_allTokens, List.nodup_append] at nodup
  exact List.nodup_reverse.mp nodup.1

theorem outcomes_start (line : List Char) (spans : List (Option Span)) (ps : List Pattern) :
    (sequence (.anchor .textStart :: ps)).outcomes ⟨.start line, spans⟩ =
      (sequence ps).outcomes ⟨.start line, spans⟩ :=
  List.flatMap_singleton ..

/-- Forward fragments the groups of which have different names make an expression. It matches the lines
which, behind blanks, can be taken by the fragments one after the other. -/
theorem exists_read_forward (forward : ∀ x ∈ xs, x.Forward)
    (different : (xs.flatMap names).Nodup) :
    ∃ e, Expression.read {} ("^\\s*" ++ allWritten false xs) = .ok e ∧ ∀ line,
      (e.match? line).isSome ↔ ∃ w mid, Text.Blanks w ∧ line = w ++ mid ∧ Fits false xs mid := by
  obtain ⟨begun, started⟩ : ∃ begun, (Progress.start {}).run startTokens = .ok begun := ⟨_, rfl⟩
  have start : begun.outer = [] ∧ begun.scope = ⟨.whole, 0, {}, [],
      [⟨.again 0 none .greedy (blank {}), .repeated⟩, ⟨.anchor .textStart, .anchor⟩]⟩ ∧
      begun.known = [] := by
    cases started
    exact ⟨rfl, rfl, rfl⟩
  obtain ⟨outer, scope, known⟩ := start
  obtain ⟨last, R, ran, ⟨ps, extended, widths, reaches⟩, fits⟩ :=
    exists_run_allTokens (s := begun) false forward (by rw [scope]) (by rw [scope]; exact nofun)
      (by rw [scope]; exact List.cons_ne_nil _ _) (by rw [known]; exact different)
  have total := Progress.run_append.mpr ⟨begun, started, ran⟩
  rw [← lexemes_forward forward] at total
  have pattern : last.scope.toPattern last.widths =
      .sequence (.anchor .textStart :: .again 0 none .greedy (blank {}) :: ps) := by
    rw [extended.toPattern (by rw [scope]) (by rw [scope]), scope]
    rfl
  have quiet : ∀ y ∈ startTokens ++ allTokens false false xs, y.token.quiet :=
    List.forall_mem_append.mpr ⟨List.all_eq_true.mp rfl, quiet_allTokens forward⟩
  rw [← lexemes_forward forward] at quiet
  obtain ⟨wanted, asked⟩ := Progress.run_asks quiet total
  refine ⟨_, Expression.read_of_run total (extended.outer.trans outer) asked wanted ?_, fun line => ?_⟩
  · rw [pattern]
    exact widths
  · have whole := (reaches_blanks 0).cons reaches
    rw [Expression.match?, Option.isSome_map, run_eq, findSome?_some, pattern, outcomes_start,
      List.isSome_head?]
    constructor
    · intro some
      obtain ⟨found, member⟩ := List.exists_mem_of_ne_nil _ some
      obtain ⟨mid, ⟨w, ⟨blanks, _⟩, split⟩, left⟩ := (whole _ _).mp ⟨found, member, rfl⟩
      exact ⟨w, mid, blanks, split, (fits mid).mp ⟨_, left⟩⟩
    · rintro ⟨w, mid, blanks, split, fitting⟩
      obtain ⟨rest, left⟩ := (fits mid).mpr fitting
      obtain ⟨found, member, _⟩ :=
        (whole ⟨.start line, _⟩ rest).mpr ⟨mid, ⟨w, ⟨blanks, Nat.zero_le _⟩, split⟩, left⟩
      exact List.ne_nil_of_mem member

end Fragment

/-- The grammar of forward fragments matches the lines which, behind blanks, they can take one after the
other. -/
theorem GrammarBuilder.Makes.isSome_match?_iff {xs : List Fragment} {g : Grammar} (made : Makes {} xs g)
    (forward : ∀ x ∈ xs, x.Forward) {line : List Char} : (g.expression.match? line).isSome ↔
      ∃ w mid, Text.Blanks w ∧ line = w ++ mid ∧ Fragment.Fits false xs mid := by
  obtain ⟨e, read, fits⟩ :=
    Fragment.exists_read_forward forward (Fragment.nodup_names forward made.expression)
  obtain rfl : e = g.expression := Except.ok.inj (read.symm.trans made.expression)
  exact fits line

end LineCommand
