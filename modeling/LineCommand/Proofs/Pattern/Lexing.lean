import LineCommand.Proofs.Pattern.Cutting
import LineCommand.Proofs.Pattern.Progress

/-! The tokens of a text in front of another one. A text that can be read by itself, and then as a
part of a longer text, is cut into the same tokens both times. -/
namespace LineCommand.Pattern

/-- Whether no comment is still open where a text ends. -/
def commentsEnd (verbose : List Bool) (skip : Nat) : List Char → Bool
  | [] => true
  | c :: cs =>
    match skip with
    | skip + 1 => commentsEnd verbose skip cs
    | 0 =>
      let found := lexeme (verbose.headD false) c cs
      (!(verbose.headD false && c == '#') || lineCommentEnds cs) &&
        commentsEnd (found.token.nest verbose) (found.size - 1) cs

theorem lexemesFrom_of_le {verbose : List Bool} {skip : Nat} {cs : List Char}
    (past : cs.length ≤ skip) : lexemesFrom verbose skip cs = [] := by
  induction cs generalizing skip with
  | nil => rfl
  | cons c cs ih =>
    cases skip with
    | zero => simp at past
    | succ skip => exact ih (Nat.le_of_succ_le_succ past)

theorem nest_append {verbose : List Bool} (inside : verbose ≠ []) (token : Token)
    (outer : List Bool) : token.nest (verbose ++ outer) = token.nest verbose ++ outer := by
  cases verbose with
  | nil => contradiction
  | cons v verbose => cases token <;> rfl

/-- Only flags for the whole text change what holds at its outermost level. -/
theorem getLast?_nest {verbose : List Bool} {token : Token} (inside : token.nest verbose ≠ [])
    (plain : ∀ on, token ≠ .flags on) (start : verbose ≠ []) :
    (token.nest verbose).getLast? = verbose.getLast? := by
  cases verbose with
  | nil => contradiction
  | cons v verbose =>
    cases token with
    | flags on => exact absurd rfl (plain on)
    | close =>
      cases verbose with
      | nil => contradiction
      | cons w verbose => rfl
    | _ => rfl

theorem lineCommentSize_of_open {cs : List Char} (still : lineCommentEnds cs = false) :
    lineCommentSize cs = cs.length := by
  induction cs using lineCommentSize.induct with
  | case1 => rfl
  | case2 c cs ih =>
    rw [lineCommentEnds] at still
    rw [lineCommentSize, ih still, List.length_cons, List.length_cons]
  | case3 cs _ => simp [lineCommentEnds] at still
  | case4 c cs single other ih =>
    rw [lineCommentEnds.eq_3 c cs single, Bool.or_eq_false_iff] at still
    rw [lineCommentSize.eq_3 c cs single, if_neg other, ih still.2, List.length_cons]

/-- A comment that is open at the end of a text stands at a level where comments are admitted; so
does the end. -/
theorem lexeme_of_open {cs : List Char} (still : lineCommentEnds cs = false) :
    lexeme true '#' cs = ⟨.nothing, 1 + cs.length⟩ := by
  rw [← lineCommentSize_of_open still]
  rfl

/-- Where all parentheses are closed there is one level. -/
theorem Progress.verbosity_of_balanced {r : Progress} (balanced : r.outer = []) {bottom : Bool}
    (below : r.verbosity.getLast? = some bottom) : r.verbosity = [bottom] := by
  rw [Progress.verbosity, balanced] at below ⊢
  simpa using below

/-- In a text that can be read alone, a comment still open at the end leaves nothing more to read. So
it stands at the outermost level, where comments are then admitted. -/
theorem lineCommentEnds_of_run {verbose : List Bool} {c : Char} {cs : List Char} {r r' : Progress}
    (level : verbose = r.verbosity) (alone : r.run (lexemesFrom verbose 0 (c :: cs)) = .ok r')
    (balanced : r'.outer = []) {bottom : Bool} (below : verbose.getLast? = some bottom)
    (ends : bottom = false ∨ commentsEnd verbose 0 (c :: cs)) (admitted : verbose.headD false = true)
    (comment : c = '#') : lineCommentEnds cs := by
  subst comment
  cases still : lineCommentEnds cs with
  | true => rfl
  | false =>
    obtain rfl | ends := ends
    · simp only [lexemesFrom, admitted, lexeme_of_open still] at alone
      obtain ⟨between, stepped, alone⟩ := Progress.run_cons.mp alone
      rw [lexemesFrom_of_le (Nat.le_of_eq (by simp))] at alone
      cases alone
      have same : verbose = r'.verbosity := by
        rw [(Progress.step_took stepped).verbosity, ← level]
        rfl
      rw [same] at below admitted
      rw [Progress.verbosity_of_balanced balanced below] at admitted
      cases admitted
    · simp only [commentsEnd, admitted, still] at ends
      simp at ends

/-- What is read alone is cut alike as a part of a longer text, in front of a text apart, if no token
of it sets flags for the whole. `Goes` is how that is known from the tokens still to come, those of
the text alone and those of the longer text. -/
theorem lexemesFrom_append_of {Goes : List Lexeme → List Lexeme → Prop}
    (goes : ∀ {x xs ys}, Goes (x :: xs) (x :: ys) → (∀ on, x.token ≠ .flags on) ∧ Goes xs ys)
    {verbose outer : List Bool} {skip : Nat} {cs rest : List Char} {r r' : Progress}
    (level : verbose = r.verbosity) (within : skip ≤ cs.length) (apart : Apart rest)
    (alone : r.run (lexemesFrom verbose skip cs) = .ok r') (balanced : r'.outer = [])
    (both : Goes (lexemesFrom verbose skip cs) (lexemesFrom (verbose ++ outer) skip (cs ++ rest)))
    {bottom : Bool} (below : verbose.getLast? = some bottom)
    (ends : bottom = false ∨ commentsEnd verbose skip cs) :
    lexemesFrom (verbose ++ outer) skip (cs ++ rest) =
      lexemesFrom verbose skip cs ++ lexemesFrom (bottom :: outer) 0 rest := by
  have inside : verbose ≠ [] := by
    rw [level]
    exact List.cons_ne_nil _ _
  induction cs generalizing verbose skip r with
  | nil =>
    obtain rfl : skip = 0 := Nat.le_zero.mp within
    cases alone
    rw [level] at below ⊢
    rw [Progress.verbosity_of_balanced balanced below]
    rfl
  | cons c cs ih =>
    cases skip with
    | succ skip =>
      exact ih level (Nat.le_of_succ_le_succ within) alone both below ends inside
    | zero =>
      have head : (verbose ++ outer).headD false = verbose.headD false := by
        cases verbose with
        | nil => contradiction
        | cons v verbose => rfl
      have closed := lineCommentEnds_of_run level alone balanced below ends
      simp only [lexemesFrom, List.cons_append, head] at alone both ⊢
      obtain ⟨between, stepped, alone⟩ := Progress.run_cons.mp alone
      have took := Progress.step_took stepped
      obtain ⟨fits, same⟩ := lexeme_settled took.sound closed
      rw [same rest apart] at both ⊢
      rw [nest_append inside] at both ⊢
      obtain ⟨plain, both⟩ := goes both
      have levelNext :
          (lexeme (verbose.headD false) c cs).token.nest verbose = between.verbosity := by
        rw [took.verbosity, ← level]
      have insideNext : (lexeme (verbose.headD false) c cs).token.nest verbose ≠ [] := by
        rw [levelNext]
        exact List.cons_ne_nil _ _
      refine congrArg _ (ih levelNext (by omega) alone both ?_ ?_ insideNext)
      · rw [getLast?_nest insideNext plain inside, below]
      · refine ends.imp_right fun ends => ?_
        simp only [commentsEnd, Bool.and_eq_true] at ends
        exact ends.2

section

variable {verbose outer : List Bool} {skip : Nat} {cs rest : List Char} {r r' s s' : Progress}
  (level : verbose = r.verbosity) (within : skip ≤ cs.length) (apart : Apart rest)
  (alone : r.run (lexemesFrom verbose skip cs) = .ok r') (balanced : r'.outer = [])
  {bottom : Bool} (below : verbose.getLast? = some bottom)
  (ends : bottom = false ∨ commentsEnd verbose skip cs)
include level within apart alone balanced below ends

/-- What is read alone, and then as a part of a longer text, is cut alike both times. -/
theorem lexemesFrom_append (begun : s.Begun)
    (spliced : s.run (lexemesFrom (verbose ++ outer) skip (cs ++ rest)) = .ok s') :
    lexemesFrom (verbose ++ outer) skip (cs ++ rest) =
      lexemesFrom verbose skip cs ++ lexemesFrom (bottom :: outer) 0 rest := by
  let Goes : List Lexeme → List Lexeme → Prop := fun _ ys =>
    ∃ s : Progress, s.Begun ∧ s.run ys = .ok s'
  have goes : ∀ {x xs ys}, Goes (x :: xs) (x :: ys) → (∀ on, x.token ≠ .flags on) ∧ Goes xs ys := by
    rintro x xs ys ⟨s, begun, ran⟩
    obtain ⟨next, followed, ran⟩ := Progress.run_cons.mp ran
    obtain ⟨goesOn, plain⟩ := (Progress.step_took followed).begun begun
    exact ⟨plain, next, goesOn, ran⟩
  exact lexemesFrom_append_of goes level within apart alone balanced ⟨s, begun, spliced⟩ below ends

/-- Where no token sets flags for the whole, what is read alone is cut alike in a longer text. -/
theorem lexemesFrom_append_unflagged
    (unflagged : ∀ x ∈ lexemesFrom verbose skip cs, ∀ on, x.token ≠ .flags on) :
    lexemesFrom (verbose ++ outer) skip (cs ++ rest) =
      lexemesFrom verbose skip cs ++ lexemesFrom (bottom :: outer) 0 rest := by
  let Goes : List Lexeme → List Lexeme → Prop := fun xs _ => ∀ x ∈ xs, ∀ on, x.token ≠ .flags on
  have goes : ∀ {x xs ys}, Goes (x :: xs) (x :: ys) → (∀ on, x.token ≠ .flags on) ∧ Goes xs ys :=
    fun unflagged => List.forall_mem_cons.mp unflagged
  exact lexemesFrom_append_of goes level within apart alone balanced unflagged below ends

end

/-! ### Single tokens

Characters that are for the eye only, or start a comment, are none of those that follow. -/

section

variable (verbose : Bool) (cs : List Char)

@[simp] theorem lexeme_backslash : lexeme verbose '\\' cs = escape cs := by cases verbose <;> rfl

@[simp] theorem lexeme_star : lexeme verbose '*' cs = repetition 0 none 1 cs := by
  cases verbose <;> rfl

@[simp] theorem lexeme_plus : lexeme verbose '+' cs = repetition 1 none 1 cs := by
  cases verbose <;> rfl

@[simp] theorem lexeme_question : lexeme verbose '?' cs = repetition 0 (some 1) 1 cs := by
  cases verbose <;> rfl

@[simp] theorem lexeme_caret : lexeme verbose '^' cs = ⟨.lineStart, 1⟩ := by cases verbose <;> rfl

@[simp] theorem lexeme_dollar : lexeme verbose '$' cs = ⟨.lineEnd, 1⟩ := by cases verbose <;> rfl

@[simp] theorem lexeme_bar : lexeme verbose '|' cs = ⟨.bar, 1⟩ := by cases verbose <;> rfl

@[simp] theorem lexeme_open : lexeme verbose '(' cs = opening cs := by cases verbose <;> rfl

@[simp] theorem lexeme_close : lexeme verbose ')' cs = ⟨.close, 1⟩ := by cases verbose <;> rfl

end

/-- A text that does not change the manner of a repetition in front of it. -/
def Unmarked (cs : List Char) : Prop := cs.head? ≠ some '?' ∧ cs.head? ≠ some '+'

theorem Unmarked.manner {cs : List Char} (unmarked : Unmarked cs) : manner cs = (.greedy, 0) := by
  unfold Pattern.manner
  split
  · exact absurd rfl unmarked.1
  · exact absurd rfl unmarked.2
  · rfl

theorem Unmarked.repetition {cs : List Char} (unmarked : Unmarked cs) (low : Nat)
    (high : Option Nat) (size : Nat) :
    repetition low high size cs = ⟨.again low high .greedy, size⟩ := by
  rw [Pattern.repetition, unmarked.manner]
  rfl

theorem Apart.unmarked {cs : List Char} (apart : Apart cs) : Unmarked cs := by
  constructor
  all_goals
    intro marked
    obtain h | h | h := apart _ marked
    all_goals cases h

/-- A text that can be read does not start with the mark of a repetition. -/
theorem unmarked_of_read {flags : PatternFlags} {source : String} {e : Expression}
    (read : Expression.read flags source = .ok e) : Unmarked source.toList := by
  obtain ⟨r, ran, _, _⟩ := Expression.read_eq_ok read
  constructor
  all_goals
    intro marked
    cases text : source.toList with
    | nil =>
      rw [text] at marked
      cases marked
    | cons c cs =>
      rw [text] at marked ran
      cases marked
      simp only [lexemes, lexemesFrom, lexeme_question, lexeme_plus, repetition] at ran
      obtain ⟨between, stepped, _⟩ := Progress.run_cons.mp ran
      cases stepped

/-! ### Text without a special meaning -/

def metacharacters : List Char := ['\\', '[', '*', '+', '?', '{', '.', '^', '$', '|', '(', ')']

/-- A text without characters with a special meaning. -/
def Plain (cs : List Char) : Prop := ∀ c ∈ cs, c ∉ metacharacters

-- Decided over the text, and not over all characters that there are.
instance (cs : List Char) : Decidable (Plain cs) := List.decidableBAll _ cs

def literals (cs : List Char) : List Lexeme := cs.map fun c => ⟨.literal c.toNat, 1⟩

theorem lexemesFrom_cons_literal {c : Char} {cs : List Char}
    (token : lexeme false c cs = ⟨.literal c.toNat, 1⟩) :
    lexemesFrom [false] 0 (c :: cs) = ⟨.literal c.toNat, 1⟩ :: lexemesFrom [false] 0 cs := by
  simp only [lexemesFrom, List.headD_cons, token, Token.nest, Nat.sub_self]

/-- Characters without a special meaning are tokens by themselves, whatever follows. -/
theorem lexemesFrom_plain_append {cs : List Char} (plain : Plain cs) (rest : List Char) :
    lexemesFrom [false] 0 (cs ++ rest) = literals cs ++ lexemesFrom [false] 0 rest := by
  induction cs with
  | nil => rfl
  | cons c cs ih =>
    obtain ⟨here, rests⟩ := List.forall_mem_cons.mp plain
    have token : lexeme false c (cs ++ rest) = ⟨.literal c.toNat, 1⟩ := by
      unfold lexeme
      simp only [Bool.false_and, Bool.false_eq_true, if_false]
      split <;> first | rfl | exact absurd (by decide) here
    rw [List.cons_append, lexemesFrom_cons_literal token, ih rests]
    rfl

theorem lexemes_plain {cs : List Char} (plain : Plain cs) :
    lexemes false cs = literals cs := by
  have whole := lexemesFrom_plain_append plain []
  rwa [List.append_nil, lexemesFrom, List.append_nil] at whole

/-- What is left of the start of reading after characters that stand for themselves. -/
structure Progress.Flat (r : Progress) : Prop where
  outer : r.outer = []
  role : r.scope.role = .whole
  closed : r.scope.closed = []
  parts : ∀ part ∈ r.scope.parts, part.pattern.behindWidths = []
  asked : r.unicodeAsked = false
  wanted : r.wanted = []

theorem Progress.Flat.run_literals {r : Progress} (flat : r.Flat) (cs : List Char) :
    ∃ next, r.run (literals cs) = .ok next ∧ next.Flat := by
  induction cs generalizing r with
  | nil => exact ⟨r, rfl, flat⟩
  | cons c cs ih =>
    let between : Progress :=
      { r.add (r.scope.set [.code c.toNat] false) with position := r.position + 1 }
    have kept : between.Flat := ⟨flat.outer, flat.role, flat.closed,
      List.forall_mem_cons.mpr ⟨rfl, flat.parts⟩, flat.asked, flat.wanted⟩
    obtain ⟨next, ran, ended⟩ := ih kept
    exact ⟨next, run_cons.mpr ⟨between, rfl, ran⟩, ended⟩

theorem behindWidths_sequence {ps : List Pattern} (none : ∀ p ∈ ps, p.behindWidths = []) :
    (sequence ps).behindWidths = [] := by
  induction ps with
  | nil => rfl
  | cons p ps ih =>
    obtain ⟨here, rests⟩ := List.forall_mem_cons.mp none
    exact List.append_eq_nil_iff.mpr ⟨here, ih rests⟩

/-- Text that is cut into single characters is a pattern. -/
theorem exists_read_literals {flags : PatternFlags} {source : String}
    (cut : lexemes flags.verbose source.toList = literals source.toList) :
    ∃ e, Expression.read flags source = .ok e := by
  have start : (Progress.start flags).Flat := ⟨rfl, rfl, rfl, nofun, rfl, rfl⟩
  obtain ⟨r, ran, flat⟩ := start.run_literals source.toList
  have widths : (r.scope.toPattern r.widths).behindWidths = [] := by
    rw [Scope.toPattern, flat.role]
    dsimp only
    rw [Scope.alternatives, flat.closed]
    refine behindWidths_sequence fun p member => ?_
    obtain ⟨part, listed, rfl⟩ := List.mem_map.mp member
    exact flat.parts part (List.mem_reverse.mp listed)
  rw [← cut] at ran
  exact ⟨_, Expression.read_of_run ran flat.outer flat.asked flat.wanted widths⟩

/-- Text without a special meaning is a pattern. -/
theorem exists_read_plain {flags : PatternFlags} (verbose : flags.verbose = false) {source : String}
    (plain : Plain source.toList) :
    ∃ e, Expression.read flags source = .ok e :=
  exists_read_literals (by rw [verbose]; exact lexemes_plain plain)

/-! ### Braces -/

/-- Whether a text between braces names the bounds of a repetition: a number, or two numbers with a comma
between them, each of which may be missing. -/
def isBounds (cs : List Char) : Bool := (secondBound (cs.dropWhile isAsciiDigit)).2.2.isEmpty

theorem dropWhile_append_of_head {p : Char → Bool} {c : Char} (stops : p c = false)
    (cs rest : List Char) : (cs ++ c :: rest).dropWhile p = cs.dropWhile p ++ c :: rest := by
  rw [List.dropWhile_append]
  split
  case isTrue none =>
    rw [List.isEmpty_iff.mp none, List.dropWhile_cons_of_neg (by simp [stops]), List.nil_append]
  case isFalse => rfl

/-- A brace that closes is neither a digit nor a comma, so what is read as bounds ends in front of it. -/
theorem secondBound_append_brace (cs rest : List Char) :
    (secondBound (cs ++ '}' :: rest)).2.2 = (secondBound cs).2.2 ++ '}' :: rest := by
  cases cs with
  | nil => rfl
  | cons c cs =>
    by_cases comma : c = ','
    · subst comma
      exact dropWhile_append_of_head (by decide) cs rest
    · rw [List.cons_append, secondBound, secondBound]
      · rfl
      all_goals
        rintro _ ⟨⟩
        exact comma rfl

theorem secondBound_suffix (cs : List Char) : (secondBound cs).2.2 <:+ cs := by
  unfold secondBound
  split
  · exact (List.dropWhile_suffix _).trans (List.suffix_cons ..)
  · exact List.suffix_rfl

theorem boundsEnd_of_ne {low high cs : List Char} {comma : Nat} (other : cs.head? ≠ some '}') :
    boundsEnd low comma high cs = ⟨.literal 123, 1⟩ := by
  unfold boundsEnd
  split
  · exact absurd rfl other
  · rfl

theorem head?_append_ne {c : Char} {cs : List Char} (some : cs ≠ []) (apart : c ∉ cs)
    (rest : List Char) : (cs ++ rest).head? ≠ Option.some c := by
  obtain ⟨d, cs, rfl⟩ := List.exists_cons_of_ne_nil some
  rintro ⟨⟩
  exact apart List.mem_cons_self

theorem braces_of_free {cs : List Char} (some : cs ≠ []) (closed : '}' ∉ cs)
    (free : isBounds cs = false) (rest : List Char) :
    braces (cs ++ '}' :: rest) = ⟨.literal 123, 1⟩ := by
  have kept : (secondBound (cs.dropWhile isAsciiDigit)).2.2 <:+ cs :=
    (secondBound_suffix _).trans (List.dropWhile_suffix _)
  have behind : (secondBound ((cs ++ '}' :: rest).dropWhile isAsciiDigit)).2.2.head? ≠
      Option.some '}' := by
    rw [dropWhile_append_of_head (by decide), secondBound_append_brace]
    exact head?_append_ne (by simpa [isBounds] using free) (fun member => closed (kept.mem member)) _
  rw [braces, if_neg (head?_append_ne some closed _)]
  exact boundsEnd_of_ne behind

/-- Double braces around a text without a special meaning stand for themselves, unless the text is read
as bounds. -/
theorem lexemes_braced {cs : List Char} (some : cs ≠ []) (plain : Plain cs) (closed : '}' ∉ cs)
    (free : isBounds cs = false) :
    lexemes false ('{' :: '{' :: (cs ++ ['}', '}'])) = literals ('{' :: '{' :: (cs ++ ['}', '}'])) := by
  have ending : lexemesFrom [false] 0 ['}', '}'] = literals ['}', '}'] := lexemes_plain (by decide)
  have second : lexeme false '{' (cs ++ ['}', '}']) = ⟨.literal 123, 1⟩ :=
    braces_of_free some closed free _
  rw [lexemes, lexemesFrom_cons_literal, lexemesFrom_cons_literal second,
    lexemesFrom_plain_append plain, ending]
  · simp [literals]
  · rfl

end LineCommand.Pattern
