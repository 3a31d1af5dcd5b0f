import LineCommand.Proofs.Grammar.Fragments
import LineCommand.Proofs.Pattern.Lexing

/-! How the pattern for a template is read: every fragment is cut into the tokens that it is cut
into by itself, between tokens that are the same for all fragments of its kind. -/
namespace LineCommand
open Pattern

namespace Fragment

/-- A fragment that is a pattern by itself, with no comment open at its end. -/
structure Standalone (flags : PatternFlags) (x : Fragment) : Prop where
  reads : ∃ e, Expression.read flags x.text = .ok e
  ends : flags.verbose = true → commentsEnd [true] 0 x.text.toList

def front (pending : Bool) : Fragment → String
  | .field _ false => gap pending ++ "("
  | .field _ true => "(?:" ++ gap pending ++ "("
  | _ => gap pending

def rear (pending : Bool) : Fragment → String
  | .field _ false => ")"
  | .field _ true => if pending then "))?" else ")(?:\\s+|(?=\\s*$)))?"
  | _ => ""

theorem written_eq (pending : Bool) (x : Fragment) :
    x.written pending = x.front pending ++ x.text ++ x.rear pending := by
  cases x with
  | plain content | unknown name content => simp [written, front, text, rear]
  | field f optional =>
    cases optional <;> cases pending <;>
      simp [written, front, text, rear, gap, Assembly.separator, String.append_assoc]

/-! ### Tokens around a fragment -/

def blankToken : Lexeme := ⟨.set [.kind .blank false] false, 2⟩

def gapTokens (pending : Bool) : List Lexeme :=
  if pending then [blankToken, ⟨.again 1 none .greedy, 1⟩] else []

def endTokens : List Lexeme := [blankToken, ⟨.again 0 none .greedy, 1⟩, ⟨.lineEnd, 1⟩]

/-- The tokens of what keeps a field that may be left out apart from the text behind it, where no
separator stands before it. -/
def apartTokens : List Lexeme :=
  ⟨.openPlain, 3⟩ :: gapTokens true ++ ⟨.bar, 1⟩ :: ⟨.openLook false false, 3⟩ :: endTokens ++
    [⟨.close, 1⟩, ⟨.close, 1⟩]

def frontTokens (pending : Bool) : Fragment → List Lexeme
  | .field _ false => gapTokens pending ++ [⟨.openGroup none, 1⟩]
  | .field _ true => ⟨.openPlain, 3⟩ :: gapTokens pending ++ [⟨.openGroup none, 1⟩]
  | _ => gapTokens pending

def rearTokens (pending : Bool) : Fragment → List Lexeme
  | .field _ false => [⟨.close, 1⟩]
  | .field _ true =>
    ⟨.close, 1⟩ :: (if pending then [] else apartTokens) ++
      [⟨.close, 1⟩, ⟨.again 0 (some 1) .greedy, 1⟩]
  | _ => []

/-- How many parentheses are open around the text of a fragment. -/
def depth : Fragment → Nat
  | .field _ false => 1
  | .field _ true => 2
  | _ => 0

variable {verbose : Bool}

theorem lexemes_gap (pending : Bool) {outer : List Bool} {rest : List Char}
    (unmarked : Unmarked rest) :
    lexemesFrom (verbose :: outer) 0 ((gap pending).toList ++ rest) =
      gapTokens pending ++ lexemesFrom (verbose :: outer) 0 rest := by
  cases pending with
  | false => rfl
  | true =>
    simp [gap, Assembly.separator, gapTokens, lexemesFrom, escape, kindEscape?,
      unmarked.repetition, Token.nest, blankToken]

theorem lexemes_open {outer : List Bool} {rest : List Char} (unmarked : Unmarked rest) :
    lexemesFrom (verbose :: outer) 0 ('(' :: rest) =
      ⟨.openGroup none, 1⟩ :: lexemesFrom (verbose :: verbose :: outer) 0 rest := by
  simp [lexemesFrom, opening_plain unmarked.1, Token.nest]

theorem lexemes_front (pending : Bool) (x : Fragment) {rest : List Char}
    (unmarked : Unmarked rest) :
    lexemesFrom [verbose] 0 ((x.front pending).toList ++ rest) =
      x.frontTokens pending ++ lexemesFrom (verbose :: List.replicate x.depth verbose) 0 rest := by
  have marked : Unmarked ('(' :: rest) := ⟨by simp, by simp⟩
  have one : "(".toList = ['('] := rfl
  have two : "(?:".toList = ['(', '?', ':'] := rfl
  cases x with
  | plain | unknown => exact lexemes_gap pending unmarked
  | field f optional =>
    cases optional with
    | false =>
      rw [front, String.toList_append, one, List.append_assoc, List.singleton_append,
        lexemes_gap pending marked, lexemes_open unmarked, frontTokens, List.append_assoc]
      rfl
    | true =>
      have plain : ∀ cs, lexemesFrom [verbose] 0 ('(' :: '?' :: ':' :: cs) =
          ⟨.openPlain, 3⟩ :: lexemesFrom [verbose, verbose] 0 cs := by
        intro cs
        simp [lexemesFrom, opening, Token.nest]
      rw [front, String.toList_append, String.toList_append, one, two, List.append_assoc,
        List.append_assoc, List.singleton_append]
      simp only [List.cons_append, List.nil_append]
      rw [plain, lexemes_gap pending marked, lexemes_open unmarked, frontTokens]
      simp [depth, List.replicate]

theorem lexemes_rear (pending : Bool) (x : Fragment) {rest : List Char} (unmarked : Unmarked rest) :
    lexemesFrom (verbose :: List.replicate x.depth verbose) 0 ((x.rear pending).toList ++ rest) =
      x.rearTokens pending ++ lexemesFrom [verbose] 0 rest := by
  cases x with
  | plain | unknown => rfl
  | field f optional =>
    cases optional with
    | false => simp [rear, rearTokens, depth, lexemesFrom, Token.nest]
    | true =>
      cases pending with
      | true =>
        simp [rear, rearTokens, depth, lexemesFrom, Token.nest, unmarked.repetition, List.replicate]
      | false =>
        have bar : ∀ cs, Unmarked ('|' :: cs) := fun cs => ⟨by simp, by simp⟩
        have dollar : ∀ cs, Unmarked ('$' :: cs) := fun cs => ⟨by simp, by simp⟩
        simp [rear, rearTokens, depth, lexemesFrom, Token.nest, unmarked.repetition,
          (bar _).repetition, (dollar _).repetition, List.replicate, opening, escape, kindEscape?,
          apartTokens, gapTokens, endTokens, blankToken]

/-! ### Tokens of a fragment -/

def tokens (verbose pending : Bool) (x : Fragment) : List Lexeme :=
  x.frontTokens pending ++ (lexemes verbose x.text.toList ++ x.rearTokens pending)

def allTokens (verbose pending : Bool) : List Fragment → List Lexeme
  | [] => endTokens
  | x :: xs => x.tokens verbose pending ++ allTokens verbose (x.leaves pending) xs

def startTokens : List Lexeme := [⟨.lineStart, 1⟩, blankToken, ⟨.again 0 none .greedy, 1⟩]

variable {flags : PatternFlags} {pending : Bool}

theorem Standalone.unmarked {x : Fragment} (standalone : x.Standalone flags) :
    Unmarked x.text.toList := by
  obtain ⟨e, read⟩ := standalone.reads
  exact unmarked_of_read read

theorem Standalone.cut {x : Fragment} (standalone : x.Standalone flags) :
    ∃ alone, (Progress.start flags).run (lexemes flags.verbose x.text.toList) = .ok alone ∧
      alone.outer = [] ∧
      (flags.verbose = false ∨ commentsEnd [flags.verbose] 0 x.text.toList) := by
  obtain ⟨e, read⟩ := standalone.reads
  obtain ⟨alone, ran, balanced, _⟩ := Expression.read_eq_ok read
  refine ⟨alone, ran, balanced, ?_⟩
  cases verbose : flags.verbose with
  | false => exact .inl rfl
  | true => exact .inr (standalone.ends verbose)

/-! ### Groups of a fragment -/

/-- How many groups the text of a fragment has by itself. -/
def own (flags : PatternFlags) (x : Fragment) : Nat :=
  match Expression.read flags x.text with
  | .ok e => e.groups
  | .error _ => 0

def groups (flags : PatternFlags) (x : Fragment) : Nat := x.slot?.toList.length + x.own flags

theorem opens_front (pending : Bool) (x : Fragment) :
    Progress.opens (x.frontTokens pending) = x.slot?.toList.length := by
  cases x with
  | plain | unknown => cases pending <;> rfl
  | field f optional => cases optional <;> cases pending <;> rfl

theorem opens_rear (pending : Bool) (x : Fragment) : Progress.opens (x.rearTokens pending) = 0 := by
  cases x with
  | plain | unknown => rfl
  | field f optional => cases optional <;> cases pending <;> rfl

theorem opens_text {x : Fragment} (standalone : x.Standalone flags) :
    Progress.opens (lexemes flags.verbose x.text.toList) = x.own flags := by
  obtain ⟨e, read⟩ := standalone.reads
  rw [own, read]
  exact (Expression.groups_of_read read).symm

theorem opens_tokens {x : Fragment} (standalone : x.Standalone flags) {pending : Bool} :
    Progress.opens (x.tokens flags.verbose pending) = x.groups flags := by
  rw [tokens, Progress.opens_append, Progress.opens_append, opens_front, opens_text standalone,
    opens_rear, groups, Nat.add_zero]

theorem opens_allTokens {xs : List Fragment} (standalone : ∀ x ∈ xs, x.Standalone flags)
    (pending : Bool) :
    Progress.opens (allTokens flags.verbose pending xs) = (xs.map (groups flags)).sum := by
  induction xs generalizing pending with
  | nil => rfl
  | cons x xs ih =>
    obtain ⟨here, rests⟩ := List.forall_mem_cons.mp standalone
    rw [allTokens, Progress.opens_append, opens_tokens here, ih rests, List.map_cons, List.sum_cons]

/-! ### Tokens of a pattern -/

theorem apart_backslash (cs : List Char) : Apart ('\\' :: cs) := by
  rintro c ⟨⟩
  exact .inl rfl

theorem apart_open (cs : List Char) : Apart ('(' :: cs) := by
  rintro c ⟨⟩
  exact .inr (.inl rfl)

theorem apart_close (cs : List Char) : Apart (')' :: cs) := by
  rintro c ⟨⟩
  exact .inr (.inr rfl)

theorem unmarked_append {cs rest : List Char} (here : Unmarked cs) (there : Unmarked rest) :
    Unmarked (cs ++ rest) := by
  cases cs with
  | nil => exact there
  | cons c cs => exact here

/-- After a fragment that leaves a separator pending, the text goes on apart from it. -/
theorem apart_allWritten (xs : List Fragment) : Apart (allWritten true xs).toList := by
  have separator : (gap true).toList = ['\\', 's', '+'] := rfl
  have plain : "(?:".toList = ['(', '?', ':'] := rfl
  cases xs with
  | nil => exact apart_backslash ['s', '*', '$']
  | cons x xs =>
    rw [allWritten, written_eq, String.append_assoc, String.append_assoc, String.toList_append]
    cases x with
    | plain | unknown =>
      simp only [front, separator]
      exact apart_backslash _
    | field f optional =>
      cases optional with
      | false =>
        simp only [front, String.toList_append, separator]
        exact apart_backslash _
      | true =>
        simp only [front, String.toList_append, plain]
        exact apart_open _

theorem unmarked_allWritten {xs : List Fragment} (standalone : ∀ x ∈ xs, x.Standalone flags)
    (pending : Bool) : Unmarked (allWritten pending xs).toList := by
  have one : "(".toList = ['('] := rfl
  have plain : "(?:".toList = ['(', '?', ':'] := rfl
  cases pending with
  | true => exact (apart_allWritten xs).unmarked
  | false =>
    cases xs with
    | nil => exact (apart_backslash ['s', '*', '$']).unmarked
    | cons x xs =>
      have text := (standalone x List.mem_cons_self).unmarked
      rw [allWritten, written_eq, String.append_assoc, String.append_assoc, String.toList_append,
        String.toList_append]
      cases x with
      | plain content | unknown name content =>
        rw [String.toList_append]
        refine unmarked_append ⟨?_, ?_⟩ (unmarked_append text (apart_allWritten xs).unmarked)
        · simp [front, gap]
        · simp [front, gap]
      | field f optional =>
        cases optional with
        | false =>
          simp only [front, String.toList_append, one]
          exact (apart_open _).unmarked
        | true =>
          simp only [front, String.toList_append, plain]
          exact (apart_open _).unmarked

theorem apart_rear {pending : Bool} {x : Fragment} {rest : List Char}
    (apart : x.depth = 0 → Apart rest) : Apart ((x.rear pending).toList ++ rest) := by
  cases x with
  | plain | unknown => exact apart rfl
  | field f optional =>
    have closed : ∃ more, (rear pending (.field f optional)).toList = ')' :: more := by
      cases optional <;> cases pending <;> simp [rear]
    obtain ⟨more, text⟩ := closed
    rw [text]
    exact apart_close _

section Written

variable {pending : Bool} {x : Fragment} {rest : List Char}

/-- Where the text of a fragment is cut as it is cut alone, the fragment is cut into its tokens. -/
theorem lexemes_written_of (standalone : x.Standalone flags) (unmarked : Unmarked rest)
    (apart : x.depth = 0 → Apart rest)
    (cut : lexemesFrom (flags.verbose :: List.replicate x.depth flags.verbose) 0
        (x.text.toList ++ ((x.rear pending).toList ++ rest)) =
      lexemes flags.verbose x.text.toList ++
        lexemesFrom (flags.verbose :: List.replicate x.depth flags.verbose) 0
          ((x.rear pending).toList ++ rest)) :
    lexemesFrom [flags.verbose] 0 ((x.written pending).toList ++ rest) =
      x.tokens flags.verbose pending ++ lexemesFrom [flags.verbose] 0 rest := by
  have behind : Apart ((x.rear pending).toList ++ rest) := apart_rear apart
  rw [written_eq, String.toList_append, String.toList_append, List.append_assoc, List.append_assoc,
    lexemes_front pending x (unmarked_append standalone.unmarked behind.unmarked), cut,
    lexemes_rear pending x unmarked, tokens, List.append_assoc, List.append_assoc]

/-- A fragment that is read as a part of a pattern is cut into its own tokens. -/
theorem lexemes_written_of_run {s last : Progress} (standalone : x.Standalone flags)
    (begun : s.Begun) (unmarked : Unmarked rest) (apart : x.depth = 0 → Apart rest)
    (ran : s.run (lexemesFrom [flags.verbose] 0 ((x.written pending).toList ++ rest)) = .ok last) :
    lexemesFrom [flags.verbose] 0 ((x.written pending).toList ++ rest) =
      x.tokens flags.verbose pending ++ lexemesFrom [flags.verbose] 0 rest := by
  have behind : Apart ((x.rear pending).toList ++ rest) := apart_rear apart
  rw [written_eq, String.toList_append, String.toList_append, List.append_assoc, List.append_assoc,
    lexemes_front pending x (unmarked_append standalone.unmarked behind.unmarked)] at ran
  obtain ⟨inner, opened, ran⟩ := Progress.run_append.mp ran
  obtain ⟨alone, ranAlone, balanced, ends⟩ := standalone.cut
  refine lexemes_written_of standalone unmarked apart ?_
  exact lexemesFrom_append rfl (Nat.zero_le _) behind ranAlone balanced rfl ends
    (Progress.run_begun begun opened) ran

theorem lexemes_written (standalone : x.Standalone flags)
    (unflagged : ∀ y ∈ lexemes flags.verbose x.text.toList, ∀ on, y.token ≠ .flags on)
    (unmarked : Unmarked rest) (apart : x.depth = 0 → Apart rest) :
    lexemesFrom [flags.verbose] 0 ((x.written pending).toList ++ rest) =
      x.tokens flags.verbose pending ++ lexemesFrom [flags.verbose] 0 rest := by
  obtain ⟨alone, ranAlone, balanced, ends⟩ := standalone.cut
  refine lexemes_written_of standalone unmarked apart ?_
  exact lexemesFrom_append_unflagged rfl (Nat.zero_le _) (apart_rear apart) ranAlone balanced rfl ends
    unflagged

end Written

theorem lexemes_end : lexemesFrom [flags.verbose] 0 (allWritten pending []).toList = endTokens := by
  have text : (allWritten pending []).toList = ['\\', 's', '*', '$'] := by
    rw [allWritten]
    rfl
  have dollar : Unmarked ['$'] := ⟨by simp, by simp⟩
  rw [text]
  simp [lexemesFrom, escape, kindEscape?, dollar.repetition, Token.nest, endTokens, blankToken]

theorem apart_leaves {x : Fragment} (xs : List Fragment) (flat : x.depth = 0) :
    Apart (allWritten (x.leaves pending) xs).toList := by
  have pends : x.leaves pending = true := by
    cases x with
    | plain | unknown => rfl
    | field f optional => cases optional <;> cases flat
  rw [pends]
  exact apart_allWritten xs

/-- A pattern that is read is read by the tokens of its fragments. -/
theorem run_allWritten {xs : List Fragment} (standalone : ∀ x ∈ xs, x.Standalone flags)
    {s last : Progress} (begun : s.Begun)
    (ran : s.run (lexemesFrom [flags.verbose] 0 (allWritten pending xs).toList) = .ok last) :
    s.run (allTokens flags.verbose pending xs) = .ok last := by
  induction xs generalizing pending s with
  | nil =>
    rw [lexemes_end] at ran
    exact ran
  | cons x xs ih =>
    obtain ⟨here, rests⟩ := List.forall_mem_cons.mp standalone
    rw [allWritten, String.toList_append] at ran
    rw [lexemes_written_of_run here begun (unmarked_allWritten rests _) (apart_leaves xs) ran] at ran
    obtain ⟨next, ranHere, ran⟩ := Progress.run_append.mp ran
    exact Progress.run_append.mpr ⟨next, ranHere, ih rests (Progress.run_begun begun ranHere) ran⟩

/-- The text of fragments that set no flags for the whole is cut into their tokens. -/
theorem lexemes_allWritten {xs : List Fragment} (pending : Bool)
    (standalone : ∀ x ∈ xs, x.Standalone flags)
    (unflagged : ∀ x ∈ xs, ∀ y ∈ lexemes flags.verbose x.text.toList, ∀ on, y.token ≠ .flags on) :
    lexemesFrom [flags.verbose] 0 (allWritten pending xs).toList =
      allTokens flags.verbose pending xs := by
  induction xs generalizing pending with
  | nil => exact lexemes_end
  | cons x xs ih =>
    obtain ⟨here, rests⟩ := List.forall_mem_cons.mp standalone
    obtain ⟨unflaggedHere, unflagged⟩ := List.forall_mem_cons.mp unflagged
    rw [allWritten, String.toList_append,
      lexemes_written here unflaggedHere (unmarked_allWritten rests _) (apart_leaves xs),
      ih _ rests unflagged, allTokens]

theorem lexemes_pattern {xs : List Fragment} (standalone : ∀ x ∈ xs, x.Standalone flags) :
    lexemes flags.verbose ("^\\s*" ++ allWritten false xs).toList =
      startTokens ++ lexemesFrom [flags.verbose] 0 (allWritten false xs).toList := by
  have start : "^\\s*".toList = ['^', '\\', 's', '*'] := rfl
  have unmarked := unmarked_allWritten standalone false
  rw [String.toList_append, start]
  simp [lexemes, lexemesFrom, escape, kindEscape?, unmarked.repetition, Token.nest, startTokens,
    blankToken]

end Fragment

namespace GrammarBuilder

/-- The expression of a grammar is what reading the tokens of its fragments comes to. -/
theorem Makes.run {flags : PatternFlags} {xs : List Fragment} {g : Grammar}
    (made : Makes flags xs g) (standalone : ∀ x ∈ xs, x.Standalone flags) :
    ∃ last, (Progress.start flags).run
        (Fragment.startTokens ++ Fragment.allTokens flags.verbose false xs) = .ok last ∧
      last.outer = [] ∧ g.expression.pattern = last.scope.toPattern last.widths ∧
      g.expression.groups = last.groups.length := by
  obtain ⟨last, ran, balanced, expression⟩ := Expression.read_eq_ok made.expression
  rw [Fragment.lexemes_pattern standalone] at ran
  obtain ⟨begun, started, ran⟩ := Progress.run_append.mp ran
  have readsOn : begun.Begun := by
    cases started
    exact .inr (.inr (List.cons_ne_nil _ _))
  refine ⟨last, ?_, balanced, by rw [expression], by rw [expression]⟩
  exact Progress.run_append.mpr ⟨begun, started, Fragment.run_allWritten standalone readsOn ran⟩

/-- The groups of a grammar are those of its fragments. -/
theorem Makes.groups {flags : PatternFlags} {xs : List Fragment} {g : Grammar}
    (made : Makes flags xs g) (standalone : ∀ x ∈ xs, x.Standalone flags) :
    g.expression.groups = (xs.map (Fragment.groups flags)).sum := by
  obtain ⟨last, ran, _, _, groups⟩ := made.run standalone
  have start : Progress.opens Fragment.startTokens = 0 := rfl
  rw [groups, Progress.run_groups ran, Progress.opens_append, start,
    Fragment.opens_allTokens standalone]
  simp [Progress.start]

end GrammarBuilder
end LineCommand
