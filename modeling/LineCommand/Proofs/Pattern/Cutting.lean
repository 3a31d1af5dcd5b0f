import LineCommand.Pattern.Token

/-! Where the first token of a text ends. A token that is sound has its end inside the text, and
does not change when more text follows that starts with a backslash or a parenthesis. -/
namespace LineCommand.Pattern

/-- A text in front of which every sound token ends. -/
def Apart (rest : List Char) : Prop := ∀ c ∈ rest.head?, c = '\\' ∨ c = '(' ∨ c = ')'

def Lexeme.Sound (x : Lexeme) : Prop := ∀ complaint offset, x.token ≠ .bad complaint offset

/-- What is read from a text behind `before` characters ends inside the text, and is read again when
the text goes on. -/
structure Settled (read : List Char → Lexeme) (before : Nat) (cs : List Char) : Prop where
  fits : (read cs).size ≤ before + cs.length
  same : ∀ rest, Apart rest → read (cs ++ rest) = read cs

theorem apart_nil : Apart [] := nofun

theorem Settled.of_eq {read : List Char → Lexeme} {before : Nat} {cs : List Char} {x : Lexeme}
    (found : ∀ rest, Apart rest → read (cs ++ rest) = x) (fits : x.size ≤ before + cs.length) :
    Settled read before cs := by
  have here : read cs = x := by
    rw [← List.append_nil cs]
    exact found [] apart_nil
  exact ⟨here ▸ fits, fun rest apart => (found rest apart).trans here.symm⟩

theorem Settled.congr {read other : List Char → Lexeme} {before : Nat} {cs : List Char}
    (opened : ∀ more, other more = read more) (settled : Settled read before cs) :
    Settled other before cs := by
  rw [funext opened]
  exact settled

/-! ### Stretches of characters -/

section Stretches

variable {p : Char → Bool} {rest : List Char}

/-- No character that starts a text apart belongs to the class. -/
def Foreign (p : Char → Bool) : Prop := p '\\' = false ∧ p '(' = false ∧ p ')' = false

theorem Foreign.head (foreign : Foreign p) {c : Char} {more : List Char}
    (apart : Apart (c :: more)) : p c = false := by
  obtain rfl | rfl | rfl := apart c rfl
  · exact foreign.1
  · exact foreign.2.1
  · exact foreign.2.2

theorem takeWhile_append_apart (foreign : Foreign p) (apart : Apart rest) (cs : List Char) :
    (cs ++ rest).takeWhile p = cs.takeWhile p := by
  induction cs with
  | nil =>
    cases rest with
    | nil => rfl
    | cons c more => simp [foreign.head apart]
  | cons c cs ih => simp only [List.cons_append, List.takeWhile_cons, ih]

theorem dropWhile_append_apart (foreign : Foreign p) (apart : Apart rest) (cs : List Char) :
    (cs ++ rest).dropWhile p = cs.dropWhile p ++ rest := by
  induction cs with
  | nil =>
    cases rest with
    | nil => rfl
    | cons c more => simp [foreign.head apart]
  | cons c cs ih =>
    simp only [List.cons_append, List.dropWhile_cons, ih]
    cases p c <;> rfl

/-- The class stretches over the same few characters at the start of a text that goes on. -/
theorem takeWhile_take_append_apart (foreign : Foreign p) (apart : Apart rest) (n : Nat)
    (cs : List Char) : ((cs ++ rest).take n).takeWhile p = (cs.take n).takeWhile p := by
  induction cs generalizing n with
  | nil =>
    cases rest with
    | nil => rfl
    | cons c more => cases n <;> simp [foreign.head apart]
  | cons c cs ih =>
    cases n with
    | zero => rfl
    | succ n => simp only [List.cons_append, List.take_succ_cons, List.takeWhile_cons, ih]

end Stretches

/-! ### Names -/

theorem upTo_cons {terminator c : Char} (plain : c ≠ '\\') (rest : List Char) :
    upTo terminator (c :: rest) =
      if c = terminator then some [] else (upTo terminator rest).map (c :: ·) :=
  upTo.eq_3 terminator c rest fun _ _ escaped _ => plain escaped

/-- A name ends at its terminator, whatever follows. -/
theorem upTo_append {terminator : Char} (plain : terminator ≠ '\\') {cs found : List Char}
    (closed : upTo terminator cs = some found) (rest : List Char) :
    upTo terminator (cs ++ rest) = some found ∧ found.length + 1 ≤ cs.length := by
  induction cs using upTo.induct terminator generalizing found with
  | case1 => cases closed
  | case2 c cs ih =>
    rw [upTo] at closed
    obtain ⟨inner, read, rfl⟩ := Option.map_eq_some_iff.mp closed
    obtain ⟨same, fits⟩ := ih read
    simp only [List.cons_append, upTo, same, Option.map_some, List.length_cons, true_and]
    omega
  | case3 cs _ =>
    rw [upTo_cons plain, if_pos rfl] at closed
    cases closed
    rw [List.cons_append, upTo_cons plain, if_pos rfl]
    simp
  | case4 c cs single other ih =>
    have unescaped : c ≠ '\\' := by
      rintro rfl
      cases cs with
      | nil => simp [upTo, other] at closed
      | cons d cs => exact single d cs rfl rfl
    rw [upTo_cons unescaped, if_neg other] at closed
    obtain ⟨inner, read, rfl⟩ := Option.map_eq_some_iff.mp closed
    obtain ⟨same, fits⟩ := ih read
    rw [List.cons_append, upTo_cons unescaped, if_neg other, same]
    simp only [Option.map_some, List.length_cons, true_and]
    omega

theorem name_append {terminator : Char} (plain : terminator ≠ '\\') {what : String}
    {cs found : List Char} (named : name terminator what cs = .ok found) (rest : List Char) :
    name terminator what (cs ++ rest) = .ok found ∧ found.length + 1 ≤ cs.length := by
  unfold name at named ⊢
  split at named
  case h_1 => cases named
  case h_2 => cases named
  case h_3 text read =>
    cases named
    obtain ⟨same, fits⟩ := upTo_append plain read rest
    rw [same]
    exact ⟨by simp, fits⟩

/-! ### Escapes -/

theorem foreign_isOctal : Foreign isOctal := ⟨by decide, by decide, by decide⟩

theorem foreign_isAsciiDigit : Foreign isAsciiDigit := ⟨by decide, by decide, by decide⟩

theorem hexEscape_append {head cs : List Char} {width code size : Nat}
    (read : hexEscape head width cs = .ok (code, size)) (rest : List Char) :
    hexEscape head width (cs ++ rest) = .ok (code, size) ∧ size ≤ 2 + cs.length := by
  unfold hexEscape at read ⊢
  dsimp only at read ⊢
  split at read
  case isTrue => cases read
  case isFalse enough =>
    have within : width ≤ cs.length := by
      have counted := (List.takeWhile_prefix isHex (l := cs.take width)).length_le
      rw [List.length_take] at counted
      omega
    rw [List.take_append_of_le_length within, if_neg enough]
    refine ⟨read, ?_⟩
    split at read <;> cases read
    omega

theorem namedEscape_append {cs : List Char} {code size : Nat}
    (read : namedEscape cs = .ok (code, size)) (rest : List Char) :
    namedEscape (cs ++ rest) = .ok (code, size) ∧ size ≤ 2 + cs.length := by
  unfold namedEscape at read
  split at read
  case h_2 => cases read
  case h_1 inner =>
    split at read
    case h_1 => cases read
    case h_2 found named =>
      obtain ⟨same, fits⟩ := name_append (by decide) named rest
      rw [List.cons_append, namedEscape, same]
      refine ⟨read, ?_⟩
      split at read <;> cases read
      rw [List.length_cons]
      omega

theorem octalEscape_append {rest : List Char} (apart : Apart rest) (first : Char) (cs : List Char) :
    octalEscape first (cs ++ rest) = octalEscape first cs := by
  simp only [octalEscape, takeWhile_take_append_apart foreign_isOctal apart]

theorem octalEscape_size {first : Char} {cs : List Char} {code size : Nat}
    (read : octalEscape first cs = .ok (code, size)) : size ≤ 2 + cs.length := by
  unfold octalEscape at read
  dsimp only at read
  split at read <;> cases read
  have counted := (List.takeWhile_prefix isOctal (l := cs.take 2)).length_le
  rw [List.length_take] at counted
  rw [List.length_cons]
  omega

/-- An escape by digits or by name that is complete stays as it is. -/
theorem codeEscape?_append {c : Char} {cs : List Char} {code size : Nat}
    (read : codeEscape? c cs = some (.ok (code, size))) (rest : List Char) :
    codeEscape? c (cs ++ rest) = some (.ok (code, size)) ∧ size ≤ 2 + cs.length := by
  unfold codeEscape? at read ⊢
  dsimp only at read ⊢
  split at read
  case h_4 =>
    obtain ⟨same, fits⟩ := namedEscape_append (Option.some.inj read) rest
    exact ⟨congrArg some same, fits⟩
  case h_5 => cases read
  all_goals
    split at read
    case h_2 => cases read
    case h_1 found hex =>
      cases read
      obtain ⟨same, fits⟩ := hexEscape_append hex rest
      rw [same]
      exact ⟨rfl, fits⟩

theorem codeEscape?_none {c : Char} {cs : List Char} (read : codeEscape? c cs = none)
    (rest : List Char) : codeEscape? c (cs ++ rest) = none := by
  unfold codeEscape? at read ⊢
  split at read
  case h_5 => rfl
  all_goals cases read

theorem digitEscape_settled {c : Char} {cs : List Char} (sound : (digitEscape c cs).Sound) :
    Settled (digitEscape c) 2 cs := by
  by_cases zero : c = '0'
  · subst zero
    cases read : octalEscape '0' cs with
    | error complaint =>
      simp only [digitEscape, if_true, read] at sound
      exact absurd rfl (sound _ _)
    | ok found =>
      refine .of_eq (x := ⟨.literal found.1, found.2⟩) (fun rest apart => ?_)
        (octalEscape_size read)
      simp only [digitEscape, if_true, octalEscape_append apart, read]
  · match cs with
    | [] =>
      refine .of_eq (x := ⟨.back (natIn 10 [c]), 2⟩) (fun rest apart => ?_) (Nat.le_refl 2)
      match rest with
      | [] => simp [digitEscape, zero]
      | [d] => simp [digitEscape, zero, foreign_isAsciiDigit.head apart]
      | d :: _ :: _ => simp [digitEscape, zero, foreign_isAsciiDigit.head apart]
    | [d] =>
      refine ⟨?_, fun rest apart => ?_⟩
      · simp only [digitEscape, zero, if_false]
        split <;> simp
      · cases rest with
        | nil => rfl
        | cons e more => simp [digitEscape, zero, foreign_isOctal.head apart]
    | d :: e :: cs =>
      refine ⟨?_, fun rest apart => ?_⟩
      · simp only [digitEscape, zero, if_false] at sound ⊢
        split at sound
        · rename_i digit
          rw [if_pos digit]
          split at sound
          · rename_i octal
            rw [if_pos octal]
            cases read : octalEscape c (d :: e :: cs) with
            | error complaint =>
              rw [read] at sound
              exact absurd rfl (sound _ _)
            | ok found => exact octalEscape_size read
          · rename_i decimal
            rw [if_neg decimal]
            simp only [List.length_cons]
            omega
        · rename_i other
          rw [if_neg other]
          simp
      · have same := octalEscape_append apart c (d :: e :: cs)
        simp only [List.cons_append] at same
        simp only [digitEscape, List.cons_append, same]

theorem escape_settled {cs : List Char} (sound : (escape cs).Sound) : Settled escape 1 cs := by
  cases cs with
  | nil => exact absurd rfl (sound _ _)
  | cons c cs =>
    have two : 2 ≤ 1 + (c :: cs).length := by
      rw [List.length_cons]
      omega
    by_cases named : c = 'A' ∨ c = 'Z' ∨ c = 'b' ∨ c = 'B'
    · obtain rfl | rfl | rfl | rfl := named
      all_goals exact .of_eq (fun rest _ => rfl) two
    · simp only [not_or] at named
      obtain ⟨notA, notZ, notb, notB⟩ := named
      have opened := fun more => escape.eq_6 c more notA notZ notb notB
      rw [opened] at sound
      cases kind : kindEscape? c with
      | some found =>
        refine .of_eq (x := ⟨.set [.kind found.1 found.2] false, 2⟩) (fun rest _ => ?_) two
        rw [List.cons_append, opened, kind]
      | none =>
        cases letter : letterEscape? c with
        | some code =>
          refine .of_eq (x := ⟨.literal code, 2⟩) (fun rest _ => ?_) two
          rw [List.cons_append, opened, kind, letter]
        | none =>
          simp only [kind, letter] at sound opened
          cases code : codeEscape? c cs with
          | some read =>
            cases read with
            | error complaint =>
              rw [code] at sound
              exact absurd rfl (sound _ _)
            | ok found =>
              have fits := (codeEscape?_append code []).2
              refine .of_eq (x := ⟨.literal found.1, found.2⟩) (fun rest _ => ?_) ?_
              · rw [List.cons_append, opened, (codeEscape?_append code rest).1]
              · rw [List.length_cons]
                dsimp only
                omega
          | none =>
            rw [code] at sound
            dsimp only at sound
            by_cases digit : isAsciiDigit c
            · rw [if_pos digit] at sound
              obtain ⟨fits, same⟩ := digitEscape_settled sound
              refine .of_eq (x := digitEscape c cs) (fun rest apart => ?_) ?_
              · rw [List.cons_append, opened, codeEscape?_none code rest]
                simp only [digit, if_true, same rest apart]
              · rw [List.length_cons]
                omega
            · by_cases unknown : isAsciiLetter c
              · rw [if_neg digit, if_pos unknown] at sound
                exact absurd rfl (sound _ _)
              · refine .of_eq (x := ⟨.literal c.toNat, 2⟩) (fun rest _ => ?_) two
                rw [List.cons_append, opened, codeEscape?_none code rest]
                simp only [digit, unknown, if_false, Bool.false_eq_true]

/-! ### Sets -/

theorem setMember_plain {c : Char} (plain : c ≠ '\\') (cs : List Char) :
    setMember (c :: cs) = .ok (.code c.toNat, 1) := by
  unfold setMember
  split <;> simp_all

theorem unit_plain {c : Char} (plain : c ≠ '\\') (cs : List Char) : unit (c :: cs) = [c] := by
  unfold unit
  split <;> simp_all

/-- A member of a set that is complete stays as it is. -/
theorem setMember_append {rest : List Char} (apart : Apart rest) {cs : List Char} {item : SetItem}
    {size : Nat} (read : setMember cs = .ok (item, size)) :
    setMember (cs ++ rest) = .ok (item, size) ∧ size ≤ cs.length ∧ unit (cs ++ rest) = unit cs := by
  match cs with
  | [] => cases read
  | c :: cs =>
    by_cases plain : c = '\\'
    · subst plain
      cases cs with
      | nil => cases read
      | cons c cs =>
        simp only [List.cons_append, setMember, List.length_cons] at read ⊢
        cases letter : letterEscape? c with
        | some code =>
          rw [letter] at read
          cases read
          exact ⟨rfl, by omega, rfl⟩
        | none =>
          cases kind : kindEscape? c with
          | some found =>
            rw [letter, kind] at read
            cases read
            exact ⟨rfl, by omega, rfl⟩
          | none =>
            simp only [letter, kind] at read
            cases code : codeEscape? c cs with
            | some found =>
              rw [code] at read
              cases found with
              | error complaint => cases read
              | ok found =>
                cases read
                obtain ⟨same, fits⟩ := codeEscape?_append code rest
                rw [same]
                exact ⟨rfl, by omega, rfl⟩
            | none =>
              rw [code] at read
              simp only [codeEscape?_none code rest, octalEscape_append apart]
              refine ⟨read, ?_, rfl⟩
              dsimp only at read
              split at read
              · cases octal : octalEscape c cs with
                | error complaint =>
                  rw [octal] at read
                  cases read
                | ok found =>
                  rw [octal] at read
                  cases read
                  have fits := octalEscape_size octal
                  omega
              · split at read <;> cases read
                omega
    · rw [setMember_plain plain] at read
      cases read
      rw [List.cons_append, setMember_plain plain, unit_plain plain, unit_plain plain]
      exact ⟨rfl, by simp, rfl⟩

section

variable {negated : Bool} {items : List SetItem} {item : SetItem} {text : List Char} {size : Nat}
  {c : Char} {cs : List Char}

theorem setFrom_between :
    setFrom negated items .between size 0 (c :: cs) =
      if c = ']' ∧ items ≠ [] then ⟨.set items.reverse negated, size + 1⟩
      else
        match setMember (c :: cs) with
        | .error (complaint, offset) => ⟨.bad complaint (some (size + offset)), size + 1⟩
        | .ok (item, taken) =>
          setFrom negated items (.member item (unit (c :: cs))) (size + 1) (taken - 1) cs :=
  rfl

theorem setFrom_member :
    setFrom negated items (.member item text) size 0 (c :: cs) =
      if c = '-' then setFrom negated items (.hyphen item text) (size + 1) 0 cs
      else setFrom negated (item :: items) .between size 0 (c :: cs) :=
  rfl

theorem setFrom_hyphen :
    setFrom negated items (.hyphen item text) size 0 (c :: cs) =
      if c = ']' then ⟨.set (.code 45 :: item :: items).reverse negated, size + 1⟩
      else
        match setMember (c :: cs) with
        | .error (complaint, offset) => ⟨.bad complaint (some (size + offset)), size + 1⟩
        | .ok (last, taken) =>
          let lastText := unit (c :: cs)
          let refusal : Lexeme :=
            ⟨.bad (.badRange (String.ofList text) (String.ofList lastText))
              (some (size + taken - (text.length + 1 + lastText.length))), size + 1⟩
          match item, last with
          | .code low, .code high =>
            if high < low then refusal
            else setFrom negated (.range low high :: items) .between (size + 1) (taken - 1) cs
          | _, _ => refusal :=
  rfl

end

theorem setFrom_settled {negated : Bool} {items : List SetItem} {progress : SetProgress}
    {size skip : Nat} (cs : List Char)
    (sound : (setFrom negated items progress size skip cs).Sound) :
    Settled (setFrom negated items progress size skip) size cs := by
  induction cs generalizing items progress size skip with
  | nil => exact absurd rfl (sound _ _)
  | cons c cs ih =>
    -- What is left over after `c` settles whatever is read there.
    have later : ∀ {items progress skip} {read : List Char → Lexeme},
        (∀ rest, Apart rest → read (c :: (cs ++ rest)) =
          setFrom negated items progress (size + 1) skip (cs ++ rest)) →
        (setFrom negated items progress (size + 1) skip cs).Sound →
        Settled read size (c :: cs) := by
      intro items progress skip read reads sound
      obtain ⟨fits, same⟩ := ih sound
      refine .of_eq (fun rest apart => (reads rest apart).trans (same rest apart)) ?_
      rw [List.length_cons]
      omega
    have last : size + 1 ≤ size + (c :: cs).length := by
      rw [List.length_cons]
      omega
    have between : ∀ items, (setFrom negated items .between size 0 (c :: cs)).Sound →
        Settled (setFrom negated items .between size 0) size (c :: cs) := by
      intro items sound
      rw [setFrom_between] at sound
      by_cases closes : c = ']' ∧ items ≠ []
      · refine .of_eq (x := ⟨.set items.reverse negated, size + 1⟩) (fun rest _ => ?_) last
        rw [List.cons_append, setFrom_between, if_pos closes]
      · rw [if_neg closes] at sound
        cases member : setMember (c :: cs) with
        | error complaint =>
          rw [member] at sound
          exact absurd rfl (sound _ _)
        | ok found =>
          rw [member] at sound
          refine later (fun rest apart => ?_) sound
          obtain ⟨same, _, cited⟩ := setMember_append apart member
          rw [List.cons_append] at same cited
          rw [setFrom_between, if_neg closes, same, cited]
    cases skip with
    | succ skip => exact later (fun rest _ => rfl) sound
    | zero =>
      cases progress with
      | between => exact between items sound
      | member item text =>
        rw [setFrom_member] at sound
        by_cases hyphen : c = '-'
        · rw [if_pos hyphen] at sound
          refine later (fun rest _ => ?_) sound
          rw [setFrom_member, if_pos hyphen]
        · rw [if_neg hyphen] at sound
          obtain ⟨fits, same⟩ := between _ sound
          refine .of_eq (fun rest apart => ?_) fits
          rw [List.cons_append, setFrom_member, if_neg hyphen]
          exact same rest apart
      | hyphen item text =>
        rw [setFrom_hyphen] at sound
        by_cases closes : c = ']'
        · refine .of_eq (x := ⟨.set (.code 45 :: item :: items).reverse negated, size + 1⟩)
            (fun rest _ => ?_) last
          rw [List.cons_append, setFrom_hyphen, if_pos closes]
        · rw [if_neg closes] at sound
          cases member : setMember (c :: cs) with
          | error complaint =>
            rw [member] at sound
            exact absurd rfl (sound _ _)
          | ok found =>
            obtain ⟨high, taken⟩ := found
            rw [member] at sound
            match item, high with
            | .code low, .code high =>
              dsimp only at sound
              by_cases order : high < low
              · rw [if_pos order] at sound
                exact absurd rfl (sound _ _)
              · rw [if_neg order] at sound
                refine later (fun rest apart => ?_) sound
                have same := (setMember_append apart member).1
                rw [List.cons_append] at same
                rw [setFrom_hyphen, if_neg closes, same]
                dsimp only
                rw [if_neg order]
            | .range .., _ | .kind .., _ | .code _, .range .. | .code _, .kind .. =>
              exact absurd rfl (sound _ _)

theorem charSet_settled {cs : List Char} (sound : (charSet cs).Sound) : Settled charSet 1 cs := by
  cases cs with
  | nil => exact absurd rfl (sound _ _)
  | cons c cs =>
    by_cases caret : c = '^'
    · subst caret
      obtain ⟨fits, same⟩ := setFrom_settled cs sound
      refine .of_eq same ?_
      rw [List.length_cons]
      omega
    · have opened : ∀ more, charSet (c :: more) = setFrom false [] .between 1 0 (c :: more) := by
        intro more
        unfold charSet
        split <;> simp_all
      rw [opened] at sound
      obtain ⟨fits, same⟩ := setFrom_settled _ sound
      exact .of_eq (fun rest apart => (opened (cs ++ rest)).trans (same rest apart)) fits

/-! ### Repetitions -/

theorem manner_append {rest : List Char} (apart : Apart rest) (cs : List Char) :
    manner (cs ++ rest) = manner cs := by
  match cs, rest with
  | [], [] => rfl
  | [], c :: more =>
    obtain rfl | rfl | rfl := apart c rfl
    all_goals rfl
  | c :: cs, rest =>
    by_cases lazy : c = '?'
    · subst lazy
      rfl
    · by_cases possessive : c = '+'
      · subst possessive
        rfl
      · simp [manner, lazy, possessive]

theorem manner_size (cs : List Char) : (manner cs).2 ≤ cs.length := by
  unfold manner
  split <;> simp

theorem repetition_settled (low : Nat) (high : Option Nat) (size : Nat) (cs : List Char) :
    Settled (repetition low high size) size cs where
  fits := Nat.add_le_add_left (manner_size cs) size
  same rest apart := by simp only [repetition, manner_append apart]

theorem secondBound_size (cs : List Char) :
    (secondBound cs).1 + (secondBound cs).2.1.length + (secondBound cs).2.2.length = cs.length := by
  unfold secondBound
  split
  · rename_i more
    have lengths := congrArg List.length
      (List.takeWhile_append_dropWhile (p := isAsciiDigit) (l := more))
    rw [List.length_append] at lengths
    simp only [List.length_cons]
    omega
  · simp

theorem secondBound_append {rest : List Char} (apart : Apart rest) (cs : List Char) :
    secondBound (cs ++ rest) =
      ((secondBound cs).1, (secondBound cs).2.1, (secondBound cs).2.2 ++ rest) := by
  match cs with
  | [] =>
    cases rest with
    | nil => rfl
    | cons c more =>
      obtain rfl | rfl | rfl := apart c rfl
      all_goals rfl
  | c :: cs =>
    by_cases comma : c = ','
    · subst comma
      simp only [List.cons_append, secondBound, takeWhile_append_apart foreign_isAsciiDigit apart,
        dropWhile_append_apart foreign_isAsciiDigit apart]
    · simp [secondBound, comma]

theorem boundsEnd_settled (low : List Char) (comma : Nat) (high : List Char) (cs : List Char) :
    Settled (boundsEnd low comma high) (1 + low.length + comma + high.length) cs := by
  by_cases closes : ∃ after, cs = '}' :: after
  · obtain ⟨after, rfl⟩ := closes
    have room : 2 + low.length + comma + high.length ≤
        1 + low.length + comma + high.length + ('}' :: after).length := by
      rw [List.length_cons]
      omega
    refine ⟨?_, fun rest apart => ?_⟩
    · simp only [boundsEnd]
      split
      · exact room
      · exact room
      · rename_i least most _ _
        split
        · exact room
        · have fits := (repetition_settled (least.getD 0) most
            (2 + low.length + comma + high.length) after).fits
          rw [List.length_cons]
          omega
    · simp only [List.cons_append, boundsEnd, (repetition_settled _ _ _ after).same rest apart]
  · have plain : ∀ more, (∀ after, more ≠ '}' :: after) →
        boundsEnd low comma high more = ⟨.literal 123, 1⟩ := by
      intro more open?
      unfold boundsEnd
      split
      · exact absurd rfl (open? _)
      · rfl
    refine .of_eq (x := ⟨.literal 123, 1⟩) (fun rest apart => plain _ ?_) (by simp only; omega)
    rintro after ended
    cases cs with
    | nil =>
      obtain h | h | h := apart '}' (by rw [← List.nil_append rest, ended]; rfl)
      all_goals cases h
    | cons c cs =>
      cases ended
      exact closes ⟨_, rfl⟩

theorem braces_settled (cs : List Char) : Settled braces 1 cs := by
  by_cases closed : cs.head? = some '}'
  · obtain ⟨more, rfl⟩ : ∃ more, cs = '}' :: more := by
      cases cs <;> simp_all
    exact .of_eq (x := ⟨.literal 123, 1⟩) (fun rest _ => rfl) (by simp)
  · have unclosed : ∀ rest, Apart rest → (cs ++ rest).head? ≠ some '}' := by
      intro rest apart
      cases cs with
      | cons c cs => exact closed
      | nil =>
        intro ended
        obtain h | h | h := apart '}' ended
        all_goals cases h
    have lengths := congrArg List.length
      (List.takeWhile_append_dropWhile (p := isAsciiDigit) (l := cs))
    rw [List.length_append, ← secondBound_size (cs.dropWhile isAsciiDigit)] at lengths
    obtain ⟨fits, same⟩ := boundsEnd_settled (cs.takeWhile isAsciiDigit)
      (secondBound (cs.dropWhile isAsciiDigit)).1 (secondBound (cs.dropWhile isAsciiDigit)).2.1
      (secondBound (cs.dropWhile isAsciiDigit)).2.2
    refine .of_eq (fun rest apart => ?_) (Nat.le_trans fits (by omega))
    rw [braces, if_neg (unclosed rest apart), takeWhile_append_apart foreign_isAsciiDigit apart,
      dropWhile_append_apart foreign_isAsciiDigit apart, secondBound_append apart]
    exact same rest apart

/-! ### Groups -/

theorem flagsOff_settled {on off : List Char} {before : Nat} {cs : List Char}
    (sound : (flagsOff on off before cs).Sound) : Settled (flagsOff on off before) before cs := by
  induction cs generalizing off before with
  | nil => exact absurd rfl (sound _ _)
  | cons c cs ih =>
    have room : before + 1 ≤ before + (c :: cs).length := by
      rw [List.length_cons]
      omega
    simp only [flagsOff] at sound
    split at sound
    · rename_i closes
      refine .of_eq (x := ⟨.openFlags ⟨on, off⟩, before + 1⟩) (fun rest _ => ?_) room
      split at sound
      · exact absurd rfl (sound _ _)
      · split at sound
        · exact absurd rfl (sound _ _)
        · simp_all [flagsOff]
    · rename_i goesOn
      split at sound
      · exact absurd rfl (sound _ _)
      · split at sound
        · exact absurd rfl (sound _ _)
        · rename_i letter own
          obtain ⟨fits, same⟩ := ih sound
          refine .of_eq (fun rest apart => ?_) (Nat.le_trans fits ?_)
          · rw [List.cons_append, flagsOff, if_neg goesOn, if_neg letter, if_neg own]
            exact same rest apart
          · rw [List.length_cons]
            omega

theorem flagsOn_settled {on : List Char} {before : Nat} {cs : List Char}
    (sound : (flagsOn on before cs).Sound) : Settled (flagsOn on before) before cs := by
  induction cs generalizing on before with
  | nil => exact absurd rfl (sound _ _)
  | cons c cs ih =>
    have room : before + 1 ≤ before + (c :: cs).length := by
      rw [List.length_cons]
      omega
    simp only [flagsOn] at sound
    split at sound
    · rename_i closes
      refine .of_eq (x := ⟨.flags on, before + 1⟩) (fun rest _ => ?_) room
      rw [List.cons_append, flagsOn, if_pos closes]
    · rename_i inside
      split at sound
      · rename_i turns
        split at sound
        · exact absurd rfl (sound _ _)
        · rename_i allowed
          split at sound
          · rename_i opens
            refine .of_eq (x := ⟨.openFlags ⟨on, []⟩, before + 1⟩) (fun rest _ => ?_) room
            rw [List.cons_append, flagsOn, if_neg inside, if_pos turns, if_neg allowed,
              if_pos opens]
          · rename_i hyphen
            obtain ⟨fits, same⟩ := flagsOff_settled sound
            refine .of_eq (fun rest apart => ?_) (Nat.le_trans fits ?_)
            · rw [List.cons_append, flagsOn, if_neg inside, if_pos turns, if_neg allowed,
                if_neg hyphen]
              exact same rest apart
            · rw [List.length_cons]
              omega
      · rename_i goesOn
        split at sound
        · exact absurd rfl (sound _ _)
        · rename_i letter
          split at sound
          · exact absurd rfl (sound _ _)
          · rename_i locale
            split at sound
            · exact absurd rfl (sound _ _)
            · rename_i compatible
              obtain ⟨fits, same⟩ := ih sound
              refine .of_eq (fun rest apart => ?_) (Nat.le_trans fits ?_)
              · rw [List.cons_append, flagsOn, if_neg inside, if_neg goesOn, if_neg letter,
                  if_neg locale, if_neg compatible]
                exact same rest apart
              · rw [List.length_cons]
                omega

theorem groupName_settled {terminator : Char} (plain : terminator ≠ '\\') {before : Nat}
    {cs : List Char} {token : String → Token}
    (sound : (groupName terminator before cs token).Sound) :
    Settled (fun cs => groupName terminator before cs token) before cs := by
  unfold groupName at sound
  cases named : name terminator "group name" cs with
  | error complaint =>
    rw [named] at sound
    exact absurd rfl (sound _ _)
  | ok found =>
    have fits := (name_append plain named []).2
    rw [named] at sound
    dsimp only at sound
    split at sound
    · rename_i identifier
      refine .of_eq (x := ⟨token (String.ofList found), before + found.length + 1⟩)
        (fun rest _ => ?_) (by dsimp only; omega)
      simp only [groupName, (name_append plain named rest).1, identifier, if_true]
    · exact absurd rfl (sound _ _)

theorem condition_settled {cs : List Char} (sound : (condition cs).Sound) :
    Settled condition 3 cs := by
  cases named : name ')' "group name" cs with
  | error complaint =>
    rw [condition, named] at sound
    exact absurd rfl (sound _ _)
  | ok found =>
    have fits := (name_append (by decide) named []).2
    have size : (condition cs).size = 3 + found.length + 1 := by
      simp only [condition, named]
      split
      · rfl
      · split
        · rfl
        · split <;> rfl
        · rfl
    refine ⟨by omega, fun rest _ => ?_⟩
    simp only [condition, named, (name_append (by decide) named rest).1]

theorem commentSize?_cons {c : Char} (plain : c ≠ '\\') (rest : List Char) :
    commentSize? (c :: rest) = if c = ')' then some 1 else (commentSize? rest).map (· + 1) :=
  commentSize?.eq_3 c rest fun _ _ escaped _ => plain escaped

/-- A comment in parentheses ends at the first that closes, whatever follows. -/
theorem commentSize?_append {cs : List Char} {size : Nat} (closed : commentSize? cs = some size)
    (rest : List Char) : commentSize? (cs ++ rest) = some size ∧ size ≤ cs.length := by
  induction cs using commentSize?.induct generalizing size with
  | case1 => cases closed
  | case2 c cs ih =>
    rw [commentSize?] at closed
    obtain ⟨inner, read, rfl⟩ := Option.map_eq_some_iff.mp closed
    obtain ⟨same, fits⟩ := ih read
    simp only [List.cons_append, commentSize?, same, Option.map_some, List.length_cons, true_and]
    omega
  | case3 cs _ =>
    rw [commentSize?_cons (by decide), if_pos rfl] at closed
    cases closed
    rw [List.cons_append, commentSize?_cons (by decide), if_pos rfl]
    simp
  | case4 c cs single other ih =>
    have unescaped : c ≠ '\\' := by
      rintro rfl
      cases cs with
      | nil => simp [commentSize?] at closed
      | cons d cs => exact single d cs rfl rfl
    rw [commentSize?_cons unescaped, if_neg other] at closed
    obtain ⟨inner, read, rfl⟩ := Option.map_eq_some_iff.mp closed
    obtain ⟨same, fits⟩ := ih read
    rw [List.cons_append, commentSize?_cons unescaped, if_neg other, same]
    simp only [Option.map_some, List.length_cons, true_and]
    omega

theorem opening_plain {cs : List Char} (plain : cs.head? ≠ some '?') :
    opening cs = ⟨.openGroup none, 1⟩ := by
  unfold opening
  split
  · exact absurd rfl plain
  · rfl

theorem opening_flags {c : Char} (letter : flagLetters.contains c = true) (cs : List Char) :
    opening ('?' :: c :: cs) = flagsOn [] 2 (c :: cs) := by
  have known : c = 'i' ∨ c = 'L' ∨ c = 'm' ∨ c = 's' ∨ c = 'x' ∨ c = 'a' ∨ c = 't' ∨ c = 'u' := by
    simpa [flagLetters] using letter
  obtain rfl | rfl | rfl | rfl | rfl | rfl | rfl | rfl := known
  all_goals rfl

theorem opening_settled {cs : List Char} (sound : (opening cs).Sound) : Settled opening 1 cs := by
  have room : ∀ {n} (front more : List Char), n ≤ front.length + 1 →
      n ≤ 1 + (front ++ more).length := by
    intro n front more
    rw [List.length_append]
    omega
  unfold opening at sound
  split at sound
  case h_2 other =>
    refine .of_eq (x := ⟨.openGroup none, 1⟩) (fun rest apart => opening_plain ?_)
      (by simp only; omega)
    cases cs with
    | cons c cs =>
      rintro ⟨⟩
      exact other cs rfl
    | nil =>
      intro marked
      obtain h | h | h := apart '?' marked
      all_goals cases h
  case h_1 cs =>
    split at sound
    case h_2 more =>
      obtain ⟨fits, same⟩ := groupName_settled (by decide) sound
      exact .of_eq same (Nat.le_trans fits (by simp only [List.length_cons]; omega))
    case h_3 more =>
      obtain ⟨fits, same⟩ := groupName_settled (by decide) sound
      exact .of_eq same (Nat.le_trans fits (by simp only [List.length_cons]; omega))
    case h_5 more =>
      exact .of_eq (x := ⟨.openPlain, 3⟩) (fun rest _ => rfl) (room ['?', ':'] more (by decide))
    case h_6 more =>
      cases comment : commentSize? more with
      | none =>
        rw [comment] at sound
        exact absurd rfl (sound _ _)
      | some size =>
        have fits := (commentSize?_append comment []).2
        refine .of_eq (x := ⟨.nothing, 3 + size⟩) (fun rest _ => ?_) ?_
        · simp only [List.cons_append, opening, (commentSize?_append comment rest).1]
        · simp only [List.length_cons]
          omega
    case h_7 more =>
      exact .of_eq (x := ⟨.openLook false false, 3⟩) (fun rest _ => rfl)
        (room ['?', '='] more (by decide))
    case h_8 more =>
      exact .of_eq (x := ⟨.openLook false true, 3⟩) (fun rest _ => rfl)
        (room ['?', '!'] more (by decide))
    case h_9 more =>
      exact .of_eq (x := ⟨.openLook true false, 4⟩) (fun rest _ => rfl)
        (room ['?', '<', '='] more (by decide))
    case h_10 more =>
      exact .of_eq (x := ⟨.openLook true true, 4⟩) (fun rest _ => rfl)
        (room ['?', '<', '!'] more (by decide))
    case h_12 more =>
      obtain ⟨fits, same⟩ := condition_settled sound
      exact .of_eq same (Nat.le_trans fits (by simp only [List.length_cons]; omega))
    case h_13 more =>
      exact .of_eq (x := ⟨.openAtomic, 3⟩) (fun rest _ => rfl) (room ['?', '>'] more (by decide))
    case h_14 more =>
      obtain ⟨fits, same⟩ := flagsOff_settled sound
      exact .of_eq same (Nat.le_trans fits (by simp only [List.length_cons]; omega))
    case h_15 c more _ _ _ _ _ _ _ _ _ _ _ _ _ =>
      split at sound
      · rename_i letter
        obtain ⟨fits, same⟩ := flagsOn_settled sound
        refine .of_eq (fun rest apart => ?_)
          (Nat.le_trans fits (by simp only [List.length_cons]; omega))
        exact (opening_flags letter (more ++ rest)).trans (same rest apart)
      · exact absurd rfl (sound _ _)
    all_goals
      first
        | exact absurd rfl (sound _ _)
        | split at sound <;> exact absurd rfl (sound _ _)

/-! ### Tokens -/

def lineCommentEnds : List Char → Bool
  | [] => false
  | '\\' :: _ :: rest => lineCommentEnds rest
  | c :: rest => c = '\n' || lineCommentEnds rest

theorem lineCommentSize_cons {c : Char} (plain : c ≠ '\\') (rest : List Char) :
    lineCommentSize (c :: rest) = if c = '\n' then 1 else lineCommentSize rest + 1 :=
  lineCommentSize.eq_3 c rest fun _ _ escaped _ => plain escaped

theorem lineCommentSize_append {cs : List Char} (ends : lineCommentEnds cs) (rest : List Char) :
    lineCommentSize (cs ++ rest) = lineCommentSize cs ∧ lineCommentSize cs ≤ cs.length := by
  induction cs using lineCommentSize.induct with
  | case1 => cases ends
  | case2 c cs ih =>
    rw [lineCommentEnds] at ends
    obtain ⟨same, fits⟩ := ih ends
    simp only [List.cons_append, lineCommentSize, same, List.length_cons, true_and]
    omega
  | case3 cs _ => simp [lineCommentSize]
  | case4 c cs single other ih =>
    have unescaped : c ≠ '\\' := by
      rintro rfl
      cases cs with
      | nil => simp [lineCommentEnds] at ends
      | cons d cs => exact single d cs rfl rfl
    have ends : lineCommentEnds cs := by
      simpa [lineCommentEnds, unescaped, other] using ends
    obtain ⟨same, fits⟩ := ih ends
    rw [List.cons_append, lineCommentSize_cons unescaped, lineCommentSize_cons unescaped,
      if_neg other, if_neg other, same, List.length_cons]
    omega

/-- A sound token stays as it is when the text behind it goes on, unless it is a comment that is
still open. -/
theorem lexeme_settled {verbose : Bool} {c : Char} {cs : List Char}
    (sound : (lexeme verbose c cs).Sound)
    (ends : verbose = true → c = '#' → lineCommentEnds cs) : Settled (lexeme verbose c) 1 cs := by
  have room : 1 ≤ 1 + cs.length := Nat.le_add_right 1 _
  have opened := fun more => lexeme.eq_def verbose c more
  by_cases layout : (verbose && isLayout c) = true
  · simp only [layout, if_true] at opened
    exact .of_eq (fun rest _ => opened _) room
  · by_cases comment : (verbose && c == '#') = true
    · simp only [layout, comment, if_true, if_false, Bool.false_eq_true] at opened
      simp only [Bool.and_eq_true, beq_iff_eq] at comment
      have ended := lineCommentSize_append (ends comment.1 comment.2)
      refine .of_eq (x := ⟨.nothing, 1 + lineCommentSize cs⟩) (fun rest _ => ?_)
        (Nat.add_le_add_left (ended []).2 1)
      rw [opened, (ended rest).1]
    · simp only [layout, comment, if_false, Bool.false_eq_true] at opened
      rw [opened] at sound
      split at sound
      case h_1 => exact .congr opened (escape_settled sound)
      case h_2 => exact .congr opened (charSet_settled sound)
      case h_3 | h_4 | h_5 => exact .congr opened (repetition_settled _ _ 1 cs)
      case h_6 => exact .congr opened (braces_settled cs)
      case h_11 => exact .congr opened (opening_settled sound)
      case h_13 => exact .of_eq (x := ⟨.literal c.toNat, 1⟩) (fun rest _ => by simp_all) room
      all_goals exact .of_eq (fun rest _ => opened _) room

end LineCommand.Pattern
