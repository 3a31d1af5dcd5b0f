import LineCommand.Text.Case
import LineCommand.Text.Word
import LineCommand.Proofs.Text.Words

/-! Lowering and blanks. A blank has no case and ends a word, so blanks around a text stay as they are
and make no difference to how the text is lowered, not even to the sigma that ends it. -/
namespace LineCommand.Text

variable {c : Char}

theorem lowerChar_of_mem_blanks (listed : c ∈ blanks) : lowerChar c = [c] ∧ c ≠ 'Σ' := by
  have all : blanks.all fun c => lowerChar c = [c] ∧ c ≠ 'Σ' := by decide +kernel
  simpa using List.all_eq_true.mp all c listed

theorem caseless_of_mem_blanks (listed : c ∈ blanks) :
    caseIgnorableRanges.holds c.toNat = false ∧ casedRanges.holds c.toNat = false := by
  have all : blanks.all fun c => caseIgnorableRanges.holds c.toNat = false ∧
      casedRanges.holds c.toNat = false := by decide +kernel
  simpa using List.all_eq_true.mp all c listed

theorem isWordChar_of_mem_blanks (listed : c ∈ blanks) : isWordChar c = false := by
  have all : blanks.all (!isWordChar ·) := by decide +kernel
  simpa using List.all_eq_true.mp all c listed

variable {bs bs' cs : List Char}

theorem casedAhead_blanks (blanks : Blanks bs) : casedAhead bs = false := by
  cases bs with
  | nil => rfl
  | cons b bs =>
    obtain ⟨seen, caseless⟩ := caseless_of_mem_blanks (mem_blanks_iff.mpr (blanks b List.mem_cons_self))
    simp only [casedAhead, seen, caseless, Bool.false_eq_true, if_false]

theorem casedAhead_append (blanks : Blanks bs) (cs : List Char) :
    casedAhead (cs ++ bs) = casedAhead cs := by
  induction cs with
  | nil => exact casedAhead_blanks blanks
  | cons c cs ih => simp only [List.cons_append, casedAhead, ih]

theorem lowerFrom_blanks (blanks : Blanks bs) (before : List Char) : lowerFrom before bs = bs := by
  induction bs generalizing before with
  | nil => rfl
  | cons b bs ih =>
    obtain ⟨here, others⟩ := List.forall_mem_cons.mp blanks
    obtain ⟨lowest, other⟩ := lowerChar_of_mem_blanks (mem_blanks_iff.mpr here)
    rw [lowerFrom, if_neg other, lowest, ih others, List.singleton_append]

/-- Blanks behind a text, and those far in front of it, change nothing. -/
theorem lowerFrom_append (blanks : Blanks bs) (blanks' : Blanks bs') (before : List Char) :
    lowerFrom (before ++ bs) (cs ++ bs') = lowerFrom before cs ++ bs' := by
  induction cs generalizing before with
  | nil => exact lowerFrom_blanks blanks' _
  | cons c cs ih =>
    simp only [List.cons_append, lowerFrom, casedAhead_append blanks, casedAhead_append blanks']
    rw [← List.cons_append, ih, List.append_assoc]

theorem lowerFrom_leading (blanks : Blanks bs) (before : List Char) :
    lowerFrom before (bs ++ cs) = bs ++ lowerFrom (bs.reverse ++ before) cs := by
  induction bs generalizing before with
  | nil => rfl
  | cons b bs ih =>
    obtain ⟨here, others⟩ := List.forall_mem_cons.mp blanks
    obtain ⟨lowest, other⟩ := lowerChar_of_mem_blanks (mem_blanks_iff.mpr here)
    rw [List.cons_append, lowerFrom, if_neg other, lowest, ih others, List.reverse_cons,
      List.append_assoc, List.singleton_append, List.singleton_append, List.cons_append]

theorem lower_padded (blanks : Blanks bs) (blanks' : Blanks bs') (cs : List Char) :
    lower (bs ++ (cs ++ bs')) = bs ++ (lower cs ++ bs') := by
  have front : Blanks bs.reverse := fun c member => blanks c (List.mem_reverse.mp member)
  rw [lower, lowerFrom_leading blanks, List.append_nil, ← List.nil_append bs.reverse,
    lowerFrom_append front blanks', lower]

theorem exists_padding (cs : List Char) :
    ∃ bs bs', Blanks bs ∧ Blanks bs' ∧ cs = bs ++ (trim cs ++ bs') := by
  refine ⟨cs.takeWhile isBlank, (trimStart cs).rtakeWhile isBlank, ?_, ?_, ?_⟩
  · exact List.all_eq_true.mp List.all_takeWhile
  · exact fun c member => List.mem_rtakeWhile_imp member
  · have behind : trim cs ++ (trimStart cs).rtakeWhile isBlank = trimStart cs :=
      List.rdropWhile_append_rtakeWhile ..
    rw [behind]
    exact List.takeWhile_append_dropWhile.symm

def counted (cs : List Char) : List Char := cs.filter isWordChar

theorem counted_append (cs cs' : List Char) : counted (cs ++ cs') = counted cs ++ counted cs' :=
  List.filter_append ..

theorem counted_blanks (blanks : Blanks bs) : counted bs = [] := by
  rw [counted, List.filter_eq_nil_iff]
  intro c member
  simp [isWordChar_of_mem_blanks (mem_blanks_iff.mpr (blanks c member))]

/-- Of a lowered text the same characters count with blanks around it and without. -/
theorem counted_lower_padded (blanks : Blanks bs) (blanks' : Blanks bs') (cs : List Char) :
    counted (lower (bs ++ (cs ++ bs'))) = counted (lower cs) := by
  rw [lower_padded blanks blanks', counted_append, counted_append, counted_blanks blanks,
    counted_blanks blanks', List.nil_append, List.append_nil]

theorem counted_lower_trim (cs : List Char) : counted (lower (trim cs)) = counted (lower cs) := by
  obtain ⟨bs, bs', blanks, blanks', padded⟩ := exists_padding cs
  conv_rhs => rw [padded, counted_lower_padded blanks blanks']

end LineCommand.Text
