import LineCommand.Conversion.Lookup
import LineCommand.Proofs.Number.Order

/-! Names that a directory does not know as they are, but knows similar ones of. The best of what it
finds is told from the others by its score alone, so that the order in which the directory lists what it
finds makes no difference. -/
namespace LineCommand

/-! ### Ranking -/

theorem perm_ranked (found : List (Value × Double)) : (ranked found).Perm found :=
  List.mergeSort_perm found _

/-- No match is behind a lower one. The undefined score is comparable with none, so that the order is one
only where it does not occur. -/
theorem pairwise_ranked {found : List (Value × Double)} (defined : ∀ m ∈ found, m.2 ≠ .nan) :
    (ranked found).Pairwise fun m n => n.2.place ≤ m.2.place := by
  let high (m n : Value × Double) : Bool := n.2.place ≤ m.2.place
  have same : ranked found = found.mergeSort high := by
    have agree : ∀ m ∈ found, ∀ n ∈ found, (!m.2.below n.2) = high (id m) (id n) := by
      intro m first n second
      rw [Bool.eq_iff_iff, Bool.not_eq_true', ← Bool.not_eq_true,
        Double.below_iff (defined m first) (defined n second), not_lt]
      exact decide_eq_true_iff.symm
    have mapped := List.map_mergeSort agree
    rwa [List.map_id, List.map_id] at mapped
  have sorted : (found.mergeSort high).Pairwise fun m n => high m n = true := by
    apply List.pairwise_mergeSort
    · intro k m n first second
      exact decide_eq_true ((of_decide_eq_true second).trans (of_decide_eq_true first))
    · intro m n
      rw [Bool.or_eq_true, decide_eq_true_iff, decide_eq_true_iff]
      exact le_total _ _
  rw [same]
  exact sorted.imp of_decide_eq_true

namespace LookupOptions

/-! ### What stands out -/

/-- An item leads a list of matches if its score is good enough and above those of all others. -/
def Leads (options : LookupOptions) (found : List (Value × Double)) (item : Value) : Prop :=
  ∃ before score after, found = before ++ (item, score) :: after ∧ options.admits score = true ∧
    ∀ m ∈ before ++ after, m.2.below score = true

/-- Two matches of a list have the same score, which is good enough and below that of no other. -/
def Tied (options : LookupOptions) (found : List (Value × Double)) : Prop :=
  ∃ m n, [m, n].Sublist found ∧ options.admits m.2 = true ∧ m.2.same n.2 = true ∧
    ∀ k ∈ found, m.2.below k.2 = false

variable {options : LookupOptions} {found others : List (Value × Double)} {item : Value}
  {score : Double}

theorem leads_iff : options.Leads found item ↔ ∃ score rest, found.Perm ((item, score) :: rest) ∧
    options.admits score = true ∧ ∀ m ∈ rest, m.2.below score = true := by
  constructor
  · rintro ⟨before, score, after, rfl, good, above⟩
    exact ⟨score, before ++ after, List.perm_middle, good, above⟩
  · rintro ⟨score, rest, perm, good, above⟩
    obtain ⟨before, after, rfl⟩ := List.append_of_mem (perm.mem_iff.mpr List.mem_cons_self)
    have same := (List.perm_middle.symm.trans perm).cons_inv
    exact ⟨before, score, after, rfl, good, fun m listed => above m (same.mem_iff.mp listed)⟩

theorem leads_congr (perm : others.Perm found) :
    options.Leads others item ↔ options.Leads found item := by
  rw [leads_iff, leads_iff]
  have trans (rest : List (Value × Double)) : others.Perm rest ↔ found.Perm rest :=
    ⟨perm.symm.trans, perm.trans⟩
  simp only [trans]

def Defined (found : List (Value × Double)) : Prop := ∀ m ∈ found, m.2 ≠ .nan

theorem admits_iff (defined : score ≠ .nan) : options.admits score = true ↔
    options.minScore ≠ .nan ∧ options.minScore.place ≤ score.place := by
  by_cases unbounded : options.minScore = .nan
  · simp only [admits, unbounded]
    cases score <;> simp [Double.same, Double.below]
  · rw [admits, Bool.or_eq_true, Double.same_iff defined unbounded, Double.below_iff unbounded defined,
      le_iff_eq_or_lt, eq_comm]
    simp [unbounded]

section
variable (defined : Defined found)
include defined

theorem tied_iff : options.Tied found ↔ ∃ m n, [m, n].Subperm found ∧
    options.admits m.2 = true ∧ m.2.place = n.2.place ∧ ∀ k ∈ found, k.2.place ≤ m.2.place := by
  have equal {m n : Value × Double} (first : m ∈ found) (second : n ∈ found) :=
    Double.same_iff (defined m first) (defined n second)
  have top {m : Value × Double} (listed : m ∈ found) :
      (∀ k ∈ found, m.2.below k.2 = false) ↔ ∀ k ∈ found, k.2.place ≤ m.2.place := by
    refine forall₂_congr fun k other => ?_
    rw [← Bool.not_eq_true, Double.below_iff (defined m listed) (defined k other), not_lt]
  constructor
  · rintro ⟨m, n, pair, good, same, best⟩
    have first : m ∈ found := pair.subset List.mem_cons_self
    have second : n ∈ found := pair.subset (List.mem_cons_of_mem m List.mem_cons_self)
    exact ⟨m, n, pair.subperm, good, (equal first second).mp same, (top first).mp best⟩
  · rintro ⟨m, n, ⟨pair, perm, sublist⟩, good, same, best⟩
    have first : m ∈ found := sublist.subset (perm.mem_iff.mpr List.mem_cons_self)
    have second : n ∈ found :=
      sublist.subset (perm.mem_iff.mpr (List.mem_cons_of_mem m List.mem_cons_self))
    obtain rfl | rfl := List.perm_pair.mp perm
    · exact ⟨m, n, sublist, good, (equal first second).mpr same, (top first).mpr best⟩
    · refine ⟨n, m, sublist, ?_, (equal second first).mpr same.symm, (top second).mpr (same ▸ best)⟩
      rw [admits_iff (defined n second), ← same]
      exact (admits_iff (defined m first)).mp good

/-- No other match of the list leads. -/
theorem Leads.unique {other : Value} (leads : options.Leads found item)
    (leads' : options.Leads found other) : item = other := by
  obtain ⟨score, rest, perm, _, above⟩ := leads_iff.mp leads
  obtain ⟨score', rest', perm', _, above'⟩ := leads_iff.mp leads'
  have first : (item, score) ∈ found := perm.mem_iff.mpr List.mem_cons_self
  have second : (other, score') ∈ found := perm'.mem_iff.mpr List.mem_cons_self
  obtain same | listed := List.mem_cons.mp (perm.mem_iff.mp second)
  · exact (Prod.mk.inj same).1.symm
  · obtain same | listed' := List.mem_cons.mp (perm'.mem_iff.mp first)
    · exact (Prod.mk.inj same).1
    · have below := (Double.below_iff (defined _ second) (defined _ first)).mp (above _ listed)
      have below' := (Double.below_iff (defined _ first) (defined _ second)).mp (above' _ listed')
      exact absurd below below'.asymm

theorem Leads.not_tied (leads : options.Leads found item) : ¬ options.Tied found := by
  obtain ⟨score, rest, perm, _, above⟩ := leads_iff.mp leads
  rw [tied_iff defined]
  rintro ⟨m, n, pair, _, same, top⟩
  have lead : (item, score) ∈ found := perm.mem_iff.mpr List.mem_cons_self
  have isLead (k : Value × Double) (listed : k ∈ found) (high : score.place ≤ k.2.place) :
      k = (item, score) := by
    obtain here | there := List.mem_cons.mp (perm.mem_iff.mp listed)
    · exact here
    · have low := (Double.below_iff (defined k listed) (defined _ lead)).mp (above k there)
      exact absurd high low.not_ge
  have high := top _ lead
  have first := isLead m (pair.subset List.mem_cons_self) high
  have second := isLead n (pair.subset (List.mem_cons_of_mem m List.mem_cons_self)) (same ▸ high)
  rw [first, second, perm.subperm_left, List.subperm_cons, List.singleton_subperm_iff] at pair
  have below := (Double.below_iff (defined _ lead) (defined _ lead)).mp (above _ pair)
  exact below.false

end

theorem tied_congr (defined : Defined found) (perm : others.Perm found) :
    options.Tied others ↔ options.Tied found := by
  have defined' : Defined others := fun m listed => defined m (perm.mem_iff.mp listed)
  rw [tied_iff defined, tied_iff defined']
  simp only [perm.subperm_left, perm.mem_iff]

/-! ### What is answered -/

/-- What a name stands for, going by the matches there are. -/
inductive Judged (options : LookupOptions) (found : List (Value × Double)) : Outcome Value → Prop
  | lead {item : Value} (leads : options.Leads found item) : Judged options found (.ok item)
  | tie (message : String) (tied : options.Tied found) :
      Judged options found (fail .ambiguous message)
  | neither (message : String) (leaderless : ∀ item, ¬ options.Leads found item)
      (untied : ¬ options.Tied found) : Judged options found (fail .conversion message)

/-- How the best match that is good enough stands to the others. -/
theorem exists_worse_of_ranked {best : Value × Double} {rest : List (Value × Double)}
    (defined : Defined found)
    (good : ranked (found.filter fun n => options.admits n.2) = best :: rest) :
    ∃ worse, found.Perm (best :: (rest ++ worse)) ∧ options.admits best.2 = true ∧
      (best :: rest).Pairwise (fun m n => n.2.place ≤ m.2.place) ∧
      ∀ n ∈ worse, n.2.place < best.2.place := by
  have perm := perm_ranked (found.filter fun n => options.admits n.2)
  have sorted : (ranked (found.filter fun n => options.admits n.2)).Pairwise _ :=
    pairwise_ranked fun n listed => defined n (List.mem_of_mem_filter listed)
  rw [good] at perm sorted
  obtain ⟨here, admitted⟩ := List.mem_filter.mp (perm.mem_iff.mp List.mem_cons_self)
  obtain ⟨bounded, least⟩ := (admits_iff (defined _ here)).mp admitted
  refine ⟨found.filter fun n => !options.admits n.2, ?_, admitted, sorted, fun n member => ?_⟩
  · have parts := List.filter_append_perm (fun n => options.admits n.2) found
    exact parts.symm.trans (perm.symm.append_right _)
  · obtain ⟨there, refused⟩ := List.mem_filter.mp member
    have low : ¬ options.minScore.place ≤ n.2.place := fun high => by
      simp [(admits_iff (defined n there)).mpr ⟨bounded, high⟩] at refused
    exact (not_le.mp low).trans_le least

theorem judged_resolve {d : Directory} {name : String} (inexact : d.exact name = [])
    (similar : options.allowFuzzy = true) (defined : Defined (d.fuzzy name)) :
    options.Judged (d.fuzzy name) (d.resolve options name) := by
  unfold Directory.resolve
  rw [inexact, similar]
  dsimp only
  rw [if_neg (by simp)]
  split
  case h_1 none =>
    have nothing : (d.fuzzy name).filter (fun m => options.admits m.2) = [] := by
      simpa [none] using (perm_ranked ((d.fuzzy name).filter fun m => options.admits m.2)).symm
    have refused : ∀ m ∈ d.fuzzy name, ¬ options.admits m.2 = true := List.filter_eq_nil_iff.mp nothing
    refine .neither _ ?_ ?_
    · rintro item ⟨before, score, after, split, good, _⟩
      exact refused (item, score) (by simp [split]) good
    · rintro ⟨m, n, pair, good, _⟩
      exact refused m (pair.subset List.mem_cons_self) good
  case h_2 best others good =>
    obtain ⟨worse, perm, admitted, sorted, below⟩ := exists_worse_of_ranked defined good
    obtain ⟨behind, sorted⟩ := List.pairwise_cons.mp sorted
    have listed : best ∈ d.fuzzy name := perm.mem_iff.mpr List.mem_cons_self
    have equal (n : Value × Double) (other : n ∈ others) : n.2.same best.2 = true ↔
        n.2.place = best.2.place :=
      Double.same_iff (defined n (perm.mem_iff.mpr (by simp [other]))) (defined best listed)
    split
    case isTrue some =>
      obtain ⟨other, first, same⟩ := (Option.any_eq_true _ _).mp some
      have member := List.mem_of_mem_head? first
      refine .tie _ ((tied_iff defined).mpr ⟨best, other, ?_, admitted,
        ((equal other member).mp same).symm, fun k there => ?_⟩)
      · rw [perm.subperm_left, List.subperm_cons, List.singleton_subperm_iff]
        exact List.mem_append_left worse member
      · obtain rfl | there := List.mem_cons.mp (perm.mem_iff.mp there)
        · exact le_rfl
        · obtain there | there := List.mem_append.mp there
          · exact behind k there
          · exact (below k there).le
    case isFalse alone =>
      -- No match behind the second is higher than it, so it is enough to look at the first two.
      have lower : ∀ k ∈ others, k.2.place < best.2.place := by
        cases others with
        | nil => nofun
        | cons next rest =>
          have apart : next.2.place < best.2.place := by
            refine lt_of_le_of_ne (behind next List.mem_cons_self) fun same => alone ?_
            exact (equal next List.mem_cons_self).mpr same
          refine List.forall_mem_cons.mpr ⟨apart, fun k there => ?_⟩
          exact ((List.pairwise_cons.mp sorted).1 k there).trans_lt apart
      refine .lead (leads_iff.mpr ⟨best.2, others ++ worse, perm, admitted, fun k there => ?_⟩)
      rw [Double.below_iff (defined k (perm.mem_iff.mpr (List.mem_cons_of_mem best there)))
        (defined best listed)]
      obtain there | there := List.mem_append.mp there
      · exact lower k there
      · exact below k there

section
variable {outcome outcome' : Outcome Value} (judged : options.Judged found outcome)
include judged

theorem Judged.eq_ok_iff (defined : Defined found) :
    outcome = .ok item ↔ options.Leads found item := by
  cases judged with
  | lead leads => exact ⟨fun same => Except.ok.inj same ▸ leads, fun leads' =>
      congrArg Except.ok (leads.unique defined leads')⟩
  | tie message tied => exact iff_of_false nofun fun leads => leads.not_tied defined tied
  | neither message leaderless _ => exact iff_of_false nofun (leaderless item)

theorem Judged.eq_ambiguous_iff (defined : Defined found) :
    (∃ message, outcome = fail .ambiguous message) ↔ options.Tied found := by
  cases judged with
  | lead leads => exact iff_of_false nofun (leads.not_tied defined)
  | tie message tied => exact iff_of_true ⟨message, rfl⟩ tied
  | neither message _ untied =>
    refine iff_of_false ?_ untied
    rintro ⟨message', same⟩
    cases congrArg Failure.detail (Except.error.inj same)

theorem Judged.eq_conversion (leaderless : ∀ item, ¬ options.Leads found item)
    (untied : ¬ options.Tied found) : ∃ message, outcome = fail .conversion message := by
  cases judged with
  | lead leads => exact absurd leads (leaderless _)
  | tie message tied => exact absurd tied untied
  | neither message _ _ => exact ⟨message, rfl⟩

/-- The same matches are judged alike, whatever is said about them. -/
theorem Judged.detail_eq (defined : Defined found) (judged' : options.Judged found outcome') :
    outcome'.mapError (·.detail) = outcome.mapError (·.detail) := by
  cases judged with
  | lead leads => rw [(judged'.eq_ok_iff defined).mpr leads]
  | tie message tied =>
    obtain ⟨message', rfl⟩ := (judged'.eq_ambiguous_iff defined).mpr tied
    rfl
  | neither message leaderless untied =>
    cases judged' with
    | lead leads => exact absurd leads (leaderless _)
    | tie message' tied => exact absurd tied untied
    | neither message' _ _ => rfl

end

theorem judged_congr (defined : Defined found) (perm : others.Perm found) {outcome : Outcome Value}
    (judged : options.Judged others outcome) : options.Judged found outcome := by
  cases judged with
  | lead leads => exact .lead ((leads_congr perm).mp leads)
  | tie message tied => exact .tie message ((tied_congr defined perm).mp tied)
  | neither message leaderless untied =>
    refine .neither message (fun item => ?_) ?_
    · rw [← leads_congr perm]
      exact leaderless item
    · rwa [← tied_congr defined perm]

end LookupOptions

namespace Converter

theorem convert_lookup {d : Directory} {options : LookupOptions} {v : Value} {text : String}
    (named : v.text? = some text) (filled : Text.trimmed text ≠ "") :
    (lookup d options).convert v = .ok (d.resolve options (Text.trimmed text)) := by
  simp only [lookup, named]
  rw [if_neg (by simpa using filled)]

/-- A name that a directory does not know stands for the item that leads the similar ones; it is
ambiguous where two of them tie, and else stands for nothing. The order of the similar ones does not
count. -/
theorem lookup_of_inexact (d : Directory) (options : LookupOptions) {v : Value} {text : String}
    (named : v.text? = some text) (filled : Text.trimmed text ≠ "")
    (inexact : d.exact (Text.trimmed text) = []) (similar : options.allowFuzzy = true)
    (defined : LookupOptions.Defined (d.fuzzy (Text.trimmed text))) :
    ∃ outcome, (lookup d options).convert v = .ok outcome ∧
      (∀ item, outcome = .ok item ↔ options.Leads (d.fuzzy (Text.trimmed text)) item) ∧
      ((∃ message, outcome = fail .ambiguous message) ↔
        options.Tied (d.fuzzy (Text.trimmed text))) ∧
      ((∀ item, ¬ options.Leads (d.fuzzy (Text.trimmed text)) item) →
        ¬ options.Tied (d.fuzzy (Text.trimmed text)) →
          ∃ message, outcome = fail .conversion message) ∧
      ∀ d' : Directory, d'.exact (Text.trimmed text) = [] →
        (d'.fuzzy (Text.trimmed text)).Perm (d.fuzzy (Text.trimmed text)) →
          ∃ outcome', (lookup d' options).convert v = .ok outcome' ∧
            outcome'.mapError (·.detail) = outcome.mapError (·.detail) := by
  have judged := LookupOptions.judged_resolve inexact similar defined
  refine ⟨_, convert_lookup named filled, fun item => judged.eq_ok_iff defined,
    judged.eq_ambiguous_iff defined, judged.eq_conversion, fun d' inexact' perm => ?_⟩
  have defined' : LookupOptions.Defined (d'.fuzzy (Text.trimmed text)) :=
    fun m listed => defined m (perm.mem_iff.mp listed)
  have judged' := LookupOptions.judged_resolve inexact' similar defined'
  exact ⟨_, convert_lookup named filled,
    judged.detail_eq defined (LookupOptions.judged_congr defined perm judged')⟩

theorem lookup_of_inexact_gym :
    let score (units : Nat) : Double := .finite false units
    let found : List (Value × Double) :=
      [(.text "mill", score 2), (.text "gym", score 3), (.text "park", score 1)]
    let options : LookupOptions := { minScore := score 2 }
    let d : Directory := ⟨fun _ => [], fun _ => found⟩
    let d' : Directory := ⟨fun _ => [], fun _ => found.reverse⟩
    let tied : Directory := ⟨fun _ => [], fun _ => (.text "pool", score 3) :: found⟩
    (lookup d options).convert (.text "g") = .ok (.ok (.text "gym")) ∧
      (lookup d' options).convert (.text "g") = .ok (.ok (.text "gym")) ∧
      ∃ message, (lookup tied options).convert (.text "g") = .ok (fail .ambiguous message) := by
  intro score found options d d' tied
  have named : (Value.text "g").text? = some "g" := rfl
  have filled : Text.trimmed "g" ≠ "" := by decide +kernel
  have defined : LookupOptions.Defined ((.text "pool", score 3) :: found) := by
    simp [LookupOptions.Defined, found, score]
  obtain ⟨outcome, converted, leads, _, _, reordered⟩ :=
    lookup_of_inexact d options named filled rfl rfl (List.forall_mem_cons.mp defined).2
  have gym : outcome = .ok (.text "gym") := by
    refine (leads _).mpr ⟨[(.text "mill", score 2)], score 3, [(.text "park", score 1)], rfl, rfl, ?_⟩
    simp [score, Double.below]
  subst gym
  obtain ⟨outcome', converted', same⟩ := reordered d' rfl found.reverse_perm
  obtain ⟨shared, answered, _, ambiguous, _⟩ :=
    lookup_of_inexact tied options named filled rfl rfl defined
  obtain ⟨message, rfl⟩ := ambiguous.mpr ⟨(.text "pool", score 3), (.text "gym", score 3),
    .cons_cons _ (.cons _ (.cons_cons _ (List.nil_sublist _))), rfl, rfl, by
      simp [tied, found, score, Double.below]⟩
  refine ⟨converted, ?_, message, answered⟩
  cases outcome' with
  | error failure => cases same
  | ok item =>
    cases same
    exact converted'

end Converter
end LineCommand
