import LineCommand.Proofs.Grammar.Blocks
import LineCommand.Proofs.Grammar.Tame
import LineCommand.Proofs.Grammar.Words

/-! Fields that may be left out. Marking a reference as optional lets a template match just the lines
that it matches with the field and those that it matches without it, whatever stands around the
reference. -/
namespace LineCommand
open Pattern

namespace Fragment

variable {x : Fragment} {xs : List Fragment} {f : Field} {pending : Bool} {text rest : List Char}

/-! ### Leaving out a field -/

theorem fits_mandatory (mandatory : ∀ f, x ≠ .field f true) : Fits pending (x :: xs) text ↔
    ∃ here, Gapped pending text here ∧ ∃ behind, (x.body {}).Leaves here behind ∧
      Fits true xs behind := by
  have takes : Fits pending (x :: xs) text ↔
      ∃ behind, (∃ here, Gapped pending text here ∧ (x.body {}).Leaves here behind) ∧
        Fits true xs behind := by
    cases x with
    | plain | unknown => exact Iff.rfl
    | field f optional =>
      cases optional with
      | false => exact Iff.rfl
      | true => exact absurd rfl (mandatory f)
  rw [takes]
  constructor
  · rintro ⟨behind, ⟨here, gap, left⟩, others⟩
    exact ⟨here, gap, behind, left, others⟩
  · rintro ⟨here, gap, behind, left, others⟩
    exact ⟨behind, ⟨here, gap, left⟩, others⟩

/-- Behind a pending separator, a field may be left out together with it. -/
theorem fits_pending_optional : Fits true (.field f true :: xs) text ↔
    Fits true (.field f false :: xs) text ∨ Fits true xs text := by
  constructor
  · rintro ⟨rest, ⟨here, behind, gap, left, same⟩ | same, others⟩
    · obtain rfl : rest = behind := same
      exact .inl ⟨rest, ⟨here, gap, left⟩, others⟩
    · obtain rfl : rest = text := same
      exact .inr others
  · rintro (⟨rest, ⟨here, gap, left⟩, others⟩ | others)
    · exact ⟨rest, .inl ⟨here, rest, gap, left, rfl⟩, others⟩
    · exact ⟨text, .inr rfl, others⟩

/-- At the start, a field may be left out together with what keeps it apart, if that does the same as a
pending separator. -/
theorem fits_first_optional
    (apart : ∀ text, (∃ rest, SetApart text rest ∧ Fits false xs rest) ↔ Fits true xs text) :
    Fits false (.field f true :: xs) text ↔
      Fits false (.field f false :: xs) text ∨ Fits false xs text := by
  constructor
  · rintro ⟨rest, ⟨here, behind, gap, left, loosed⟩ | same, others⟩
    · exact .inl ⟨behind, ⟨here, gap, left⟩, (apart behind).mp ⟨rest, loosed, others⟩⟩
    · obtain rfl : rest = text := same
      exact .inr others
  · rintro (⟨behind, ⟨here, gap, left⟩, others⟩ | others)
    · obtain ⟨rest, loosed, fitting⟩ := (apart behind).mpr others
      exact ⟨rest, .inl ⟨here, behind, gap, left, loosed⟩, fitting⟩
    · exact ⟨text, .inr rfl, others⟩

/-- What keeps a field apart from the fragments behind it does the same as a pending separator: none of
them matches blanks only. -/
theorem exists_setApart_fits
    (filled : ∀ x ∈ xs, (x.body {}).Filled)
    (text : List Char) :
    (∃ rest, SetApart text rest ∧ Fits false xs rest) ↔ Fits true xs text := by
  induction xs generalizing text with
  | nil =>
    constructor
    · rintro ⟨rest, ⟨w, blanks, _, rfl⟩ | ⟨blanks, rfl⟩, ended⟩
      · exact List.forall_mem_append.mpr ⟨blanks, ended⟩
      · exact blanks
    · intro blanks
      exact ⟨text, .inr ⟨blanks, rfl⟩, blanks⟩
  | cons x xs ih =>
    obtain ⟨here, rests⟩ := List.forall_mem_cons.mp filled
    have mandatory : ∀ y : Fragment, y.body {} = x.body {} → (∀ f, y ≠ .field f true) →
        ((∃ rest, SetApart text rest ∧ Fits false (y :: xs) rest) ↔ Fits true (y :: xs) text) := by
      intro y same mandatory
      simp only [fits_mandatory mandatory, same]
      constructor
      · rintro ⟨rest, apart, _, rfl, behind, left, others⟩
        obtain parted | ⟨blanks, rfl⟩ := apart
        · exact ⟨_, parted, behind, left, others⟩
        · exact absurd left (here _ _ blanks)
      · rintro ⟨rest, parted, behind, left, others⟩
        exact ⟨rest, .inl parted, rest, rfl, behind, left, others⟩
    -- Only what may be left out lets blanks through to the fragments behind it.
    cases x with
    | plain | unknown => exact mandatory _ rfl nofun
    | field f optional =>
      have required := mandatory (.field f false) (by cases optional <;> rfl) nofun
      cases optional with
      | false => exact required
      | true =>
        simp only [fits_first_optional (ih rests), fits_pending_optional, and_or_left, exists_or,
          required, ih rests]

/-- A field that may be left out is there or is not. -/
theorem fits_optional
    (filled : ∀ x ∈ xs, (x.body {}).Filled)
    (before : List Fragment) : Fits pending (before ++ .field f true :: xs) text ↔
      Fits pending (before ++ .field f false :: xs) text ∨ Fits pending (before ++ xs) text := by
  induction before generalizing pending text with
  | nil =>
    cases pending with
    | false => exact fits_first_optional (exists_setApart_fits filled)
    | true => exact fits_pending_optional
  -- In front of the field all three take the same of a text, and leave the same separator pending.
  | cons x before ih => simp only [List.cons_append, Fits, ih, and_or_left, exists_or]

theorem Tame.optional {optional : Bool} (tame : (field f optional).Tame) (optional' : Bool) :
    (field f optional').Tame :=
  ⟨tame.reads, tame.tame, nofun, tame.declared, tame.filled⟩

section
variable {before after : List Fragment}

theorem tame_optional (tame : ∀ x ∈ before ++ .field f false :: after, x.Tame) :
    ∀ x ∈ before ++ .field f true :: after, x.Tame := by
  simp only [List.forall_mem_append, List.forall_mem_cons] at tame ⊢
  exact ⟨tame.1, tame.2.1.optional true, tame.2.2⟩

theorem tame_without (tame : ∀ y ∈ before ++ x :: after, y.Tame) :
    ∀ y ∈ before ++ after, y.Tame := by
  simp only [List.forall_mem_append, List.forall_mem_cons] at tame ⊢
  exact ⟨tame.1, tame.2.2⟩

end

/-! ### Names -/

/-- Fragments no two of which are the same field, or have groups of the same name. -/
structure Distinct (xs : List Fragment) : Prop where
  keys : (xs.filterMap key?).Nodup
  names : (xs.flatMap names).Nodup

theorem Distinct.without {before after : List Fragment}
    (distinct : Distinct (before ++ x :: after)) : Distinct (before ++ after) := by
  have part : (before ++ after).Sublist (before ++ x :: after) :=
    (List.sublist_cons_self x after).append_left before
  refine ⟨distinct.keys.sublist (part.filterMap _), distinct.names.sublist ?_⟩
  simp only [List.flatMap_append, List.flatMap_cons]
  exact (List.sublist_append_right _ _).append_left _

theorem distinct_optional {optional : Bool} {before after : List Fragment} :
    Distinct (before ++ .field f optional :: after) ↔
      Distinct (before ++ .field f false :: after) := by
  have keys : (before ++ .field f optional :: after).filterMap key? =
      (before ++ .field f false :: after).filterMap key? := by
    simp [key?]
  have groups : (before ++ .field f optional :: after).flatMap Fragment.names =
      (before ++ .field f false :: after).flatMap Fragment.names := by
    simp only [List.flatMap_append, List.flatMap_cons]
    rfl
  constructor
  · rintro ⟨differentKeys, differentNames⟩
    exact ⟨keys ▸ differentKeys, groups ▸ differentNames⟩
  · rintro ⟨differentKeys, differentNames⟩
    exact ⟨keys ▸ differentKeys, groups ▸ differentNames⟩

end Fragment

/-! ### Templates -/

theorem toOption_mapM {α β ε : Type} (f : α → Except ε β) (xs : List α) :
    (xs.mapM f).toOption = xs.mapM fun x => (f x).toOption := by
  induction xs with
  | nil => rfl
  | cons x xs ih =>
    rw [List.mapM_cons, List.mapM_cons, ← ih]
    cases f x with
    | error e => rfl
    | ok y => cases xs.mapM f <;> rfl

theorem mapM_append_eq_some {α β : Type} {f : α → Option β} {xs ys : List α} {zs : List β} :
    (xs ++ ys).mapM f = some zs ↔
      ∃ as bs, xs.mapM f = some as ∧ ys.mapM f = some bs ∧ as ++ bs = zs := by
  simp [List.mapM_append, Option.bind_eq_some_iff]

theorem exists_mapM_eq_ok_iff {α β ε : Type} {f : α → Except ε β} {xs : List α} :
    (∃ ys, xs.mapM f = .ok ys) ↔ ∀ x ∈ xs, ∃ y, f x = .ok y := by
  induction xs with
  | nil => exact ⟨fun _ => nofun, fun _ => ⟨[], rfl⟩⟩
  | cons x xs ih =>
    rw [List.forall_mem_cons, ← ih, List.mapM_cons]
    cases f x with
    | error e => simp [bind, Except.bind]
    | ok y =>
      cases xs.mapM f with
      | error e => simp [bind, Except.bind]
      | ok ys => simp [bind, Except.bind, pure, Except.pure]

namespace Template

theorem exists_shown_iff {t : Template} :
    (∃ text, t.shown = .ok text) ↔ ∀ v ∈ t.items, ∃ text, pieceText v = .ok text := by
  rw [← exists_mapM_eq_ok_iff, shown]
  cases t.items.mapM pieceText with
  | error fault => simp [bind, Except.bind]
  | ok parts => simp [bind, Except.bind]

theorem exists_pieceText {v : Value} {name raw : String} {optional : Bool}
    (reference : tokenOf? v = .ok (some (.reference name optional raw))) :
    ∃ text, pieceText v = .ok text := by
  cases v with
  | text s => exact ⟨s, rfl⟩
  | reference name optional raw => exact ⟨_, rfl⟩
  | literal s => cases reference
  | _ =>
    simp only [tokenOf?] at reference
    split at reference <;> cases reference

end Template

namespace GrammarBuilder

variable {b : GrammarBuilder} {t : Template} {xs : List Fragment}

/-- The fragments that pieces of a template stand for. -/
theorem fragments?_eq_some_iff : b.fragments? t = some xs ↔
    ∃ found, t.items.mapM (fun v => (Template.tokenOf? v).toOption) = some found ∧
      (found.filterMap id).mapM (fun token => (b.resolve token).toOption) = some xs := by
  have tokens : t.tokens.toOption =
      (t.items.mapM fun v => (Template.tokenOf? v).toOption).map (List.filterMap id) := by
    rw [← toOption_mapM, Template.tokens]
    cases t.items.mapM Template.tokenOf? <;> rfl
  rw [fragments?, tokens, Option.bind_eq_some_iff]
  simp only [Option.map_eq_some_iff]
  constructor
  · rintro ⟨_, ⟨found, listed, rfl⟩, resolved⟩
    exact ⟨found, listed, resolved⟩
  · rintro ⟨found, listed, resolved⟩
    exact ⟨_, ⟨found, listed, rfl⟩, resolved⟩

theorem fragments?_congr {u : Template} (same : t.items = u.items) :
    b.fragments? t = b.fragments? u := by
  rw [fragments?, fragments?, Template.tokens, Template.tokens, same]

theorem fragments?_append {vs ws : List Value} : b.fragments? (.pieces (vs ++ ws)) = some xs ↔
    ∃ ys zs, b.fragments? (.pieces vs) = some ys ∧ b.fragments? (.pieces ws) = some zs ∧
      ys ++ zs = xs := by
  simp only [fragments?_eq_some_iff, Template.items, mapM_append_eq_some]
  constructor
  · rintro ⟨_, ⟨as, bs, first, second, rfl⟩, resolved⟩
    rw [List.filterMap_append, mapM_append_eq_some] at resolved
    obtain ⟨ys, zs, here, there, joined⟩ := resolved
    exact ⟨ys, zs, ⟨as, first, here⟩, ⟨bs, second, there⟩, joined⟩
  · rintro ⟨ys, zs, ⟨as, first, here⟩, ⟨bs, second, there⟩, joined⟩
    refine ⟨as ++ bs, ⟨as, bs, first, second, rfl⟩, ?_⟩
    rw [List.filterMap_append, mapM_append_eq_some]
    exact ⟨ys, zs, here, there, joined⟩

theorem fragments?_insert {v : Value} {x : Fragment} {before after : List Value}
    (here : b.fragments? (.pieces [v]) = some [x]) (items : t.items = before ++ v :: after) :
    b.fragments? t = some xs ↔ ∃ ys zs, b.fragments? (.pieces before) = some ys ∧
      b.fragments? (.pieces after) = some zs ∧ ys ++ x :: zs = xs := by
  rw [fragments?_congr (u := .pieces (before ++ ([v] ++ after))) items, fragments?_append]
  constructor
  · rintro ⟨ys, _, first, second, rfl⟩
    obtain ⟨us, zs, single, last, rfl⟩ := fragments?_append.mp second
    obtain rfl : [x] = us := Option.some.inj (here.symm.trans single)
    exact ⟨ys, zs, first, last, rfl⟩
  · rintro ⟨ys, zs, first, last, rfl⟩
    exact ⟨ys, x :: zs, first, fragments?_append.mpr ⟨[x], zs, here, last, rfl⟩, rfl⟩

theorem fragments?_reference {v : Value} {name raw : String} {optional : Bool} {f : Field}
    (reference : Template.tokenOf? v = .ok (some (.reference name optional raw)))
    (known : NameTable.get? b.fields (.text name) = some f) :
    b.fragments? (.pieces [v]) = some [.field f (f.optional || optional)] := by
  refine fragments?_eq_some_iff.mpr ⟨[some (.reference name optional raw)], ?_, ?_⟩
  · simp [Template.items, reference, Except.toOption]
  · simp [resolve, known, Except.toOption]

def Matches (b : GrammarBuilder) (t : Template) (line : String) : Prop :=
  ∃ g texts, (b.build t).answer = .ok (.ok g) ∧
    (g.parse (.text line)).answer = .ok (.ok (some texts))

/-- What a template of tame fragments matches is what they match one after the other. -/
theorem matches_iff_fits (plain : b.flags = {}) (found : b.fragments? t = some xs)
    (tame : ∀ x ∈ xs, x.Tame) (built : ∃ g, (b.build t).answer = .ok (.ok g)) (line : String) :
    b.Matches t line ↔
      ∃ w mid, Text.Blanks w ∧ line.toList = w ++ mid ∧ Fragment.Fits false xs mid := by
  have forward : ∀ x ∈ xs, x.Forward := fun x member => (tame x member).forward
  obtain ⟨g, built⟩ := built
  have made := makes_of_build built found
  rw [plain] at made
  rw [← made.isSome_match?_iff forward]
  have reading := made.read (fun x member => (forward x member).standalone)
    (fun x member => (tame x member).declared) line
  constructor
  · rintro ⟨h, texts, built', parsed⟩
    obtain rfl : g = h := Except.ok.inj (Except.ok.inj (built.symm.trans built'))
    obtain ⟨_, read⟩ | ⟨captures, matched, _⟩ := reading
    · rw [Grammar.parse_of_noMatch read] at parsed
      cases parsed
    · rw [matched]
      rfl
  · intro matched
    obtain ⟨none, _⟩ | ⟨captures, _, _, read⟩ := reading
    · rw [none] at matched
      cases matched
    · exact ⟨g, _, built, Grammar.parse_of_fields read⟩

/-- A template of tame fragments can be built just if the fragments are distinct and a field is among
them, and the template can be shown. -/
theorem exists_build_iff (plain : b.flags = {}) (found : b.fragments? t = some xs)
    (tame : ∀ x ∈ xs, x.Tame) : (∃ g, (b.build t).answer = .ok (.ok g)) ↔
      Fragment.Distinct xs ∧ xs.filterMap Fragment.slot? ≠ [] ∧
        ∀ v ∈ t.items, ∃ text, Template.pieceText v = .ok text := by
  have forward : ∀ x ∈ xs, x.Forward := fun x member => (tame x member).forward
  constructor
  · rintro ⟨g, built⟩
    obtain ⟨ys, found', made, keys, shown⟩ := build_eq_ok_iff.mp built
    obtain rfl : ys = xs := Option.some.inj (found'.symm.trans found)
    rw [plain] at made
    exact ⟨⟨keys, Fragment.nodup_names forward made.expression⟩, made.slots ▸ made.filled,
      Template.exists_shown_iff.mp ⟨_, shown⟩⟩
  · rintro ⟨distinct, some, shown⟩
    obtain ⟨e, read, _⟩ := Fragment.exists_read_forward forward distinct.names
    obtain ⟨text, shown⟩ := Template.exists_shown_iff.mpr shown
    exact ⟨⟨e, xs.filterMap Fragment.slot?, text⟩,
      build_eq_ok_iff.mpr ⟨xs, found, ⟨plain ▸ read, rfl, some⟩, distinct.keys, shown⟩⟩

section Reference

variable {req opt rem : Template} {before after : List Value} {r o : Value} {f : Field}
  {ys zs : List Fragment} (plain : b.flags = {})
  (tame : ∀ x ∈ ys ++ .field f false :: zs, x.Tame)
include plain tame

/-- A template can be built with a reference marked as optional just if it can be with the reference
as it is. -/
theorem exists_build_optional_iff (reqFound : b.fragments? req = some (ys ++ .field f false :: zs))
    (optFound : b.fragments? opt = some (ys ++ .field f true :: zs))
    (reqItems : req.items = before ++ r :: after) (optItems : opt.items = before ++ o :: after)
    (reqShown : ∃ text, Template.pieceText r = .ok text)
    (optShown : ∃ text, Template.pieceText o = .ok text) :
    (∃ g, (b.build opt).answer = .ok (.ok g)) ↔ ∃ g, (b.build req).answer = .ok (.ok g) := by
  have slots : (ys ++ .field f true :: zs).filterMap Fragment.slot? =
      (ys ++ .field f false :: zs).filterMap Fragment.slot? := by
    simp [Fragment.slot?]
  rw [exists_build_iff plain reqFound tame,
    exists_build_iff plain optFound (Fragment.tame_optional tame), Fragment.distinct_optional, slots,
    reqItems, optItems]
  simp only [List.forall_mem_append, List.forall_mem_cons, reqShown, optShown, true_and]

/-- A template in which there is another field can be built without a reference. -/
theorem exists_build_without (reqFound : b.fragments? req = some (ys ++ .field f false :: zs))
    (remFound : b.fragments? rem = some (ys ++ zs))
    (reqItems : req.items = before ++ r :: after) (remItems : rem.items = before ++ after)
    (two : 2 ≤ ((ys ++ .field f false :: zs).filterMap Fragment.slot?).length)
    (built : ∃ g, (b.build req).answer = .ok (.ok g)) :
    ∃ g, (b.build rem).answer = .ok (.ok g) := by
  obtain ⟨distinct, _, shown⟩ := (exists_build_iff plain reqFound tame).mp built
  refine (exists_build_iff plain remFound (Fragment.tame_without tame)).mpr
    ⟨distinct.without, ?_, ?_⟩
  · intro none
    have one : ((ys ++ .field f false :: zs).filterMap Fragment.slot?).length =
        ((ys ++ zs).filterMap Fragment.slot?).length + 1 := by
      simp [Fragment.slot?, Nat.add_assoc]
    rw [one, none] at two
    cases two with
    | step impossible => cases impossible
  · rw [reqItems] at shown
    rw [remItems]
    simp only [List.forall_mem_append, List.forall_mem_cons] at shown ⊢
    exact ⟨shown.1, shown.2.2⟩

end Reference

theorem letters_tame : (Fragment.field letters false).Tame := by
  refine ⟨letters_forWords.reads, by decide +kernel, nofun, by decide +kernel, ?_⟩
  obtain ⟨e, read⟩ := letters_forWords.reads
  have body : (Fragment.field letters false).body {} = e.pattern := by
    rw [Fragment.body, Fragment.text, read]
  rw [body]
  refine filled_of_fullMatches (letters_regular read) fun text blanks =>
    Bool.eq_false_iff.mpr fun matched => ?_
  rw [← String.toList_ofList (l := text), ← Field.fullMatches_eq read] at matched
  obtain ⟨some, solid⟩ := letters_forWords.only text matched
  obtain ⟨c, member⟩ := List.exists_mem_of_ne_nil _ some
  have blank := blanks c member
  rw [solid c member] at blank
  cases blank

theorem trailing_tame : (Fragment.field trailing false).Tame := by
  refine ⟨⟨_, rfl⟩, by decide +kernel, nofun, by decide +kernel, Filled.seq (filled_one ?_) _⟩
  rintro c holds
  rw [character_holds.mp holds]
  rfl

/-- In a template with at least two fields, a reference to a field that is not optional by itself may
be marked as optional, or be left out. If it is marked, the template matches the lines that it matches
with the reference as it is, and those that it matches without the reference; and no others. All of
this is for fragments that look at nothing but the text ahead, of which they match more than blanks.
A reference that stands for its own text is no field. -/
theorem matches_optional_iff (b : GrammarBuilder) (req opt rem : Template)
    (before after : List Value) (r o : Value) (name raw raw' : String) (f : Field)
    (xs : List Fragment) (plain : b.flags = {}) (reqItems : req.items = before ++ r :: after)
    (optItems : opt.items = before ++ o :: after) (remItems : rem.items = before ++ after)
    (required : Template.tokenOf? r = .ok (some (.reference name false raw)))
    (optional : Template.tokenOf? o = .ok (some (.reference name true raw')))
    (known : NameTable.get? b.fields (.text name) = some f) (mandatory : f.optional = false)
    (found : b.fragments? req = some xs) (tame : ∀ x ∈ xs, x.Tame)
    (two : 2 ≤ (xs.filterMap Fragment.slot?).length)
    (built : (∃ g, (b.build req).answer = .ok (.ok g)) ∨ ∃ g, (b.build opt).answer = .ok (.ok g)) :
    (∀ t ∈ [req, opt, rem], ∃ g, (b.build t).answer = .ok (.ok g)) ∧
      ∀ line, b.Matches opt line ↔ b.Matches req line ∨ b.Matches rem line := by
  have reqField := fragments?_reference required known
  have optField := fragments?_reference optional known
  rw [mandatory, Bool.false_or] at reqField optField
  obtain ⟨ys, zs, first, last, rfl⟩ := (fragments?_insert reqField reqItems).mp found
  have optFound : b.fragments? opt = some (ys ++ .field f true :: zs) :=
    (fragments?_insert optField optItems).mpr ⟨ys, zs, first, last, rfl⟩
  have remFound : b.fragments? rem = some (ys ++ zs) :=
    (fragments?_congr remItems).trans (fragments?_append.mpr ⟨ys, zs, first, last, rfl⟩)
  have marked := exists_build_optional_iff plain tame found optFound reqItems optItems
    (Template.exists_pieceText required) (Template.exists_pieceText optional)
  have reqBuilt : ∃ g, (b.build req).answer = .ok (.ok g) := built.elim id marked.mp
  have optBuilt := marked.mpr reqBuilt
  have remBuilt := exists_build_without plain tame found remFound reqItems remItems two reqBuilt
  refine ⟨by simp [reqBuilt, optBuilt, remBuilt], fun line => ?_⟩
  rw [matches_iff_fits plain found tame reqBuilt,
    matches_iff_fits plain optFound (Fragment.tame_optional tame) optBuilt,
    matches_iff_fits plain remFound (Fragment.tame_without tame) remBuilt]
  -- Only behind the reference does it matter that blanks alone are no match.
  have filled : ∀ x ∈ zs, (x.body {}).Filled := fun x member =>
    (tame x (List.mem_append_right _ (.tail _ member))).filled
  have law : ∀ mid, Fragment.Fits false (ys ++ .field f true :: zs) mid ↔
      Fragment.Fits false (ys ++ .field f false :: zs) mid ∨ Fragment.Fits false (ys ++ zs) mid :=
    fun mid => Fragment.fits_optional filled ys
  simp only [law, and_or_left, exists_or]

theorem matches_optional_first :
    let b : GrammarBuilder := { fields := ⟨[⟨"n", "n", letters⟩, ⟨"b", "b", trailing⟩]⟩ }
    let req : Template := .text (Grammar.reference "n" ++ " go " ++ Grammar.reference "b")
    let opt : Template := .text ("\x7b\x7bn?\x7d\x7d go " ++ Grammar.reference "b")
    let rem : Template := .text ("go " ++ Grammar.reference "b")
    b.Matches opt "ab go xy" ∧ b.Matches opt "go x" ∧
      (∀ t ∈ [req, opt, rem], ∃ g, (b.build t).answer = .ok (.ok g)) ∧
      ∀ line, b.Matches opt line ↔ b.Matches req line ∨ b.Matches rem line := by
  intro b req opt rem
  have tame : ∀ x ∈ [Fragment.field letters false, .plain "go", .field trailing false], x.Tame := by
    simp only [List.forall_mem_cons]
    refine ⟨letters_tame, ⟨⟨_, rfl⟩, by decide +kernel, fun _ => by decide +kernel,
      by decide +kernel, Filled.seq (filled_one fun c holds => ?_) _⟩, trailing_tame, nofun⟩
    rw [character_holds.mp holds]
    rfl
  have both := matches_optional_iff b req opt rem [] [.text "go", .text (Grammar.reference "b")]
    (.text (Grammar.reference "n")) (.text "\x7b\x7bn?\x7d\x7d") "n" (Grammar.reference "n")
    "\x7b\x7bn?\x7d\x7d" letters _ rfl rfl rfl rfl rfl rfl rfl rfl (by decide +kernel) tame (by decide)
    (.inl (exists_build (by decide +kernel)))
  obtain ⟨g, built, read⟩ : ∃ g, (b.build opt).answer = .ok (.ok g) ∧
      g.read "ab go xy" = .ok (.fields [("n", some "ab"), ("b", some "y")]) :=
    exists_read (by decide +kernel)
  obtain ⟨h, built', read'⟩ : ∃ h, (b.build opt).answer = .ok (.ok h) ∧
      h.read "go x" = .ok (.fields [("n", none), ("b", some "x")]) :=
    exists_read (by decide +kernel)
  exact ⟨⟨g, _, built, Grammar.parse_of_fields read⟩, ⟨h, _, built', Grammar.parse_of_fields read'⟩,
    both⟩

end GrammarBuilder
end LineCommand
