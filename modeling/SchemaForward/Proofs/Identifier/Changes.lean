import SchemaForward.Proofs.Identifier.Legal

/-!
# The changes of a name

An identifier comes with the changes that led to it from the name that was asked for. There are at
most three, in the order of the steps, each really changes the name, and each takes it up where the
one before left it.

A name that is legal, in the case of the dialect and free needs no change at all. Every identifier
that was given is in the case of the dialect, whatever the rules, and free until it was given. So a
legal one, asked for again where it is free, is given as it stands; and if what was asked for is
what was given, nothing was changed on the way there and back.
-/

namespace SchemaForward

namespace IdentifierRules

variable {rules : IdentifierRules}

/-- Changes lead from one name to another: each takes the name as the one before left it, and makes
another of it. -/
inductive Leads : String → List SpellingChange → String → Prop
  | nowhere (name : String) : Leads name [] name
  | step {change : SpellingChange} {rest : List SpellingChange} {last : String}
      (differ : change.old ≠ change.new) (further : Leads change.new rest last) :
      Leads change.old (change :: rest) last

namespace Leads

variable {first between last : String} {earlier later : List SpellingChange}

/-- Changes that lead on from where others have led make up one way. That is how the steps of a name
are put together. -/
theorem append (here : Leads first earlier between) (there : Leads between later last) :
    Leads first (earlier ++ later) last := by
  induction here with
  | nowhere name => exact there
  | step differ _ inductionHypothesis => exact .step differ (inductionHypothesis there)

/-- No changes lead nowhere else. So the list of changes is enough to tell that a name was kept. -/
theorem eq_of_nil (leads : Leads first [] last) : first = last := by
  cases leads
  rfl

end Leads

/-- What one step reports leads from the name before it to the name after it. If the two are equal
it reports nothing, and nothing is what leads there. -/
theorem leads_change (step : NameStep) (old new : String) :
    Leads old (change step old new) new := by
  unfold change
  split
  · rename_i same
    rw [eq_of_beq same]
    exact .nowhere new
  · rename_i differ
    have changed : (⟨step, old, new⟩ : SpellingChange).old ≠ new := fun same =>
      differ (beq_iff_eq.mpr same)
    exact .step changed (.nowhere new)

/-- A step reports at most one change, and one of its own. -/
theorem steps_change_sublist (step : NameStep) (old new : String) :
    ((change step old new).map (·.step)).Sublist [step] := by
  unfold change
  split
  · exact List.nil_sublist _
  · exact List.Sublist.refl _

/-- The changes of an identifier are those of the three steps. The last one is a change even though
it is not looked at: a suffix is only sought for a name that is not available, and what is found
is. -/
theorem changes_of_identifierFor {scope : Namespace} {used next : TakenNames} {raw : String}
    {legal : LegalName} (given : rules.identifierFor scope used raw = .ok (legal, next)) :
    let restricted := rules.restrict raw
    let truncated := rules.truncate restricted
    legal.changes = change .restricted raw restricted ++ change .truncated restricted truncated ++
      change .collision truncated legal.name := by
  intro restricted truncated
  obtain ⟨available, -, -⟩ := of_identifierFor given
  unfold identifierFor at given
  dsimp only at given
  split at given
  · rename_i unavailable
    split at given
    · cases given
    · obtain ⟨rfl, -⟩ := Prod.mk.inj (Except.ok.inj given)
      rename_i unique _
      -- What is found is available, and what it was sought for was not.
      have differ : (truncated == unique) = false := by
        refine beq_eq_false_iff_ne.mpr fun same => ?_
        rw [← same] at available
        exact Bool.false_ne_true (available.symm.trans unavailable)
      rw [show change .collision truncated unique = [⟨.collision, truncated, unique⟩] by
        rw [change, differ]; rfl]
  · obtain ⟨rfl, -⟩ := Prod.mk.inj (Except.ok.inj given)
    rw [show change .collision truncated truncated = [] by rw [change, beq_self_eq_true]; rfl,
      List.append_nil]

/-- The changes of an identifier lead from the name that was asked for to the one that was given,
with nothing left out between two of them. -/
theorem leads_of_identifierFor {scope : Namespace} {used next : TakenNames} {raw : String}
    {legal : LegalName} (given : rules.identifierFor scope used raw = .ok (legal, next)) :
    Leads raw legal.changes legal.name := by
  rw [changes_of_identifierFor given]
  exact ((leads_change _ _ _).append (leads_change _ _ _)).append (leads_change _ _ _)

/-- The changes of an identifier stand in the order of the steps, and no step has more than one. Any
of the three may be missing. -/
theorem steps_of_identifierFor {scope : Namespace} {used next : TakenNames} {raw : String}
    {legal : LegalName} (given : rules.identifierFor scope used raw = .ok (legal, next)) :
    (legal.changes.map (·.step)).Sublist [.restricted, .truncated, .collision] := by
  rw [changes_of_identifierFor given, List.map_append, List.map_append]
  exact ((steps_change_sublist _ _ _).append (steps_change_sublist _ _ _)).append
    (steps_change_sublist _ _ _)

/-- A character in the case that the dialect gives to identifiers. -/
def foldLetter (rules : IdentifierRules) (character : Char) : Char :=
  match rules.letterCase with
  | .upper => character.toUpper
  | .lower => character.toLower
  | .preserve => character

/-- A name is folded letter by letter. -/
theorem toList_fold (rules : IdentifierRules) (name : String) :
    (rules.fold name).toList = name.toList.map rules.foldLetter := by
  unfold fold foldLetter
  cases rules.letterCase <;> simp

/-- A character that is in the case of the dialect already stays as it is. -/
theorem foldLetter_foldLetter (rules : IdentifierRules) (character : Char) :
    rules.foldLetter (rules.foldLetter character) = rules.foldLetter character := by
  unfold foldLetter
  cases rules.letterCase <;> simp

/-- Folding does not touch what reserved words are told by. -/
theorem upper_fold (rules : IdentifierRules) (name : String) :
    Text.upper (rules.fold name) = Text.upper name := by
  refine String.toList_injective ?_
  rw [Text.toList_upper, Text.toList_upper, toList_fold, List.map_map]
  refine List.map_congr_left fun character _ => ?_
  unfold foldLetter
  cases rules.letterCase <;> simp

/-- A word is reserved in any case or in none. So folding neither makes a name reserved nor saves it
from being so. -/
theorem isReserved_fold (rules : IdentifierRules) (name : String) :
    rules.isReserved (rules.fold name) = rules.isReserved name := by
  unfold isReserved Text.sameLetters
  rw [upper_fold]

/-- The characters are in the case of the dialect. -/
def Folded (rules : IdentifierRules) (name : List Char) : Prop :=
  ∀ character ∈ name, rules.foldLetter character = character

/-- A name is in the case of the dialect exactly if each of its characters is. Folding goes letter
by letter and keeps the length. -/
theorem fold_eq_self_iff {name : String} : rules.fold name = name ↔ Folded rules name.toList := by
  rw [← String.toList_inj, toList_fold]
  exact ((List.map_id name.toList).congr_right).symm.trans List.map_eq_map_iff

/-- What was folded is in the case of the dialect, since folding a second time changes nothing. -/
theorem folded_fold (rules : IdentifierRules) (name : String) :
    Folded rules (rules.fold name).toList := by
  intro character member
  rw [toList_fold] at member
  obtain ⟨original, -, rfl⟩ := List.mem_map.mp member
  exact rules.foldLetter_foldLetter original

/-- No digit is a letter. Their codes lie below those of the letters. -/
theorem isAlpha_of_isDigit {character : Char} (digit : character.isDigit = true) :
    character.isAlpha = false := by
  refine Bool.eq_false_iff.mpr fun letter => ?_
  simp only [Char.isDigit, Char.isAlpha, Char.isUpper, Char.isLower, Bool.or_eq_true,
    Bool.and_eq_true, decide_eq_true_eq, ge_iff_le, UInt32.le_iff_toNat_le] at digit letter
  have lastDigit : '9'.val.toNat = 57 := rfl
  have firstUpper : 'A'.val.toNat = 65 := rfl
  have firstLower : 'a'.val.toNat = 97 := rfl
  omega

/-- Only letters have a case. What is put into a name on the way, underscores and digits, stays as
it is when it is folded. -/
theorem foldLetter_of_not_isAlpha {character : Char} (noLetter : character.isAlpha = false) :
    rules.foldLetter character = character := by
  obtain ⟨notUpper, notLower⟩ := Bool.or_eq_false_iff.mp noLetter
  unfold foldLetter
  split
  · exact Char.toUpper_eq_of_not_isLower (Bool.not_eq_true _ ▸ notLower)
  · exact Char.toLower_eq_of_not_isUpper (Bool.not_eq_true _ ▸ notUpper)
  · rfl

namespace Folded

variable {name suffix : List Char}

/-- A name in the case of the dialect may be followed by characters in that case. -/
theorem append (front : Folded rules name) (behind : Folded rules suffix) :
    Folded rules (name ++ suffix) := by
  intro character member
  rcases List.mem_append.mp member with inFront | inSuffix
  · exact front character inFront
  · exact behind character inSuffix

/-- Cutting a name does not bring in any other case. -/
theorem take (folded : Folded rules name) (length : Nat) : Folded rules (name.take length) :=
  fun character member => folded character (List.mem_of_mem_take member)

end Folded

/-- The underscore is in any case. It is what replaces other characters and stands before a number.
-/
theorem folded_underscore (rules : IdentifierRules) : Folded rules ['_'] := by
  intro character member
  rw [List.mem_singleton.mp member]
  exact foldLetter_of_not_isAlpha (by decide)

/-- A suffix is in any case, since an underscore and digits are no letters. -/
theorem folded_suffix (rules : IdentifierRules) (number : Nat) :
    Folded rules (suffix number).toList := by
  rw [toList_suffix]
  refine rules.folded_underscore.append fun character member => ?_
  have digit := Nat.isDigit_of_mem_toDigits (by decide) (by decide) member
  exact foldLetter_of_not_isAlpha (isAlpha_of_isDigit digit)

/-- A restricted name is in the case of the dialect. Only the underscore of a reserved word is put
to it after it was folded. -/
theorem folded_restrict (rules : IdentifierRules) (name : String) :
    Folded rules (rules.restrict name).toList := by
  unfold restrict escapeReserved
  split
  · rw [String.toList_append]
    exact (rules.folded_fold _).append rules.folded_underscore
  · exact rules.folded_fold _

/-- What is left of a name in the case of the dialect is in that case, however short it is cut. -/
theorem folded_cut {name : String} (folded : Folded rules name.toList) (length : Nat) :
    Folded rules (cut length name).toList := by
  rw [cut, String.toList_ofList]
  exact folded.take length

/-- Cutting a name to the maximum length keeps its case, and without such a length it is not cut at
all. -/
theorem folded_truncate {name : String} (folded : Folded rules name.toList) :
    Folded rules (rules.truncate name).toList := by
  unfold truncate
  split
  · exact folded_cut folded _
  · exact folded

/-- Every candidate for a name is in the case of the dialect. It is made of what was folded before
and of a suffix, which has no case. -/
theorem folded_candidate {base name : String} {number : Nat} (folded : Folded rules base.toList)
    (formed : rules.candidate base number = .ok name) : Folded rules name.toList := by
  unfold candidate at formed
  split at formed
  · split at formed
    · cases formed
    · obtain rfl := Except.ok.inj formed
      rw [String.toList_append]
      exact (folded_cut folded _).append (rules.folded_suffix number)
  · obtain rfl := Except.ok.inj formed
    rw [String.toList_append]
    exact folded.append (rules.folded_suffix number)

/-- Every identifier is in the case of the dialect. That holds whatever the rules are: restricting
folds the name, and nothing that follows brings in another case. -/
theorem fold_of_identifierFor {scope : Namespace} {used next : TakenNames} {raw : String}
    {legal : LegalName} (given : rules.identifierFor scope used raw = .ok (legal, next)) :
    rules.fold legal.name = legal.name := by
  obtain ⟨-, -, spelling⟩ := of_identifierFor given
  have folded := folded_truncate (rules.folded_restrict raw)
  refine fold_eq_self_iff.mpr ?_
  rcases spelling with same | ⟨number, formed⟩
  · rw [same]
    exact folded
  · exact folded_candidate folded formed

/-- What a legal name is made of. The three parts are those of the test: how it is spelled, how long
it is, and which words it is not. -/
theorem of_isLegal {name : String} (legal : rules.isLegal name = true) :
    WellFormed rules name.toList ∧ rules.fits name.toList = true ∧
      rules.isReserved name = false := by
  unfold isLegal at legal
  cases characters : name.toList with
  | nil =>
    rw [characters] at legal
    cases legal
  | cons first rest =>
    rw [characters] at legal
    simp only [Bool.and_eq_true, Bool.not_eq_true', List.all_eq_true] at legal
    obtain ⟨⟨⟨letter, allowed⟩, fits⟩, free⟩ := legal
    exact ⟨.intro first rest letter allowed, fits, free⟩

/-- Nothing has to be replaced in a legal name, and nothing put before or behind it. Its case may
still be changed. A reserved word stays reserved in another case, so folding brings in no need to
escape it. -/
theorem restrict_of_isLegal {name : String} (legal : rules.isLegal name = true) :
    rules.restrict name = rules.fold name := by
  obtain ⟨wellFormed, -, free⟩ := of_isLegal legal
  have kept : rules.replaceIllegal name.toList = name.toList := by
    refine (List.map_congr_left fun character member => ?_).trans (List.map_id _)
    exact if_pos (wellFormed.allowed character member)
  have started : rules.fixStart name.toList = name.toList := by
    generalize name.toList = characters at wellFormed
    obtain ⟨first, rest, letter, -⟩ := wellFormed
    exact if_pos letter
  rw [restrict, kept, started, String.ofList_toList, escapeReserved, isReserved_fold, free]
  rfl

/-- A name that fits is not cut. -/
theorem truncate_of_fits {name : String} (fits : rules.fits name.toList = true) :
    rules.truncate name = name := by
  unfold truncate
  split
  · rename_i limit isLimit
    simp only [IdentifierRules.fits, isLimit, decide_eq_true_eq] at fits
    rw [cut, List.take_of_length_le fits, String.ofList_toList]
  · rfl

/-- A name that is legal, in the case of the dialect and free is given as it stands. None of the
three steps changes it, and its key is taken from then on. -/
theorem identifierFor_of_isLegal {scope : Namespace} {used : TakenNames} {name : String}
    (legal : rules.isLegal name = true) (folded : rules.fold name = name)
    (free : used.contains scope (rules.key name) = false) :
    rules.identifierFor scope used name =
      .ok (⟨name, []⟩, used.insert scope (rules.key name)) := by
  obtain ⟨-, fits, unreserved⟩ := of_isLegal legal
  have restricted : rules.restrict name = name := (restrict_of_isLegal legal).trans folded
  have available : rules.isUnavailable scope used name = false := by
    rw [isUnavailable, free, unreserved]
    rfl
  unfold identifierFor
  simp [restricted, truncate_of_fits fits, available, change]

/-- A legal identifier is given without changes if it is asked for where it was given. -/
theorem identifierFor_again {scope : Namespace} {used next : TakenNames} {raw : String}
    {legal : LegalName} (given : rules.identifierFor scope used raw = .ok (legal, next))
    (isLegal : rules.isLegal legal.name = true) :
    rules.identifierFor scope used legal.name = .ok (⟨legal.name, []⟩, next) := by
  obtain ⟨available, rfl, -⟩ := of_identifierFor given
  exact identifierFor_of_isLegal isLegal (fold_of_identifierFor given)
    (Bool.or_eq_false_iff.mp available).1

/-- A legal identifier that was asked for by its own name was not changed. -/
theorem changes_eq_nil {scope : Namespace} {used next : TakenNames} {raw : String}
    {legal : LegalName} (given : rules.identifierFor scope used raw = .ok (legal, next))
    (isLegal : rules.isLegal legal.name = true) (unchanged : raw = legal.name) :
    legal.changes = [] := by
  have again := identifierFor_again given isLegal
  rw [← unchanged, given] at again
  rw [(Prod.mk.inj (Except.ok.inj again)).1]

/-- Under sensible rules a name is given as it stands exactly if it is legal, in the case of the
dialect and free. Whatever is given, the changes tell whether it is what was asked for; and asked
for where nothing is taken, in any namespace, it is given again without a change. -/
theorem identifierFor_keeps_legal_names {rules : IdentifierRules} (sensible : rules.Sensible)
    (scope : Namespace) (used : TakenNames) (raw : String) :
    ((∃ next, rules.identifierFor scope used raw = .ok (⟨raw, []⟩, next)) ↔
      rules.isLegal raw = true ∧ rules.fold raw = raw ∧
        used.contains scope (rules.key raw) = false) ∧
    ∀ legal next, rules.identifierFor scope used raw = .ok (legal, next) →
      (legal.changes = [] ↔ legal.name = raw) ∧
        ∀ other, rules.identifierFor other .empty legal.name =
          .ok (⟨legal.name, []⟩, TakenNames.empty.insert other (rules.key legal.name)) := by
  constructor
  · constructor
    · rintro ⟨next, given⟩
      obtain ⟨available, -, -⟩ := of_identifierFor given
      exact ⟨sensible.isLegal_of_identifierFor given, fold_of_identifierFor given,
        (Bool.or_eq_false_iff.mp available).1⟩
    · rintro ⟨isLegal, folded, free⟩
      exact ⟨_, identifierFor_of_isLegal isLegal folded free⟩
  · intro legal next given
    have isLegal := sensible.isLegal_of_identifierFor given
    refine ⟨⟨fun unchanged => ?_, fun same => changes_eq_nil given isLegal same.symm⟩,
      fun other => identifierFor_of_isLegal isLegal (fold_of_identifierFor given) rfl⟩
    have leads := leads_of_identifierFor given
    rw [unchanged] at leads
    exact leads.eq_of_nil.symm

/-- Rules for names of no more than four characters. -/
def narrow : IdentifierRules where
  maxLength := some 4
  letterCase := .upper
  reservedWords := ["SET", "SET_"]
  maxSuffix := 120

/-- These rules are sensible, although they leave little room: a name of four characters still has
one left before a suffix of three. -/
theorem sensible_narrow : narrow.Sensible where
  underscore := rfl
  leading := .intro 'X' [] rfl (by simp)
  nonzero := by decide

/-- A reserved word that stays reserved when it is escaped gets a suffix, and keeps it from then on.
A legal name is kept at once. -/
theorem narrow_keeps_legal_names :
    let suffixed : LegalName :=
      ⟨"SE_1", [⟨.restricted, "set", "SET_"⟩, ⟨.collision, "SET_", "SE_1"⟩]⟩
    narrow.Sensible ∧
      narrow.identifierFor .table .empty "set" =
        .ok (suffixed, TakenNames.empty.insert .table "SE_1") ∧
      narrow.identifierFor .index .empty "SE_1" =
        .ok (⟨"SE_1", []⟩, TakenNames.empty.insert .index (narrow.key "SE_1")) ∧
      ∃ next, narrow.identifierFor .table .empty "NAME" = .ok (⟨"NAME", []⟩, next) := by
  intro suffixed
  have given : narrow.identifierFor .table .empty "set" =
      .ok (suffixed, TakenNames.empty.insert .table "SE_1") := by
    decide +kernel
  have kept := identifierFor_keeps_legal_names sensible_narrow .table .empty
  exact ⟨sensible_narrow, given, ((kept "set").2 suffixed _ given).2 .index,
    (kept "NAME").1.mpr (by decide +kernel)⟩

end IdentifierRules

end SchemaForward
