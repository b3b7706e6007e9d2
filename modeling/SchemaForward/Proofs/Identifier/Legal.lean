import Mathlib
import SchemaForward.Identifier.Legal

/-!
# What makes a name legal

A name is well formed if it starts with a letter and goes on with allowed characters. Replacing
characters and fixing the start make a name well formed; folding its case, putting allowed
characters behind it and cutting it keep it so, as long as anything is left. Escaping a reserved
word need not help, because the escaped word may be cut again or may itself be reserved. That is why
a name is looked at once more before it is given, and a suffix is only tried if it leaves room.

All of this asks something of the rules: that they allow the underscore, that the leading part is
well formed, and that the maximum length is not zero.
-/

namespace SchemaForward

namespace IdentifierRules

variable {rules : IdentifierRules}

/-- The characters of a name start with a letter and are all allowed. -/
inductive WellFormed (rules : IdentifierRules) : List Char → Prop where
  | intro (first : Char) (rest : List Char) (letter : first.isAlpha = true)
      (allowed : ∀ character ∈ rest, rules.isAllowed character = true) :
      WellFormed rules (first :: rest)

/-- Rules under which every name can be made well formed. -/
structure Sensible (rules : IdentifierRules) : Prop where
  underscore : rules.isAllowed '_' = true
  leading : WellFormed rules rules.leading.toList
  nonzero : rules.maxLength ≠ some 0

/-- Letters are allowed under all rules. What the rules add are other characters. -/
theorem isAllowed_of_isAlpha {character : Char} (letter : character.isAlpha = true) :
    rules.isAllowed character = true := by
  simp [isAllowed, Char.isAlphanum, letter]

/-- Digits are allowed under all rules, though not at the start of a name. -/
theorem isAllowed_of_isDigit {character : Char} (digit : character.isDigit = true) :
    rules.isAllowed character = true := by
  simp [isAllowed, Char.isAlphanum, digit]

/-- A letter is allowed in either case, and any other character has only one. -/
theorem isAllowed_toUpper {character : Char} (allowed : rules.isAllowed character = true) :
    rules.isAllowed character.toUpper = true := by
  by_cases lower : character.isLower = true
  · refine isAllowed_of_isAlpha ?_
    rw [Char.isAlpha_toUpper_eq_isAlpha, Char.isAlpha, lower, Bool.or_true]
  · rwa [Char.toUpper_eq_of_not_isLower lower]

/-- The same holds for lower case: a letter stays a letter, and what is none stays the same
character. -/
theorem isAllowed_toLower {character : Char} (allowed : rules.isAllowed character = true) :
    rules.isAllowed character.toLower = true := by
  by_cases upper : character.isUpper = true
  · refine isAllowed_of_isAlpha ?_
    rw [Char.isAlpha_toLower_eq_isAlpha, Char.isAlpha, upper, Bool.true_or]
  · rwa [Char.toLower_eq_of_not_isUpper upper]

namespace WellFormed

variable {name : List Char}

/-- All characters of a well-formed name are allowed. The first one is a letter, and letters are
always allowed. -/
theorem allowed (wellFormed : WellFormed rules name) :
    ∀ character ∈ name, rules.isAllowed character = true := by
  obtain ⟨first, rest, letter, allowed⟩ := wellFormed
  intro character member
  rcases List.mem_cons.mp member with rfl | member
  · exact isAllowed_of_isAlpha letter
  · exact allowed character member

/-- Allowed characters may be put behind a name. -/
theorem append (wellFormed : WellFormed rules name) {suffix : List Char}
    (allowed : ∀ character ∈ suffix, rules.isAllowed character = true) :
    WellFormed rules (name ++ suffix) := by
  obtain ⟨first, rest, letter, allowedRest⟩ := wellFormed
  refine WellFormed.intro first (rest ++ suffix) letter fun character member => ?_
  rcases List.mem_append.mp member with here | behind
  · exact allowedRest character here
  · exact allowed character behind

/-- A name may be cut, but not to nothing. -/
theorem take (wellFormed : WellFormed rules name) {length : Nat} (positive : 0 < length) :
    WellFormed rules (name.take length) := by
  obtain ⟨first, rest, letter, allowed⟩ := wellFormed
  obtain ⟨shorter, rfl⟩ := Nat.exists_eq_succ_of_ne_zero positive.ne'
  exact WellFormed.intro first (rest.take shorter) letter fun character member =>
    allowed character (List.mem_of_mem_take member)

/-- A change of case keeps letters letters. The first character stays a letter, and the others stay
allowed, which is all that is asked of them. -/
theorem map {change : Char → Char} (wellFormed : WellFormed rules name)
    (isAlpha_change : ∀ character, (change character).isAlpha = character.isAlpha)
    (isAllowed_change : ∀ character, rules.isAllowed character = true →
      rules.isAllowed (change character) = true) :
    WellFormed rules (name.map change) := by
  obtain ⟨first, rest, letter, allowed⟩ := wellFormed
  refine WellFormed.intro (change first) (rest.map change) ?_ fun character member => ?_
  · rw [isAlpha_change, letter]
  · obtain ⟨original, inRest, rfl⟩ := List.mem_map.mp member
    exact isAllowed_change original (allowed original inRest)

/-- A well-formed name stays so in any case of its letters. None of the three cases of a dialect
makes another kind of character of a letter. -/
theorem fold {name : String} (wellFormed : WellFormed rules name.toList) :
    WellFormed rules (rules.fold name).toList := by
  unfold IdentifierRules.fold
  split
  · rw [Text.toList_upper]
    exact wellFormed.map Char.isAlpha_toUpper_eq_isAlpha fun _ => isAllowed_toUpper
  · rw [Text.toList_lower]
    exact wellFormed.map Char.isAlpha_toLower_eq_isAlpha fun _ => isAllowed_toLower
  · exact wellFormed

end WellFormed

/-- A name is legal if it is well formed, fits and is not reserved. The test looks at the first
character apart from the others, and so does the notion of a well-formed name. -/
theorem isLegal_of_wellFormed {name : String} (wellFormed : WellFormed rules name.toList)
    (fits : rules.fits name.toList = true) (free : rules.isReserved name = false) :
    rules.isLegal name = true := by
  unfold isLegal
  cases characters : name.toList with
  | nil =>
    rw [characters] at wellFormed
    cases wellFormed
  | cons first rest =>
    rw [characters] at wellFormed fits
    cases wellFormed with
    | intro _ _ letter allowed =>
      have allAllowed : rest.all rules.isAllowed = true := List.all_eq_true.mpr allowed
      simp only [letter, allAllowed, fits, free, Bool.and_self, Bool.not_false]

/-- A suffix is an underscore with the digits of its number behind it. -/
theorem toList_suffix (number : Nat) :
    (suffix number).toList = '_' :: Nat.toDigits 10 number := by
  change ("_" ++ number.repr).toList = _
  rw [String.toList_append, Nat.toList_repr]
  rfl

namespace Sensible

variable (sensible : rules.Sensible)

include sensible

/-- After the replacement all characters are allowed, because the underscore is. That is the first
thing asked of the rules. -/
theorem allowed_replaceIllegal (name : List Char) :
    ∀ character ∈ rules.replaceIllegal name, rules.isAllowed character = true := by
  intro character member
  obtain ⟨original, -, rfl⟩ := List.mem_map.mp member
  by_cases allowed : rules.isAllowed original = true
  · rwa [if_pos allowed]
  · rw [if_neg allowed]
    exact sensible.underscore

/-- Allowed characters are made a well-formed name by the leading part, unless they start with a
letter anyway. If there are none, the leading part is all there is. -/
theorem wellFormed_fixStart {name : List Char}
    (allowed : ∀ character ∈ name, rules.isAllowed character = true) :
    WellFormed rules (rules.fixStart name) := by
  cases name with
  | nil => exact sensible.leading
  | cons first rest =>
    simp only [fixStart]
    split
    · rename_i letter
      exact WellFormed.intro first rest letter fun character member =>
        allowed character (List.mem_cons_of_mem first member)
    · exact sensible.leading.append allowed

/-- Escaping keeps a name well formed, since an underscore is put behind it. Whether the escaped
word is reserved again is left open. -/
theorem wellFormed_escapeReserved {name : String} (wellFormed : WellFormed rules name.toList) :
    WellFormed rules (rules.escapeReserved name).toList := by
  unfold escapeReserved
  split
  · rw [String.toList_append]
    refine wellFormed.append fun character member => ?_
    rw [List.mem_singleton.mp member]
    exact sensible.underscore
  · exact wellFormed

/-- Every name can be restricted to a well-formed one. -/
theorem wellFormed_restrict (name : String) :
    WellFormed rules (rules.restrict name).toList := by
  refine sensible.wellFormed_escapeReserved (WellFormed.fold ?_)
  rw [String.toList_ofList]
  exact sensible.wellFormed_fixStart (sensible.allowed_replaceIllegal name.toList)

/-- A well-formed name stays so when it is cut to the maximum length, because that is not zero and
the first letter is kept. -/
theorem wellFormed_truncate {name : String} (wellFormed : WellFormed rules name.toList) :
    WellFormed rules (rules.truncate name).toList := by
  unfold truncate
  split
  · rename_i limit isLimit
    rw [cut, String.toList_ofList]
    refine wellFormed.take (Nat.pos_of_ne_zero fun isZero => sensible.nonzero ?_)
    have zero : limit = 0 := UInt64.toNat_inj.mp isZero
    rw [isLimit, zero]
  · exact wellFormed

/-- A suffix has allowed characters only: the underscore is asked of the rules, and digits are
always allowed. -/
theorem allowed_suffix (number : Nat) :
    ∀ character ∈ (suffix number).toList, rules.isAllowed character = true := by
  intro character member
  rw [toList_suffix, List.mem_cons] at member
  rcases member with rfl | inDigits
  · exact sensible.underscore
  · exact isAllowed_of_isDigit (Nat.isDigit_of_mem_toDigits (by decide) (by decide) inDigits)

/-- A suffix is put behind what is left of a name, which is something. No candidate is formed where
the suffix would take the whole length, so the first letter of the name is always left. -/
theorem wellFormed_candidate {base name : String} {number : Nat}
    (wellFormed : WellFormed rules base.toList)
    (formed : rules.candidate base number = .ok name) : WellFormed rules name.toList := by
  unfold candidate at formed
  split at formed
  · rename_i limit _
    split at formed
    · cases formed
    · rename_i room
      obtain rfl := Except.ok.inj formed
      rw [String.toList_append, cut, String.toList_ofList]
      exact (wellFormed.take (Nat.sub_pos_of_lt (Nat.lt_of_not_le room))).append
        (sensible.allowed_suffix number)
  · obtain rfl := Except.ok.inj formed
    rw [String.toList_append]
    exact wellFormed.append (sensible.allowed_suffix number)

end Sensible

/-- Once it is cut, every name fits, whatever the rules are. A maximum length of zero would leave
nothing of it. -/
theorem fits_truncate (rules : IdentifierRules) (name : String) :
    rules.fits (rules.truncate name).toList = true := by
  unfold truncate fits
  cases rules.maxLength with
  | none => rfl
  | some limit =>
    simp only [cut, String.toList_ofList, decide_eq_true_eq]
    exact List.length_take_le _ _

/-- Every candidate that is formed fits. It is cut by as much as its suffix needs, and no candidate
is formed where that would be everything. -/
theorem fits_candidate {base name : String} {number : Nat}
    (formed : rules.candidate base number = .ok name) : rules.fits name.toList = true := by
  cases isLimit : rules.maxLength with
  | none => simp only [fits, isLimit]
  | some limit =>
    simp only [candidate, isLimit] at formed
    by_cases full : limit.toNat ≤ (suffix number).length
    · rw [if_pos full] at formed
      cases formed
    · rw [if_neg full] at formed
      obtain rfl := Except.ok.inj formed
      have suffixLength : (suffix number).toList.length = (suffix number).length :=
        String.length_toList
      simp only [fits, isLimit, cut, String.toList_append, String.toList_ofList, List.length_append,
        List.length_take, suffixLength, decide_eq_true_eq]
      omega

/-- The candidate that is chosen is available. Candidates before it were not; that it is the first
one does not matter here. -/
theorem of_firstFree {scope : Namespace} {used : TakenNames} {base name : String}
    {remaining number : Nat} (found : rules.firstFree scope used base remaining number = .ok name) :
    rules.isUnavailable scope used name = false ∧
      ∃ chosen, rules.candidate base chosen = .ok name := by
  induction remaining generalizing number with
  | zero => cases found
  | succ remaining inductionHypothesis =>
    rw [firstFree] at found
    split at found
    · cases found
    · rename_i formedName formed
      split at found
      · exact inductionHypothesis found
      · rename_i available
        obtain rfl := Except.ok.inj found
        exact ⟨by simpa using available, number, formed⟩

/-- The identifier for a name was available and is taken from then on. It is the restricted and cut
name, or that with a suffix. -/
theorem of_identifierFor {scope : Namespace} {used next : TakenNames} {raw : String}
    {legal : LegalName} (given : rules.identifierFor scope used raw = .ok (legal, next)) :
    rules.isUnavailable scope used legal.name = false ∧
      next = used.insert scope (rules.key legal.name) ∧
      (legal.name = rules.truncate (rules.restrict raw) ∨
        ∃ number, rules.candidate (rules.truncate (rules.restrict raw)) number = .ok legal.name)
    := by
  unfold identifierFor at given
  dsimp only at given
  split at given
  · split at given
    · cases given
    · rename_i unique found
      obtain ⟨rfl, rfl⟩ := Prod.mk.inj (Except.ok.inj given)
      obtain ⟨available, formed⟩ := of_firstFree found
      exact ⟨available, rfl, Or.inr formed⟩
  · rename_i available
    obtain ⟨rfl, rfl⟩ := Prod.mk.inj (Except.ok.inj given)
    exact ⟨by simpa using available, rfl, Or.inl rfl⟩

/-- Under sensible rules every identifier is legal. It is well formed and fits by the way it was
made, and it is not reserved because the last look at it asked for that. -/
theorem Sensible.isLegal_of_identifierFor (sensible : rules.Sensible) {scope : Namespace}
    {used next : TakenNames} {raw : String} {legal : LegalName}
    (given : rules.identifierFor scope used raw = .ok (legal, next)) :
    rules.isLegal legal.name = true := by
  obtain ⟨available, -, spelling⟩ := of_identifierFor given
  have free : rules.isReserved legal.name = false := (Bool.or_eq_false_iff.mp available).2
  have wellFormed := sensible.wellFormed_truncate (sensible.wellFormed_restrict raw)
  rcases spelling with same | ⟨number, formed⟩
  · refine isLegal_of_wellFormed (same ▸ wellFormed) ?_ free
    rw [same]
    exact fits_truncate rules _
  · exact isLegal_of_wellFormed (sensible.wellFormed_candidate wellFormed formed)
      (fits_candidate formed) free

end IdentifierRules

end SchemaForward
