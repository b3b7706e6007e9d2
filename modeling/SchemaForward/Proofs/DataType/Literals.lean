import SchemaForward.Dialect.Definition

/-!
# Literals

A default value is written as a literal of its type, unless it already is one. Between single quotes
that takes more than a look at both ends: no quote between them may stand alone once quotes are
paired from the left. So what passes for a literal is exactly what writing some text as a literal
gives, and reading a written default gives back the text that was meant, the content of a value that
was a literal and any other value as it was. A second writing changes nothing, whatever the affixes.

Remarks are written as literals without a look at what they are, and they read back as they were.
-/

namespace SchemaForward

namespace Text

/-- Every single quote stands beside another one, in pairs that do not overlap. -/
inductive QuotesPaired : List Char → Prop
  | nil : QuotesPaired []
  | pair {rest : List Char} (further : QuotesPaired rest) : QuotesPaired ('\'' :: '\'' :: rest)
  | other {character : Char} {rest : List Char} (notQuote : character ≠ '\'')
      (further : QuotesPaired rest) : QuotesPaired (character :: rest)

variable {text : List Char} {literal content : String}

section NotQuote

variable {character : Char} (notQuote : character ≠ '\'') (rest : List Char)

include notQuote

/-- A character that is no quote has no part in the pairing. The search for a quote that stands
alone goes on behind it. -/
theorem hasLoneQuote_cons_of_ne : hasLoneQuote (character :: rest) = hasLoneQuote rest :=
  hasLoneQuote.eq_4 _ _ (fun _ isQuote => absurd isQuote notQuote) notQuote

/-- A character that is no quote is read as it stands. Only two quotes beside each other are read as
one. -/
theorem mergeQuotes_cons_of_ne :
    mergeQuotes (character :: rest) = character :: mergeQuotes rest :=
  mergeQuotes.eq_3 _ _ fun _ isQuote => absurd isQuote notQuote

/-- A character that is no quote is written as it stands. Only quotes are doubled. -/
theorem doubleQuotes_cons_of_ne :
    doubleQuotes (character :: rest) = character :: doubleQuotes rest :=
  doubleQuotes.eq_3 _ _ notQuote

end NotQuote

/-- Pairing quotes from the left leaves none over exactly if they can be paired at all. There may be
several ways to pair quotes that stand in a row, but none of them does better than taking two at a
time from the left. -/
theorem quotesPaired_iff : QuotesPaired text ↔ hasLoneQuote text = false := by
  constructor
  · intro paired
    induction paired with
    | nil => rfl
    | pair _ inductionHypothesis => exact inductionHypothesis
    | other notQuote _ inductionHypothesis =>
      rw [hasLoneQuote_cons_of_ne notQuote]
      exact inductionHypothesis
  · fun_induction hasLoneQuote text with
    | case1 => exact fun _ => .nil
    | case2 rest inductionHypothesis => exact fun none => .pair (inductionHypothesis none)
    | case3 => exact nofun
    | case4 character rest _ notQuote inductionHypothesis =>
      exact fun none => .other notQuote (inductionHypothesis none)

/-- Paired quotes are what doubling makes of those that are read from them. -/
theorem doubleQuotes_mergeQuotes (paired : QuotesPaired text) :
    doubleQuotes (mergeQuotes text) = text := by
  induction paired with
  | nil => rfl
  | pair further inductionHypothesis => rw [mergeQuotes, doubleQuotes, inductionHypothesis]
  | other notQuote further inductionHypothesis =>
    rw [mergeQuotes_cons_of_ne notQuote, doubleQuotes_cons_of_ne notQuote, inductionHypothesis]

/-- A text is a literal between single quotes: it has a quote at each end, and those between them
are paired. -/
structure IsQuoted (literal : String) : Prop where
  long : 2 ≤ literal.length
  opens : literal.toList.head? = some '\''
  closes : literal.toList.getLast? = some '\''
  paired : QuotesPaired literal.toList.tail.dropLast

/-- What a literal says: the text between its quotes, with every pair of quotes read as one. -/
def unquoted (literal : String) : String :=
  String.ofList (mergeQuotes literal.toList.tail.dropLast)

/-- Between the quotes of a literal stands its content with every quote doubled. The outer quotes
are taken off by their places, so it does not matter that the content may end in quotes. -/
theorem inner_quoted (content : String) :
    (quoted content).toList.tail.dropLast = doubleQuotes content.toList := by
  simp [quoted]

/-- A literal reads back as the text it was written for, whatever that text is. Doubling the quotes
and reading them in pairs undo each other. -/
theorem unquoted_quoted (content : String) : unquoted (quoted content) = content := by
  rw [unquoted, inner_quoted, mergeQuotes_doubleQuotes, String.ofList_toList]

/-- A literal is what stands between its quotes, with one of them at each end. It is long enough for
the two to be different quotes; a single one would open and close at once. -/
theorem IsQuoted.toList_eq (isQuoted : IsQuoted literal) :
    literal.toList = '\'' :: (literal.toList.tail.dropLast ++ ['\'']) := by
  obtain ⟨long, opens, closes, -⟩ := isQuoted
  obtain ⟨rest, parts⟩ := List.head?_eq_some_iff.mp opens
  have something : rest ≠ [] := by
    rintro rfl
    rw [← String.length_toList, parts] at long
    simp at long
  rw [parts, List.getLast?_cons_of_ne_nil something] at closes
  obtain ⟨front, rfl⟩ := List.getLast?_eq_some_iff.mp closes
  rw [parts, List.tail_cons, List.dropLast_concat]

/-- Literals are exactly the texts that some text is written as. In the one direction the text is
what the literal says; in the other it is doubled between quotes, and doubled quotes are paired. -/
theorem isQuoted_iff : IsQuoted literal ↔ ∃ content, literal = quoted content := by
  constructor
  · intro isQuoted
    refine ⟨unquoted literal, ?_⟩
    rw [unquoted, quoted, String.toList_ofList, doubleQuotes_mergeQuotes isQuoted.paired,
      List.cons_append, ← isQuoted.toList_eq, String.ofList_toList]
  · rintro ⟨content, rfl⟩
    refine ⟨?_, ?_, ?_, ?_⟩
    · simp [quoted, ← String.length_toList]
    · simp [quoted]
    · rw [quoted, String.toList_ofList]
      exact List.getLast?_eq_some_iff.mpr ⟨_, rfl⟩
    · rw [inner_quoted]
      exact quotesPaired_iff.mpr (hasLoneQuote_doubleQuotes _)

end Text

namespace NativeType

variable {opening closing text : List Char}

/-- Between two affixes stands what makes up the text together with them. The two affixes must not
overlap in it. That is why the opening one is taken off first, and the closing one is looked for in
what is left. -/
theorem betweenAffixes?_eq_some_iff {inner : List Char} :
    betweenAffixes? opening closing text = some inner ↔ text = opening ++ (inner ++ closing) := by
  rw [betweenAffixes?]
  constructor
  · intro found
    split at found
    next starts =>
      obtain ⟨rest, rfl⟩ := List.isPrefixOf_iff_prefix.mp starts
      rw [List.drop_left] at found
      dsimp only at found
      split at found
      next ends =>
        obtain ⟨front, rfl⟩ := List.isSuffixOf_iff_suffix.mp ends
        rw [List.length_append, Nat.add_sub_cancel, List.take_left, Option.some_inj] at found
        rw [found]
      next => cases found
    next => cases found
  · rintro rfl
    simp

/-- A literal has both affixes, and after a single quote all quotes before the closing affix are
paired. -/
theorem isLiteral_iff : isLiteral opening closing text = true ↔
    ∃ inner, text = opening ++ (inner ++ closing) ∧
      (opening = ['\''] → Text.QuotesPaired inner) := by
  simp only [isLiteral, ← betweenAffixes?_eq_some_iff, Text.quotesPaired_iff]
  cases betweenAffixes? opening closing text with
  | none => simp
  | some inner => simp [Decidable.imp_iff_not_or]

/-- What is written is a literal. It was one already, or it is made one. So what was written once is
written the same when it is written again. -/
theorem isLiteral_literalBetween (opening closing text : List Char) :
    isLiteral opening closing (literalBetween opening closing text) = true := by
  rw [literalBetween]
  split
  next bare =>
    rw [Bool.and_eq_true, List.isEmpty_iff, List.isEmpty_iff] at bare
    obtain ⟨rfl, rfl⟩ := bare
    exact isLiteral_iff.mpr ⟨text, by simp, nofun⟩
  next =>
    split
    next already => exact already
    next =>
      refine isLiteral_iff.mpr ⟨_, List.append_assoc _ _ _, ?_⟩
      rintro rfl
      exact Text.quotesPaired_iff.mpr (Text.hasLoneQuote_doubleQuotes text)

/-- What is a literal is written as it is. -/
theorem literalBetween_of_isLiteral (already : isLiteral opening closing text = true) :
    literalBetween opening closing text = text := by
  rw [literalBetween, if_pos already, ite_self]

/-- The test for a literal between single quotes accepts exactly the literals. What it asks of the
affixes gives the quotes at both ends, and the rest is the pairing of those between them. -/
theorem isQuoted_iff_isLiteral {value : String} :
    Text.IsQuoted value ↔ isLiteral ['\''] ['\''] value.toList = true := by
  rw [isLiteral_iff]
  constructor
  · exact fun isQuoted => ⟨_, isQuoted.toList_eq, fun _ => isQuoted.paired⟩
  · rintro ⟨inner, parts, paired⟩
    refine Text.isQuoted_iff.mpr ⟨String.ofList (Text.mergeQuotes inner), ?_⟩
    rw [Text.quoted, String.toList_ofList, Text.doubleQuotes_mergeQuotes (paired rfl),
      ← String.toList_inj, parts, String.toList_ofList]
    rfl

instance : DecidablePred Text.IsQuoted :=
  fun _ => decidable_of_iff _ isQuoted_iff_isLiteral.symm

variable {native : NativeType}

/-- A default is written as a literal between its affixes, which a second writing leaves alone. -/
theorem defaultText_defaultText (native : NativeType) (value : String) :
    native.defaultText (native.defaultText value) = native.defaultText value := by
  rw [defaultText, defaultText, String.toList_ofList,
    literalBetween_of_isLiteral (isLiteral_literalBetween _ _ _)]

/-- Between single quotes a literal is kept, and any other value is written as one. Whether a value
is one is read off its quotes, so the text within a literal is never doubled again. -/
theorem defaultText_of_quotes (opened : native.literalOpening = some "'")
    (closed : native.literalClosing = some "'") (value : String) :
    native.defaultText value = if Text.IsQuoted value then value else Text.quoted value := by
  have written : native.defaultText value =
      String.ofList (literalBetween ['\''] ['\''] value.toList) := by
    rw [defaultText, opened, closed]
    rfl
  rw [written]
  split
  next already =>
    rw [literalBetween_of_isLiteral (isQuoted_iff_isLiteral.mp already), String.ofList_toList]
  next notYet =>
    rw [isQuoted_iff_isLiteral] at notYet
    have doubled : literalBetween ['\''] ['\''] value.toList =
        ['\''] ++ Text.doubleQuotes value.toList ++ ['\''] := by
      simp [literalBetween, notYet]
    rw [doubled]
    rfl

/-- A written default is not changed by writing it again. Between single quotes it is a literal: a
value that was one is kept, so that its own content is read back, and any other value is read back
as it was. The literal of a comment reads back as its remarks. -/
theorem literals_read_back :
    (∀ (native : NativeType) (value : String),
      native.defaultText (native.defaultText value) = native.defaultText value) ∧
      (∀ (native : NativeType) (value : String),
        native.literalOpening = some "'" → native.literalClosing = some "'" →
          let literal := native.defaultText value
          Text.IsQuoted literal ∧
            (Text.IsQuoted value → literal = value ∧
              ∃ content, value = Text.quoted content ∧ Text.unquoted literal = content) ∧
            (¬Text.IsQuoted value → Text.unquoted literal = value)) ∧
      ∀ (dialect : Dialect) (schema : Option String) (table column remarks : String),
        ∃ literal, Text.IsQuoted literal ∧ Text.unquoted literal = remarks ∧
          ((Definition.tableComment table remarks).statement dialect schema).text =
            s!"COMMENT ON TABLE {Dialect.qualify schema table} IS {literal}" ∧
          ((Definition.columnComment table column remarks).statement dialect schema).text =
            s!"COMMENT ON COLUMN {Dialect.qualify schema table}.{column} IS {literal}" := by
  refine ⟨defaultText_defaultText, fun native value opened closed => ?_,
    fun dialect schema table column remarks => ?_⟩
  · intro literal
    have written : literal = if Text.IsQuoted value then value else Text.quoted value :=
      defaultText_of_quotes opened closed value
    by_cases already : Text.IsQuoted value
    · obtain ⟨content, isContent⟩ := Text.isQuoted_iff.mp already
      rw [if_pos already] at written
      rw [written]
      refine ⟨already, fun _ => ⟨rfl, content, isContent, ?_⟩, fun notYet => absurd already notYet⟩
      rw [isContent, Text.unquoted_quoted]
    · rw [if_neg already] at written
      rw [written]
      exact ⟨Text.isQuoted_iff.mpr ⟨value, rfl⟩, fun isQuoted => absurd isQuoted already,
        fun _ => Text.unquoted_quoted value⟩
  · exact ⟨Text.quoted remarks, Text.isQuoted_iff.mpr ⟨remarks, rfl⟩,
      Text.unquoted_quoted remarks, rfl, rfl⟩

/-- A type with texts between single quotes takes what is quoted already for what it says, and a
text with a quote that stands alone for what it is. -/
theorem quoted_values_read_back :
    let native := (NativeType.plain "VARCHAR" .varChar 255).quoted
    native.defaultText "'it''s'" = "'it''s'" ∧ native.defaultText "'it's'" = "'''it''s'''" ∧
      Text.unquoted (native.defaultText "'it''s'") = "it's" ∧
      Text.unquoted (native.defaultText "'it's'") = "'it's'" ∧
      Text.IsQuoted (native.defaultText "'") := by
  intro native
  obtain ⟨-, ofQuotes, -⟩ := literals_read_back
  have isQuoted : Text.IsQuoted "'it''s'" := by decide +kernel
  have isNot : ¬Text.IsQuoted "'it's'" := by decide +kernel
  obtain ⟨same, -⟩ := (ofQuotes native _ rfl rfl).2.1 isQuoted
  exact ⟨same, by decide +kernel, by decide +kernel, (ofQuotes native _ rfl rfl).2.2 isNot,
    (ofQuotes native "'" rfl rfl).1⟩

end NativeType

end SchemaForward
