/-!
# Quoted text

A quoted text stands between single quotes, and a quote inside it is written twice. Reading pairs
of quotes from the left leaves no quote over exactly when the text between the outer quotes was
written that way.
-/

namespace SchemaForward.Text

/-- Every single quote written twice. -/
def doubleQuotes : List Char → List Char
  | [] => []
  | '\'' :: rest => '\'' :: '\'' :: doubleQuotes rest
  | character :: rest => character :: doubleQuotes rest

/-- Every adjacent pair of single quotes, paired from the left, read as one. -/
def mergeQuotes : List Char → List Char
  | [] => []
  | '\'' :: '\'' :: rest => '\'' :: mergeQuotes rest
  | character :: rest => character :: mergeQuotes rest

/-- Some single quote is left over once quotes are paired from the left. -/
def hasLoneQuote : List Char → Bool
  | [] => false
  | '\'' :: '\'' :: rest => hasLoneQuote rest
  | '\'' :: _ => true
  | _ :: rest => hasLoneQuote rest

/-- The text as a literal between single quotes. -/
def quoted (text : String) : String :=
  String.ofList ('\'' :: doubleQuotes text.toList ++ ['\''])

/-- Quotes that were doubled are read as what they were. Doubling looks at one character at a time
and merging at two, so the induction follows the doubling. -/
theorem mergeQuotes_doubleQuotes (text : List Char) : mergeQuotes (doubleQuotes text) = text := by
  fun_induction doubleQuotes text with
  | case1 => rfl
  | case2 rest ih => simp [mergeQuotes, ih]
  | case3 character rest notQuote ih =>
    rw [mergeQuotes, ih]
    intro _ isQuote
    exact absurd isQuote notQuote

/-- No quote stands alone in a text whose quotes were doubled, however many of them followed one
another. -/
theorem hasLoneQuote_doubleQuotes (text : List Char) :
    hasLoneQuote (doubleQuotes text) = false := by
  fun_induction doubleQuotes text with
  | case1 => rfl
  | case2 rest ih => simpa [hasLoneQuote] using ih
  | case3 character rest notQuote ih =>
    rw [hasLoneQuote]
    · exact ih
    · intro _ isQuote
      exact absurd isQuote notQuote
    · exact notQuote

end SchemaForward.Text
