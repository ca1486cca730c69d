import CommandPlan.Text.Alphanumeric
import CommandPlan.Text.LetterCase

/-! Snake case: a phrase is cut into words at everything that is no letter or
digit and again where the case of its letters turns, and the words are written
in lower case with underscores between them. -/
namespace CommandPlan.Text

/-- The maximal alphanumeric runs, in order; the text between them is lost. -/
def alphanumericRuns : List Char → List (List Char)
  | [] => []
  | c :: rest =>
    if isAlphanumeric c then
      match rest, alphanumericRuns rest with
      | next :: _, run :: runs =>
        if isAlphanumeric next then (c :: run) :: runs else [c] :: run :: runs
      | _, runs => [c] :: runs
    else alphanumericRuns rest

/-- The case of the last cased letter of the word in progress. -/
inductive WordCase where
  | uncased
  | lower
  | upper
deriving DecidableEq, Repr

namespace WordCase

/-- Digits and ideographs leave the case of a word as it was. -/
def after (mode : WordCase) (c : Char) : WordCase :=
  if isLowercase c then .lower else if isUppercase c then .upper else mode

end WordCase

/-- Cuts one run into its words. A word ends before the capital that follows a
lower case letter, and before the last of several capitals when a lower case
letter follows it, so that `XMLHttp` reads as `XML` and `Http`. The letters of
the word in progress are kept in reverse. -/
def caseWords (mode : WordCase) (word : List Char) : List Char → List (List Char)
  | [] => []
  | [c] => [(c :: word).reverse]
  | c :: next :: rest =>
    if mode.after c = .lower ∧ isUppercase next then
      (c :: word).reverse :: caseWords .uncased [] (next :: rest)
    else if mode = .upper ∧ isUppercase c ∧ isLowercase next then
      word.reverse :: caseWords .uncased [c] (next :: rest)
    else caseWords (mode.after c) (c :: word) (next :: rest)

/-- Lower case of one word. A capital sigma takes its final form at the end of
the word, and only there. -/
def lowercaseWord : List Char → List Char
  | [] => []
  | [c] => if c = 'Σ' then ['ς'] else toLowercase c
  | c :: next :: rest => toLowercase c ++ lowercaseWord (next :: rest)

/-- The lower case words of a phrase. -/
def snakeWords (phrase : List Char) : List (List Char) :=
  ((alphanumericRuns phrase).flatMap (caseWords .uncased [])).map lowercaseWord

def snakeCase (phrase : String) : String :=
  String.ofList (List.intercalate ['_'] (snakeWords phrase.toList))

end CommandPlan.Text
