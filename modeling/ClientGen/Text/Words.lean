import ClientGen.Text.Alphanumeric
import ClientGen.Text.Basic
import ClientGen.Text.LetterCase

/-!
# Names made of words

A name is cut into words at every character that is neither letter nor number, after a lowercase letter that an
uppercase one follows, and before the last of a run of uppercase letters that a lowercase one follows. The words
are put together again in one of three fashions: `WidgetService`, `widgetService`, `widget-service`.
-/

namespace ClientGen.Text

/-- The case of the last cased letter of the word that is being read. -/
inductive LastCase where
  | none
  | lower
  | upper
  deriving DecidableEq, Repr

def LastCase.next (last : LastCase) (c : Char) : LastCase :=
  if isLower c then .lower else if isUpper c then .upper else last

/-- The words of a run of letters and numbers; `word` holds what is read of the current one, last character first. -/
def wordsOfRun (last : LastCase) (word : List Char) : List Char → List (List Char)
  | [] => []
  | [c] => [(c :: word).reverse]
  | c :: d :: rest =>
    if last.next c = .lower && isUpper d then
      (c :: word).reverse :: wordsOfRun .none [] (d :: rest)
    else if last = .upper && isUpper c && isLower d then
      word.reverse :: wordsOfRun .none [c] (d :: rest)
    else wordsOfRun (last.next c) (c :: word) (d :: rest)

def words (s : List Char) : List (List Char) :=
  (cut (fun c => !isAlphanumeric c) s).flatMap (wordsOfRun .none [])

/-- A word in lowercase; a sigma at its end takes its final form. -/
def lowerWord : List Char → List Char
  | [] => []
  | ['Σ'] => ['ς']
  | c :: rest => lower c ++ lowerWord rest

def capitalWord : List Char → List Char
  | [] => []
  | c :: rest => upper c ++ lowerWord rest

/-- The words of a name, each with a capital: `WidgetService`. -/
def pascal (s : String) : String :=
  String.ofList ((words s.toList).flatMap capitalWord)

/-- The words of a name, each but the first with a capital: `widgetService`. -/
def camel (s : String) : String :=
  match words s.toList with
  | [] => ""
  | first :: rest => String.ofList (lowerWord first ++ rest.flatMap capitalWord)

/-- The words of a name in lowercase with hyphens between them: `widget-service`. -/
def kebab (s : String) : String :=
  String.ofList (List.intercalate ['-'] ((words s.toList).map lowerWord))

end ClientGen.Text
