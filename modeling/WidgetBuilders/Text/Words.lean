import WidgetBuilders.Text.Cluster
import WidgetBuilders.Text.LetterCase

/-!
# Words of an identifier

An identifier is cut into words where its spelling shows a border: at an underscore, hyphen or
space, which belong to no word; where the letter case rises (`textView`); between letters and
digits, in both orders; and before the last capital of a run of capitals that a small letter follows
(`HTTPServer` is `HTTP` and `Server`). Two separators in a row enclose an empty word, and so does a
separator at either end.

Letters are compared by cluster, so that a mark stays with its letter. A cluster has a case only if
its upper and lower case differ.
-/

namespace WidgetBuilders.Text

/-- The cluster is one underscore, hyphen or space. -/
def isSeparator (cluster : List Char) : Bool :=
  cluster = ['_'] || cluster = ['-'] || cluster = [' ']

/-- All characters of the cluster are ASCII digits. -/
def isDigits (cluster : List Char) : Bool :=
  cluster.all Char.isDigit

/-- The cluster has a case, and it is upper case. -/
def isUpper (cluster : List Char) : Bool :=
  upper cluster ≠ lower cluster && cluster = upper cluster

/-- The cluster has a case, and it is lower case. -/
def isLower (cluster : List Char) : Bool :=
  upper cluster ≠ lower cluster && cluster = lower cluster

/-- A word ends after `cluster`, given what follows it. -/
def endsWord (cluster : List Char) (rest : List (List Char)) : Bool :=
  match rest with
  | [] => false
  | next :: after =>
    (isLower cluster && isUpper next)
      || (isLower cluster && isDigits next) || (isUpper cluster && isDigits next)
      || (isDigits cluster && isLower next) || (isDigits cluster && isUpper next)
      || (isUpper cluster && isUpper next && (after.head?.map isLower).getD false)

/-- The words of a sequence of clusters, in order; separators are dropped. There is always a first
word, which may be empty. -/
def wordsOfClusters : List (List Char) → List (List (List Char))
  | [] => [[]]
  | cluster :: rest =>
    let words := wordsOfClusters rest
    if isSeparator cluster then [] :: words
    else if endsWord cluster rest then [cluster] :: words
    else consHead cluster words

/-- The words of a text. -/
def words (text : List Char) : List (List Char) :=
  (wordsOfClusters (clusters text)).map List.flatten

/-- A word with its first character in upper case and the others in lower case. The others are
lowered as a text of their own. -/
def titleWord : List Char → List Char
  | [] => []
  | c :: rest => upperOf c ++ lower rest

/-- The words in upper case, joined by underscores: `textView` becomes `TEXT_VIEW`. -/
def constantCase (text : String) : String :=
  String.ofList (List.intercalate ['_'] ((words text.toList).map upper))

/-- The words in lower case, joined by underscores: `textView` becomes `text_view`. -/
def snakeCase (text : String) : String :=
  String.ofList (List.intercalate ['_'] ((words text.toList).map lower))

/-- The words, each with a capital first letter, joined without a sign: `appcompat-v7` becomes
`AppcompatV7`. -/
def pascalCase (text : String) : String :=
  String.ofList ((words text.toList).flatMap titleWord)

end WidgetBuilders.Text
