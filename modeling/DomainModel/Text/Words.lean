import DomainModel.Text.Casing
import DomainModel.Text.Grapheme

/-!
# Words of an identifier

An identifier is cut into words at its separators and where the case of its letters shows that a
new word begins: `InvoiceItem`, `invoice-item` and `invoice item` have the same two words. The
beginnings of words are the default boundaries of the case library: underscore, hyphen and space,
every change between lower case, upper case and digits but the one from upper to lower case, and,
for acronyms, the last capital before a small letter. Letters are taken with the marks that go with
them, as clusters. Snake case and camel case are two ways of writing the words down.
-/

namespace DomainModel.Text

/-- Whether a cluster has case and is in upper case. -/
def isUpperCluster (w : List Char) : Bool := upper w != lower w && w == upper w

/-- Whether a cluster has case and is in lower case. -/
def isLowerCluster (w : List Char) : Bool := upper w != lower w && w == lower w

/-- Whether a cluster is a decimal digit. -/
def isDigitCluster (w : List Char) : Bool := w.all Char.isDigit

/-- Whether a cluster separates words. -/
def isSeparator (w : List Char) : Bool := w == ['_'] || w == ['-'] || w == [' ']

/-- Whether a word begins at `this`, by the case of `previous` and `this`, or because `this` is the
last capital of a run and starts the word that `next` goes on with. -/
def beginsWord (previous this : List Char) (next : Option (List Char)) : Bool :=
  (isLowerCluster previous && isUpperCluster this)
    || (isUpperCluster previous && isDigitCluster this)
    || (isDigitCluster previous && isUpperCluster this)
    || (isDigitCluster previous && isLowerCluster this)
    || (isLowerCluster previous && isDigitCluster this)
    || (isUpperCluster previous && isUpperCluster this && next.any isLowerCluster)

/-- The rest of the word that a text goes on with, and the words after it. -/
def wordsFrom : Option (List Char) → List (List Char) → List Char × List (List Char)
  | _, [] => ([], [])
  | previous, this :: rest =>
    let (word, later) := wordsFrom (some this) rest
    -- the separator itself is in neither word
    if isSeparator this then ([], word :: later)
    else if previous.any (beginsWord · this rest.head?) then ([], (this ++ word) :: later)
    else (this ++ word, later)

/-- The words of an identifier, none of them empty. -/
def words (cs : List Char) : List (List Char) :=
  let (word, later) := wordsFrom none (clusters cs)
  (word :: later).filter (· ≠ [])

/-- A word with its first character in upper case and the others in lower case. -/
def capitalize : List Char → List Char
  | [] => []
  | c :: cs => upperChar c ++ lower cs

/-- The words in lower case, joined by underscores: `InvoiceItem` becomes `invoice_item`. -/
def snakeCase (s : String) : String :=
  String.intercalate "_" ((words s.toList).map fun w => String.ofList (lower w))

/-- The words run together, all but the first with a capital: `invoice_item` becomes
`invoiceItem`. -/
def camelCase (s : String) : String :=
  match words s.toList with
  | [] => ""
  | w :: ws => String.ofList (lower w ++ ws.flatMap capitalize)

end DomainModel.Text
