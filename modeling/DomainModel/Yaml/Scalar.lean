import DomainModel.Yaml.Ambiguity

/-!
# Writing texts in YAML

A text is written in the plainest style that reads back as it: as a literal block if it has a line
feed, else without quotes, between single quotes, or between double quotes with escapes. Which
styles a text allows depends on the places of its blanks and breaks and on its first character.
-/

namespace DomainModel.Yaml

/-- Characters that end a line. -/
def isBreak (c : Char) : Bool :=
  c = '\n' || c = '\r' || c.toNat = 0x85 || c.toNat = 0x2028 || c.toNat = 0x2029

/-- Characters that can be written as themselves. -/
def isPrintable (c : Char) : Bool :=
  let n := c.toNat
  n = 0x0a || (0x20 ≤ n && n ≤ 0x7e) || (0xa0 ≤ n && n ≠ 0xfeff && n ≠ 0xfffe && n ≠ 0xffff)

/-- Whether a blank, a tab, a break or the end of the text comes next. -/
def blankNext : List Char → Bool
  | [] => true
  | c :: _ => c = ' ' || c = '\t' || c = '\x00' || isBreak c

/-- Whether the first character of a text would be read as more than text. -/
def startsWithIndicator : List Char → Bool
  | [] => false
  | c :: cs =>
    "#,[]{}&*!|>'\"%@`".toList.contains c || ((c = '?' || c = ':' || c = '-') && blankNext cs)

/-- Whether a colon before a blank or a hash after one stands inside a text, whose first character
comes after a blank or not. -/
def hasInnerIndicator (afterBlank : Bool) : List Char → Bool
  | [] => false
  | c :: cs =>
    (c = ':' && blankNext cs) || (c = '#' && afterBlank) || hasInnerIndicator (blankNext [c]) cs

/-- Whether two neighbours of a text satisfy `p`. -/
def anyNeighbours (p : Char → Char → Bool) (cs : List Char) : Bool :=
  (cs.zip (cs.drop 1)).any fun pair => p pair.1 pair.2

/-- Whether a text starts with the three characters of a document mark. -/
def startsWithMark (cs : List Char) : Bool := cs.take 3 = ['-', '-', '-'] || cs.take 3 = ['.', '.', '.']

/-- Whether the text can be written in a quoted or literal style without escapes. -/
def isOrdinary (cs : List Char) : Bool :=
  cs.all isPrintable && !anyNeighbours (fun a b => a = ' ' && isBreak b) cs

/-- Whether the text can be a literal block. -/
def allowsLiteral (cs : List Char) : Bool := isOrdinary cs && cs.getLast? ≠ some ' '

/-- Whether the text can stand between single quotes. -/
def allowsSingleQuotes (cs : List Char) : Bool :=
  isOrdinary cs && !anyNeighbours (fun a b => isBreak a && b = ' ') cs

/-- Whether the text can stand without quotes. -/
def allowsPlain (cs : List Char) : Bool :=
  isOrdinary cs && !cs.any isBreak && cs.head? ≠ some ' ' && cs.getLast? ≠ some ' '
    && !startsWithMark cs && !startsWithIndicator cs && !hasInnerIndicator true cs

def spaces (n : Nat) : List Char := List.replicate n ' '

/-- A code in hexadecimal digits of upper case, at least `width` of them. -/
def hexText (width n : Nat) : List Char :=
  let digits := (Nat.toDigits 16 n).map Char.toUpper
  List.replicate (width - digits.length) '0' ++ digits

/-- The escapes of one letter. -/
def letterEscapes : List (Nat × Char) :=
  [(0x00, '0'), (0x07, 'a'), (0x08, 'b'), (0x09, 't'), (0x0a, 'n'), (0x0b, 'v'), (0x0c, 'f'),
   (0x0d, 'r'), (0x1b, 'e'), (0x22, '"'), (0x5c, '\\'), (0x85, 'N'), (0x2028, 'L'), (0x2029, 'P')]

/-- A character between double quotes. -/
def escape (c : Char) : List Char :=
  match letterEscapes.lookup c.toNat with
  | some letter => ['\\', letter]
  | none =>
    if isPrintable c then [c]
    else if c.toNat ≤ 0xff then '\\' :: 'x' :: hexText 2 c.toNat
    else if c.toNat ≤ 0xffff then '\\' :: 'u' :: hexText 4 c.toNat
    else '\\' :: 'U' :: hexText 8 c.toNat

def doubleQuoted (cs : List Char) : List Char := '"' :: cs.flatMap escape ++ ['"']

/-- The lines of a text, each indented; `atStart` says whether a line begins. -/
def indented (indent : Nat) (atStart : Bool) : List Char → List Char
  | [] => []
  | c :: cs =>
    if isBreak c then c :: indented indent true cs
    else (if atStart then spaces indent else []) ++ c :: indented indent false cs

/-- A text between single quotes, which are doubled inside. After a break the text goes on at the
indentation. -/
def singleQuoted (indent : Nat) (cs : List Char) : List Char :=
  let body := cs.flatMap fun c => if c = '\'' then ['\'', '\''] else [c]
  '\'' :: indented indent false body ++ (if cs.getLast?.any isBreak then spaces indent else [])
    ++ ['\'']

/-- What follows the bar of a literal block: the indentation if the text does not show it, and how
many breaks it ends in if not one. -/
def literalHints (cs : List Char) : List Char :=
  let leading := if cs.head?.any fun c => c = ' ' || isBreak c then ['2'] else []
  let trailing :=
    match cs.reverse with
    | last :: before =>
      if !isBreak last then ['-']
      else
        match before with
        | [] => ['+']
        | c :: _ => if isBreak c then ['+'] else []
    | [] => ['-']
  leading ++ trailing

/-- A text as a literal block. -/
def literalBlock (indent : Nat) (cs : List Char) : List Char :=
  '|' :: literalHints cs ++ '\n' :: indented indent true cs

/-- A text in the style that suits it; lines after the first are indented. -/
def scalarText (indent : Nat) (s : String) : List Char :=
  let cs := s.toList
  if '\n' ∈ cs then if allowsLiteral cs then literalBlock indent cs else doubleQuoted cs
  else if !isAmbiguous s && allowsPlain cs then cs
  else if allowsSingleQuotes cs then singleQuoted indent cs
  else doubleQuoted cs

end DomainModel.Yaml
