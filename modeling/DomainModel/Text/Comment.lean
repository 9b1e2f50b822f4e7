import DomainModel.Text.Blank

/-!
# Documentation text of a comment

A comment of one undecorated line is its own text. Any other comment is read line by line: the
blanks around a line and the stars before it are decoration, and what is left of the lines is
joined by the two characters `\n`, so that the text stays on one line. Nothing divides a line from
those before it as long as these have no text.
-/

namespace DomainModel.Text

/-- The lines of a text, cut at its line feeds. -/
def lines : List Char → List (List Char)
  | [] => [[]]
  | c :: cs =>
    match lines cs with
    | [] => [[c]]
    | line :: rest => if c = '\n' then [] :: line :: rest else (c :: line) :: rest

/-- A line without the blanks around it, the stars it starts with, and the blanks after those. -/
def undecorate (line : List Char) : List Char :=
  trimStart ((trim line).dropWhile (· = '*'))

/-- The only line of a comment, if it does not start with a star. -/
def soleLine? : List (List Char) → Option (List Char)
  | [line] => if line.head? = some '*' then none else some line
  | _ => none

/-- Adds a line to those joined so far, divided from them by the two characters `\n`. -/
def joinLine (joined line : List Char) : List Char :=
  (if joined = [] then joined else joined ++ ['\\', 'n']) ++ line

/-- Lines joined one after the other. -/
def joinLines (ls : List (List Char)) : List Char := ls.foldl joinLine []

/-- The documentation text of a comment, if the comment is there and not blank. -/
def docText (comment : Option String) : Option String := do
  let body := trim (← comment).toList
  if body = [] then none
  else
    let ls := lines body
    some (String.ofList ((soleLine? ls).getD (joinLines (ls.map undecorate))))

end DomainModel.Text
