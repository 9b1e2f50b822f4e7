import DomainModel.Text.CaseTable

/-!
# Letter case

The full case mappings: the image of one character may be several. The lower case of a text looks
at one more rule, the Greek sigma, which has a form of its own at the end of a word.
-/

namespace DomainModel.Text

/-- The image of a character under a table of runs and a table of longer images. -/
def caseImage (runs : List (Nat × Nat × Nat × Nat)) (longer : List (Nat × List Nat)) (c : Char) :
    List Char :=
  match longer.lookup c.toNat with
  | some image => image.map Char.ofNat
  | none =>
    match runs.find? fun r => r.1 ≤ c.toNat && c.toNat ≤ r.2.1 && (c.toNat - r.1) % r.2.2.1 = 0 with
    | some r => [Char.ofNat (r.2.2.2 + (c.toNat - r.1))]
    | none => [c]

/-- The lower case of a character on its own. -/
def lowerChar (c : Char) : List Char := caseImage lowerRuns lowerWords c

def upperChar (c : Char) : List Char := caseImage upperRuns upperWords c

def upper (cs : List Char) : List Char := cs.flatMap upperChar

/-- Whether the first character that is not passed over is a letter with case. -/
def startsCased (cs : List Char) : Bool :=
  match cs.dropWhile caseIgnorableRanges.contains with
  | [] => false
  | c :: _ => casedRanges.contains c

/-- The lower case of a text before which a letter with case stands or not. A sigma after such a
letter and not before one takes its final form. -/
def lowerFrom (afterCased : Bool) : List Char → List Char
  | [] => []
  | c :: cs =>
    let image :=
      if c = 'Σ' then [if afterCased && !startsCased cs then 'ς' else 'σ'] else lowerChar c
    -- a character that is passed over leaves open what stands before the next one
    let after := if caseIgnorableRanges.contains c then afterCased else casedRanges.contains c
    image ++ lowerFrom after cs

def lower (cs : List Char) : List Char := lowerFrom false cs

/-- The text with its first character in lower case. -/
def lowerFirst (s : String) : String :=
  match s.toList with
  | [] => ""
  | c :: cs => String.ofList (lowerChar c ++ cs)

end DomainModel.Text
