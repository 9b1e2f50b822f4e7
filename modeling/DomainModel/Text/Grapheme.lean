import DomainModel.Text.GraphemeTable

/-!
# Grapheme clusters

A cluster is what a reader takes for one character: a letter with its marks, a syllable, a flag, a
picture joined to others. Clusters cut a text up without loss (`flatten_clusters`). Of the standard
rules one is left out, which joins Indic conjuncts: it only ever joins letters without case.
-/

namespace DomainModel.Text

/-- The classes of characters that decide where a cluster ends. -/
inductive BreakClass where
  | carriageReturn
  | lineFeed
  | control
  | extend
  | joiner
  | flag
  | prepend
  | spacingMark
  | leadingJamo
  | vowelJamo
  | trailingJamo
  | openSyllable
  | closedSyllable
  | picture
  | other
  deriving DecidableEq

def breakClass (c : Char) : BreakClass :=
  let n := c.toNat
  if n = 0x0d then .carriageReturn
  else if n = 0x0a then .lineFeed
  else if n = 0x200d then .joiner
  else if controlRanges.contains c then .control
  else if extendRanges.contains c || (0x1f3fb ≤ n && n ≤ 0x1f3ff) then .extend
  else if 0x1f1e6 ≤ n && n ≤ 0x1f1ff then .flag
  else if prependRanges.contains c then .prepend
  else if spacingMarkRanges.contains c then .spacingMark
  else if (0x1100 ≤ n && n ≤ 0x115f) || (0xa960 ≤ n && n ≤ 0xa97c) then .leadingJamo
  else if (0x1160 ≤ n && n ≤ 0x11a7) || (0xd7b0 ≤ n && n ≤ 0xd7c6) then .vowelJamo
  else if (0x11a8 ≤ n && n ≤ 0x11ff) || (0xd7cb ≤ n && n ≤ 0xd7fb) then .trailingJamo
  else if 0xac00 ≤ n && n ≤ 0xd7a3 then
    if (n - 0xac00) % 28 = 0 then .openSyllable else .closedSyllable
  else if pictographRanges.contains c then .picture
  else .other

/-- What the rules look at in the text before a place. -/
structure Context where
  last : BreakClass
  /-- The text ends in a picture and marks that extend it. -/
  pictured : Bool
  /-- The text ends in a picture, marks that extend it, and a joiner. -/
  joining : Bool
  /-- The text ends in an odd number of flag letters. -/
  halfFlag : Bool

/-- The context after a text of one character. -/
def Context.start (next : BreakClass) : Context :=
  ⟨next, next = .picture, false, next = .flag⟩

/-- The context after one more character. -/
def Context.step (ctx : Context) (next : BreakClass) : Context where
  last := next
  pictured := next = .picture || (next = .extend && ctx.pictured)
  joining := next = .joiner && ctx.pictured
  halfFlag := next = .flag && !ctx.halfFlag

/-- Whether a character belongs to the cluster of the character before it. -/
def Context.joins (ctx : Context) (next : BreakClass) : Bool :=
  match ctx.last, next with
  | .carriageReturn, .lineFeed => true
  -- controls stand alone, but for the two that end a line together
  | .carriageReturn, _ | .lineFeed, _ | .control, _ => false
  | _, .carriageReturn | _, .lineFeed | _, .control => false
  -- the letters of one Hangul syllable
  | .leadingJamo, .leadingJamo | .leadingJamo, .vowelJamo | .leadingJamo, .openSyllable
  | .leadingJamo, .closedSyllable => true
  | .openSyllable, .vowelJamo | .openSyllable, .trailingJamo | .vowelJamo, .vowelJamo
  | .vowelJamo, .trailingJamo => true
  | .closedSyllable, .trailingJamo | .trailingJamo, .trailingJamo => true
  | _, .extend | _, .joiner | _, .spacingMark => true
  | .prepend, _ => true
  | .joiner, .picture => ctx.joining
  | .flag, .flag => ctx.halfFlag
  | _, _ => false

/-- The rest of the cluster that `ctx` stands in, and the clusters after it. -/
def clustersFrom (ctx : Context) : List Char → List Char × List (List Char)
  | [] => ([], [])
  | c :: cs =>
    let next := breakClass c
    let (rest, later) := clustersFrom (ctx.step next) cs
    if ctx.joins next then (c :: rest, later) else ([], (c :: rest) :: later)

def clusters : List Char → List (List Char)
  | [] => []
  | c :: cs =>
    let (rest, later) := clustersFrom (.start (breakClass c)) cs
    (c :: rest) :: later

theorem append_flatten_clustersFrom (ctx : Context) (cs : List Char) :
    (clustersFrom ctx cs).1 ++ (clustersFrom ctx cs).2.flatten = cs := by
  induction cs generalizing ctx with
  | nil => rfl
  | cons c cs ih =>
    simp only [clustersFrom]
    split <;> simp [ih]

/-- The clusters of a text make up the text. -/
theorem flatten_clusters (cs : List Char) : (clusters cs).flatten = cs := by
  cases cs with
  | nil => rfl
  | cons c cs => simp [clusters, append_flatten_clustersFrom]

end DomainModel.Text
