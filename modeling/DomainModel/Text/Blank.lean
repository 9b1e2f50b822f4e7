/-!
# White space

Blank characters are those of the Unicode property White_Space, and trimming removes them at the
ends of a text; a text without blank ends is its own trimming (`trim_of_not_blank`).
-/

namespace DomainModel.Text

/-- White space: the ASCII controls from tab to carriage return, the space, and the separators. -/
def isBlank (c : Char) : Bool :=
  (0x09 ≤ c.toNat && c.toNat ≤ 0x0d) || c.toNat = 0x20 || c.toNat = 0x85 || c.toNat = 0xa0
    || c.toNat = 0x1680 || (0x2000 ≤ c.toNat && c.toNat ≤ 0x200a) || c.toNat = 0x2028
    || c.toNat = 0x2029 || c.toNat = 0x202f || c.toNat = 0x205f || c.toNat = 0x3000

/-- Drops the longest end in which every character satisfies `p`. -/
def dropEndWhile (p : Char → Bool) (cs : List Char) : List Char :=
  (cs.reverse.dropWhile p).reverse

/-- The text without the blank characters it starts with. -/
def trimStart (cs : List Char) : List Char := cs.dropWhile isBlank

/-- The text without the blank characters at either end. -/
def trim (cs : List Char) : List Char := dropEndWhile isBlank (trimStart cs)

theorem dropWhile_of_head {p : Char → Bool} {cs : List Char}
    (h : ∀ c, cs.head? = some c → p c = false) : cs.dropWhile p = cs := by
  cases cs with
  | nil => rfl
  | cons c cs => simp [h c rfl]

theorem dropEndWhile_of_last {p : Char → Bool} {cs : List Char}
    (h : ∀ c, cs.getLast? = some c → p c = false) : dropEndWhile p cs = cs := by
  rw [dropEndWhile, dropWhile_of_head (by simpa using h), List.reverse_reverse]

/-- Trimming leaves a text alone whose ends are not blank. -/
theorem trim_of_not_blank {cs : List Char} (hd : ∀ c, cs.head? = some c → isBlank c = false)
    (tl : ∀ c, cs.getLast? = some c → isBlank c = false) : trim cs = cs := by
  rw [trim, trimStart, dropWhile_of_head hd, dropEndWhile_of_last tl]

end DomainModel.Text
