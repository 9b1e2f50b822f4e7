import DomainModel.Json.Parser
import DomainModel.Proofs.Reading

/-!
# Reading printed JSON

The parser inverts the printer, in every layout that has only white space between tokens, for all
strings, all nestings and all integers (`Json.Parser.value_print`).  So a printed document is read
as its value, unless it nests deeper than a reader goes (`Json.parse?_print`).  Reals are left out:
their digits are a matter of their own.
-/

namespace DomainModel.Json

/-! ## Documents without reals -/

mutual

/-- Every number of the document is an integer. -/
def isWhole : Json → Bool
  | .number (.real _) => false
  | .number (.whole _) | .null | .bool _ | .string _ => true
  | .array items => isWholeItems items
  | .object members => isWholeMembers members

def isWholeItems : List Json → Bool
  | [] => true
  | x :: xs => x.isWhole && isWholeItems xs

def isWholeMembers : List (String × Json) → Bool
  | [] => true
  | (_, x) :: xs => x.isWhole && isWholeMembers xs

end

/-- Nothing but white space stands between tokens. -/
structure Layout.Blank (l : Layout) : Prop where
  lineBreak : ∀ depth, ∀ c ∈ l.lineBreak depth, Parser.isSpace c = true
  afterColon : ∀ c ∈ l.afterColon, Parser.isSpace c = true

theorem blank_prettyLayout : prettyLayout.Blank where
  lineBreak depth c hc := by
    rcases List.mem_cons.1 hc with rfl | hc
    · rfl
    · obtain ⟨-, rfl⟩ := List.mem_replicate.1 hc
      rfl
  afterColon c hc := by
    obtain rfl := List.mem_singleton.1 hc
    rfl

namespace Parser

/-! ## White space -/

theorem skipSpace_append {blank : List Char} (h : ∀ c ∈ blank, isSpace c = true)
    (cs : List Char) : skipSpace (blank ++ cs) = skipSpace cs :=
  List.dropWhile_append_of_pos h

theorem skipSpace_cons {c : Char} (h : isSpace c = false) (cs : List Char) :
    skipSpace (c :: cs) = c :: cs :=
  List.dropWhile_cons_of_neg (by simp [h])

theorem value_append {blank : List Char} (h : ∀ c ∈ blank, isSpace c = true) (fuel : Nat)
    (cs : List Char) : value fuel (blank ++ cs) = value fuel cs := by
  cases fuel with
  | zero => rfl
  | succ fuel => simp only [value, skipSpace_append h]

/-! ## Strings -/

/-- A piece that stands for a character whatever follows it. -/
def Piece.IsFor (p : Piece) (c : Char) : Prop :=
  ∀ ps, assemble (p :: ps) = (assemble ps).map (c :: ·)

theorem Piece.isFor_char (c : Char) : (Piece.char c).IsFor c := fun _ => rfl

theorem Piece.isFor_code {n : Nat} (hh : isHighSurrogate n = false)
    (hl : isLowSurrogate n = false) : (Piece.code n).IsFor (Char.ofNat n) := by
  intro ps
  rcases ps with _ | ⟨c | low, ps⟩ <;> simp [assemble, hh, hl]

theorem hexDigit?_digitChar : ∀ n < 16, hexDigit? (Nat.digitChar n) = some n := by decide

theorem controlEscape_eq : ∀ n < 32, controlEscape (Char.ofNat n)
    = ['\\', 'u', '0', '0', Nat.digitChar (n / 16), Nat.digitChar (n % 16)] := by decide

theorem pieces_letter {e c : Char} (hu : e ≠ 'u') (he : escaped? e = some c) (cs : List Char) :
    pieces ('\\' :: e :: cs) = (pieces cs).map fun r => (.char c :: r.1, r.2) := by
  rw [pieces]
  · rw [he]
    cases pieces cs <;> rfl
  · intro _ _ _ _ _ h
    exact absurd h hu

theorem pieces_control {n : Nat} (h : n < 32) (cs : List Char) :
    pieces (controlEscape (Char.ofNat n) ++ cs)
      = (pieces cs).map fun r => (.code n :: r.1, r.2) := by
  have hzero : hexDigit? '0' = some 0 := rfl
  have hhigh := hexDigit?_digitChar (n / 16) (by omega)
  have hlow := hexDigit?_digitChar (n % 16) (by omega)
  have hn : (0 * 16 + 0) * 256 + n / 16 * 16 + n % 16 = n := by omega
  rw [controlEscape_eq n h]
  simp only [List.cons_append, List.nil_append, pieces, hzero, hhigh, hlow, hn, Option.bind_eq_bind,
    Option.bind_some]
  cases pieces cs <;> rfl

theorem pieces_plain {c : Char} (hq : c ≠ '"') (hb : c ≠ '\\') (hc : 32 ≤ c.toNat)
    (cs : List Char) : pieces (c :: cs) = (pieces cs).map fun r => (.char c :: r.1, r.2) := by
  rw [pieces]
  · rw [if_neg (by simp [hb]; omega)]
    cases pieces cs <;> rfl
  · exact fun h => hq h
  · exact fun _ _ _ _ _ h _ => hb h
  · exact fun _ _ h _ => hb h

/-- Every character is printed so that it is read as one piece that stands for it. -/
theorem pieces_escapeChar (c : Char) : ∃ p : Piece, p.IsFor c ∧ ∀ cs : List Char,
    pieces (escapeChar c ++ cs) = (pieces cs).map fun r => (p :: r.1, r.2) := by
  have hchar := Piece.isFor_char c
  by_cases hquoted : c = '"' ∨ c = '\\'
  · refine ⟨.char c, hchar, fun cs => ?_⟩
    rw [escapeChar, if_pos hquoted]
    rcases hquoted with rfl | rfl <;> exact pieces_letter (by decide) rfl cs
  obtain ⟨hq, hb⟩ := not_or.1 hquoted
  by_cases hletter : c ∈ ['\x08', '\x0c', '\n', '\r', '\t']
  · refine ⟨.char c, hchar, fun cs => ?_⟩
    simp only [List.mem_cons, List.not_mem_nil, or_false] at hletter
    rcases hletter with rfl | rfl | rfl | rfl | rfl <;> exact pieces_letter (by decide) rfl cs
  simp only [List.mem_cons, List.not_mem_nil, or_false, not_or] at hletter
  obtain ⟨h₁, h₂, h₃, h₄, h₅⟩ := hletter
  have hescape : escapeChar c = if c.toNat < 0x20 then controlEscape c else [c] := by
    rw [escapeChar, if_neg hquoted, if_neg h₁, if_neg h₂, if_neg h₃, if_neg h₄, if_neg h₅]
  rw [hescape]
  split
  · rename_i hcontrol
    refine ⟨.code c.toNat, ?_, fun cs => ?_⟩
    · have hfor := Piece.isFor_code (n := c.toNat) (by simp [isHighSurrogate]; omega)
        (by simp [isLowSurrogate]; omega)
      rwa [Char.ofNat_toNat] at hfor
    · have hread := pieces_control hcontrol cs
      rwa [Char.ofNat_toNat] at hread
  · rename_i hplain
    exact ⟨.char c, hchar, pieces_plain hq hb (by omega)⟩

theorem pieces_flatMap_escapeChar (rest : List Char) : ∀ cs : List Char, ∃ ps,
    pieces (cs.flatMap escapeChar ++ '"' :: rest) = some (ps, rest) ∧ assemble ps = some cs
  | [] => ⟨[], by rw [List.flatMap_nil, List.nil_append, pieces], rfl⟩
  | c :: cs => by
    obtain ⟨p, hfor, hread⟩ := pieces_escapeChar c
    obtain ⟨ps, hps, hcs⟩ := pieces_flatMap_escapeChar rest cs
    refine ⟨p :: ps, ?_, by rw [hfor, hcs]; rfl⟩
    rw [List.flatMap_cons, List.append_assoc, hread, hps]
    rfl

/-- A printed string is read as it was, from after its opening quote. -/
theorem string_flatMap_escapeChar (s : String) (rest : List Char) :
    string (s.toList.flatMap escapeChar ++ '"' :: rest) = some (some s, rest) := by
  obtain ⟨ps, hps, hcs⟩ := pieces_flatMap_escapeChar rest s.toList
  simp only [string, hps, hcs, Option.bind_eq_bind, Option.bind_some, Option.map_some,
    String.ofList_toList]
  rfl

/-! ## Integers -/

/-- What follows does not belong to a number. -/
def Delimited (rest : List Char) : Prop :=
  ∀ c ∈ rest.head?, c.isDigit = false ∧ c ≠ '.' ∧ c ≠ 'e' ∧ c ≠ 'E'

theorem delimited_nil : Delimited [] := by simp [Delimited]

theorem delimited_cons {c : Char} (h : c.isDigit = false ∧ c ≠ '.' ∧ c ≠ 'e' ∧ c ≠ 'E')
    (rest : List Char) : Delimited (c :: rest) := by
  rintro c' ⟨⟩
  exact h

theorem exists_cons_toDigits (n : Nat) :
    ∃ c cs, Nat.toDigits 10 n = c :: cs ∧ c.isDigit = true := by
  rcases hd : Nat.toDigits 10 n with _ | ⟨c, cs⟩
  · exact absurd hd Nat.toDigits_ne_nil
  · exact ⟨c, cs, rfl, Nat.isDigit_of_mem_toDigits (by omega) (by omega)
      (hd ▸ List.mem_cons_self)⟩

/-- The values of the digits of a number. -/
def digitValues (n : Nat) : List Nat := (Nat.toDigits 10 n).map fun c => c.toNat - '0'.toNat

theorem digits_toDigits (n : Nat) {rest : List Char} (h : Delimited rest) :
    digits (Nat.toDigits 10 n ++ rest) = (digitValues n, rest) := by
  have hall : ∀ c ∈ Nat.toDigits 10 n, c.isDigit = true := fun c hc =>
    Nat.isDigit_of_mem_toDigits (by omega) (by omega) hc
  have hrest : rest.takeWhile Char.isDigit = [] ∧ rest.dropWhile Char.isDigit = rest := by
    rcases rest with _ | ⟨c, cs⟩
    · exact ⟨rfl, rfl⟩
    · have hc := (h c rfl).1
      exact ⟨List.takeWhile_cons_of_neg (by simp [hc]), List.dropWhile_cons_of_neg (by simp [hc])⟩
  rw [digits, List.takeWhile_append_of_pos hall, List.dropWhile_append_of_pos hall, hrest.1,
    hrest.2, List.append_nil]
  rfl

theorem digitsValue_digitValues (n : Nat) : digitsValue (digitValues n) = n := by
  have h : Nat.ofDigitChars 10 (Nat.toDigits 10 n) 0 = n := Nat.ofDigitChars_ten_toDigits
  rw [digitsValue, digitValues, List.foldl_map]
  simpa only [Nat.ofDigitChars, Nat.mul_comm 10] using h

/-- Only zero is printed with a zero in front. -/
theorem head?_digitValues {n : Nat} (h : n ≠ 0) : (digitValues n).head? ≠ some 0 := by
  induction n using Nat.strongRecOn with
  | _ n ih =>
    by_cases hn : n < 10
    · have hdigit : ∀ n < 10, n ≠ 0 → (Nat.digitChar n).toNat - '0'.toNat ≠ 0 := by decide
      rw [digitValues, Nat.toDigits_of_lt_base hn]
      simpa using hdigit n hn h
    · have hhead := ih (n / 10) (by omega) (by omega)
      rw [digitValues, Nat.toDigits_of_base_le (by omega) (by omega), List.map_append]
      rw [digitValues] at hhead
      rcases hd : Nat.toDigits 10 (n / 10) with _ | ⟨c, cs⟩
      · exact absurd hd Nat.toDigits_ne_nil
      · rw [hd] at hhead
        exact hhead

theorem wholePart_of_digits {cs rest : List Char} {ds : List Nat} (h : digits cs = (ds, rest))
    (hne : ds ≠ []) (hzero : ∀ d tail, ds ≠ 0 :: d :: tail) : wholePart cs = some (ds, rest) := by
  unfold wholePart
  rw [h]
  split
  · rename_i heq
    cases heq
    exact absurd rfl hne
  · rename_i heq
    cases heq
    exact absurd rfl (hzero _ _)
  · rename_i heq
    cases heq
    rfl

theorem wholePart_toDigits (n : Nat) {rest : List Char} (h : Delimited rest) :
    wholePart (Nat.toDigits 10 n ++ rest) = some (digitValues n, rest) := by
  refine wholePart_of_digits (digits_toDigits n h) ?_ fun d tail hd => ?_
  · rw [digitValues, ne_eq, List.map_eq_nil_iff]
    exact Nat.toDigits_ne_nil
  · by_cases hn : n = 0
    · subst hn
      cases hd
    · exact head?_digitValues hn (by rw [hd]; rfl)

theorem fractionPart_of_delimited {rest : List Char} (h : Delimited rest) :
    fractionPart rest = some (none, rest) := by
  rcases rest with _ | ⟨c, cs⟩
  · rfl
  · unfold fractionPart
    split
    · rename_i heq
      cases heq
      exact absurd rfl (h '.' rfl).2.1
    · rfl

theorem exponentPart_of_delimited {rest : List Char} (h : Delimited rest) :
    exponentPart rest = some (none, rest) := by
  rcases rest with _ | ⟨c, cs⟩
  · rfl
  · obtain ⟨-, -, he, hE⟩ := h c rfl
    unfold exponentPart
    split <;> simp_all

/-- The parts of a printed integer. -/
def wholeLiteral (i : Int) : Literal := ⟨decide (i < 0), digitValues i.natAbs, none, none⟩

theorem literal_wholeText (i : Int) {rest : List Char} (h : Delimited rest) :
    literal (wholeText i ++ rest) = some (wholeLiteral i, rest) := by
  have hwhole := wholePart_toDigits i.natAbs h
  have hfraction := fractionPart_of_delimited h
  have hexponent := exponentPart_of_delimited h
  rw [wholeText, wholeLiteral]
  by_cases hneg : i < 0
  · rw [if_pos hneg, decide_eq_true hneg]
    simp only [literal, List.cons_append, hwhole, hfraction, hexponent, Option.bind_eq_bind,
      Option.bind_some]
    rfl
  · rw [if_neg hneg, decide_eq_false hneg]
    obtain ⟨c, cs, hd, hc⟩ := exists_cons_toDigits i.natAbs
    rw [hd, List.cons_append] at hwhole ⊢
    unfold literal
    split
    rename_i heq
    split at heq
    · rename_i hcons
      cases hcons
      cases hc
    · cases heq
      simp only [hwhole, hfraction, hexponent, Option.bind_eq_bind, Option.bind_some]
      rfl

theorem whole?_wholeLiteral (n : Whole) : (wholeLiteral n.value).whole? = some n := by
  have hlower := n.lower
  have hupper := n.upper
  have hvalue : (if decide (n.value < 0) = true then -(n.value.natAbs : Int) else n.value.natAbs)
      = n.value := by
    split
    · rename_i hneg
      have := of_decide_eq_true hneg
      omega
    · rename_i hneg
      have : ¬ n.value < 0 := by simpa using hneg
      omega
  simp only [Literal.whole?, wholeLiteral, digitsValue_digitValues, hvalue]
  rw [dif_pos]
  refine ⟨trivial, trivial, ?_, hlower, hupper⟩
  simp
  omega

/-- The character starts a number. -/
def startsNumber (c : Char) : Bool := c = '-' || c.isDigit

theorem exists_cons_wholeText (i : Int) :
    ∃ c cs, wholeText i = c :: cs ∧ startsNumber c = true := by
  rw [wholeText]
  split
  · exact ⟨'-', _, rfl, rfl⟩
  · obtain ⟨c, cs, hd, hc⟩ := exists_cons_toDigits i.natAbs
    exact ⟨c, cs, hd, by simp [startsNumber, hc]⟩

theorem isSpace_of_startsNumber {c : Char} (h : startsNumber c = true) : isSpace c = false := by
  rw [Bool.eq_false_iff]
  intro hs
  simp only [isSpace, Bool.or_eq_true, decide_eq_true_eq, or_assoc] at hs
  rcases hs with rfl | rfl | rfl | rfl <;> cases h

theorem scalar_of_literal {c : Char} {cs rest : List Char} {l : Literal} {n : Number}
    (hc : startsNumber c = true) (hl : literal (c :: cs) = some (l, rest))
    (hn : l.number? = some n) : scalar (c :: cs) = (.number n, some rest) := by
  unfold scalar
  split
  -- a number starts with none of the letters
  iterate 3
    rename_i heq
    cases heq
    cases hc
  simp only [hl, hn]

/-! ## Tokens -/

variable {fuel : Nat} {rest : List Char}

theorem value_of_startsNumber {c : Char} (hc : startsNumber c = true) (cs : List Char) :
    value (fuel + 1) (c :: cs) = scalar (c :: cs) := by
  unfold value
  rw [skipSpace_cons (isSpace_of_startsNumber hc)]
  split
  -- nor with a quote or a bracket
  iterate 3
    rename_i heq
    cases heq
    cases hc
  rfl

theorem value_wholeText (n : Whole) (h : Delimited rest) :
    value (fuel + 1) (wholeText n.value ++ rest) = (.number (.whole n), some rest) := by
  have hl := literal_wholeText n.value h
  have hn : (wholeLiteral n.value).number? = some (.whole n) := by
    rw [Literal.number?, whole?_wholeLiteral]
  obtain ⟨c, cs, hd, hc⟩ := exists_cons_wholeText n.value
  rw [hd, List.cons_append] at hl ⊢
  rw [value_of_startsNumber hc, scalar_of_literal hc hl hn]

theorem value_stringText (s : String) :
    value (fuel + 1) (stringText s ++ rest) = (.text s, some rest) := by
  rw [stringText]
  simp (disch := decide) only [List.cons_append, List.append_assoc, List.nil_append, value,
    skipSpace_cons, string_flatMap_escapeChar]

theorem value_array {blank cs : List Char} {c : Char} {xs : List Source}
    (hb : ∀ c ∈ blank, isSpace c = true) (hc : isSpace c = false ∧ c ≠ ']')
    (h : items fuel (c :: cs) = (xs, some rest)) :
    value (fuel + 1) ('[' :: (blank ++ c :: cs)) = (.array xs true, some rest) := by
  simp (disch := decide) only [value, skipSpace_cons, skipSpace_append hb, skipSpace_cons hc.1]
  split
  · rename_i heq
    cases heq
    exact absurd rfl hc.2
  · simp only [h]
    rfl

theorem value_object {blank cs : List Char} {ms : List (Option String × Source)}
    (hb : ∀ c ∈ blank, isSpace c = true) (h : members fuel cs = (ms, none, some rest)) :
    value (fuel + 1) ('{' :: (blank ++ '"' :: cs)) = (.object ms none, some rest) := by
  simp (disch := decide) only [value, skipSpace_cons, skipSpace_append hb, h]

theorem items_append {blank : List Char} (h : ∀ c ∈ blank, isSpace c = true) (cs : List Char) :
    items fuel (blank ++ cs) = items fuel cs := by
  cases fuel with
  | zero => rfl
  | succ fuel => simp only [items, value_append h]

theorem items_last {blank cs : List Char} {x : Source} (hb : ∀ c ∈ blank, isSpace c = true)
    (h : value fuel cs = (x, some (blank ++ ']' :: rest))) :
    items (fuel + 1) cs = ([x], some rest) := by
  simp (disch := decide) only [items, h, skipSpace_append hb, skipSpace_cons]

theorem items_cons {cs more : List Char} {x : Source} {xs : List Source}
    (h : value fuel cs = (x, some (',' :: more))) (hmore : items fuel more = (xs, some rest)) :
    items (fuel + 1) cs = (x :: xs, some rest) := by
  simp (disch := decide) only [items, h, skipSpace_cons, hmore]

theorem members_last {blank cs : List Char} {k : String} {x : Source}
    (hb : ∀ c ∈ blank, isSpace c = true) (h : value fuel cs = (x, some (blank ++ '}' :: rest))) :
    members (fuel + 1) (k.toList.flatMap escapeChar ++ '"' :: ':' :: cs)
      = ([(some k, x)], none, some rest) := by
  simp (disch := decide) only [members, string_flatMap_escapeChar, skipSpace_cons, h,
    skipSpace_append hb]

theorem members_cons {blank cs more : List Char} {k : String} {x : Source}
    {ms : List (Option String × Source)} (hb : ∀ c ∈ blank, isSpace c = true)
    (h : value fuel cs = (x, some (',' :: (blank ++ '"' :: more))))
    (hmore : members fuel more = (ms, none, some rest)) :
    members (fuel + 1) (k.toList.flatMap escapeChar ++ '"' :: ':' :: cs)
      = ((some k, x) :: ms, none, some rest) := by
  simp (disch := decide) only [members, string_flatMap_escapeChar, skipSpace_cons, h,
    skipSpace_append hb, hmore]

/-! ## Documents -/

theorem delimited_blank {blank : List Char} (hb : ∀ c ∈ blank, isSpace c = true) {c : Char}
    (hc : c.isDigit = false ∧ c ≠ '.' ∧ c ≠ 'e' ∧ c ≠ 'E') (rest : List Char) :
    Delimited (blank ++ c :: rest) := by
  rcases blank with _ | ⟨b, blank⟩
  · exact delimited_cons hc rest
  · have hs := hb b List.mem_cons_self
    simp only [isSpace, Bool.or_eq_true, decide_eq_true_eq, or_assoc] at hs
    refine delimited_cons ?_ _
    rcases hs with rfl | rfl | rfl | rfl <;> decide

/-- A printed document starts with a character that is neither white space nor a closing bracket. -/
theorem exists_cons_print (l : Layout) (depth : Nat) (j : Json) (h : j.isWhole = true) :
    ∃ c cs, print l depth j = c :: cs ∧ isSpace c = false ∧ c ≠ ']' := by
  match j, h with
  | .null, _ => exact ⟨'n', _, rfl, rfl, by decide⟩
  | .bool true, _ => exact ⟨'t', _, rfl, rfl, by decide⟩
  | .bool false, _ => exact ⟨'f', _, rfl, rfl, by decide⟩
  | .number (.whole n), _ =>
    obtain ⟨c, cs, hd, hc⟩ := exists_cons_wholeText n.value
    refine ⟨c, cs, hd, isSpace_of_startsNumber hc, ?_⟩
    rintro rfl
    cases hc
  | .string s, _ => exact ⟨'"', _, rfl, rfl, by decide⟩
  | .array [], _ => exact ⟨'[', _, rfl, rfl, by decide⟩
  | .array (x :: xs), _ => exact ⟨'[', _, rfl, rfl, by decide⟩
  | .object [], _ => exact ⟨'{', _, rfl, rfl, by decide⟩
  | .object ((k, x) :: ms), _ => exact ⟨'{', _, rfl, rfl, by decide⟩

mutual

/-- The parser gets over a printed document, with as much fuel as it is long. -/
theorem value_print {l : Layout} (hl : l.Blank) : ∀ (j : Json) (depth fuel : Nat)
    (rest : List Char), j.isWhole = true → (print l depth j).length ≤ fuel → Delimited rest →
      value fuel (print l depth j ++ rest) = (Source.ofJson j, some rest)
  | .null, _, fuel + 1, rest, _, _, _ => rfl
  | .bool true, _, fuel + 1, rest, _, _, _ => rfl
  | .bool false, _, fuel + 1, rest, _, _, _ => rfl
  | .number (.whole n), _, fuel + 1, rest, _, _, hrest => value_wholeText n hrest
  | .string s, _, fuel + 1, rest, _, _, _ => value_stringText s
  | .array [], _, fuel + 1, rest, _, _, _ => rfl
  | .array (x :: xs), depth, fuel + 1, rest, h, hlen, _ => by
    obtain ⟨c, cs, hprint, hc⟩ := exists_cons_print l (depth + 1) x (Bool.and_eq_true_iff.1 h).1
    have hitems := items_print hl (x :: xs) (depth + 1) fuel rest h
      (print l (depth + 1) x ++ printItems l (depth + 1) xs) (by rw [printItems]; simp)
      (by simp only [print, printItems, List.length_append, List.length_cons] at hlen ⊢; omega)
      (hl.lineBreak depth)
    simp only [print, List.cons_append, List.append_assoc, List.nil_append] at hitems ⊢
    rw [hprint, List.cons_append] at hitems ⊢
    exact value_array (hl.lineBreak (depth + 1)) hc hitems
  | .object [], _, fuel + 1, rest, _, _, _ => rfl
  | .object ((k, x) :: ms), depth, fuel + 1, rest, h, hlen, _ => by
    have hmembers := members_print hl ((k, x) :: ms) (depth + 1) fuel rest h
      (k.toList.flatMap escapeChar ++ '"' :: ':' :: (l.afterColon ++ (print l (depth + 1) x
        ++ printMembers l (depth + 1) ms))) (by rw [printMembers, stringText]; simp)
      (by simp only [print, printMembers, List.length_append, List.length_cons] at hlen ⊢; omega)
      (hl.lineBreak depth)
    simp only [print, stringText, List.cons_append, List.append_assoc, List.nil_append]
      at hmembers ⊢
    exact value_object (hl.lineBreak (depth + 1)) hmembers
  | j, depth, 0, _, h, hlen, _ => by
    obtain ⟨c, cs, hprint, -⟩ := exists_cons_print l depth j h
    rw [hprint] at hlen
    cases hlen

/-- The items of an array, without what comes before the first one. -/
theorem items_print {l : Layout} (hl : l.Blank) : ∀ (xs : List Json) (depth fuel : Nat)
    (rest : List Char), isWholeItems xs = true → ∀ body : List Char,
      printItems l depth xs = ',' :: (l.lineBreak depth ++ body) →
      (printItems l depth xs).length ≤ fuel →
      ∀ {blank : List Char}, (∀ c ∈ blank, isSpace c = true) →
        items fuel (body ++ (blank ++ ']' :: rest)) = (Source.ofItems xs, some rest)
  | x :: xs, depth, fuel + 1, rest, h, body, hbody, hlen, blank, hblank => by
    obtain ⟨hx, hxs⟩ := Bool.and_eq_true_iff.1 h
    simp only [printItems, List.cons_append, List.append_assoc, List.cons.injEq,
      List.append_cancel_left_eq, true_and] at hbody
    subst hbody
    simp only [printItems, List.length_cons, List.length_append] at hlen
    have hread := fun tail => value_print hl x depth fuel tail hx (by omega)
    have hmore := items_print hl xs depth fuel rest hxs
    -- after an item comes a comma or the end of the array, and neither goes on with a number
    rw [List.append_assoc]
    rcases xs with _ | ⟨y, ys⟩
    · exact items_last hblank (hread _ (delimited_blank hblank (by decide) rest))
    · have hrest := hmore (print l depth y ++ printItems l depth ys) (by rw [printItems]; simp)
        (by omega) hblank
      rw [← items_append (hl.lineBreak depth)] at hrest
      simp only [printItems, List.cons_append, List.append_assoc] at hrest ⊢
      exact items_cons (hread _ (delimited_cons (by decide) _)) hrest
  | [], _, _, _, _, _, hbody, _, _, _ => by cases hbody
  | x :: xs, _, 0, _, _, _, _, hlen, _, _ => by cases hlen

/-- The members of an object, without what comes before the key of the first one. -/
theorem members_print {l : Layout} (hl : l.Blank) : ∀ (ms : List (String × Json))
    (depth fuel : Nat) (rest : List Char), isWholeMembers ms = true → ∀ body : List Char,
      printMembers l depth ms = ',' :: (l.lineBreak depth ++ '"' :: body) →
      (printMembers l depth ms).length ≤ fuel →
      ∀ {blank : List Char}, (∀ c ∈ blank, isSpace c = true) →
        members fuel (body ++ (blank ++ '}' :: rest)) = (Source.ofMembers ms, none, some rest)
  | (k, x) :: ms, depth, fuel + 1, rest, h, body, hbody, hlen, blank, hblank => by
    obtain ⟨hx, hms⟩ := Bool.and_eq_true_iff.1 h
    simp only [printMembers, stringText, List.cons_append, List.append_assoc, List.cons.injEq,
      List.append_cancel_left_eq, true_and] at hbody
    subst hbody
    simp only [printMembers, List.length_cons, List.length_append] at hlen
    have hread := fun tail hd =>
      (value_append hl.afterColon fuel _).trans (value_print hl x depth fuel tail hx (by omega) hd)
    have hmore := members_print hl ms depth fuel rest hms
    simp only [List.cons_append, List.append_assoc, List.nil_append]
    rcases ms with _ | ⟨⟨k', y⟩, ms⟩
    · exact members_last hblank (hread _ (delimited_blank hblank (by decide) rest))
    · have hrest := hmore (k'.toList.flatMap escapeChar ++ '"' :: ':' :: (l.afterColon
        ++ (print l depth y ++ printMembers l depth ms))) (by rw [printMembers, stringText]; simp)
        (by omega) hblank
      simp only [printMembers, stringText, List.cons_append, List.append_assoc, List.nil_append]
        at hrest ⊢
      exact members_cons (hl.lineBreak depth) (hread _ (delimited_cons (by decide) _)) hrest
  | [], _, _, _, _, _, hbody, _, _, _ => by cases hbody
  | (_, _) :: _, _, 0, _, _, _, _, hlen, _, _ => by cases hlen

end

end Parser

variable {l : Layout} {j : Json}

theorem ofText_print (hl : l.Blank) (h : j.isWhole = true) :
    Source.ofText (String.ofList (print l 0 j)) = (.ofJson j, some []) := by
  have hread := Parser.value_print hl j 0 (2 * (print l 0 j).length + 2) [] h (by omega)
    Parser.delimited_nil
  rw [List.append_nil] at hread
  rw [Source.ofText, String.length_ofList, String.toList_ofList, hread]

/-- The text of a document is read as the value that the document stands for. -/
theorem parse?_print (hl : l.Blank) (h : j.isWhole = true) (hd : j.depth ≤ Origin.maxDepth) :
    parse? (String.ofList (print l 0 j)) = some j.collapse := by
  have hread : Reader.json (.text 0) (.ofJson j) = .ok j.collapse := by
    refine Reader.json_ofJson j ?_
    rintro _ ⟨⟩
    omega
  rw [parse?, Reader.ofText, ofText_print hl h]
  simp only [hread, ok_bind]
  rfl

end DomainModel.Json
