import DomainModel.Text.Words
import Mathlib.Tactic.MkIffOfInductiveProp

/-!
# Identifiers in camel case

In printable ASCII every character is a cluster of its own, and the rules for the beginning of a
word come down to capitals, small letters and digits.  So it can be read off an identifier whether
camel case does more to it than to lower its first letter (`camelCase_eq_lowerFirst_iff`): it
deletes separators, begins words at small letters after digits, and takes the other capitals for
letters inside of a word.
-/

namespace DomainModel.Text

variable {c p : Char} {cs : List Char}

/-! ## Printable ASCII -/

/-- The printable characters of ASCII, from the space to the tilde. -/
def isAscii (c : Char) : Bool := 0x20 ≤ c.toNat && c.toNat ≤ 0x7e

theorem isAscii_iff : isAscii c = true ↔ 0x20 ≤ c.toNat ∧ c.toNat ≤ 0x7e := by
  simp [isAscii]

/-- A property of all printable characters of ASCII, checked one by one. -/
theorem forall_isAscii {P : Char → Prop} (h : ∀ n, n < 0x7f → 0x20 ≤ n → P (Char.ofNat n))
    (hc : isAscii c = true) : P c := by
  have hrange := isAscii_iff.1 hc
  have hn := h c.toNat (by omega) hrange.1
  rwa [Char.ofNat_toNat] at hn

/-- Ranges around the printable characters do not contain them. -/
theorem contains_of_isAscii {rs : Ranges} (h : ∀ r ∈ rs, r.2 < 0x20 ∨ 0x7e < r.1)
    (hc : isAscii c = true) : rs.contains c = false := by
  have hrange := isAscii_iff.1 hc
  refine List.any_eq_false.2 fun r hr => ?_
  have hr := h r hr
  simp only [Bool.and_eq_true, decide_eq_true_eq]
  omega

/-- The tables of the classes that decide where a cluster ends. -/
def clusterTables : List Ranges :=
  [controlRanges, extendRanges, prependRanges, spacingMarkRanges, pictographRanges]

theorem clusterTables_around : ∀ rs ∈ clusterTables, ∀ r ∈ rs, r.2 < 0x20 ∨ 0x7e < r.1 := by
  decide +kernel

theorem breakClass_of_isAscii (h : isAscii c = true) : breakClass c = .other := by
  have htables : ∀ rs ∈ clusterTables, rs.contains c = false := fun rs hrs =>
    contains_of_isAscii (clusterTables_around rs hrs) h
  simp only [clusterTables, List.forall_mem_cons] at htables
  obtain ⟨hcontrol, hextend, hprepend, hspacing, hpicture, -⟩ := htables
  have hrange := isAscii_iff.1 h
  simp only [breakClass, hcontrol, hextend, hprepend, hspacing, hpicture, Bool.false_or,
    Bool.false_eq_true, if_false, Bool.and_eq_true, decide_eq_true_eq, Bool.or_eq_true]
  -- the classes that are given by rule are of other characters, too
  repeat rw [if_neg (by omega)]

/-- Of a table of cases, only the first row is about printable characters. -/
theorem caseImage_of_isAscii {runs : List (Nat × Nat × Nat × Nat)} {longer : List (Nat × List Nat)}
    (hruns : ∀ r ∈ runs.drop 1, 0x7e < r.1) (hlonger : ∀ e ∈ longer, 0x7e < e.1)
    (hc : isAscii c = true) : caseImage runs longer c = caseImage (runs.take 1) [] c := by
  have hrange := isAscii_iff.1 hc
  have hlookup : longer.lookup c.toNat = none := by
    refine List.lookup_eq_none_iff.2 fun e he => ?_
    have he := hlonger e he
    simp only [bne_iff_ne, ne_eq]
    omega
  have hlater : (runs.drop 1).find? (fun r =>
      r.1 ≤ c.toNat && c.toNat ≤ r.2.1 && (c.toNat - r.1) % r.2.2.1 = 0) = none := by
    refine List.find?_eq_none.2 fun r hr => ?_
    have hr := hruns r hr
    simp only [Bool.and_eq_true, decide_eq_true_eq]
    omega
  simp only [caseImage, hlookup, List.lookup_nil]
  rw [← List.take_append_drop 1 runs, List.find?_append, hlater, Option.or_none,
    List.take_append_drop]

theorem lowerChar_of_isAscii (h : isAscii c = true) : lowerChar c = [c.toLower] := by
  rw [lowerChar, caseImage_of_isAscii (by decide +kernel) (by decide +kernel) h]
  exact forall_isAscii (P := fun c => caseImage _ [] c = [c.toLower]) (by decide +kernel) h

theorem upperChar_of_isAscii (h : isAscii c = true) : upperChar c = [c.toUpper] := by
  rw [upperChar, caseImage_of_isAscii (by decide +kernel) (by decide +kernel) h]
  exact forall_isAscii (P := fun c => caseImage _ [] c = [c.toUpper]) (by decide +kernel) h

theorem lowerFrom_of_isAscii (afterCased : Bool) (h : ∀ c ∈ cs, isAscii c = true) :
    lowerFrom afterCased cs = cs.map Char.toLower := by
  induction cs generalizing afterCased with
  | nil => rfl
  | cons c cs ih =>
    obtain ⟨hc, hcs⟩ := List.forall_mem_cons.1 h
    have hsigma : c ≠ 'Σ' := forall_isAscii (P := fun c => c ≠ 'Σ') (by decide +kernel) hc
    rw [lowerFrom, if_neg hsigma, lowerChar_of_isAscii hc, ih _ hcs]
    rfl

theorem lower_of_isAscii (h : ∀ c ∈ cs, isAscii c = true) : lower cs = cs.map Char.toLower :=
  lowerFrom_of_isAscii false h

theorem upper_singleton_of_isAscii (h : isAscii c = true) : upper [c] = [c.toUpper] := by
  rw [upper, List.flatMap_singleton, upperChar_of_isAscii h]

theorem lower_singleton_of_isAscii (h : isAscii c = true) : lower [c] = [c.toLower] :=
  lower_of_isAscii (by simpa using h)

theorem isUpperCluster_of_isAscii (h : isAscii c = true) : isUpperCluster [c] = c.isUpper := by
  rw [isUpperCluster, upper_singleton_of_isAscii h, lower_singleton_of_isAscii h]
  exact forall_isAscii
    (P := fun c => ([c.toUpper] != [c.toLower] && [c] == [c.toUpper]) = c.isUpper)
    (by decide +kernel) h

theorem isLowerCluster_of_isAscii (h : isAscii c = true) : isLowerCluster [c] = c.isLower := by
  rw [isLowerCluster, upper_singleton_of_isAscii h, lower_singleton_of_isAscii h]
  exact forall_isAscii
    (P := fun c => ([c.toUpper] != [c.toLower] && [c] == [c.toLower]) = c.isLower)
    (by decide +kernel) h

theorem isDigitCluster_singleton (c : Char) : isDigitCluster [c] = c.isDigit := by
  simp [isDigitCluster]

/-! ## Clusters -/

theorem clustersFrom_of_isAscii {ctx : Context} (hctx : ctx.last = .other)
    (h : ∀ c ∈ cs, isAscii c = true) : clustersFrom ctx cs = ([], cs.map ([·])) := by
  induction cs generalizing ctx with
  | nil => rfl
  | cons c cs ih =>
    obtain ⟨hc, hcs⟩ := List.forall_mem_cons.1 h
    have hjoins : ctx.joins .other = false := by simp [Context.joins, hctx]
    rw [clustersFrom, breakClass_of_isAscii hc, ih rfl hcs]
    simp [hjoins]

theorem clusters_of_isAscii (h : ∀ c ∈ cs, isAscii c = true) : clusters cs = cs.map ([·]) := by
  cases cs with
  | nil => rfl
  | cons c cs =>
    obtain ⟨hc, hcs⟩ := List.forall_mem_cons.1 h
    rw [clusters, breakClass_of_isAscii hc, clustersFrom_of_isAscii rfl hcs]
    rfl

/-! ## Words -/

/-- Nothing but separators is lost between words. -/
theorem flatten_wordsFrom (previous : Option (List Char)) (ts : List (List Char)) :
    (wordsFrom previous ts).1 ++ (wordsFrom previous ts).2.flatten
      = (ts.filter (!isSeparator ·)).flatten := by
  induction ts generalizing previous with
  | nil => rfl
  | cons t ts ih =>
    simp only [wordsFrom]
    split
    · rename_i hseparator
      simp [hseparator, ih]
    · rename_i hseparator
      split <;> simp [hseparator, ih]

theorem flatten_wordsFrom_singletons (previous : Option (List Char)) (cs : List Char) :
    (wordsFrom previous (cs.map ([·]))).1 ++ (wordsFrom previous (cs.map ([·]))).2.flatten
      = cs.filter (!isSeparator [·]) := by
  rw [flatten_wordsFrom, List.filter_map, ← List.flatMap_def, List.flatMap_singleton']
  rfl

theorem flatten_words (h : ∀ c ∈ cs, isAscii c = true) :
    (words cs).flatten = cs.filter (!isSeparator [·]) := by
  rw [words, clusters_of_isAscii h, List.flatten_filter_ne_nil, List.flatten_cons,
    flatten_wordsFrom_singletons]

/-! ## Camel case -/

theorem flatMap_capitalize_filter (ws : List (List Char)) :
    (ws.filter (· ≠ [])).flatMap capitalize = ws.flatMap capitalize := by
  induction ws with
  | nil => rfl
  | cons w ws ih =>
    cases w with
    | nil => simpa [capitalize] using ih
    | cons c w => simpa using ih

theorem capitalize_of_isAscii (h : ∀ x ∈ c :: cs, isAscii x = true) :
    capitalize (c :: cs) = c.toUpper :: cs.map Char.toLower := by
  obtain ⟨hc, hcs⟩ := List.forall_mem_cons.1 h
  rw [capitalize, upperChar_of_isAscii hc, lower_of_isAscii hcs]
  rfl

/-- What comes after the character `p` of an identifier, in camel case, if no separator follows. -/
def camelFrom (p : Char) : List Char → List Char
  | [] => []
  | c :: cs =>
    (if beginsWord [p] [c] (cs.head?.map ([·])) then c.toUpper else c.toLower) :: camelFrom c cs

/-- The word that `c` is in is printable if the text from `c` on is. -/
theorem isAscii_of_mem_word (h : ∀ x ∈ c :: cs, isAscii x = true) :
    ∀ x ∈ c :: (wordsFrom (some [c]) (cs.map ([·]))).1, isAscii x = true := by
  intro x hx
  rcases List.mem_cons.1 hx with rfl | hx
  · exact h x List.mem_cons_self
  · have hflatten := List.mem_append_left (wordsFrom (some [c]) (cs.map ([·]))).2.flatten hx
    rw [flatten_wordsFrom_singletons] at hflatten
    exact h x (.tail _ (List.mem_filter.1 hflatten).1)

theorem wordsFrom_eq_camelFrom (h : ∀ c ∈ cs, isAscii c = true)
    (hseparator : ∀ c ∈ cs, isSeparator [c] = false) :
    lower (wordsFrom (some [p]) (cs.map ([·]))).1
      ++ (wordsFrom (some [p]) (cs.map ([·]))).2.flatMap capitalize = camelFrom p cs := by
  induction cs generalizing p with
  | nil => rfl
  | cons c cs ih =>
    have hcs := (List.forall_mem_cons.1 h).2
    obtain ⟨hseparator, hseparators⟩ := List.forall_mem_cons.1 hseparator
    have hword := isAscii_of_mem_word h
    have hrest := (List.forall_mem_cons.1 hword).2
    have hcamel := ih (p := c) hcs hseparators
    rw [lower_of_isAscii hrest] at hcamel
    simp only [List.map_cons, wordsFrom, hseparator, camelFrom, ← hcamel, Bool.false_eq_true,
      if_false, List.head?_map, Option.any_some, List.singleton_append]
    split
    · rw [List.flatMap_cons, capitalize_of_isAscii hword]
      rfl
    · rw [lower_of_isAscii hword]
      rfl

theorem camelCase_of_isAscii {s : String} (hs : s.toList = c :: cs)
    (h : ∀ x ∈ c :: cs, isAscii x = true) (hseparator : ∀ x ∈ c :: cs, isSeparator [x] = false) :
    camelCase s = String.ofList (c.toLower :: camelFrom c cs) := by
  have hcs := (List.forall_mem_cons.1 h).2
  obtain ⟨hseparator, hseparators⟩ := List.forall_mem_cons.1 hseparator
  have hwords : words s.toList = (c :: (wordsFrom (some [c]) (cs.map ([·]))).1)
      :: (wordsFrom (some [c]) (cs.map ([·]))).2.filter (· ≠ []) := by
    rw [hs, words, clusters_of_isAscii h]
    simp [wordsFrom, hseparator]
  have hword := isAscii_of_mem_word h
  have hrest := (List.forall_mem_cons.1 hword).2
  simp only [camelCase, hwords]
  rw [flatMap_capitalize_filter, ← wordsFrom_eq_camelFrom hcs hseparators, lower_of_isAscii hword,
    lower_of_isAscii hrest]
  rfl

theorem lowerFirst_of_isAscii {s : String} (hs : s.toList = c :: cs) (h : isAscii c = true) :
    lowerFirst s = String.ofList (c.toLower :: cs) := by
  simp only [lowerFirst, hs]
  rw [lowerChar_of_isAscii h]
  rfl

theorem length_capitalize {w : List Char} (h : ∀ x ∈ w, isAscii x = true) :
    (capitalize w).length = w.length := by
  cases w with
  | nil => rfl
  | cons c w => rw [capitalize_of_isAscii h, List.length_cons, List.length_map, List.length_cons]

/-- Camel case deletes the separators and nothing else. -/
theorem length_camelCase {s : String} (h : ∀ c ∈ s.toList, isAscii c = true) :
    (camelCase s).length = (s.toList.filter (!isSeparator [·])).length := by
  have hwords : ∀ w ∈ words s.toList, ∀ c ∈ w, isAscii c = true := by
    intro w hw c hc
    have hc := List.mem_flatten_of_mem hw hc
    rw [flatten_words h] at hc
    exact h c (List.mem_filter.1 hc).1
  rw [← flatten_words h, camelCase]
  split
  · rename_i hsplit
    rw [hsplit]
    rfl
  · rename_i w ws hsplit
    rw [hsplit] at hwords ⊢
    obtain ⟨hw, hws⟩ := List.forall_mem_cons.1 hwords
    have hlengths : ws.map (fun w => (capitalize w).length) = ws.map List.length :=
      List.map_congr_left fun w hw => length_capitalize (hws w hw)
    rw [String.length_ofList, List.length_append, lower_of_isAscii hw, List.length_map,
      List.length_flatMap, hlengths, List.flatten_cons, List.length_append, List.length_flatten]

/-! ## What is in camel case already -/

/-- The character `c` after `p` has the case that camel case gives it: a small letter does not
follow a digit, and a capital follows a small letter or a digit or is the last of a run of capitals
that goes on in small letters. -/
@[mk_iff]
structure Fits (p c : Char) (after : List Char) : Prop where
  small : c.isLower = true → p.isDigit = false
  capital : c.isUpper = true →
    p.isLower = true ∨ p.isDigit = true ∨ p.isUpper = true ∧ after.head?.any Char.isLower = true

/-- A text of which camel case changes the first letter at most. -/
structure IsCamel (cs : List Char) : Prop where
  separators : ∀ c ∈ cs, isSeparator [c] = false
  fits : ∀ p c after, p :: c :: after <:+ cs → Fits p c after

theorem toUpper_eq_self_iff (h : isAscii c = true) : c.toUpper = c ↔ c.isLower = false :=
  forall_isAscii (P := fun c => c.toUpper = c ↔ c.isLower = false) (by decide +kernel) h

theorem toLower_eq_self_iff (h : isAscii c = true) : c.toLower = c ↔ c.isUpper = false :=
  forall_isAscii (P := fun c => c.toLower = c ↔ c.isUpper = false) (by decide +kernel) h

theorem eq_self_iff_fits (hp : isAscii p = true) (hc : isAscii c = true)
    (h : ∀ x ∈ cs, isAscii x = true) :
    (if beginsWord [p] [c] (cs.head?.map ([·])) then c.toUpper else c.toLower) = c
      ↔ Fits p c cs := by
  have hnext : (cs.head?.map ([·])).any isLowerCluster = cs.head?.any Char.isLower := by
    cases cs with
    | nil => rfl
    | cons x cs => exact isLowerCluster_of_isAscii (h x List.mem_cons_self)
  have hkinds : c.isUpper = false ∧ c.isLower = false ∨
      c.isDigit = false ∧ (c.isUpper = true ↔ c.isLower = false) :=
    forall_isAscii (P := fun c => c.isUpper = false ∧ c.isLower = false ∨
      c.isDigit = false ∧ (c.isUpper = true ↔ c.isLower = false)) (by decide +kernel) hc
  have hupper := toUpper_eq_self_iff hc
  have hlower := toLower_eq_self_iff hc
  rw [fits_iff]
  simp only [beginsWord, isUpperCluster_of_isAscii hp, isUpperCluster_of_isAscii hc,
    isLowerCluster_of_isAscii hp, isLowerCluster_of_isAscii hc, isDigitCluster_singleton, hnext]
  grind

theorem camelFrom_eq_self_iff (hp : isAscii p = true) (h : ∀ x ∈ cs, isAscii x = true) :
    camelFrom p cs = cs ↔ ∀ q c after, q :: c :: after <:+ p :: cs → Fits q c after := by
  induction cs generalizing p with
  | nil =>
    refine iff_of_true rfl fun q c after hsuffix => ?_
    have hlength := hsuffix.length_le
    simp at hlength
  | cons c cs ih =>
    obtain ⟨hc, hcs⟩ := List.forall_mem_cons.1 h
    rw [camelFrom, List.cons.injEq, eq_self_iff_fits hp hc hcs, ih hc hcs]
    constructor
    · rintro ⟨hfits, hall⟩ q d after hsuffix
      rcases List.suffix_cons_iff.1 hsuffix with heq | hsuffix
      · cases heq
        exact hfits
      · exact hall q d after hsuffix
    · intro hall
      exact ⟨hall p c cs (List.suffix_refl _), fun q d after hsuffix =>
        hall q d after (List.suffix_cons_iff.2 (.inr hsuffix))⟩

/-- For identifiers in printable ASCII, camel case comes to lowering the first letter exactly if the
identifier is in camel case but for that letter. -/
theorem camelCase_eq_lowerFirst_iff {s : String} (h : ∀ c ∈ s.toList, isAscii c = true) :
    camelCase s = lowerFirst s ↔ IsCamel s.toList := by
  cases hs : s.toList with
  | nil =>
    have hempty : camelCase s = lowerFirst s := by
      rw [String.toList_eq_nil_iff.1 hs]
      rfl
    exact iff_of_true hempty ⟨by simp, by simp⟩
  | cons c cs =>
    have hlength := length_camelCase h
    rw [hs] at h hlength
    obtain ⟨hc, hcs⟩ := List.forall_mem_cons.1 h
    have hlower := lowerFirst_of_isAscii hs hc
    have hiff (hseparator : ∀ x ∈ c :: cs, isSeparator [x] = false) : camelCase s = lowerFirst s
        ↔ ∀ q d after, q :: d :: after <:+ c :: cs → Fits q d after := by
      rw [camelCase_of_isAscii hs h hseparator, hlower, String.ofList_inj, List.cons.injEq,
        eq_self_iff_true, true_and, camelFrom_eq_self_iff hc hcs]
    constructor
    · intro heq
      rw [heq, hlower, String.length_ofList] at hlength
      have hseparator : ∀ x ∈ c :: cs, isSeparator [x] = false := by
        simpa using List.length_filter_eq_length_iff.1 hlength.symm
      exact ⟨hseparator, (hiff hseparator).1 heq⟩
    · rintro ⟨hseparator, hfits⟩
      exact (hiff hseparator).2 hfits

end DomainModel.Text
