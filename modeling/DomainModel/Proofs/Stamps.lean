import DomainModel.Proofs.Calendar

/-!
# The order of stamps

What stands after the year in a stamp has ten digits whatever the instant, so the year can be told
from the rest, and no two instants have the same stamp (`stamp_injective`).  In the years of four
digits a stamp has fourteen, and texts of that many digits are in the order of the numbers that they
spell: later instants have greater stamps (`stamp_lt`).
-/

namespace DomainModel

/-! ## Texts of digits -/

section Digits

theorem toNat_of_isDigit {c : Char} (h : c.isDigit = true) : 48 ≤ c.toNat ∧ c.toNat ≤ 57 :=
  Char.isDigit_iff_toNat.1 h

/-- What is read before the digits weighs more than the digits. -/
theorem ofDigitChars_lt_ofDigitChars : ∀ {cs ds : List Char} {m n : Nat}, cs.length = ds.length →
    (∀ c ∈ cs, c.isDigit = true) → (∀ d ∈ ds, d.isDigit = true) → m < n →
    Nat.ofDigitChars 10 cs m < Nat.ofDigitChars 10 ds n
  | [], [], _, _, _, _, _, h => h
  | c :: cs, d :: ds, m, n, hl, hcs, hds, h => by
    have hc := toNat_of_isDigit (hcs c List.mem_cons_self)
    have hd := toNat_of_isDigit (hds d List.mem_cons_self)
    have hzero : '0'.toNat = 48 := rfl
    rw [Nat.ofDigitChars_cons, Nat.ofDigitChars_cons]
    refine ofDigitChars_lt_ofDigitChars (Nat.succ.inj hl)
      (fun x hx => hcs x (List.mem_cons_of_mem _ hx))
      (fun x hx => hds x (List.mem_cons_of_mem _ hx)) ?_
    omega

/-- Of two texts with as many digits, the one with the smaller number comes first. -/
theorem lt_of_ofDigitChars_lt : ∀ {cs ds : List Char} {n : Nat}, cs.length = ds.length →
    (∀ c ∈ cs, c.isDigit = true) → (∀ d ∈ ds, d.isDigit = true) →
    Nat.ofDigitChars 10 cs n < Nat.ofDigitChars 10 ds n → cs < ds
  | [], [], _, _, _, _, h => absurd h (Nat.lt_irrefl _)
  | c :: cs, d :: ds, n, hl, hcs, hds, h => by
    have hl' := Nat.succ.inj hl
    have hc := toNat_of_isDigit (hcs c List.mem_cons_self)
    have hd := toNat_of_isDigit (hds d List.mem_cons_self)
    have hzero : '0'.toNat = 48 := rfl
    have hcs' := fun x hx => hcs x (List.mem_cons_of_mem _ hx)
    have hds' := fun x hx => hds x (List.mem_cons_of_mem _ hx)
    rw [Nat.ofDigitChars_cons, Nat.ofDigitChars_cons] at h
    rw [List.cons_lt_cons_iff, Char.lt_def]
    rcases Nat.lt_trichotomy c.toNat d.toNat with hlt | heq | hgt
    · exact .inl hlt
    · rw [heq] at h
      exact .inr ⟨Char.toNat_inj.1 heq, lt_of_ofDigitChars_lt hl' hcs' hds' h⟩
    · have hless := ofDigitChars_lt_ofDigitChars hl'.symm hds' hcs'
        (show 10 * n + (d.toNat - '0'.toNat) < 10 * n + (c.toNat - '0'.toNat) by omega)
      exact absurd (Nat.lt_trans h hless) (Nat.lt_irrefl _)

end Digits

namespace Instant

theorem isDigit_padded {width n : Nat} : ∀ c ∈ padded width n, c.isDigit = true := by
  intro c hc
  rcases List.mem_append.1 hc with hc | hc
  · rw [List.eq_of_mem_replicate hc]
    rfl
  · exact Nat.isDigit_of_mem_toDigits (by decide) (by decide) hc

theorem ofDigitChars_padded (width n : Nat) : Nat.ofDigitChars 10 (padded width n) 0 = n := by
  simp [padded, Nat.ofDigitChars_append, Nat.ofDigitChars_replicate_zero,
    Nat.ofDigitChars_ten_toDigits]

theorem length_padded {width n : Nat} (h : (Nat.toDigits 10 n).length ≤ width) :
    (padded width n).length = width := by
  simp only [padded, List.length_append, List.length_replicate]
  omega

theorem length_padded_two {n : Nat} (h : n < 100) : (padded 2 n).length = 2 :=
  length_padded ((Nat.length_toDigits_le_iff (by decide) (by decide)).2 h)

theorem length_padded_four {n : Nat} (h : n < 10000) : (padded 4 n).length = 4 :=
  length_padded ((Nat.length_toDigits_le_iff (by decide) (by decide)).2 h)

theorem padded_injective {width m n : Nat} (h : padded width m = padded width n) : m = n := by
  rw [← ofDigitChars_padded width m, h, ofDigitChars_padded]

theorem ofDigitChars_append_padded {cs : List Char} {n : Nat} (h : n < 100) :
    Nat.ofDigitChars 10 (cs ++ padded 2 n) 0 = Nat.ofDigitChars 10 cs 0 * 100 + n := by
  rw [Nat.ofDigitChars_append, Nat.ofDigitChars_eq_ofDigitChars_zero, ofDigitChars_padded,
    length_padded_two h]
  omega

/-! ## The year and what comes after it -/

theorem sign_ne_padded (y : Int) (cs : List Char) (width n : Nat) :
    (if y < 0 then '-' else '+') :: cs ≠ padded width n := by
  intro h
  have hmem : (if y < 0 then '-' else '+') ∈ padded width n := by
    rw [← h]
    exact List.mem_cons_self
  have := isDigit_padded _ hmem
  split at this <;> exact absurd this (by decide)

theorem yearText_injective {y y' : Int} (h : yearText y = yearText y') : y = y' := by
  unfold yearText at h
  by_cases hr : 0 ≤ y ∧ y ≤ 9999 <;> by_cases hr' : 0 ≤ y' ∧ y' ≤ 9999 <;>
    simp only [hr, hr', if_false] at h
  · have := padded_injective h
    omega
  · exact absurd h.symm (sign_ne_padded _ _ _ _)
  · exact absurd h (sign_ne_padded _ _ _ _)
  · obtain ⟨hsign, habs⟩ := List.cons.inj h
    have habs := padded_injective habs
    by_cases hn : y < 0 <;> by_cases hn' : y' < 0 <;> simp [hn, hn'] at hsign
    · omega
    · omega

/-- The ten digits after the year. -/
def restChars (t : Instant) : List Char :=
  padded 2 t.date.month.natAbs ++ padded 2 t.date.day.natAbs
    ++ padded 2 (t.seconds % 86400 / 3600).natAbs ++ padded 2 (t.seconds % 86400 / 60 % 60).natAbs
    ++ padded 2 (t.seconds % 86400 % 60).natAbs

theorem stampChars_eq (t : Instant) : t.stampChars = yearText t.date.year ++ t.restChars := by
  simp only [restChars, ← List.append_assoc]
  rfl

theorem length_restChars (t : Instant) : t.restChars.length = 10 := by
  have := t.date_mem
  simp only [restChars, List.length_append]
  rw [length_padded_two, length_padded_two, length_padded_two, length_padded_two,
    length_padded_two] <;> omega

theorem isDigit_restChars (t : Instant) : ∀ c ∈ t.restChars, c.isDigit = true := by
  intro c hc
  simp only [restChars, List.mem_append] at hc
  rcases hc with (((hc | hc) | hc) | hc) | hc <;> exact isDigit_padded c hc

theorem ofDigitChars_restChars (t : Instant) : Nat.ofDigitChars 10 t.restChars 0 = t.rest := by
  have := t.date_mem
  unfold restChars rest clock
  rw [ofDigitChars_append_padded (by omega), ofDigitChars_append_padded (by omega),
    ofDigitChars_append_padded (by omega), ofDigitChars_append_padded (by omega),
    ofDigitChars_padded]
  omega

/-- No two instants have the same stamp. -/
theorem stamp_injective {t t' : Instant} (h : t.stamp = t'.stamp) : t.seconds = t'.seconds := by
  have hchars := String.ofList_inj.1 h
  rw [stampChars_eq, stampChars_eq] at hchars
  have hlen : t.restChars.length = t'.restChars.length := by
    rw [length_restChars, length_restChars]
  obtain ⟨hyear, hrest⟩ := List.append_inj' hchars hlen
  have hyear := yearText_injective hyear
  have hrest : t.rest = t'.rest := by rw [← ofDigitChars_restChars, hrest, ofDigitChars_restChars]
  rcases Int.lt_trichotomy t.seconds t'.seconds with hlt | heq | hgt
  · have := year_lt_or_rest_lt hlt
    omega
  · exact heq
  · have := year_lt_or_rest_lt hgt
    omega

/-! ## Years of four digits -/

/-- A second in a year that is written without a sign. -/
def InFourDigitYear (seconds : Int) : Prop :=
  0 ≤ (Date.ofDays (seconds / 86400)).year ∧ (Date.ofDays (seconds / 86400)).year ≤ 9999

theorem stampChars_digits {t : Instant} (h : InFourDigitYear t.seconds) :
    t.stampChars.length = 14 ∧ (∀ c ∈ t.stampChars, c.isDigit = true) ∧
      Nat.ofDigitChars 10 t.stampChars 0 = t.date.year * 10000000000 + t.rest := by
  have hyear : 0 ≤ t.date.year ∧ t.date.year ≤ 9999 := h
  rw [stampChars_eq, yearText, if_pos hyear]
  refine ⟨?_, ?_, ?_⟩
  · rw [List.length_append, length_padded_four (by omega), length_restChars]
  · intro c hc
    exact (List.mem_append.1 hc).elim (isDigit_padded c) (t.isDigit_restChars c)
  · rw [Nat.ofDigitChars_append, Nat.ofDigitChars_eq_ofDigitChars_zero, ofDigitChars_padded,
      length_restChars, Int.natCast_add, ofDigitChars_restChars]
    omega

theorem rest_mem (t : Instant) : 0 ≤ t.rest ∧ t.rest < 10000000000 := by
  have := t.date_mem
  have := clock_mem (show 0 ≤ t.seconds % 86400 ∧ t.seconds % 86400 < 86400 by omega)
  unfold rest
  omega

/-- Later instants have greater stamps, in the years of four digits. -/
theorem stamp_lt {t t' : Instant} (h : InFourDigitYear t.seconds)
    (h' : InFourDigitYear t'.seconds) (hlt : t.seconds < t'.seconds) : t.stamp < t'.stamp := by
  obtain ⟨hlen, hdigits, hnumber⟩ := stampChars_digits h
  obtain ⟨hlen', hdigits', hnumber'⟩ := stampChars_digits h'
  have := t.rest_mem
  have := t'.rest_mem
  have := year_lt_or_rest_lt hlt
  rw [String.lt_iff, stamp, stamp, String.toList_ofList, String.toList_ofList]
  have hless : Nat.ofDigitChars 10 t.stampChars 0 < Nat.ofDigitChars 10 t'.stampChars 0 := by omega
  exact lt_of_ofDigitChars_lt (hlen.trans hlen'.symm) hdigits hdigits' hless

end Instant

end DomainModel
