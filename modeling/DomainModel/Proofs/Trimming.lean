import DomainModel.Text.Blank
import Mathlib.Data.List.TakeWhile

/-!
# Trimming

A text is its trimming with white space around it (`exists_padding`), and its trimming has none at
the ends (`trimmed_trim`).  So white space that is put around a text does not change its trimming
(`trim_padded`).
-/

namespace DomainModel.Text

/-- A text of nothing but white space. -/
def Blank (cs : List Char) : Prop := ∀ c ∈ cs, isBlank c = true

/-- A text without white space at its ends. -/
structure Trimmed (cs : List Char) : Prop where
  head : ∀ c, cs.head? = some c → isBlank c = false
  last : ∀ c, cs.getLast? = some c → isBlank c = false

variable {cs ws ws' : List Char}

theorem blank_nil : Blank [] := by simp [Blank]

theorem Blank.not_mem (h : Blank ws) {c : Char} (hc : isBlank c = false) : c ∉ ws := by
  intro hmem
  cases hc.symm.trans (h c hmem)

theorem Blank.append (h : Blank ws) (h' : Blank ws') : Blank (ws ++ ws') := by
  intro c hc
  exact (List.mem_append.1 hc).elim (h c) (h' c)

theorem trimmed_nil : Trimmed [] where
  head := by simp
  last := by simp

theorem trimmed_replicate {c : Char} (h : isBlank c = false) (n : Nat) :
    Trimmed (List.replicate n c) where
  head c' hc' := by rwa [List.eq_of_mem_replicate (List.mem_of_head? hc')]
  last c' hc' := by rwa [List.eq_of_mem_replicate (List.mem_of_getLast? hc')]

theorem getLast?_append_of_ne_nil (cs : List Char) {es : List Char} (h : es ≠ []) :
    (cs ++ es).getLast? = es.getLast? := by
  rw [List.getLast?_append, List.getLast?_eq_some_getLast h, Option.some_or]

/-- A text that begins and ends like trimmed ones is trimmed, whatever stands between. -/
theorem Trimmed.around {as bs : List Char} (ha : Trimmed as) (hb : Trimmed bs) (hne : as ≠ [])
    (hne' : bs ≠ []) (mid : List Char) : Trimmed (as ++ mid ++ bs) where
  head c hc := by
    obtain ⟨a, as, rfl⟩ := List.exists_cons_of_ne_nil hne
    exact ha.head c hc
  last c hc := by
    rw [getLast?_append_of_ne_nil _ hne'] at hc
    exact hb.last c hc

theorem Trimmed.trim_eq (h : Trimmed cs) : trim cs = cs := trim_of_not_blank h.head h.last

theorem trimStart_of_blank (h : Blank ws) : trimStart ws = [] :=
  List.dropWhile_eq_nil_iff.2 h

theorem trimStart_append (h : Blank ws) (cs : List Char) :
    trimStart (ws ++ cs) = trimStart cs :=
  List.dropWhile_append_of_pos h

theorem dropEndWhile_append {p : Char → Bool} {es : List Char} (h : ∀ c ∈ es, p c = true)
    (cs : List Char) : dropEndWhile p (cs ++ es) = dropEndWhile p cs := by
  rw [dropEndWhile, dropEndWhile, List.reverse_append,
    List.dropWhile_append_of_pos fun c hc => h c (List.mem_reverse.1 hc)]

theorem exists_dropEndWhile (p : Char → Bool) (cs : List Char) :
    ∃ es, (∀ c ∈ es, p c = true) ∧ cs = dropEndWhile p cs ++ es := by
  refine ⟨(cs.reverse.takeWhile p).reverse, fun c hc => ?_, ?_⟩
  · exact List.all_eq_true.1 List.all_takeWhile c (List.mem_reverse.1 hc)
  · rw [dropEndWhile, ← List.reverse_append, List.takeWhile_append_dropWhile, List.reverse_reverse]

theorem trim_padded (h : Blank ws) (h' : Blank ws') (cs : List Char) :
    trim (ws ++ cs ++ ws') = trim cs := by
  rw [trim, trim, List.append_assoc, trimStart_append h, trimStart, List.dropWhile_append]
  split
  · rename_i hempty
    rw [trimStart, List.isEmpty_iff.1 hempty, ← trimStart, trimStart_of_blank h']
  · rw [dropEndWhile_append h', trimStart]

theorem exists_padding (cs : List Char) :
    ∃ ws ws', Blank ws ∧ Blank ws' ∧ cs = ws ++ trim cs ++ ws' := by
  obtain ⟨es, hes, heq⟩ := exists_dropEndWhile isBlank (trimStart cs)
  refine ⟨cs.takeWhile isBlank, es, fun c hc => ?_, hes, ?_⟩
  · exact List.all_eq_true.1 List.all_takeWhile c hc
  · rw [trim, List.append_assoc, ← heq, trimStart, List.takeWhile_append_dropWhile]

theorem trim_eq_nil_iff : trim cs = [] ↔ Blank cs := by
  constructor
  · intro h
    obtain ⟨ws, ws', hws, hws', heq⟩ := exists_padding cs
    rw [heq, h, List.append_nil]
    exact hws.append hws'
  · intro h
    rw [trim, trimStart_of_blank h]
    rfl

theorem trimmed_trim (cs : List Char) : Trimmed (trim cs) where
  head c hc := by
    obtain ⟨es, -, heq⟩ := exists_dropEndWhile isBlank (trimStart cs)
    have hstart : (trimStart cs).head? = some c := by
      rw [heq, ← trim, List.head?_append, hc, Option.some_or]
    have hnot := List.head?_dropWhile_not isBlank cs
    rw [← trimStart, hstart] at hnot
    exact hnot
  last c hc := by
    have hnot := List.head?_dropWhile_not isBlank (trimStart cs).reverse
    rw [trim, dropEndWhile, List.getLast?_reverse] at hc
    rw [hc] at hnot
    exact hnot

theorem trimmed_iff : Trimmed cs ↔ trim cs = cs :=
  ⟨Trimmed.trim_eq, fun h => h ▸ trimmed_trim cs⟩

theorem mem_of_mem_trim {c : Char} (h : c ∈ trim cs) : c ∈ cs := by
  obtain ⟨ws, ws', -, -, heq⟩ := exists_padding cs
  rw [heq]
  exact List.mem_append_left _ (List.mem_append_right _ h)

theorem trim_concat {c : Char} (hc : isBlank c = false) (cs : List Char) :
    trim (cs ++ [c]) = trimStart cs ++ [c] := by
  have hstart : trimStart (cs ++ [c]) = trimStart cs ++ [c] := by
    rw [trimStart, trimStart, List.dropWhile_append]
    split
    · rename_i hempty
      rw [List.isEmpty_iff.1 hempty, List.dropWhile_cons_of_neg (by simp [hc]), List.nil_append]
    · rfl
  rw [trim, hstart, dropEndWhile_of_last]
  intro c' hc'
  rw [List.getLast?_concat, Option.some.injEq] at hc'
  exact hc' ▸ hc

theorem not_of_getLast?_dropEndWhile {p : Char → Bool} {c : Char}
    (h : (dropEndWhile p cs).getLast? = some c) : p c = false := by
  have hnot := List.head?_dropWhile_not p cs.reverse
  rw [dropEndWhile, List.getLast?_reverse] at h
  rw [h] at hnot
  exact hnot

instance (cs : List Char) : Decidable (Trimmed cs) := decidable_of_iff _ trimmed_iff.symm

instance (cs : List Char) : Decidable (Blank cs) :=
  decidable_of_iff (cs.all isBlank = true) List.all_eq_true

end DomainModel.Text
