import DomainModel.Proofs.InjectedFields
import DomainModel.Proofs.NamedEnds

/-!
# The parts of an injected field

The name that is read of an injected field and its display text are trimmed, there is no parenthesis
in the name, and the display text is not empty.  But a field that begins with a parenthesis has an
empty name, which the records take like any other in place of that of an entity, and a field with
white space among the parentheses that close it has a display text that ends with one.  Apart from
these the parts are what injected fields are written from (`parts_of_injectedField`).
-/

namespace DomainModel

namespace Text

variable {cs before rest : List Char}

/-! ## What is read -/

theorem ne_parenthesis (h : '(' ∉ cs) : ∀ c ∈ cs, decide (c ≠ '(') = true := by
  intro c hc
  refine decide_eq_true ?_
  rintro rfl
  exact h hc

/-- A text is cut at its first parenthesis. -/
theorem cut_at_parenthesis (h : '(' ∉ before) (rest : List Char) :
    (before ++ '(' :: rest).takeWhile (· ≠ '(') = before ∧
      (before ++ '(' :: rest).dropWhile (· ≠ '(') = '(' :: rest := by
  rw [List.takeWhile_append_of_pos (ne_parenthesis h),
    List.dropWhile_append_of_pos (ne_parenthesis h), List.takeWhile_cons_of_neg (by simp),
    List.dropWhile_cons_of_neg (by simp), List.append_nil]
  exact ⟨rfl, rfl⟩

namespace InjectedField

/-- The text of an injected field, without the white space around it. -/
def body (written : Option String) : List Char := trim (written.getD "").toList

theorem trimmed_body (written : Option String) : Trimmed (body written) := trimmed_trim _

variable {written : Option String}

theorem read_of_not_mem (h : '(' ∉ body written) :
    read written = ⟨nonempty? (body written), none⟩ := by
  have hdrop : (body written).dropWhile (· ≠ '(') = [] :=
    List.dropWhile_eq_nil_iff.2 (ne_parenthesis h)
  rw [body] at hdrop ⊢
  by_cases hnil : trim (written.getD "").toList = []
  · simp only [read, nonempty?, if_pos hnil]
  · simp only [read, nonempty?, if_neg hnil, hdrop]

theorem read_of_cut (hbody : body written = before ++ '(' :: rest) (h : '(' ∉ before) :
    read written
      = ⟨some (String.ofList (trim before)), nonempty? (trim (dropEndWhile (· = ')') rest))⟩ := by
  obtain ⟨htake, hdrop⟩ := cut_at_parenthesis h rest
  have hne : before ++ '(' :: rest ≠ [] := by simp
  rw [body] at hbody
  simp only [read, hbody, htake, hdrop, if_neg hne]

/-! ## Display texts that close again -/

/-- A text closes once more at its end, after a parenthesis that closes and some white space. -/
def ClosesAgain (cs : List Char) : Prop :=
  ∃ (before ws : List Char) (n : Nat), '(' ∈ before ∧ Blank ws ∧ ws ≠ [] ∧
    cs = before ++ ')' :: ws ++ List.replicate (n + 1) ')'

theorem closesAgain_cut_iff (h : '(' ∉ before) : ClosesAgain (before ++ '(' :: rest) ↔
    ∃ (inner ws : List Char) (n : Nat), Blank ws ∧ ws ≠ [] ∧
      rest = inner ++ ')' :: ws ++ List.replicate (n + 1) ')' := by
  constructor
  · rintro ⟨before', ws, n, hmem, hws, hne, heq⟩
    obtain ⟨as, bs, rfl, has⟩ := List.eq_append_cons_of_mem hmem
    refine ⟨bs, ws, n, hws, hne, ?_⟩
    -- the first parenthesis is the same in both ways to look at the text
    have hdrop := (cut_at_parenthesis h rest).2
    rw [heq] at hdrop
    simp only [List.append_assoc, List.cons_append] at hdrop
    rw [(cut_at_parenthesis has _).2, List.cons.injEq] at hdrop
    simpa using hdrop.2.symm
  · rintro ⟨inner, ws, n, hws, hne, rfl⟩
    exact ⟨before ++ '(' :: inner, ws, n, by simp, hws, hne, by simp⟩

/-- What follows the first parenthesis is the text to show with white space around it, and behind
that the parentheses that close it. -/
theorem exists_closing (rest : List Char) : ∃ (ws ws' : List Char) (n : Nat), Blank ws ∧ Blank ws' ∧
    dropEndWhile (· = ')') rest = ws ++ trim (dropEndWhile (· = ')') rest) ++ ws' ∧
    rest = dropEndWhile (· = ')') rest ++ List.replicate n ')' := by
  obtain ⟨closing, hclosing, hrest⟩ := exists_dropEndWhile (fun c => decide (c = ')')) rest
  obtain ⟨ws, ws', hws, hws', hpad⟩ := exists_padding (dropEndWhile (· = ')') rest)
  have hreplicate : closing = List.replicate closing.length ')' :=
    List.eq_replicate_of_mem fun c hc => of_decide_eq_true (hclosing c hc)
  exact ⟨ws, ws', closing.length, hws, hws', hpad, hreplicate ▸ hrest⟩

theorem getLast?_display_iff (h : ∀ c, rest.getLast? = some c → isBlank c = false) :
    (trim (dropEndWhile (· = ')') rest)).getLast? = some ')' ↔
      ∃ (inner ws : List Char) (n : Nat), Blank ws ∧ ws ≠ [] ∧
        rest = inner ++ ')' :: ws ++ List.replicate (n + 1) ')' := by
  constructor
  · intro hlast
    obtain ⟨ws, ws', n, -, hws', hpad, hrest⟩ := exists_closing rest
    obtain ⟨inner, hinner⟩ := List.getLast?_eq_some_iff.1 hlast
    rw [hinner, ← List.append_assoc] at hpad
    rcases List.eq_nil_or_concat ws' with rfl | ⟨init, c, rfl⟩
    · -- without white space the last parenthesis would have been dropped with the others
      have hclosing : (dropEndWhile (· = ')') rest).getLast? = some ')' := by
        rw [hpad, List.append_nil, List.getLast?_concat]
      simpa using not_of_getLast?_dropEndWhile hclosing
    · rw [List.concat_eq_append] at hpad hws'
      rcases n with _ | n
      · -- and without a parenthesis behind it the white space would be at the end of the field
        have hc : rest.getLast? = some c := by
          rw [hrest, hpad, List.replicate_zero, List.append_nil, ← List.append_assoc,
            List.getLast?_concat]
        cases (h c hc).symm.trans (hws' c (by simp))
      · refine ⟨ws ++ inner, init ++ [c], n, hws', by simp, ?_⟩
        rw [hrest, hpad, ← List.append_cons]
  · rintro ⟨inner, ws, n, hws, hne, rfl⟩
    have hclosing : ∀ c ∈ List.replicate (n + 1) ')', decide (c = ')') = true := fun _ hc =>
      decide_eq_true (List.eq_of_mem_replicate hc)
    have hlast : (inner ++ ')' :: ws).getLast? ≠ some ')' := by
      rw [List.append_cons, getLast?_append_of_ne_nil _ hne]
      exact fun hlast => hws.not_mem rfl (List.mem_of_getLast? hlast)
    have hpad : trim (inner ++ ')' :: ws) = trimStart inner ++ [')'] := by
      rw [List.append_cons, ← List.nil_append (inner ++ [')']), trim_padded blank_nil hws,
        trim_concat rfl]
    rw [dropEndWhile_append hclosing, dropEndWhile_closing hlast, hpad, List.getLast?_concat]

/-! ## What may be expected of the parts -/

/-- The parts are a name and a text to show. -/
structure Usable (f : InjectedField) : Prop where
  name : ∀ name, f.name = some name → IsFieldName name.toList
  display : ∀ display, f.display = some display → IsDisplay display.toList

/-- What the parts that are read of a text have of a name and a text to show, and when they lack the
rest. -/
structure Parts (cs : List Char) (f : InjectedField) : Prop where
  name_eq_none_iff : f.name = none ↔ cs = []
  name_eq_empty_iff : f.name = some "" ↔ cs.head? = some '('
  of_name : ∀ name, f.name = some name → Trimmed name.toList ∧ '(' ∉ name.toList
  of_display : ∀ display, f.display = some display → display ≠ "" ∧ Trimmed display.toList
  closes_iff : (∃ display, f.display = some display ∧ display.toList.getLast? = some ')') ↔
    ClosesAgain cs

theorem Parts.usable_iff {cs : List Char} {f : InjectedField} (h : Parts cs f) :
    Usable f ↔ cs.head? ≠ some '(' ∧ ¬ ClosesAgain cs := by
  rw [← h.closes_iff, ne_eq, ← h.name_eq_empty_iff]
  constructor
  · intro husable
    refine ⟨fun hname => (husable.name _ hname).ne_nil rfl, ?_⟩
    rintro ⟨display, hdisplay, hlast⟩
    exact (husable.display display hdisplay).last hlast
  · rintro ⟨hname, hlast⟩
    constructor
    · intro name hsome
      obtain ⟨htrimmed, hno⟩ := h.of_name name hsome
      refine ⟨fun hnil => hname ?_, htrimmed, hno⟩
      rw [hsome, String.toList_eq_nil_iff.1 hnil]
    · intro display hsome
      obtain ⟨hne, htrimmed⟩ := h.of_display display hsome
      exact ⟨mt String.toList_eq_nil_iff.1 hne, htrimmed, fun h => hlast ⟨display, hsome, h⟩⟩

theorem nonempty?_eq_none_iff {cs : List Char} : nonempty? cs = none ↔ cs = [] := by
  simp [nonempty?]

theorem nonempty?_eq_some_iff {cs : List Char} {s : String} :
    nonempty? cs = some s ↔ s.toList = cs ∧ cs ≠ [] := by
  rw [nonempty?]
  split
  · rename_i hnil
    simp [hnil]
  · rename_i hne
    constructor
    · rintro ⟨⟩
      exact ⟨String.toList_ofList, hne⟩
    · rintro ⟨rfl, -⟩
      rw [String.ofList_toList]

theorem exists_nonempty?_iff {cs : List Char} {c : Char} :
    (∃ s, nonempty? cs = some s ∧ s.toList.getLast? = some c) ↔ cs.getLast? = some c := by
  constructor
  · rintro ⟨s, hs, hlast⟩
    rwa [← (nonempty?_eq_some_iff.1 hs).1]
  · intro hlast
    have hne : cs ≠ [] := by
      rintro rfl
      cases hlast
    refine ⟨String.ofList cs, nonempty?_eq_some_iff.2 ⟨String.toList_ofList, hne⟩, ?_⟩
    rwa [String.toList_ofList]

/-- A text that is cut at a parenthesis has nothing before it exactly if it begins with it. -/
theorem trim_eq_nil_iff_of_cut (hbody : Trimmed (before ++ '(' :: rest)) (h : '(' ∉ before) :
    trim before = [] ↔ (before ++ '(' :: rest).head? = some '(' := by
  rcases before with _ | ⟨c, before⟩
  · simp [trim_eq_nil_iff, blank_nil]
  · have hblank : isBlank c = false := hbody.head c rfl
    have hne : c ≠ '(' := fun hc => h (hc ▸ List.mem_cons_self)
    rw [trim_eq_nil_iff]
    refine ⟨fun hb => absurd List.mem_cons_self (hb.not_mem hblank), fun hhead => ?_⟩
    exact absurd (Option.some.inj hhead) hne

theorem parts_of_not_mem (h : '(' ∉ body written) : Parts (body written) (read written) := by
  rw [read_of_not_mem h]
  refine ⟨nonempty?_eq_none_iff, ?_, fun name hname => ?_, nofun, ⟨nofun, ?_⟩⟩
  · rw [nonempty?_eq_some_iff]
    refine ⟨fun ⟨heq, hne⟩ => absurd heq.symm hne, fun hhead => ?_⟩
    exact absurd (List.mem_of_head? hhead) h
  · rw [(nonempty?_eq_some_iff.1 hname).1]
    exact ⟨trimmed_body written, h⟩
  · rintro ⟨before, ws, n, hmem, -, -, heq⟩
    exact absurd (heq ▸ by simp [hmem]) h

theorem parts_of_cut (hbody : body written = before ++ '(' :: rest) (h : '(' ∉ before) :
    Parts (body written) (read written) := by
  have htrimmed : Trimmed (before ++ '(' :: rest) := hbody ▸ trimmed_body written
  have hlast : ∀ c, rest.getLast? = some c → isBlank c = false := by
    intro c hc
    refine htrimmed.last c ?_
    rw [List.getLast?_append, List.getLast?_cons, hc]
    rfl
  rw [read_of_cut hbody h, hbody]
  refine ⟨⟨nofun, by simp⟩, ?_, ?_, fun display hdisplay => ?_, ?_⟩
  · rw [← trim_eq_nil_iff_of_cut htrimmed h, Option.some.injEq, String.ofList_eq_empty_iff]
  · rintro name ⟨⟩
    rw [String.toList_ofList]
    exact ⟨trimmed_trim before, fun hmem => h (mem_of_mem_trim hmem)⟩
  · obtain ⟨heq, hne⟩ := nonempty?_eq_some_iff.1 hdisplay
    exact ⟨mt String.toList_eq_nil_iff.2 (heq ▸ hne), heq ▸ trimmed_trim _⟩
  · rw [closesAgain_cut_iff h, ← getLast?_display_iff hlast, exists_nonempty?_iff]

theorem parts_read (written : Option String) : Parts (body written) (read written) := by
  by_cases hmem : '(' ∈ body written
  · obtain ⟨before, rest, hbody, h⟩ := List.eq_append_cons_of_mem hmem
    exact parts_of_cut hbody h
  · exact parts_of_not_mem hmem

end InjectedField

end Text

/-! ## Names in records -/

open Text.InjectedField (Parts Usable ClosesAgain body read)

/-- An end without an injected field is known by the far entity, and one with a field by what the
field has before its first parenthesis, be that empty. -/
theorem RelationshipEnd.label_eq (near far : RelationshipEnd) :
    near.label far = if body near.injectedField = [] then far.entity
      else String.ofList (Text.trim ((body near.injectedField).takeWhile (· ≠ '('))) := by
  by_cases hmem : '(' ∈ body near.injectedField
  · obtain ⟨before, rest, hbody, h⟩ := List.eq_append_cons_of_mem hmem
    have hne : before ++ '(' :: rest ≠ [] := by simp
    rw [label, Text.InjectedField.read_of_cut hbody h, hbody, if_neg hne,
      (Text.cut_at_parenthesis h rest).1, Option.getD_some]
  · have htake : (body near.injectedField).takeWhile (· ≠ '(') = body near.injectedField :=
      List.takeWhile_eq_self_iff.2 (Text.ne_parenthesis hmem)
    rw [label, Text.InjectedField.read_of_not_mem hmem, htake,
      (Text.InjectedField.trimmed_body near.injectedField).trim_eq, Text.nonempty?]
    split <;> rfl

/-- The parts that are read of the field at an end are a name and a text to show unless the field
begins with a parenthesis or closes again at its end.  The records at both ends name an end without
a field after the far entity, and an end with a field that begins with a parenthesis after the empty
text. -/
theorem parts_of_injectedField (near far : RelationshipEnd) (type type' : RelationshipType)
    (owner owner' : Bool) :
    Parts (body near.injectedField) (read near.injectedField) ∧
      (Usable (read near.injectedField) ↔ (body near.injectedField).head? ≠ some '(' ∧
        ¬ ClosesAgain (body near.injectedField)) ∧
      (near.record far type owner).name = Text.camelCase (near.label far) ∧
      (far.record near type' owner').otherName = Text.lowerFirst (near.label far) ∧
      (∀ r : Relationship, NamedBy (r.source.label r.target) r.sourceRecord r.targetRecord ∧
        NamedBy (r.target.label r.source) r.targetRecord r.sourceRecord) ∧
      near.label far = if body near.injectedField = [] then far.entity
        else String.ofList (Text.trim ((body near.injectedField).takeWhile (· ≠ '('))) := by
  have hparts := Text.InjectedField.parts_read near.injectedField
  exact ⟨hparts, hparts.usable_iff, near.record_name far type owner,
    near.record_otherName far type' owner', Relationship.namedBy, near.label_eq far⟩

/-- The name of a field that begins with a parenthesis is empty, and the record of an invoice takes
it.  White space among the parentheses at the end keeps one of them in the text to show. -/
theorem relationshipRecords_nameless :
    ¬ Usable (read (some "(login)")) ∧ ¬ Usable (read (some "payer(login) )")) ∧
      ∃ d, relationshipRecords (payers "(login)") ["Invoice", "Customer"] = .ok d ∧
        (d.get? "Invoice").map (·.map (·.name)) = some [""] := by
  refine ⟨fun h => ?_, fun h => ?_, ?_⟩
  · exact (h.name "" (by decide +kernel)).ne_nil rfl
  · exact (h.display "login)" (by decide +kernel)).last (by decide +kernel)
  · apply exists_of_map_toOption
    decide +kernel

end DomainModel
