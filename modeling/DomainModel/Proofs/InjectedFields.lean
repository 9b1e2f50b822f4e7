import DomainModel.Proofs.ConversionRecords
import DomainModel.Proofs.Trimming
import Mathlib.Data.List.Forall2

/-!
# How injected fields are written

White space around the parts of an injected field and the number of closing parentheses are free to
choose, and a field without one to show may have parentheses or not.  Reading gets the same parts
from all that may be written, so the names that relationship records have from them do not depend on
the choice, and neither does anything else about a conversion (`read_of_written`).
-/

namespace DomainModel

namespace Text

/-! ## Writing -/

/-- The name of an injected field. -/
structure IsFieldName (cs : List Char) : Prop where
  ne_nil : cs ≠ []
  trimmed : Trimmed cs
  no_parenthesis : '(' ∉ cs

/-- A field to show, which may have parentheses inside. -/
structure IsDisplay (cs : List Char) : Prop where
  ne_nil : cs ≠ []
  trimmed : Trimmed cs
  last : cs.getLast? ≠ some ')'

/-- A name and something in parentheses, with `n + 1` parentheses to close it. -/
def parenthesized (name gap inner : List Char) (n : Nat) : List Char :=
  name ++ (gap ++ ['('] ++ inner) ++ List.replicate (n + 1) ')'

/-- An injected field may be written as the text. -/
inductive InjectedField.Written : InjectedField → String → Prop
  | bare {name ws₁ ws₂ : List Char} (hname : IsFieldName name) (h₁ : Blank ws₁) (h₂ : Blank ws₂) :
      Written ⟨some (String.ofList name), none⟩ (String.ofList (ws₁ ++ name ++ ws₂))
  | empty {name ws₁ ws₂ ws₃ ws₅ : List Char} (hname : IsFieldName name) (h₁ : Blank ws₁)
      (h₂ : Blank ws₂) (h₃ : Blank ws₃) (h₅ : Blank ws₅) (n : Nat) :
      Written ⟨some (String.ofList name), none⟩
        (String.ofList (ws₁ ++ parenthesized name ws₂ ws₃ n ++ ws₅))
  | display {name display ws₁ ws₂ ws₃ ws₄ ws₅ : List Char} (hname : IsFieldName name)
      (hdisplay : IsDisplay display) (h₁ : Blank ws₁) (h₂ : Blank ws₂) (h₃ : Blank ws₃)
      (h₄ : Blank ws₄) (h₅ : Blank ws₅) (n : Nat) :
      Written ⟨some (String.ofList name), some (String.ofList display)⟩
        (String.ofList (ws₁ ++ parenthesized name ws₂ (ws₃ ++ display ++ ws₄) n ++ ws₅))

/-! ## Reading what is written -/

theorem trimmed_parenthesized {name : List Char} (h : IsFieldName name) (gap inner : List Char)
    (n : Nat) : Trimmed (parenthesized name gap inner n) :=
  h.trimmed.around (trimmed_replicate rfl (n + 1)) h.ne_nil (by simp) _

namespace InjectedField

variable {name ws₁ ws₂ ws₅ : List Char}

theorem read_bare (h : IsFieldName name) (h₁ : Blank ws₁) (h₂ : Blank ws₂) :
    read (some (String.ofList (ws₁ ++ name ++ ws₂))) = ⟨some (String.ofList name), none⟩ := by
  have hdrop : name.dropWhile (· ≠ '(') = [] := by
    refine List.dropWhile_eq_nil_iff.2 fun c hc => decide_eq_true ?_
    rintro rfl
    exact h.no_parenthesis hc
  simp only [read, Option.getD_some, String.toList_ofList, trim_padded h₁ h₂, h.trimmed.trim_eq,
    if_neg h.ne_nil, hdrop]

/-- Of what stands in parentheses no more is lost than white space around it and parentheses at its
end. -/
theorem read_parenthesized (h : IsFieldName name) (h₁ : Blank ws₁) (h₂ : Blank ws₂) (h₅ : Blank ws₅)
    (inner : List Char) (n : Nat) :
    read (some (String.ofList (ws₁ ++ parenthesized name ws₂ inner n ++ ws₅)))
      = ⟨some (String.ofList name), nonempty? (trim (dropEndWhile (· = ')') inner))⟩ := by
  have hbefore : ∀ c ∈ name ++ ws₂, decide (c ≠ '(') = true := by
    intro c hc
    refine decide_eq_true ?_
    rintro rfl
    exact (List.mem_append.1 hc).elim h.no_parenthesis (h₂.not_mem rfl)
  -- the first parenthesis is the one after the name, whatever stands in the parentheses
  have hsplit : parenthesized name ws₂ inner n
      = (name ++ ws₂) ++ '(' :: (inner ++ List.replicate (n + 1) ')') := by
    simp [parenthesized]
  have hne : parenthesized name ws₂ inner n ≠ [] := by simp [parenthesized]
  have hname : trim (name ++ ws₂) = name := by
    simpa [h.trimmed.trim_eq] using trim_padded blank_nil h₂ name
  have htake : (parenthesized name ws₂ inner n).takeWhile (· ≠ '(') = name ++ ws₂ := by
    rw [hsplit, List.takeWhile_append_of_pos hbefore, List.takeWhile_cons_of_neg (by simp),
      List.append_nil]
  have hdrop : (parenthesized name ws₂ inner n).dropWhile (· ≠ '(')
      = '(' :: (inner ++ List.replicate (n + 1) ')') := by
    rw [hsplit, List.dropWhile_append_of_pos hbefore, List.dropWhile_cons_of_neg (by simp)]
  have hclosing : ∀ c ∈ List.replicate (n + 1) ')', decide (c = ')') = true := fun _ hc =>
    decide_eq_true (List.eq_of_mem_replicate hc)
  simp only [read, Option.getD_some, String.toList_ofList, trim_padded h₁ h₅,
    (trimmed_parenthesized h ws₂ inner n).trim_eq, if_neg hne, htake, hdrop, hname,
    dropEndWhile_append hclosing]

theorem dropEndWhile_closing {cs : List Char} (h : cs.getLast? ≠ some ')') :
    dropEndWhile (· = ')') cs = cs :=
  dropEndWhile_of_last fun _ hc => decide_eq_false fun hc' => h (hc' ▸ hc)

theorem Written.read_eq {f : InjectedField} {s : String} (h : f.Written s) : read (some s) = f := by
  cases h with
  | bare hname h₁ h₂ => exact read_bare hname h₁ h₂
  | @empty name ws₁ ws₂ ws₃ ws₅ hname h₁ h₂ h₃ h₅ n =>
    have hlast : ws₃.getLast? ≠ some ')' := fun hlast =>
      h₃.not_mem rfl (List.mem_of_getLast? hlast)
    rw [read_parenthesized hname h₁ h₂ h₅, dropEndWhile_closing hlast, trim_eq_nil_iff.2 h₃]
    rfl
  | @display name display ws₁ ws₂ ws₃ ws₄ ws₅ hname hdisplay h₁ h₂ h₃ h₄ h₅ n =>
    have hlast : (ws₃ ++ display ++ ws₄).getLast? ≠ some ')' := by
      rcases List.eq_nil_or_concat ws₄ with rfl | ⟨ws, c, rfl⟩
      · rw [List.append_nil, getLast?_append_of_ne_nil _ hdisplay.ne_nil]
        exact hdisplay.last
      · rw [getLast?_append_of_ne_nil _ (by simp)]
        exact fun hlast => h₄.not_mem rfl (List.mem_of_getLast? hlast)
    rw [read_parenthesized hname h₁ h₂ h₅, dropEndWhile_closing hlast, trim_padded h₃ h₄,
      hdisplay.trimmed.trim_eq, nonempty?, if_neg hdisplay.ne_nil]

end InjectedField

end Text

/-! ## Records -/

/-- The ends differ in no more than how their injected fields are written. -/
structure RelationshipEnd.Respells (e e' : RelationshipEnd) : Prop where
  same : e' = { e with injectedField := e'.injectedField }
  written : e'.injectedField = e.injectedField ∨ ∃ (f : Text.InjectedField) (s s' : String),
    e.injectedField = some s ∧ e'.injectedField = some s' ∧ f.Written s ∧ f.Written s'

/-- The relationships differ in no more than how their injected fields are written. -/
structure Relationship.Respells (r r' : Relationship) : Prop where
  source : r.source.Respells r'.source
  target : r.target.Respells r'.target
  type : r'.type = r.type

namespace RelationshipEnd.Respells

variable {e e' near near' far far' : RelationshipEnd}

theorem entity (h : e.Respells e') : e'.entity = e.entity := by rw [h.same]

theorem isSome (h : e.Respells e') : e'.injectedField.isSome = e.injectedField.isSome := by
  obtain heq | ⟨f, s, s', hs, hs', -, -⟩ := h.written
  · rw [heq]
  · rw [hs, hs', Option.isSome_some, Option.isSome_some]

theorem read (h : e.Respells e') : Text.InjectedField.read e'.injectedField
    = Text.InjectedField.read e.injectedField := by
  obtain heq | ⟨f, s, s', hs, hs', hf, hf'⟩ := h.written
  · rw [heq]
  · rw [hs, hs', hf.read_eq, hf'.read_eq]

theorem record (h : near.Respells near') (h' : far.Respells far') (type : RelationshipType)
    (owner : Bool) : near'.record far' type owner = near.record far type owner := by
  have hcomment : near'.comment = near.comment := by rw [h.same]
  have hrequired : near'.required = near.required := by rw [h.same]
  simp only [RelationshipEnd.record, h.read, h'.read, h.entity, h'.entity, hcomment, hrequired]

end RelationshipEnd.Respells

namespace Relationship.Respells

variable {r r' : Relationship} {rs rs' : List Relationship}

theorem sourceRecord (h : r.Respells r') : r'.sourceRecord = r.sourceRecord := by
  rw [Relationship.sourceRecord_eq, Relationship.sourceRecord_eq, h.type,
    h.source.record h.target]

theorem targetRecord (h : r.Respells r') : r'.targetRecord = r.targetRecord := by
  rw [Relationship.targetRecord_eq, Relationship.targetRecord_eq, h.type,
    h.target.record h.source]

theorem unknownEnd? (h : r.Respells r') (names : List String) :
    r'.unknownEnd? names = r.unknownEnd? names := by
  rw [Relationship.unknownEnd?, Relationship.unknownEnd?, h.source.entity, h.target.entity]

end Relationship.Respells

section Lists

variable {relationships relationships' : List Relationship}

theorem map_filter_respelled {α : Type} {p : Relationship → Bool} {f : Relationship → α}
    (hp : ∀ r r', r.Respells r' → p r' = p r) (hf : ∀ r r', r.Respells r' → f r' = f r)
    (h : List.Forall₂ Relationship.Respells relationships relationships') :
    (relationships'.filter p).map f = (relationships.filter p).map f := by
  induction h with
  | nil => rfl
  | cons hr _ ih =>
    rw [List.filter_cons, List.filter_cons, hp _ _ hr]
    split
    · rw [List.map_cons, List.map_cons, hf _ _ hr, ih]
    · exact ih

theorem recordsAt_respelled (h : List.Forall₂ Relationship.Respells relationships relationships')
    (name : String) : recordsAt relationships' name = recordsAt relationships name := by
  rw [recordsAt, recordsAt]
  congr 1
  · exact map_filter_respelled (fun r r' hr => by rw [hr.source.entity])
      (fun r r' hr => hr.sourceRecord) h
  · exact map_filter_respelled (fun r r' hr => by rw [hr.target.entity, hr.target.isSome])
      (fun r r' hr => hr.targetRecord) h

theorem findSome?_respelled (h : List.Forall₂ Relationship.Respells relationships relationships')
    (names : List String) : relationships'.findSome? (Relationship.unknownEnd? names)
      = relationships.findSome? (Relationship.unknownEnd? names) := by
  induction h with
  | nil => rfl
  | cons hr _ ih => rw [List.findSome?_cons, List.findSome?_cons, hr.unknownEnd?, ih]

theorem relationshipRecords_respelled
    (h : List.Forall₂ Relationship.Respells relationships relationships') (names : List String) :
    relationshipRecords relationships' names = relationshipRecords relationships names := by
  simp only [relationshipRecords, findSome?_respelled h, recordsAt_respelled h]

/-! ## Conversions -/

theorem Graph.convert_respelled
    (h : List.Forall₂ Relationship.Respells relationships relationships') (g : Graph)
    (application : String) (created : Instant) (log : List Notice) :
    { g with relationships := relationships' }.convert application created log
      = { g with relationships }.convert application created log := by
  have hcomplete : ∀ records, { g with relationships := relationships' }.complete records
      = { g with relationships }.complete records := by
    intro records
    rw [complete_eq, complete_eq]
    exact congrArg _ (relationshipRecords_respelled h g.entityNames)
  have hoptions : ∀ s, { g with relationships := relationships' }.applyOptions s
      = { g with relationships }.applyOptions s := fun _ => rfl
  simp only [convert, hoptions, hcomplete]

theorem Request.run_respelled
    (h : List.Forall₂ Relationship.Respells relationships relationships') (r : Request) (g : Graph)
    (now : Instant) :
    { r with graph := some { g with relationships := relationships' } }.run now
      = { r with graph := some { g with relationships } }.run now := by
  rcases r.application with _ | application
  · rfl
  rcases r.database with _ | database
  · rfl
  · simp only [run, Graph.convert_respelled h]

end Lists

theorem RelationshipEnd.record_of_written {near : RelationshipEnd} {s name : String}
    {display : Option String} (hs : near.injectedField = some s)
    (h : (⟨some name, display⟩ : Text.InjectedField).Written s) (far : RelationshipEnd)
    (type type' : RelationshipType) (owner owner' : Bool) :
    (near.record far type owner).name = Text.camelCase name ∧
      (near.record far type owner).otherField = display.map Text.lowerFirst ∧
      (far.record near type' owner').otherName = Text.lowerFirst name := by
  simp only [record, hs, h.read_eq, Option.getD_some, and_self]

/-- An injected field is read back from whatever it is written as.  The name and the field to show
that are read are those of the records at both ends, and relationships that differ in no more than
how their injected fields are written have the same records and come to the same in any
conversion. -/
theorem read_of_written :
    (∀ (f : Text.InjectedField) (s : String), f.Written s →
      Text.InjectedField.read (some s) = f) ∧
    (∀ (near far : RelationshipEnd) (type type' : RelationshipType) (owner owner' : Bool)
        (s name : String) (display : Option String), near.injectedField = some s →
      (⟨some name, display⟩ : Text.InjectedField).Written s →
        (near.record far type owner).name = Text.camelCase name ∧
        (near.record far type owner).otherField = display.map Text.lowerFirst ∧
        (far.record near type' owner').otherName = Text.lowerFirst name) ∧
    (∀ (r : Relationship) (s name : String) (display : Option String),
      (⟨some name, display⟩ : Text.InjectedField).Written s →
        (r.source.injectedField = some s → r.sourceRecord.name = Text.camelCase name ∧
          r.sourceRecord.otherField = display.map Text.lowerFirst ∧
          r.targetRecord.otherName = Text.lowerFirst name) ∧
        (r.target.injectedField = some s → r.targetRecord.name = Text.camelCase name ∧
          r.targetRecord.otherField = display.map Text.lowerFirst ∧
          r.sourceRecord.otherName = Text.lowerFirst name)) ∧
    ∀ relationships relationships' : List Relationship,
      List.Forall₂ Relationship.Respells relationships relationships' →
        (∀ names, relationshipRecords relationships' names
          = relationshipRecords relationships names) ∧
        ∀ (r : Request) (g : Graph) (now : Instant),
          { r with graph := some { g with relationships := relationships' } }.run now
            = { r with graph := some { g with relationships } }.run now := by
  refine ⟨fun f s h => h.read_eq, ?_, ?_, fun relationships relationships' h =>
    ⟨relationshipRecords_respelled h, Request.run_respelled h⟩⟩
  · intro near far type type' owner owner' s name display hs h
    exact RelationshipEnd.record_of_written hs h far type type' owner owner'
  · intro r s name display h
    rw [Relationship.sourceRecord_eq, Relationship.targetRecord_eq]
    exact ⟨fun hs => RelationshipEnd.record_of_written hs h _ _ _ _ _,
      fun hs => RelationshipEnd.record_of_written hs h _ _ _ _ _⟩

/-- Invoices with the customer who pays them, the field for whom is written as the text. -/
def payers (written : String) : List Relationship :=
  [⟨{ entity := "Invoice", injectedField := some written }, { entity := "Customer" }, .manyToOne⟩]

theorem respells_payers {f : Text.InjectedField} {s s' : String} (h : f.Written s)
    (h' : f.Written s') : List.Forall₂ Relationship.Respells (payers s) (payers s') := by
  have hsource : RelationshipEnd.Respells { entity := "Invoice", injectedField := some s }
      { entity := "Invoice", injectedField := some s' } := ⟨rfl, .inr ⟨f, s, s', rfl, rfl, h, h'⟩⟩
  exact .cons ⟨hsource, ⟨rfl, .inl rfl⟩, rfl⟩ .nil

theorem read_of_written_payers :
    Text.InjectedField.read (some "\tpayer\n( name (in full) here ))) ")
        = ⟨some "payer", some "name (in full) here"⟩ ∧
      relationshipRecords (payers "\tpayer\n( name (in full) here ))) ") ["Invoice", "Customer"]
        = relationshipRecords (payers "payer(name (in full) here)") ["Invoice", "Customer"] ∧
      ∀ r ∈ payers "\tpayer\n( name (in full) here ))) ",
        r.sourceRecord.name = Text.camelCase "payer" ∧
        r.sourceRecord.otherField = some (Text.lowerFirst "name (in full) here") ∧
        r.targetRecord.otherName = Text.lowerFirst "payer" := by
  have hname : Text.IsFieldName "payer".toList := ⟨by decide, by decide, by decide⟩
  have hdisplay : Text.IsDisplay "name (in full) here".toList :=
    ⟨by decide, by decide +kernel, by decide +kernel⟩
  have htab : Text.Blank ['\t'] := by decide
  have hfeed : Text.Blank ['\n'] := by decide
  have hspace : Text.Blank [' '] := by decide
  have hwritten : (⟨some "payer", some "name (in full) here"⟩ : Text.InjectedField).Written
      "\tpayer\n( name (in full) here ))) " :=
    .display hname hdisplay htab hfeed hspace hspace hspace 2
  have hwritten' : (⟨some "payer", some "name (in full) here"⟩ : Text.InjectedField).Written
      "payer(name (in full) here)" :=
    .display hname hdisplay Text.blank_nil Text.blank_nil Text.blank_nil Text.blank_nil
      Text.blank_nil 0
  obtain ⟨hread, -, hrecord, hlists⟩ := read_of_written
  refine ⟨hread _ _ hwritten, (hlists _ _ (respells_payers hwritten' hwritten)).1 _, ?_⟩
  intro r hr
  rw [payers, List.mem_singleton] at hr
  subst hr
  exact (hrecord _ _ _ _ hwritten).1 rfl

end DomainModel
