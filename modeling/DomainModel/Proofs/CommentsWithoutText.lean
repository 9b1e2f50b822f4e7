import DomainModel.Proofs.CommentText
import DomainModel.Proofs.FixedKeys
import Mathlib.Data.List.Forall2

/-!
# Comments without a text

Whether a comment is blank is asked before its decoration is taken off.  So a comment of white space
has no documentation, but one of stars and white space has, and if no line of it has more than one
run of stars, the documentation is an empty text, which the records carry like any other
(`documentation_of_comments`).
-/

namespace DomainModel

namespace Text

/-! ## Lines without a text -/

theorem not_mem_of_mem_lines : ∀ {cs line : List Char}, line ∈ lines cs → '\n' ∉ line
  | [], line, h => by
    rw [lines, List.mem_singleton] at h
    rw [h]
    exact List.not_mem_nil
  | c :: cs, line, h => by
    by_cases hc : c = '\n'
    · rw [hc, lines_cons_feed, List.mem_cons] at h
      obtain rfl | h := h
      · exact List.not_mem_nil
      · exact not_mem_of_mem_lines h
    · obtain ⟨first, rest, heq⟩ := List.exists_cons_of_ne_nil (List.splitOn_ne_nil '\n' cs)
      rw [← lines_eq_splitOn] at heq
      have hall : ∀ line ∈ first :: rest, '\n' ∉ line := fun line hline =>
        not_mem_of_mem_lines (heq ▸ hline)
      rw [lines_cons hc, heq, List.modifyHead_cons, List.mem_cons] at h
      obtain rfl | h := h
      · simpa [Ne.symm hc] using hall first List.mem_cons_self
      · exact hall line (List.mem_cons_of_mem _ h)

/-- A line has no text if it is white space around no more than one run of stars. -/
theorem undecorate_eq_nil_iff {line : List Char} (h : '\n' ∉ line) :
    undecorate line = [] ↔ ∃ d : Decoration, line = d.around [] := by
  constructor
  · intro hnil
    obtain ⟨ws, ws', hws, hws', heq⟩ := exists_padding line
    have hstars : (trim line).takeWhile (· = '*')
        = List.replicate ((trim line).takeWhile (· = '*')).length '*' :=
      List.eq_replicate_of_mem fun c hc =>
        of_decide_eq_true (List.all_eq_true.1 List.all_takeWhile c hc)
    have hrest : Blank ((trim line).dropWhile (· = '*')) := List.dropWhile_eq_nil_iff.1 hnil
    have hsplit : (trim line).takeWhile (· = '*') ++ (trim line).dropWhile (· = '*') = trim line :=
      List.takeWhile_append_dropWhile
    -- what follows the stars is white space, which is taken for the gap
    generalize (trim line).takeWhile (· = '*') = stars at hstars hsplit
    generalize (trim line).dropWhile (· = '*') = rest at hrest hsplit
    rw [← hsplit, hstars] at heq
    rw [heq] at h
    simp only [List.mem_append, not_or] at h
    obtain ⟨⟨hfeed, -, hfeed'⟩, hfeed''⟩ := h
    refine ⟨⟨⟨ws, hws, hfeed⟩, stars.length, ⟨rest, hrest, hfeed'⟩, ⟨ws', hws', hfeed''⟩⟩, ?_⟩
    simp only [heq, Decoration.around, Decoration.before, List.append_assoc, List.nil_append]
  · rintro ⟨d, rfl⟩
    exact undecorate_around d plainLine_nil

theorem joinLines_eq_nil_iff {ls : List (List Char)} : joinLines ls = [] ↔ ∀ l ∈ ls, l = [] := by
  have hnil : ls.dropWhile (· = []) = [] ↔ ∀ l ∈ ls, l = [] := by
    simp only [List.dropWhile_eq_nil_iff, decide_eq_true_eq]
  rw [← hnil, joinLines_eq]
  have hfirst := List.head?_dropWhile_not (· = []) ls
  generalize ls.dropWhile (· = []) = kept at hfirst
  rcases kept with _ | ⟨l, rest⟩
  · simp
  · have hne : l ≠ [] := of_decide_eq_false hfirst
    rcases rest with _ | ⟨l', rest⟩
    · simpa using hne
    · simp [List.intercalate_cons_cons]

theorem plainText_eq_nil_iff {cs : List Char} :
    plainText cs = [] ↔ ∀ line ∈ lines cs, undecorate line = [] := by
  rw [plainText, joinLines_eq_nil_iff, List.forall_mem_map]

theorem exists_lines_concat {c : Char} (hc : c ≠ '\n') : ∀ cs, ∃ init last,
    lines cs = init ++ [last] ∧ lines (cs ++ [c]) = init ++ [last ++ [c]]
  | [] => ⟨[], [], rfl, by rw [List.nil_append, lines_cons hc]; rfl⟩
  | a :: as => by
    obtain ⟨init, last, heq, heq'⟩ := exists_lines_concat hc as
    by_cases ha : a = '\n'
    · refine ⟨[] :: init, last, ?_, ?_⟩
      · rw [ha, lines_cons_feed, heq, List.cons_append]
      · rw [ha, List.cons_append, lines_cons_feed, heq', List.cons_append]
    · rw [List.cons_append, lines_cons ha, lines_cons ha, heq, heq']
      rcases init with _ | ⟨first, init⟩
      · exact ⟨[], a :: last, rfl, rfl⟩
      · exact ⟨(a :: first) :: init, last, rfl, rfl⟩

/-- White space after a comment gives it no text. -/
theorem plainText_append_eq_nil_iff {ws : List Char} (h : Blank ws) (cs : List Char) :
    plainText (cs ++ ws) = [] ↔ plainText cs = [] := by
  induction ws generalizing cs with
  | nil => rw [List.append_nil]
  | cons c ws ih =>
    have hws : Blank ws := fun c' hc' => h c' (List.mem_cons_of_mem c hc')
    have hc : Blank [c] := by simpa [Blank] using h c List.mem_cons_self
    rw [List.append_cons, ih hws, plainText_eq_nil_iff, plainText_eq_nil_iff]
    -- a line feed adds a line without text, other white space only pads the last line
    by_cases hfeed : c = '\n'
    · have hnil : undecorate [] = [] := rfl
      rw [hfeed, lines_eq_splitOn, lines_eq_splitOn, List.splitOn_append_cons_self,
        List.splitOn_nil]
      simp only [List.forall_mem_append, List.forall_mem_singleton, hnil, and_true]
    · obtain ⟨init, last, heq, heq'⟩ := exists_lines_concat hfeed cs
      have hlast : undecorate (last ++ [c]) = undecorate last := by
        simpa using undecorate_padded blank_nil hc last
      simp only [heq, heq', List.forall_mem_append, List.forall_mem_singleton, hlast]

theorem plainText_trim_eq_nil_iff (cs : List Char) :
    plainText (trim cs) = [] ↔ plainText cs = [] := by
  obtain ⟨ws, ws', hws, hws', heq⟩ := exists_padding cs
  conv_rhs => rw [heq, plainText_append_eq_nil_iff hws', plainText_append hws]

/-! ## The documentation that a comment gives -/

/-- No line of the comment is more than white space around one run of stars. -/
def Textless (cs : List Char) : Prop := ∀ line ∈ lines cs, ∃ d : Decoration, line = d.around []

theorem plainText_eq_nil_iff_textless {cs : List Char} : plainText cs = [] ↔ Textless cs := by
  rw [plainText_eq_nil_iff]
  exact forall₂_congr fun line hline => undecorate_eq_nil_iff (not_mem_of_mem_lines hline)

/-- When a comment gives no documentation, and when it gives an empty one. -/
structure Documents (comment doc : Option String) : Prop where
  none_iff : doc = none ↔ ∀ s, comment = some s → Blank s.toList
  empty_iff : doc = some "" ↔ ∃ s, comment = some s ∧ ¬ Blank s.toList ∧ Textless s.toList
  /-- Of the comments of white space and stars those with a star give some. -/
  none_iff_no_star : ∀ s, comment = some s → (∀ c ∈ s.toList, isBlank c = true ∨ c = '*') →
    (doc = none ↔ '*' ∉ s.toList)

theorem docText_eq_none_iff (s : String) : docText (some s) = none ↔ Blank s.toList := by
  rw [docText_eq, ← trim_eq_nil_iff]
  split <;> simp_all

theorem docText_eq_empty_iff (s : String) :
    docText (some s) = some "" ↔ ¬ Blank s.toList ∧ Textless s.toList := by
  rw [docText_eq, ← trim_eq_nil_iff, ← plainText_eq_nil_iff_textless, ← plainText_trim_eq_nil_iff]
  split
  · simp_all
  · rename_i hne
    rw [Option.some.injEq, String.ofList_eq_empty_iff]
    simp [hne]

theorem documents_docText (comment : Option String) : Documents comment (docText comment) := by
  rcases comment with _ | s
  · exact ⟨by simp [docText], by simp [docText], by simp⟩
  · refine ⟨by simp [docText_eq_none_iff], by simp [docText_eq_empty_iff], ?_⟩
    rintro _ ⟨⟩ hstarred
    rw [docText_eq_none_iff]
    constructor
    · exact fun hblank => hblank.not_mem rfl
    · intro hno c hc
      exact (hstarred c hc).resolve_right fun hc' => hno (hc' ▸ hc)

end Text

/-! ## The documentation in records -/

/-- A document has the documentation of a comment at the key `javadoc`, and no such key if there is
none. -/
def Json.TellsOf (document : Json) (comment : Option String) : Prop :=
  document.member? "javadoc" = (Text.docText comment).map Json.string

theorem lookup_textMember (key key' : String) (text : Option String) :
    (textMember key' text).lookup key = if key = key' then text.map Json.string else none := by
  rcases text with _ | text
  · simp [textMember]
  · simp [textMember, Entries.lookup_cons_ite]

theorem FieldRecord.member?_toJson (f : FieldRecord) :
    f.toJson.member? "javadoc" = f.javadoc.map Json.string := by
  simp [toJson, Json.member?, List.lookup_append, Entries.lookup_cons_ite, lookup_textMember]

theorem RelationshipRecord.member?_toJson (r : RelationshipRecord) :
    r.toJson.member? "javadoc" = r.javadoc.map Json.string := by
  rcases howner : r.owner with _ | owner <;>
    simp [toJson, Json.member?, List.lookup_append, Entries.lookup_cons_ite, lookup_textMember,
      howner]

theorem EntityRecord.own?_javadoc (r : EntityRecord) :
    r.own? "javadoc" = r.javadoc.map Json.string := by
  rcases hdoc : r.javadoc with _ | doc <;>
    simp [own?, opening, closing, List.lookup_append, Entries.lookup_cons_ite, lookup_textMember,
      hdoc, Json.collapse]

/-- The ends of relationships for which an entity has records, in their order. -/
def endsAt (relationships : List Relationship) (name : String) : List RelationshipEnd :=
  (relationships.filter (·.source.entity = name)).map Relationship.source
    ++ (relationships.filter fun r =>
        r.target.entity = name && r.target.injectedField.isSome).map Relationship.target

theorem tellsOf_recordsAt (relationships : List Relationship) (name : String) :
    List.Forall₂ (fun e record => record.toJson.TellsOf e.comment) (endsAt relationships name)
      (recordsAt relationships name) := by
  refine List.rel_append ?_ ?_
  · rw [List.forall₂_map_left_iff, List.forall₂_map_right_iff]
    exact List.forall₂_same.2 fun r _ => r.sourceRecord.member?_toJson
  · rw [List.forall₂_map_left_iff, List.forall₂_map_right_iff]
    exact List.forall₂_same.2 fun r _ => r.targetRecord.member?_toJson

theorem Entity.tellsOf_fieldRecords (e : Entity) (g : Graph) :
    List.Forall₂ (fun f record => record.toJson.TellsOf f.comment) e.fields.values
      (e.fieldRecords g) := by
  rw [Dict.values, fieldRecords, List.forall₂_map_left_iff, List.forall₂_map_right_iff]
  exact List.forall₂_same.2 fun entry _ => (entry.2.record g entry.1).member?_toJson

/-- A comment gives no documentation exactly if it is missing or white space, and an empty one
exactly if there is more to it and none of that is text.  The records of a conversion tell just what
their comments give: an entity that of its last declaration, unless an option writes to the key, a
field its own, and a relationship that of the end which the record is for. -/
theorem documentation_of_comments (comment : Option String) (r : Request) (now : Instant) :
    Text.Documents comment (Text.docText comment) ∧ ∀ c, (r.run now).result = .ok c →
      ∃ g, r.graph = some g ∧ ∀ record ∈ c.records,
        ∃ i e, IsLastDeclaration g.entities record.name i e ∧
          record.document.collapse.member? "javadoc"
            = ((record.get? "javadoc").map Json.collapse).or
              ((Text.docText e.comment).map Json.string) ∧
          List.Forall₂ (fun f record => record.toJson.TellsOf f.comment) e.fields.values
            record.fields ∧
          List.Forall₂ (fun e record => record.toJson.TellsOf e.comment)
            (endsAt g.relationships record.name) record.relationships := by
  refine ⟨Text.documents_docText comment, fun c h => ?_⟩
  obtain ⟨g, application, log, hg, -, hc⟩ := Request.run_ok h
  refine ⟨g, hg, fun record hr => ?_⟩
  obtain ⟨i, e, date, hl, -, heq⟩ := (Graph.records_of_convert hc).2 record hr
  have hdoc : record.javadoc = Text.docText e.comment := by rw [heq]; rfl
  have hfields : record.fields = e.fieldRecords g := by rw [heq]; rfl
  have hrelationships : record.relationships = recordsAt g.relationships record.name := by
    rw [heq]
    rfl
  refine ⟨i, e, hl, ?_, hfields ▸ e.tellsOf_fieldRecords g, ?_⟩
  · rw [record.member?_of_opening (by decide), record.own?_javadoc, hdoc]
    rfl
  · rw [hrelationships]
    exact tellsOf_recordsAt g.relationships record.name

/-- An invoice, its total and its customer, each with a star for a comment. -/
def Graph.starred : Graph where
  entities :=
    [{ (Entity.named "Invoice").addField
        { name := some "total", type := some "String", comment := some "*" } with
        comment := some "*" },
     .named "Customer"]
  relationships :=
    [⟨{ entity := "Invoice", comment := some "*" }, { entity := "Customer" }, .manyToOne⟩]

def Request.starred : Request where
  graph := some .starred
  application := some "shop"
  database := some "sql"

theorem documentation_of_comments_starred :
    Text.Documents (some "*") (Text.docText (some "*")) ∧
      ∃ c, (Request.starred.run .epoch).result = .ok c ∧
        c.records.map (·.name) = ["Invoice", "Customer"] ∧
        ∀ record ∈ c.records, ∃ i e, IsLastDeclaration Graph.starred.entities record.name i e ∧
          record.document.collapse.member? "javadoc"
            = ((record.get? "javadoc").map Json.collapse).or
              ((Text.docText e.comment).map Json.string) ∧
          List.Forall₂ (fun f record => record.toJson.TellsOf f.comment) e.fields.values
            record.fields ∧
          List.Forall₂ (fun e record => record.toJson.TellsOf e.comment)
            (endsAt Graph.starred.relationships record.name) record.relationships := by
  obtain ⟨c, hc, hnames⟩ : ∃ c, (Request.starred.run .epoch).result = .ok c ∧
      c.records.map (·.name) = ["Invoice", "Customer"] := by
    apply exists_of_map_toOption
    decide +kernel
  obtain ⟨hdocuments, hrun⟩ := documentation_of_comments (some "*") .starred .epoch
  obtain ⟨g, hg, hrecords⟩ := hrun c hc
  cases hg
  exact ⟨hdocuments, c, hc, hnames, hrecords⟩

/-- A star is no text, and yet it is documentation: an empty one, or, behind another star, itself.
The records of a conversion have the empty one like any other. -/
theorem Request.run_starred :
    Text.docText (some "*") = some "" ∧ Text.docText (some "* *") = some "*" ∧
      ∃ c, (Request.starred.run .epoch).result = .ok c ∧
        (c.records.map fun record => (record.document.collapse.member? "javadoc",
          record.fields.map fun field => field.toJson.member? "javadoc",
          record.relationships.map fun relationship => relationship.toJson.member? "javadoc"))
        = [(some (.string ""), [some (.string "")], [some (.string "")]), (none, [], [])] := by
  refine ⟨by decide +kernel, by decide +kernel, ?_⟩
  apply exists_of_map_toOption
  decide +kernel

end DomainModel
