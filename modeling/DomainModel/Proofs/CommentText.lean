import DomainModel.Proofs.Trimming
import DomainModel.Text.Comment

/-!
# The text of a decorated comment

However the lines of a comment are decorated, its text is what was decorated: white space and stars
before each line, white space after it, lines of stars before the first one and white space around
it all make no difference (`docText_decorated`).
-/

namespace DomainModel.Text

/-! ## Lines -/

theorem lines_eq_splitOn (cs : List Char) : lines cs = cs.splitOn '\n' := by
  induction cs with
  | nil => rfl
  | cons c cs ih =>
    obtain ⟨line, rest, heq⟩ := List.exists_cons_of_ne_nil (List.splitOn_ne_nil '\n' cs)
    rw [lines, ih, List.splitOn_cons_eq_if_modifyHead, heq]
    simp only [beq_iff_eq, List.modifyHead_cons]

/-- The text of lines that are joined by line feeds. -/
def breakLines (ls : List (List Char)) : List Char := List.intercalate ['\n'] ls

theorem lines_breakLines {ls : List (List Char)} (h : ∀ l ∈ ls, '\n' ∉ l) (hne : ls ≠ []) :
    lines (breakLines ls) = ls := by
  rw [lines_eq_splitOn, breakLines, List.splitOn_intercalate '\n' h hne]

theorem lines_cons_feed (cs : List Char) : lines ('\n' :: cs) = [] :: lines cs := by
  rw [lines_eq_splitOn, lines_eq_splitOn, List.splitOn_cons_eq_if_modifyHead, if_pos (by rfl)]

theorem lines_cons {c : Char} (h : c ≠ '\n') (cs : List Char) :
    lines (c :: cs) = (lines cs).modifyHead (c :: ·) := by
  rw [lines_eq_splitOn, lines_eq_splitOn, List.splitOn_cons_eq_if_modifyHead,
    if_neg (by simpa using h)]

/-! ## Undecorated lines -/

theorem undecorate_padded {ws ws' : List Char} (h : Blank ws) (h' : Blank ws') (line : List Char) :
    undecorate (ws ++ line ++ ws') = undecorate line := by
  rw [undecorate, undecorate, trim_padded h h']

/-- A trimmed text without a star before it has no decoration. -/
theorem undecorate_of_trimmed {line : List Char} (h : Trimmed line)
    (hstar : line.head? ≠ some '*') : undecorate line = line := by
  have hstars : line.dropWhile (· = '*') = line := by
    refine dropWhile_of_head fun c hc => decide_eq_false ?_
    rintro rfl
    exact hstar hc
  rw [undecorate, h.trim_eq, hstars, trimStart, dropWhile_of_head h.head]

theorem dropWhile_replicate_append (n : Nat) (cs : List Char) :
    (List.replicate n '*' ++ cs).dropWhile (· = '*') = cs.dropWhile (· = '*') :=
  List.dropWhile_append_of_pos fun _ hc => decide_eq_true (List.eq_of_mem_replicate hc)

theorem undecorate_replicate (n : Nat) : undecorate (List.replicate n '*') = [] := by
  have hdrop := dropWhile_replicate_append n []
  rw [List.append_nil] at hdrop
  rw [undecorate, (trimmed_replicate (c := '*') rfl n).trim_eq, hdrop]
  rfl

/-- White space that does not end a line. -/
structure Padding where
  toList : List Char
  blank : Blank toList
  no_feed : '\n' ∉ toList

/-- A number of spaces. -/
def Padding.spaces (n : Nat) : Padding where
  toList := List.replicate n ' '
  blank := by
    intro c hc
    rw [List.eq_of_mem_replicate hc]
    rfl
  no_feed := by
    intro hmem
    cases List.eq_of_mem_replicate hmem

/-- What stands around a line of a comment. -/
structure Decoration where
  indent : Padding
  stars : Nat
  gap : Padding
  trail : Padding

/-- A line with its decoration, but for what follows it. -/
def Decoration.before (d : Decoration) (line : List Char) : List Char :=
  d.indent.toList ++ List.replicate d.stars '*' ++ d.gap.toList ++ line

/-- A line with its decoration. -/
def Decoration.around (d : Decoration) (line : List Char) : List Char :=
  d.before line ++ d.trail.toList

/-- A line of text, which cannot be taken for a decorated one. -/
structure PlainLine (line : List Char) : Prop where
  no_feed : '\n' ∉ line
  trimmed : Trimmed line
  no_star : line.head? ≠ some '*'

instance (line : List Char) : Decidable (PlainLine line) :=
  decidable_of_iff ('\n' ∉ line ∧ Trimmed line ∧ line.head? ≠ some '*')
    ⟨fun h => ⟨h.1, h.2.1, h.2.2⟩, fun h => ⟨h.1, h.2, h.3⟩⟩

theorem plainLine_nil : PlainLine [] where
  no_feed := by simp
  trimmed := trimmed_nil
  no_star := by simp

theorem undecorate_before (d : Decoration) {line : List Char} (h : PlainLine line) :
    undecorate (d.before line) = line := by
  obtain ⟨⟨indent, hindent, -⟩, stars, ⟨gap, hgap, -⟩, trail⟩ := d
  simp only [Decoration.before, List.append_assoc]
  by_cases hstars : stars = 0
  · have hpad := undecorate_padded (hindent.append hgap) blank_nil line
    rw [List.append_nil, List.append_assoc] at hpad
    rw [hstars, List.replicate_zero, List.nil_append, hpad,
      undecorate_of_trimmed h.trimmed h.no_star]
  by_cases hline : line = []
  · -- without a text the white space after the stars stands at the end of the line
    have hpad := undecorate_padded hindent hgap (List.replicate stars '*')
    rw [List.append_assoc] at hpad
    rw [hline, List.append_nil, hpad, undecorate_replicate]
  · have hpad := undecorate_padded hindent blank_nil (List.replicate stars '*' ++ gap ++ line)
    rw [List.append_nil, List.append_assoc] at hpad
    have htrimmed := (trimmed_replicate (c := '*') rfl stars).around h.trimmed
      (by simpa using hstars) hline gap
    rw [List.append_assoc] at htrimmed
    have hgapline : (gap ++ line).dropWhile (· = '*') = gap ++ line := by
      refine dropWhile_of_head fun c hc => decide_eq_false ?_
      rintro rfl
      rcases gap with _ | ⟨g, gap⟩
      · exact h.no_star hc
      · cases hc
        exact hgap.not_mem rfl List.mem_cons_self
    rw [hpad, undecorate, htrimmed.trim_eq, dropWhile_replicate_append, hgapline,
      trimStart_append hgap, trimStart, dropWhile_of_head h.trimmed.head]

theorem undecorate_around (d : Decoration) {line : List Char} (h : PlainLine line) :
    undecorate (d.around line) = line := by
  have hpad := undecorate_padded blank_nil d.trail.blank (d.before line)
  rw [List.nil_append] at hpad
  rw [Decoration.around, hpad, undecorate_before d h]

theorem no_feed_around (d : Decoration) {line : List Char} (h : PlainLine line) :
    '\n' ∉ d.around line := by
  have hstars : '\n' ∉ List.replicate d.stars '*' := fun hmem => by
    cases List.eq_of_mem_replicate hmem
  simp [Decoration.around, Decoration.before, d.indent.no_feed, d.gap.no_feed, d.trail.no_feed,
    h.no_feed]

/-! ## Joined lines -/

/-- Once there is text, the two characters divide every line from the next. -/
theorem foldl_joinLine {joined : List Char} (h : joined ≠ []) (ls : List (List Char)) :
    ls.foldl joinLine joined = List.intercalate ['\\', 'n'] (joined :: ls) := by
  induction ls generalizing joined with
  | nil => rw [List.foldl_nil, List.intercalate_singleton]
  | cons l ls ih =>
    have hne : joinLine joined l ≠ [] := by simp [joinLine, h]
    rw [List.foldl_cons, ih hne, joinLine, if_neg h, List.intercalate_cons_cons]
    cases ls with
    | nil => simp only [List.intercalate_singleton]
    | cons l' ls => simp only [List.intercalate_cons_cons, List.append_assoc]

/-- Lines are joined from the first one that has text: what comes before it leaves nothing behind,
and nothing is divided from nothing. -/
theorem joinLines_eq (ls : List (List Char)) :
    joinLines ls = List.intercalate ['\\', 'n'] (ls.dropWhile (· = [])) := by
  induction ls with
  | nil => rfl
  | cons l ls ih =>
    by_cases hl : l = []
    · subst hl
      rw [List.dropWhile_cons_of_pos (by simp), ← ih]
      rfl
    · have hfirst : joinLine [] l = l := by rw [joinLine, if_pos rfl, List.nil_append]
      rw [List.dropWhile_cons_of_neg (by simpa using hl), joinLines, List.foldl_cons, hfirst,
        foldl_joinLine hl]

theorem joinLines_singleton (l : List Char) : joinLines [l] = l := rfl

/-- The text of a comment: its lines without their decoration, from the first that is not empty. -/
def plainText (cs : List Char) : List Char := joinLines ((lines cs).map undecorate)

theorem eq_of_lines_eq_singleton {cs line : List Char} (h : lines cs = [line]) : line = cs := by
  have hjoined : List.intercalate ['\n'] (cs.splitOn '\n') = cs := List.intercalate_splitOn '\n'
  rwa [← lines_eq_splitOn, h, List.intercalate_singleton] at hjoined

theorem soleLine?_eq_some_iff {ls : List (List Char)} {line : List Char} :
    soleLine? ls = some line ↔ ls = [line] ∧ line.head? ≠ some '*' := by
  rcases ls with _ | ⟨first, _ | ⟨second, rest⟩⟩
  · simp [soleLine?]
  · rw [soleLine?, Option.ite_none_left_eq_some, Option.some.injEq, List.singleton_inj]
    constructor
    · rintro ⟨hstar, rfl⟩
      exact ⟨rfl, hstar⟩
    · rintro ⟨rfl, hstar⟩
      exact ⟨hstar, rfl⟩
  · simp [soleLine?]

/-- A sole line without a star would come out as it is if it were read like any other. -/
theorem getD_soleLine? {cs : List Char} (h : Trimmed cs) :
    (soleLine? (lines cs)).getD (plainText cs) = plainText cs := by
  rcases hsole : soleLine? (lines cs) with _ | line
  · rfl
  · obtain ⟨hlines, hstar⟩ := soleLine?_eq_some_iff.1 hsole
    obtain rfl := eq_of_lines_eq_singleton hlines
    rw [Option.getD_some, plainText, hlines, List.map_singleton, undecorate_of_trimmed h hstar,
      joinLines_singleton]

theorem docText_eq (s : String) : docText (some s)
    = if trim s.toList = [] then none else some (String.ofList (plainText (trim s.toList))) := by
  have hsole := getD_soleLine? (trimmed_trim s.toList)
  rw [plainText] at hsole
  simp only [docText, Option.bind_eq_bind, Option.bind_some, hsole, plainText]

/-- White space before a comment adds no more than empty lines to it, and these are dropped. -/
theorem plainText_append {ws : List Char} (h : Blank ws) (cs : List Char) :
    plainText (ws ++ cs) = plainText cs := by
  induction ws with
  | nil => rfl
  | cons c ws ih =>
    have hws : Blank ws := fun c' hc' => h c' (List.mem_cons_of_mem c hc')
    rw [← ih hws, List.cons_append, plainText, plainText]
    by_cases hc : c = '\n'
    · subst hc
      rw [lines_cons_feed, List.map_cons]
      rfl
    · have hpad : ∀ line, undecorate (c :: line) = undecorate line := fun line => by
        have hblank : Blank [c] := by simpa [Blank] using h c List.mem_cons_self
        simpa using undecorate_padded hblank blank_nil line
      obtain ⟨line, rest, heq⟩ := List.exists_cons_of_ne_nil (List.splitOn_ne_nil '\n' (ws ++ cs))
      rw [lines_cons hc, lines_eq_splitOn, heq, List.modifyHead_cons, List.map_cons, List.map_cons,
        hpad]

/-- The last line ends a text. -/
theorem exists_breakLines_concat (ls : List (List Char)) :
    ∃ pre, ∀ line, breakLines (ls ++ [line]) = pre ++ line := by
  induction ls with
  | nil => exact ⟨[], fun line => List.intercalate_singleton⟩
  | cons l ls ih =>
    obtain ⟨pre, hpre⟩ := ih
    refine ⟨l ++ ['\n'] ++ pre, fun line => ?_⟩
    rw [List.append_assoc, ← hpre line, List.cons_append, breakLines, breakLines,
      List.intercalate_cons_of_ne_nil (by simp)]

theorem plainText_breakLines {ls : List (List Char)} (h : ∀ l ∈ ls, '\n' ∉ l) (hne : ls ≠ []) :
    plainText (breakLines ls) = joinLines (ls.map undecorate) := by
  rw [plainText, lines_breakLines h hne]

/-- What follows the last character that is not white space is not part of the text. -/
theorem plainText_trim {ws ws' cs : List Char} (h : Blank ws) (h' : Blank ws')
    (hlast : ∃ c, cs.getLast? = some c ∧ isBlank c = false) :
    plainText (trim (ws ++ cs ++ ws')) = plainText cs := by
  obtain ⟨before, after, hbefore, hafter, heq⟩ := exists_padding cs
  have hnil : after = [] := by
    obtain ⟨c, hc, hblank⟩ := hlast
    refine Classical.byContradiction fun hne => ?_
    rw [heq, getLast?_append_of_ne_nil _ hne] at hc
    exact hafter.not_mem hblank (List.mem_of_getLast? hc)
  rw [hnil, List.append_nil] at heq
  rw [trim_padded h h', ← plainText_append hbefore (trim cs), ← heq]

/-- Lines of text, the first and the last of which are not empty. -/
structure PlainLines (ls : List (List Char)) : Prop where
  plain : ∀ l ∈ ls, PlainLine l
  first : ∃ l, ls.head? = some l ∧ l ≠ []
  last : ∃ l, ls.getLast? = some l ∧ l ≠ []

/-- The comment that decorated lines make after others that have no text. -/
def decorated (front : List Decoration) (body : List (Decoration × List Char)) : List Char :=
  breakLines (front.map (·.around []) ++ body.map fun b => b.1.around b.2)

theorem map_undecorate_around (body : List (Decoration × List Char))
    (h : ∀ b ∈ body, PlainLine b.2) :
    (body.map fun b => b.1.around b.2).map undecorate = body.map Prod.snd := by
  rw [List.map_map]
  exact List.map_congr_left fun b hb => undecorate_around b.1 (h b hb)

/-- Lines without text do not show, if text comes after them. -/
theorem joinLines_append {empty ls : List (List Char)} (hempty : ∀ l ∈ empty, l = [])
    (hfirst : ∃ l, ls.head? = some l ∧ l ≠ []) :
    joinLines (empty ++ ls) = List.intercalate ['\\', 'n'] ls := by
  obtain ⟨l, hl, hne⟩ := hfirst
  obtain ⟨ls, rfl⟩ := List.head?_eq_some_iff.1 hl
  rw [joinLines_eq, List.dropWhile_append_of_pos fun l hl => decide_eq_true (hempty l hl),
    List.dropWhile_cons_of_neg (by simpa using hne)]

theorem not_mem_intercalate {c : Char} {sep : List Char} (hsep : c ∉ sep) :
    ∀ {ls : List (List Char)}, (∀ l ∈ ls, c ∉ l) → c ∉ List.intercalate sep ls
  | [], _ => by simp
  | [l], h => by simpa using h l
  | l :: l' :: ls, h => by
    have hrest := not_mem_intercalate hsep fun l'' hl'' => h l'' (List.mem_cons_of_mem l hl'')
    simp [List.intercalate_cons_cons, hsep, hrest, h l List.mem_cons_self]

theorem plainText_decorated (front : List Decoration) {body : List (Decoration × List Char)}
    (hbody : PlainLines (body.map Prod.snd)) : plainText (decorated front body)
      = List.intercalate ['\\', 'n'] (body.map Prod.snd) := by
  have hplain : ∀ b ∈ body, PlainLine b.2 := fun b hb => hbody.plain _ (List.mem_map_of_mem hb)
  have hfeed : ∀ l ∈ front.map (·.around []) ++ body.map fun b => b.1.around b.2, '\n' ∉ l := by
    intro l hl
    obtain hl | hl := List.mem_append.1 hl
    · obtain ⟨d, -, rfl⟩ := List.mem_map.1 hl
      exact no_feed_around d plainLine_nil
    · obtain ⟨b, hb, rfl⟩ := List.mem_map.1 hl
      exact no_feed_around b.1 (hplain b hb)
  have hne : (front.map (·.around []) ++ body.map fun b => b.1.around b.2) ≠ [] := by
    obtain ⟨l, hl, -⟩ := hbody.first
    rcases body with _ | ⟨b, body⟩
    · cases hl
    · simp
  have hfront : ∀ l ∈ (front.map (·.around [])).map undecorate, l = [] := by
    rw [List.map_map]
    intro l hl
    obtain ⟨d, -, rfl⟩ := List.mem_map.1 hl
    exact undecorate_around d plainLine_nil
  rw [decorated, plainText_breakLines hfeed hne, List.map_append, map_undecorate_around body hplain,
    joinLines_append hfront hbody.first]

/-- The white space after the last line is the end of the comment. -/
theorem exists_decorated_append (front : List Decoration) {body : List (Decoration × List Char)}
    (hbody : PlainLines (body.map Prod.snd)) :
    ∃ body' ws, body'.map Prod.snd = body.map Prod.snd ∧ Blank ws ∧
      decorated front body = decorated front body' ++ ws ∧
      ∃ c, (decorated front body').getLast? = some c ∧ isBlank c = false := by
  obtain ⟨l, hl, hne⟩ := hbody.last
  rw [List.getLast?_map] at hl
  obtain ⟨⟨d, l⟩, hlast, rfl⟩ := Option.map_eq_some_iff.1 hl
  obtain ⟨init, rfl⟩ := List.getLast?_eq_some_iff.1 hlast
  obtain ⟨pre, hpre⟩ := exists_breakLines_concat
    (front.map (·.around []) ++ init.map fun b => b.1.around b.2)
  have hdecorated : ∀ d : Decoration,
      decorated front (init ++ [(d, l)]) = pre ++ d.before l ++ d.trail.toList := by
    intro d
    rw [decorated, List.map_append, List.map_singleton, ← List.append_assoc, hpre,
      Decoration.around, List.append_assoc]
  have hbare : decorated front (init ++ [({ d with trail := .spaces 0 }, l)])
      = pre ++ d.before l := (hdecorated _).trans (List.append_nil _)
  refine ⟨init ++ [({ d with trail := .spaces 0 }, l)], d.trail.toList, by simp, d.trail.blank,
    by rw [hdecorated, hbare], ?_⟩
  have htrimmed := (hbody.plain l (by simp)).trimmed
  rw [hbare, Decoration.before, ← List.append_assoc, getLast?_append_of_ne_nil _ hne,
    List.getLast?_eq_some_getLast hne]
  exact ⟨_, rfl, htrimmed.last _ (List.getLast?_eq_some_getLast hne)⟩

/-- The text of a comment is that of its lines, whatever decorates them and whatever lines without a
text stand before the first.  The lines are joined by the two characters `\n`, so that the text is
one line. -/
theorem docText_decorated {outer outer' : List Char} (h : Blank outer) (h' : Blank outer')
    (front : List Decoration) {body : List (Decoration × List Char)}
    (hbody : PlainLines (body.map Prod.snd)) :
    docText (some (String.ofList (outer ++ decorated front body ++ outer')))
        = some (String.ofList (List.intercalate ['\\', 'n'] (body.map Prod.snd))) ∧
      '\n' ∉ List.intercalate ['\\', 'n'] (body.map Prod.snd) := by
  refine ⟨?_, not_mem_intercalate (by decide) fun l hl => (hbody.plain l hl).no_feed⟩
  obtain ⟨body', ws, hsame, hws, heq, hlast⟩ := exists_decorated_append front hbody
  have htext := plainText_trim h (hws.append h') hlast
  have hne : trim (outer ++ decorated front body' ++ (ws ++ outer')) ≠ [] := by
    rw [ne_eq, trim_padded h (hws.append h'), trim_eq_nil_iff]
    intro hblank
    obtain ⟨c, hc, hnot⟩ := hlast
    exact hblank.not_mem hnot (List.mem_of_getLast? hc)
  have hwhole : outer ++ decorated front body ++ outer'
      = outer ++ decorated front body' ++ (ws ++ outer') := by
    simp only [heq, List.append_assoc]
  rw [docText_eq, String.toList_ofList, hwhole, if_neg hne, htext,
    plainText_decorated front (hsame ▸ hbody), hsame]

/-- Three lines, decorated in different ways, after two that have no text. -/
theorem docText_decorated_invoice :
    docText (some "\n ***\n\n * An invoice \n**\n\twith *lines*\n ")
        = some "An invoice\\n\\nwith *lines*" ∧
      '\n' ∉ "An invoice\\n\\nwith *lines*".toList := by
  have hblank : Blank ['\n'] := by decide
  have hblank' : Blank ['\n', ' '] := by decide
  let front : List Decoration :=
    [⟨.spaces 1, 3, .spaces 0, .spaces 0⟩, ⟨.spaces 0, 0, .spaces 0, .spaces 0⟩]
  let body : List (Decoration × List Char) :=
    [(⟨.spaces 1, 1, .spaces 1, .spaces 1⟩, "An invoice".toList),
     (⟨.spaces 0, 2, .spaces 0, .spaces 0⟩, []),
     (⟨⟨['\t'], by decide, by decide⟩, 0, .spaces 0, .spaces 0⟩, "with *lines*".toList)]
  have hbody : PlainLines (body.map Prod.snd) :=
    ⟨by decide +kernel, ⟨_, rfl, by decide⟩, ⟨_, rfl, by decide⟩⟩
  have h := docText_decorated hblank hblank' front hbody
  have hcomment : String.ofList (['\n'] ++ decorated front body ++ ['\n', ' '])
      = "\n ***\n\n * An invoice \n**\n\twith *lines*\n " := by decide +kernel
  have htext : List.intercalate ['\\', 'n'] (body.map Prod.snd)
      = "An invoice\\n\\nwith *lines*".toList := by decide +kernel
  rw [hcomment, htext, String.ofList_toList] at h
  exact h

end DomainModel.Text
