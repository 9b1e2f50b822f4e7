import DomainModel.Graph.Decoding
import DomainModel.Proofs.DocumentValues
import DomainModel.Proofs.Outcomes

/-!
# Reading what was written

Reading any value of a document gives the value that the document stands for, from text as well,
as long as the document does not nest too deep (`Reader.json_ofJson`).  A record whose object names
the fields in the order of their declaration is read like the array of its fields
(`Reader.read_record_of_keys`), so a record is read field by field.  The other way round, what holds
of everything that the readers of the parts give holds of every part of what is read
(`Reader.Ensures`).
-/

namespace DomainModel

/-! ## Any value -/

namespace Json

mutual

/-- How deep the arrays and objects of a document nest. -/
def depth : Json → Nat
  | .array items => depthItems items + 1
  | .object members => depthMembers members + 1
  | .null | .bool _ | .number _ | .string _ => 0

def depthItems : List Json → Nat
  | [] => 0
  | x :: xs => max x.depth (depthItems xs)

def depthMembers : List (String × Json) → Nat
  | [] => 0
  | (_, x) :: xs => max x.depth (depthMembers xs)

end

end Json

namespace Origin

/-- What nests this deep can be read from there. -/
def Holds (o : Origin) (depth : Nat) : Prop := ∀ d, o = .text d → d + depth ≤ maxDepth

variable {o : Origin} {m n : Nat}

theorem holds_document : Origin.document.Holds n := nofun

theorem holds_max_iff : o.Holds (max m n) ↔ o.Holds m ∧ o.Holds n := by
  constructor
  · intro h
    exact ⟨fun d hd => by have := h d hd; omega, fun d hd => by have := h d hd; omega⟩
  · rintro ⟨hm, hn⟩ d hd
    have := hm d hd
    have := hn d hd
    omega

theorem Holds.enter (h : o.Holds (n + 1)) : ∃ inner, o.enter = .ok inner ∧ inner.Holds n := by
  rcases o with _ | d
  · exact ⟨.document, rfl, holds_document⟩
  · have hd := h d rfl
    refine ⟨.text (d + 1), if_pos (by omega), ?_⟩
    rintro _ ⟨⟩
    omega

end Origin

namespace Reader

variable {α σ : Type}

mutual

/-- A document is read as its value. -/
theorem json_ofJson {o : Origin} : ∀ j : Json, o.Holds j.depth → json o (.ofJson j) = .ok j.collapse
  | .null, _ | .bool _, _ | .number _, _ | .string _, _ => rfl
  | .array items, h => by
    obtain ⟨inner, henter, hinner⟩ := Origin.Holds.enter h
    rw [Source.ofJson, json, henter, ok_bind, jsonItems_ofItems items hinner]
    rfl
  | .object members, h => by
    obtain ⟨inner, henter, hinner⟩ := Origin.Holds.enter h
    rw [Source.ofJson, json, henter, ok_bind, jsonMembers_ofMembers members hinner]
    rfl

theorem jsonItems_ofItems {o : Origin} : ∀ items : List Json, o.Holds (Json.depthItems items) →
    jsonItems o (Source.ofItems items) = .ok (Json.collapseItems items)
  | [], _ => rfl
  | x :: xs, h => by
    obtain ⟨hx, hxs⟩ := Origin.holds_max_iff.1 h
    rw [Source.ofItems, jsonItems, json_ofJson x hx, ok_bind, jsonItems_ofItems xs hxs]
    rfl

theorem jsonMembers_ofMembers {o : Origin} : ∀ members : List (String × Json),
    o.Holds (Json.depthMembers members) →
      jsonMembers o (Source.ofMembers members) = .ok (Json.collapseMembers members)
  | [], _ => rfl
  | (_, x) :: xs, h => by
    obtain ⟨hx, hxs⟩ := Origin.holds_max_iff.1 h
    rw [Source.ofMembers, jsonMembers, json_ofJson x hx, ok_bind, jsonMembers_ofMembers xs hxs]
    rfl

end

/-! ## Parts of a document at hand -/

theorem read_text (s : String) : (Json.string s).read text = .ok s := rfl

theorem read_boolean (b : Bool) : (Json.bool b).read boolean = .ok b := rfl

theorem read_ofText? (s : Option String) : (Json.ofText? s).read (optional text) = .ok s := by
  cases s <;> rfl

theorem ofJson_eq_null_iff {j : Json} : Source.ofJson j = .null ↔ j = .null := by
  cases j <;> simp [Source.ofJson]

theorem optional_of_ne_null {r : Reader α} {o : Origin} {s : Source} (h : s ≠ .null) :
    optional r o s = some <$> r o s := by
  unfold optional
  split
  · exact absurd rfl h
  · rfl

theorem read_optional {r : Reader α} {j : Json} {x : α} (h : j.read r = .ok x) (hj : j ≠ .null) :
    j.read (optional r) = .ok (some x) := by
  rw [Json.read] at h ⊢
  rw [optional_of_ne_null (mt ofJson_eq_null_iff.1 hj), h]
  rfl

/-- Where a value may be missing, null is none. -/
theorem read_json? (x : Option Json) : (x.getD .null).read (optional json)
    = .ok ((x.map Json.collapse).filter (· ≠ .null)) := by
  rcases x with _ | j
  · rfl
  by_cases hj : j = .null
  · subst hj
    rfl
  have hread : j.read json = .ok j.collapse := json_ofJson j Origin.holds_document
  have hne : j.collapse ≠ .null := mt Json.collapse_eq_null_iff.1 hj
  rw [Option.getD_some, read_optional hread hj, Option.map_some, Option.filter_some,
    if_pos (by simpa using hne)]

section Written

variable {β : Type} {r : Reader α} {write : β → Json} {f : β → α}

theorem each_ofItems : ∀ {xs : List β}, (∀ x ∈ xs, (write x).read r = .ok (f x)) →
    each r .document (Source.ofItems (xs.map write)) = .ok (xs.map f)
  | [], _ => rfl
  | x :: xs, h => by
    have hx : r .document (.ofJson (write x)) = .ok (f x) := h x List.mem_cons_self
    rw [List.map_cons, Source.ofItems, each, hx, ok_bind,
      each_ofItems fun x' hx' => h x' (List.mem_cons_of_mem _ hx')]
    rfl

theorem eachMember_ofMembers : ∀ {es : List (String × β)},
    (∀ e ∈ es, (write e.2).read r = .ok (f e.2)) →
      eachMember r .document (Source.ofMembers (es.map fun e => (e.1, write e.2)))
        = .ok (es.map fun e => (e.1, f e.2))
  | [], _ => rfl
  | (k, x) :: es, h => by
    have hx : r .document (.ofJson (write x)) = .ok (f x) := h (k, x) List.mem_cons_self
    rw [List.map_cons, Source.ofMembers, eachMember, hx, ok_bind,
      eachMember_ofMembers fun e he => h e (List.mem_cons_of_mem _ he)]
    rfl

theorem read_items (expected : Expected) (xs : List β)
    (h : ∀ x ∈ xs, (write x).read r = .ok (f x)) :
    (Json.array (xs.map write)).read (items r expected) = .ok (xs.map f) := by
  rw [Json.read, Source.ofJson, items, Origin.enter, ok_bind, each_ofItems h]
  rfl

theorem read_list (xs : List β) (h : ∀ x ∈ xs, (write x).read r = .ok (f x)) :
    (Json.array (xs.map write)).read (list r) = .ok (xs.map f) := read_items .sequence xs h

theorem read_dict (d : Dict β) (h : ∀ e ∈ d.toList, (write e.2).read r = .ok (f e.2)) :
    (Json.object (d.map write).toList).read (dict r) = .ok (d.map f) := by
  have hd : Dict.ofList (d.map f).toList = d.map f := Dict.ofList_toList _
  rw [Json.read, Source.ofJson, dict, Origin.enter, ok_bind, Dict.map, eachMember_ofMembers h,
    ok_bind]
  exact congrArg Except.ok hd

end Written

theorem read_texts (texts : List String) : (Json.ofTexts texts).read (list text) = .ok texts := by
  rw [Json.ofTexts, read_list texts fun s _ => read_text s, List.map_id']

/-- A set of names comes back with its order. -/
theorem read_names (names' : NameSet) : (Json.ofTexts names'.toList).read names = .ok names' := by
  have h : (Json.ofTexts names'.toList).read (items text .set) = .ok names'.toList := by
    rw [Json.ofTexts, read_items .set _ fun s _ => read_text s, List.map_id']
  rw [Json.read] at h ⊢
  rw [names, h]
  exact congrArg Except.ok names'.ofList_toList

/-! ## Records -/

theorem find?_key_of_mem {f : Field σ} : ∀ {fields : List (Field σ)},
    (fields.map Field.key).Nodup → f ∈ fields → fields.find? (·.key = f.key) = some f
  | f' :: fields, h, hf => by
    rw [List.map_cons, List.nodup_cons] at h
    rcases List.mem_cons.1 hf with rfl | hf
    · exact List.find?_cons_of_pos (by simp)
    · have hne : f'.key ≠ f.key := fun he => h.1 (he ▸ List.mem_map_of_mem hf)
      rw [List.find?_cons_of_neg (by simpa using hne)]
      exact find?_key_of_mem h.2 hf

/-- The induction is on the fields that are still to come; those that have come are in `seen`. -/
theorem namedFields_of_keys {all : List (Field σ)} (hall : (all.map Field.key).Nodup) :
    ∀ {fields : List (Field σ)} {members : List (String × Json)} {seen : List String} (x : σ),
      (∀ f ∈ fields, f ∈ all) → members.map Prod.fst = fields.map Field.key →
      (fields.map Field.key).Nodup → (∀ f ∈ fields, f.key ∉ seen) →
      namedFields all .document seen (Source.ofMembers members) x
        = listedFields .document fields (Source.ofItems (members.map Prod.snd)) x
  | [], [], _, _, _, _, _, _ => rfl
  | f :: fields, (key, j) :: members, seen, x, hmem, hkeys, hnodup, hseen => by
    obtain ⟨rfl, hrest⟩ := List.cons.inj hkeys
    obtain ⟨hf, hmem⟩ := List.forall_mem_cons.1 hmem
    obtain ⟨hfresh, hseen⟩ := List.forall_mem_cons.1 hseen
    rw [List.map_cons, List.nodup_cons] at hnodup
    rw [Source.ofMembers, namedFields, find?_key_of_mem hall hf]
    simp only [if_neg hfresh, List.map_cons, Source.ofItems, listedFields]
    refine bind_congr fun x' => namedFields_of_keys hall x' hmem hrest hnodup.2 fun f' hf' => ?_
    rw [List.mem_cons, not_or]
    exact ⟨fun he => hnodup.1 (he ▸ List.mem_map_of_mem hf'), hseen f' hf'⟩

variable {name : String} {fields : List (Field σ)} {start : σ} {members : List (String × Json)}

/-- An object that names the fields of a record in their order is read field by field. -/
theorem read_record_of_keys (hkeys : members.map Prod.fst = fields.map Field.key)
    (hnodup : (fields.map Field.key).Nodup) :
    (Json.object members).read (record name fields start) = (fun x => ⟨x, none⟩) <$>
      listedFields .document fields (Source.ofItems (members.map Prod.snd)) start := by
  rw [Json.read, Source.ofJson, record, Origin.enter, ok_bind,
    namedFields_of_keys hnodup start (fun _ hf => hf) hkeys hnodup (by simp)]
  rfl

theorem read_filled_of_keys (hkeys : members.map Prod.fst = fields.map Field.key)
    (hnodup : (fields.map Field.key).Nodup) :
    (Json.object members).read (fun o s => Filled.record <$> record name fields start o s)
      = listedFields .document fields (Source.ofItems (members.map Prod.snd)) start := by
  have h : (Json.object members).read (record name fields start) = _ :=
    read_record_of_keys hkeys hnodup
  rw [Json.read] at h ⊢
  rw [h, ← comp_map]
  exact id_map _

theorem listedFields_cons (key : String) (r : Reader α) (store : α → σ → σ) (j : Json)
    (js : List Json) (x : σ) :
    listedFields .document (field key r store :: fields) (Source.ofItems (j :: js)) x
      = j.read r >>= fun a => listedFields .document fields (Source.ofItems js) (store a x) := by
  rw [Source.ofItems, listedFields, field, bind_assoc]
  rfl

/-! ## What readers ensure -/

/-- Everything that the reader gives has the property. -/
def Ensures (r : Reader α) (P : α → Prop) : Prop := ∀ o s x, r o s = .ok x → P x

/-- Reading the field keeps the property of a record. -/
def Field.Keeps (f : Field σ) (P : σ → Prop) : Prop :=
  ∀ o s x y, f.read o s x = .ok y → P x → P y

theorem Field.keeps_field {r : Reader α} {P : α → Prop} {Q : σ → Prop} {key : String}
    {store : α → σ → σ} (hr : r.Ensures P) (hs : ∀ a x, P a → Q x → Q (store a x)) :
    (field key r store).Keeps Q := by
  intro o s x y h hx
  obtain ⟨a, ha, hy⟩ := exists_of_bind_ok h
  cases hy
  exact hs a x (hr o s a ha) hx

section Ensured

variable {r : Reader α} {P : α → Prop}

theorem ensures_trivial : r.Ensures fun _ => True := fun _ _ _ _ => trivial

theorem Ensures.each (hr : r.Ensures P) {o : Origin} : ∀ {sources : List Source} {xs : List α},
    Reader.each r o sources = .ok xs → ∀ x ∈ xs, P x
  | [], xs, h => by
    cases h
    simp
  | s :: sources, xs, h => by
    obtain ⟨x, hx, h⟩ := exists_of_bind_ok h
    obtain ⟨xs', hxs, h⟩ := exists_of_bind_ok h
    cases h
    exact List.forall_mem_cons.2 ⟨hr o s x hx, hr.each hxs⟩

theorem Ensures.list (hr : r.Ensures P) : (list r).Ensures fun xs => ∀ x ∈ xs, P x := by
  intro o s xs h
  cases s
  case array sources closed =>
    obtain ⟨inner, -, h⟩ := exists_of_bind_ok h
    obtain ⟨xs', hxs, h⟩ := exists_of_bind_ok h
    cases closed <;> cases h
    exact hr.each hxs
  all_goals cases h

theorem Ensures.eachMember (hr : r.Ensures P) {o : Origin} :
    ∀ {sources : List (Option String × Source)} {es : List (String × α)},
      Reader.eachMember r o sources = .ok es → ∀ e ∈ es, P e.2
  | [], es, h => by
    cases h
    simp
  | (none, _) :: _, _, h => by cases h
  | (some k, s) :: sources, es, h => by
    obtain ⟨x, hx, h⟩ := exists_of_bind_ok h
    obtain ⟨es', hes, h⟩ := exists_of_bind_ok h
    cases h
    exact List.forall_mem_cons.2 ⟨hr o s x hx, hr.eachMember hes⟩

theorem Ensures.dict (hr : r.Ensures P) : (dict r).Ensures fun d => ∀ e ∈ d.toList, P e.2 := by
  intro o s d h
  cases s
  case object sources stray =>
    obtain ⟨inner, -, h⟩ := exists_of_bind_ok h
    obtain ⟨es, hes, h⟩ := exists_of_bind_ok h
    cases stray <;> cases h
    exact fun e he => hr.eachMember hes e (Dict.mem_of_mem_ofList he)
  all_goals cases h

end Ensured

section Records

variable {P : σ → Prop}

theorem namedFields_keeps (hf : ∀ f ∈ fields, f.Keeps P) {o : Origin} :
    ∀ {sources : List (Option String × Source)} {seen : List String} {x y : σ},
      namedFields fields o seen sources x = .ok y → P x → P y
  | [], _, _, _, h, hx => by
    cases h
    exact hx
  | (none, _) :: _, _, _, _, h, _ => by cases h
  | (some key, s) :: sources, seen, x, y, h, hx => by
    rw [namedFields] at h
    split at h
    · split at h
      · exact namedFields_keeps hf h hx
      · cases h
    · rename_i f hfind
      split at h
      · cases h
      · obtain ⟨x', hx', h⟩ := exists_of_bind_ok h
        exact namedFields_keeps hf h (hf f (List.mem_of_find?_eq_some hfind) o s x x' hx' hx)

theorem listedFields_keeps {o : Origin} : ∀ {fields : List (Field σ)} {sources : List Source}
    {x y : σ}, (∀ f ∈ fields, f.Keeps P) → listedFields o fields sources x = .ok y → P x → P y
  | f :: fields, s :: sources, x, y, hf, h, hx => by
    obtain ⟨x', hx', h⟩ := exists_of_bind_ok h
    obtain ⟨hf₀, hf⟩ := List.forall_mem_cons.1 hf
    exact listedFields_keeps hf h (hf₀ o s x x' hx' hx)
  | [], _, _, _, _, h, hx => by
    cases h
    exact hx
  | _ :: _, [], _, _, _, h, hx => by
    cases h
    exact hx

/-- What each field keeps holds of every record that is read. -/
theorem ensures_record (hstart : P start) (hf : ∀ f ∈ fields, f.Keeps P) :
    Ensures (fun o s => Filled.record <$> record name fields start o s) P := by
  intro o s x hread
  obtain ⟨filled, h, rfl⟩ := exists_of_map_ok hread
  cases s
  case object sources stray =>
    obtain ⟨inner, -, h⟩ := exists_of_bind_ok h
    obtain ⟨y, hy, h⟩ := exists_of_bind_ok h
    cases stray <;> cases h
    exact namedFields_keeps hf hy hstart
  case array sources closed =>
    obtain ⟨inner, -, h⟩ := exists_of_bind_ok h
    obtain ⟨y, hy, h⟩ := exists_of_bind_ok h
    split at h
    · cases h
    · cases closed <;> cases h
      exact listedFields_keeps hf hy hstart
  all_goals cases h

end Records

mutual

/-- Every object that is read names each key once. -/
theorem isValue_of_json {o : Origin} : ∀ {s : Source} {j : Json}, json o s = .ok j → j.IsValue
  | .null, _, h | .bool _, _, h | .number _, _, h | .text _, _, h => by
    cases h
    rfl
  | .unreadable, _, h | .broken, _, h => by cases h
  | .array sources closed, j, h => by
    obtain ⟨inner, -, h⟩ := exists_of_bind_ok h
    obtain ⟨xs, hxs, h⟩ := exists_of_bind_ok h
    cases closed <;> cases h
    exact Json.isValue_array_iff.2 (isValue_of_jsonItems hxs)
  | .object sources stray, j, h => by
    obtain ⟨inner, -, h⟩ := exists_of_bind_ok h
    obtain ⟨es, hes, h⟩ := exists_of_bind_ok h
    cases stray <;> cases h
    refine Json.isValue_object_iff.2 ⟨Entries.nodup_collapse es, fun e he => ?_⟩
    rw [← Dict.toList_ofList] at he
    exact isValue_of_jsonMembers hes e (Dict.mem_of_mem_ofList he)

theorem isValue_of_jsonItems {o : Origin} : ∀ {sources : List Source} {xs : List Json},
    jsonItems o sources = .ok xs → ∀ x ∈ xs, x.IsValue
  | [], xs, h => by
    cases h
    simp
  | s :: sources, xs, h => by
    obtain ⟨x, hx, h⟩ := exists_of_bind_ok h
    obtain ⟨xs', hxs, h⟩ := exists_of_bind_ok h
    cases h
    exact List.forall_mem_cons.2 ⟨isValue_of_json hx, isValue_of_jsonItems hxs⟩

theorem isValue_of_jsonMembers {o : Origin} : ∀ {sources : List (Option String × Source)}
    {es : List (String × Json)}, jsonMembers o sources = .ok es → ∀ e ∈ es, e.2.IsValue
  | [], es, h => by
    cases h
    simp
  | (none, _) :: _, _, h => by cases h
  | (some k, s) :: sources, es, h => by
    obtain ⟨x, hx, h⟩ := exists_of_bind_ok h
    obtain ⟨es', hes, h⟩ := exists_of_bind_ok h
    cases h
    exact List.forall_mem_cons.2 ⟨isValue_of_json hx, isValue_of_jsonMembers hes⟩

end

/-- Only null is read as null. -/
theorem eq_null_of_json {o : Origin} : ∀ {s : Source}, json o s = .ok .null → s = .null
  | .null, _ => rfl
  | .bool _, h | .number _, h | .text _, h | .unreadable, h | .broken, h => by cases h
  | .array _ closed, h => by
    obtain ⟨_, -, h⟩ := exists_of_bind_ok h
    obtain ⟨_, -, h⟩ := exists_of_bind_ok h
    cases closed <;> cases h
  | .object _ stray, h => by
    obtain ⟨_, -, h⟩ := exists_of_bind_ok h
    obtain ⟨_, -, h⟩ := exists_of_bind_ok h
    cases stray <;> cases h

/-- A value that may be missing is never read as null. -/
theorem ensures_json? :
    (optional json).Ensures fun x => ∀ j, x = some j → j.IsValue ∧ j ≠ .null := by
  rintro o s _ h j rfl
  have hs : s ≠ .null := by
    rintro rfl
    cases h
  rw [optional_of_ne_null hs] at h
  obtain ⟨_, hj, ⟨⟩⟩ := exists_of_map_ok h
  refine ⟨isValue_of_json hj, ?_⟩
  rintro rfl
  exact hs (eq_null_of_json hj)

end Reader

end DomainModel
