import DomainModel.Graph.Basic
import DomainModel.Proofs.Dict
import Mathlib.Data.List.Induction

/-!
# Adding fields and validations

A field is added under its name, or, if it has none, under the number of fields that are there, and
validations are added to a field in the same way.  A number may be a name, too, so what has no name
can come under the key of something named, and the later of the two takes the place of the earlier.
Exactly if this never happens all that was added is there, each name at its first place with what
came last (`kept_of_additions`).
-/

namespace DomainModel

variable {α : Type}

/-! ## Calls in a row -/

/-- Each call of a run has a property, which may look at what was added before. -/
def EachCall (P : List α → α → Prop) (xs : List α) : Prop :=
  ∀ before x after, xs = before ++ x :: after → P before x

/-- Some call of a run has a property, which may look at what was added before. -/
def SomeCall (P : List α → α → Prop) (xs : List α) : Prop :=
  ∃ before x after, xs = before ++ x :: after ∧ P before x

theorem eachCall_nil (P : List α → α → Prop) : EachCall P [] := by
  intro before x after h
  cases before <;> cases h

theorem eachCall_concat {P : List α → α → Prop} {xs : List α} {x : α} :
    EachCall P (xs ++ [x]) ↔ EachCall P xs ∧ P xs x := by
  constructor
  · intro h
    refine ⟨fun before y after hxs => h before y (after ++ [x]) ?_, h xs x [] rfl⟩
    rw [hxs, List.append_assoc, List.cons_append]
  · rintro ⟨hall, hlast⟩ before y after hxs
    rcases List.eq_nil_or_concat after with rfl | ⟨after, z, rfl⟩
    · obtain ⟨rfl, hx⟩ := List.append_inj' hxs rfl
      cases hx
      exact hlast
    · rw [List.concat_eq_append, ← List.cons_append, ← List.append_assoc] at hxs
      exact hall before y after (List.append_inj' hxs rfl).1

theorem someCall_iff {P : List α → α → Prop} {xs : List α} :
    SomeCall P xs ↔ ¬ EachCall (fun before x => ¬ P before x) xs := by
  simp only [SomeCall, EachCall, not_forall, not_not, exists_prop]

theorem someCall_concat {P : List α → α → Prop} {xs : List α} {x : α} :
    SomeCall P (xs ++ [x]) ↔ SomeCall P xs ∨ P xs x := by
  rw [someCall_iff, someCall_iff, eachCall_concat, not_and_or, not_not]

/-! ## What it means that nothing is lost -/

section Notions

variable (name? : α → Option String) (contents : List α → Dict α)

/-- A number that was used for a key: some value without a name was added to that many others. -/
def IsNumber (xs : List α) (key : String) : Prop :=
  SomeCall (fun before x => name? x = none ∧ key = toString (contents before).size) xs

/-- No value without a name comes under the name of another one, be that added before or after. -/
def NoClash (xs : List α) : Prop :=
  ∀ key, IsNumber name? contents xs key → key ∉ xs.filterMap name?

/-- All entries stay as they are, but for one that has the name of what is added. -/
def LosesNothing (before : List α) (x : α) : Prop :=
  ∀ entry ∈ (contents before).toList, entry ∈ (contents (before ++ [x])).toList ∨
    ∃ name, name? entry.2 = some name ∧ name? x = some name

/-- The number of distinct names and of values without a name. -/
def expectedSize (xs : List α) : Nat :=
  (xs.filterMap name?).eraseDups.length + xs.countP fun x => (name? x).isNone

/-- The values without a name and those that are the first of their name, which is not among
`seen`. -/
def firstsFrom (seen : List String) : List α → List α
  | [] => []
  | x :: xs =>
    match name? x with
    | none => x :: firstsFrom seen xs
    | some name =>
      if name ∈ seen then firstsFrom seen xs else x :: firstsFrom (name :: seen) xs

/-- The last value of the name that a value has, or the value itself if it has none. -/
def latest (xs : List α) (x : α) : α :=
  if (name? x).isSome then (xs.reverse.find? fun y => name? y = name? x).getD x else x

/-- What becomes of values that are added one after the other: where an unnamed one comes under the
name of another something is lost, and everything is kept where that does not happen. -/
structure Additions : Prop where
  losesNothing_iff : ∀ xs, EachCall (LosesNothing name? contents) xs ↔ NoClash name? contents xs
  size_iff : ∀ xs, (contents xs).size = expectedSize name? xs ↔ NoClash name? contents xs
  values_iff : ∀ xs, (contents xs).values = (firstsFrom name? [] xs).map (latest name? xs) ↔
    NoClash name? contents xs
  /-- Names that are not numbers below that of the additions clash with nothing. -/
  noClash : ∀ xs, (∀ n < xs.length, toString n ∉ xs.filterMap name?) → NoClash name? contents xs

end Notions

/-! ## Counting and listing what is to be expected -/

section Expected

variable {name? : α → Option String}

/-- The value has the name of one that came before it. -/
def Known (name? : α → Option String) (before : List α) (x : α) : Prop :=
  ∃ name ∈ before.filterMap name?, name? x = some name

instance (before : List α) (x : α) : Decidable (Known name? before x) :=
  inferInstanceAs (Decidable (∃ name ∈ before.filterMap name?, name? x = some name))

theorem not_known_of_none {before : List α} {x : α} (h : name? x = none) :
    ¬ Known name? before x := by
  rintro ⟨name, -, hx⟩
  cases h.symm.trans hx

theorem known_iff_of_some {before : List α} {x : α} {name : String} (h : name? x = some name) :
    Known name? before x ↔ name ∈ before.filterMap name? := by
  simp only [Known, h, Option.some.injEq, exists_eq_right']

theorem eraseDups_concat (names : List String) (name : String) : (names ++ [name]).eraseDups
    = names.eraseDups ++ if name ∈ names then [] else [name] := by
  rw [List.eraseDups_append, List.removeAll]
  by_cases h : name ∈ names <;> simp [h, List.eraseDups_cons]

theorem expectedSize_concat (xs : List α) (x : α) : expectedSize name? (xs ++ [x])
    = expectedSize name? xs + if Known name? xs x then 0 else 1 := by
  rw [expectedSize, expectedSize, List.filterMap_append, List.countP_append]
  rcases hx : name? x with _ | name
  · rw [if_neg (not_known_of_none hx)]
    simp [hx, Nat.add_assoc]
  · have hone : [x].filterMap name? = [name] := by simp [hx]
    rw [hone, eraseDups_concat, List.length_append]
    simp only [known_iff_of_some hx]
    split
    · simp [hx]
    · simp [hx, Nat.add_right_comm]

theorem firstsFrom_concat (x : α) : ∀ (seen : List String) (xs : List α),
    firstsFrom name? seen (xs ++ [x]) = firstsFrom name? seen xs ++
      if ∃ name ∈ seen ++ xs.filterMap name?, name? x = some name then [] else [x]
  | seen, [] => by
    rcases hx : name? x with _ | name
    · simp [firstsFrom, hx]
    · by_cases hn : name ∈ seen <;> simp [firstsFrom, hx, hn]
  | seen, y :: ys => by
    rcases hy : name? y with _ | name
    · simp only [List.cons_append, firstsFrom, hy, List.filterMap_cons_none hy,
        firstsFrom_concat x seen ys]
    · simp only [List.cons_append, firstsFrom, hy, List.filterMap_cons_some hy]
      -- a name that was seen before `y` or with it is a name that comes before `x`
      by_cases hn : name ∈ seen
      · rw [if_pos hn, if_pos hn, firstsFrom_concat x seen ys]
        congr 2
        simp only [List.mem_append, List.mem_cons]
        grind
      · rw [if_neg hn, if_neg hn, firstsFrom_concat x (name :: seen) ys, List.cons_append]
        congr 3
        simp only [List.mem_append, List.mem_cons]
        grind

theorem firsts_concat (xs : List α) (x : α) : firstsFrom name? [] (xs ++ [x])
    = firstsFrom name? [] xs ++ if Known name? xs x then [] else [x] :=
  firstsFrom_concat x [] xs

theorem mem_of_mem_firstsFrom {y : α} : ∀ {seen : List String} {xs : List α},
    y ∈ firstsFrom name? seen xs → y ∈ xs
  | _, [], h => h
  | seen, x :: xs, h => by
    unfold firstsFrom at h
    split at h
    · exact List.mem_cons.2 ((List.mem_cons.1 h).imp_right mem_of_mem_firstsFrom)
    · split at h
      · exact List.mem_cons_of_mem _ (mem_of_mem_firstsFrom h)
      · exact List.mem_cons.2 ((List.mem_cons.1 h).imp_right mem_of_mem_firstsFrom)

theorem length_firsts (xs : List α) :
    (firstsFrom name? [] xs).length = expectedSize name? xs := by
  induction xs using List.reverseRecOn with
  | nil => rfl
  | append_singleton xs x ih =>
    rw [firsts_concat, expectedSize_concat, List.length_append, ih]
    split <;> rfl

theorem latest_concat (xs : List α) (z x : α) : latest name? (xs ++ [z]) x
    = if (name? x).isSome ∧ name? z = name? x then z else latest name? xs x := by
  rcases hx : name? x with _ | name
  · simp [latest, hx]
  · by_cases hz : name? z = some name <;> simp [latest, hx, hz]

theorem name_latest (xs : List α) (x : α) : name? (latest name? xs x) = name? x := by
  unfold latest
  split
  · rcases hf : xs.reverse.find? fun y => name? y = name? x with _ | y
    · rfl
    · simpa using List.find?_some hf
  · rfl

theorem map_latest_of_known {xs : List α} {x : α} (h : Known name? xs x) (ys : List α) :
    ys.map (latest name? (xs ++ [x]))
      = (ys.map (latest name? xs)).map fun v => if name? x = name? v then x else v := by
  obtain ⟨name, -, hx⟩ := h
  rw [List.map_map]
  refine List.map_congr_left fun y _ => ?_
  rw [Function.comp_apply, @name_latest _ name?, latest_concat]
  by_cases hy : name? x = name? y
  · rw [if_pos hy, if_pos ⟨by rw [← hy, hx]; rfl, hy⟩]
  · rw [if_neg hy, if_neg fun hboth => hy hboth.2]

theorem map_latest_of_not_known {xs : List α} {x : α} (h : ¬ Known name? xs x) :
    (firstsFrom name? [] xs ++ [x]).map (latest name? (xs ++ [x]))
      = (firstsFrom name? [] xs).map (latest name? xs) ++ [x] := by
  have hbefore : ∀ y ∈ firstsFrom name? [] xs,
      latest name? (xs ++ [x]) y = latest name? xs y := by
    intro y hy
    rw [latest_concat, if_neg]
    rintro ⟨hsome, hxy⟩
    obtain ⟨name, hname⟩ := Option.isSome_iff_exists.1 hsome
    refine h ⟨name, ?_, hxy.trans hname⟩
    exact List.mem_filterMap.2 ⟨y, mem_of_mem_firstsFrom hy, hname⟩
  have hself : latest name? (xs ++ [x]) x = x := by
    rcases hx : name? x with _ | name
    · rw [latest, hx]
      rfl
    · rw [latest_concat, if_pos ⟨by rw [hx]; rfl, rfl⟩]
  rw [List.map_append, List.map_congr_left hbefore, List.map_singleton, hself]

end Expected

/-! ## What is there after additions -/

theorem number_injective {m n : Nat} (h : toString m = toString n) : m = n := by
  have hread := congrArg (fun s : String => Nat.ofDigitChars 10 s.toList 0) h
  simpa using hread

theorem Dict.size_eq (d : Dict α) : d.size = d.keys.length := by
  rw [size, keys, List.length_map]

theorem Dict.size_insert (d : Dict α) (key : String) (value : α) :
    (d.insert key value).size = d.size + if key ∈ d.keys then 0 else 1 := by
  rw [size_eq, size_eq, keys_insert]
  split <;> simp

/-- A key that is there keeps its place, and so do the values at the others. -/
theorem Entries.map_snd_put {key : String} (value : α) : ∀ {es : List (String × α)},
    (es.map Prod.fst).Nodup → key ∈ es.map Prod.fst →
      (put key value es).map Prod.snd = es.map fun e => if e.1 = key then value else e.2
  | [], _, h => by simp at h
  | e :: es, hn, h => by
    obtain ⟨he, hn⟩ := List.nodup_cons.1 hn
    by_cases hk : e.1 = key
    · have hrest : es.map Prod.snd = es.map fun e => if e.1 = key then value else e.2 := by
        refine List.map_congr_left fun e' he' => (if_neg fun hk' => he ?_).symm
        exact hk.trans hk'.symm ▸ List.mem_map_of_mem he'
      rw [put, if_pos hk, List.map_cons, List.map_cons, if_pos hk, hrest]
    · have hmem : key ∈ es.map Prod.fst := (List.mem_cons.1 h).resolve_left (Ne.symm hk)
      rw [put, if_neg hk, List.map_cons, List.map_cons, if_neg hk, map_snd_put value hn hmem]

/-- Values are added one after the other to an empty dictionary, each under its name or, if it has
none, under the number of those that are there. -/
structure AddsByName (name? : α → Option String) (contents : List α → Dict α) : Prop where
  nil : contents [] = .empty
  concat : ∀ xs x, contents (xs ++ [x])
    = (contents xs).insert ((name? x).getD (toString (contents xs).size)) x

section Clashes

variable {name? : α → Option String} {contents : List α → Dict α} {xs : List α} {x : α}
  {key : String}

theorem isNumber_concat : IsNumber name? contents (xs ++ [x]) key ↔
    IsNumber name? contents xs key ∨ name? x = none ∧ key = toString (contents xs).size :=
  someCall_concat

theorem NoClash.of_concat (h : NoClash name? contents (xs ++ [x])) : NoClash name? contents xs := by
  intro key hk hn
  refine h key (isNumber_concat.2 (.inl hk)) ?_
  rw [List.filterMap_append]
  exact List.mem_append_left _ hn

/-- What comes under a key that is there has a name that came before. -/
def RespectsKeys (name? : α → Option String) (contents : List α → Dict α) (before : List α)
    (x : α) : Prop :=
  (name? x).getD (toString (contents before).size) ∈ (contents before).keys → Known name? before x

end Clashes

namespace AddsByName

variable {name? : α → Option String} {contents : List α → Dict α} (h : AddsByName name? contents)

include h

/-- The keys are the names and the numbers of what was added. -/
theorem mem_keys_iff (xs : List α) : ∀ key, key ∈ (contents xs).keys ↔
    key ∈ xs.filterMap name? ∨ IsNumber name? contents xs key := by
  induction xs using List.reverseRecOn with
  | nil =>
    intro key
    rw [h.nil]
    simp [Dict.keys, IsNumber, SomeCall]
  | append_singleton xs x ih =>
    intro key
    have hkey : key ∈ ((contents xs).insert ((name? x).getD (toString (contents xs).size)) x).keys
        ↔ key ∈ (contents xs).keys ∨ key = (name? x).getD (toString (contents xs).size) := by
      rw [Dict.keys_insert]
      split
      · rename_i hmem
        exact ⟨.inl, fun hk => hk.elim id fun hk => hk ▸ hmem⟩
      · simp
    rw [h.concat, hkey, ih, isNumber_concat, List.filterMap_append, List.mem_append]
    rcases hx : name? x with _ | name
    · simp [hx, or_assoc]
    · simp [hx, or_right_comm]

/-- What is there under a key was added, and has the key for its name unless that is a number. -/
theorem name_of_get? (xs : List α) : ∀ {key v}, (contents xs).get? key = some v →
    v ∈ xs ∧ (name? v = some key ∨ name? v = none ∧ IsNumber name? contents xs key) := by
  induction xs using List.reverseRecOn with
  | nil =>
    intro key v hv
    rw [h.nil, Dict.get?_empty] at hv
    cases hv
  | append_singleton xs x ih =>
    intro key v hv
    rw [h.concat, Dict.get?_insert] at hv
    rw [isNumber_concat, List.mem_append, List.mem_singleton]
    split at hv
    · rename_i hkey
      cases hv
      refine ⟨.inr rfl, ?_⟩
      rcases hx : name? x with _ | name
      · rw [hx, Option.getD_none] at hkey
        exact .inr ⟨rfl, .inr ⟨rfl, hkey⟩⟩
      · rw [hx, Option.getD_some] at hkey
        exact .inl (hkey ▸ rfl)
    · obtain ⟨hmem, hname⟩ := ih hv
      exact ⟨.inl hmem, hname.imp_right (And.imp_right .inl)⟩

theorem size_concat (xs : List α) (x : α) : (contents (xs ++ [x])).size = (contents xs).size +
    if (name? x).getD (toString (contents xs).size) ∈ (contents xs).keys then 0 else 1 := by
  rw [h.concat, Dict.size_insert]

theorem mem_keys_of_known {xs : List α} {x : α} (hx : Known name? xs x) :
    (name? x).getD (toString (contents xs).size) ∈ (contents xs).keys := by
  obtain ⟨name, hname, hx⟩ := hx
  rw [hx, Option.getD_some]
  exact (h.mem_keys_iff xs name).2 (.inl hname)

/-- While keys are respected, the numbers in use are below the size. -/
theorem lt_size_of_isNumber (xs : List α) (hr : EachCall (RespectsKeys name? contents) xs) :
    ∀ key, IsNumber name? contents xs key → ∃ n < (contents xs).size, key = toString n := by
  induction xs using List.reverseRecOn with
  | nil =>
    rintro key ⟨before, x, after, hxs, -⟩
    cases before <;> cases hxs
  | append_singleton xs x ih =>
    obtain ⟨hr, hlast⟩ := eachCall_concat.1 hr
    intro key hkey
    rw [h.size_concat]
    obtain hkey | ⟨hx, rfl⟩ := isNumber_concat.1 hkey
    · obtain ⟨n, hn, hkey⟩ := ih hr key hkey
      exact ⟨n, by omega, hkey⟩
    · have hnew := mt hlast (not_known_of_none hx)
      exact ⟨_, by rw [if_neg hnew]; omega, rfl⟩

/-- A call that respects the keys brings up no clash, and one that does not does. -/
theorem noClash_concat {xs : List α} (hr : EachCall (RespectsKeys name? contents) xs)
    (hclash : NoClash name? contents xs) (x : α) :
    NoClash name? contents (xs ++ [x]) ↔ RespectsKeys name? contents xs x := by
  constructor
  · intro hclash' hkey
    rcases hx : name? x with _ | name
    · -- a number that is in use is below the size, so this one would have to be a name
      rw [hx, Option.getD_none, h.mem_keys_iff] at hkey
      obtain hname | hnumber := hkey
      · refine absurd ?_ (hclash' _ (isNumber_concat.2 (.inr ⟨hx, rfl⟩)))
        rw [List.filterMap_append]
        exact List.mem_append_left _ hname
      · obtain ⟨n, hn, heq⟩ := h.lt_size_of_isNumber xs hr _ hnumber
        have := number_injective heq
        omega
    · rw [hx, Option.getD_some, h.mem_keys_iff] at hkey
      rw [known_iff_of_some hx]
      refine hkey.resolve_right fun hnumber => ?_
      refine hclash' name (isNumber_concat.2 (.inl hnumber)) ?_
      simp [hx]
  · intro hrespects key hkey hname
    rw [List.filterMap_append, List.mem_append] at hname
    obtain hkey | ⟨hx, rfl⟩ := isNumber_concat.1 hkey
    · have hmem := (h.mem_keys_iff xs key).2 (.inr hkey)
      obtain hname | hname := hname
      · exact hclash key hkey hname
      · have hx : name? x = some key := by simpa using hname
        obtain ⟨name, hname, hx'⟩ := hrespects (by rwa [hx, Option.getD_some])
        cases hx.symm.trans hx'
        exact hclash key hkey hname
    · obtain hname | hname := hname
      · have hmem := (h.mem_keys_iff xs _).2 (.inl hname)
        exact not_known_of_none hx (hrespects (by rwa [hx, Option.getD_none]))
      · simp [hx] at hname

/-- Where keys are not respected a number clashes with a name, and the other way round. -/
theorem respectsKeys_iff_noClash (xs : List α) :
    EachCall (RespectsKeys name? contents) xs ↔ NoClash name? contents xs := by
  induction xs using List.reverseRecOn with
  | nil =>
    refine ⟨fun _ key hk => ?_, fun _ => eachCall_nil _⟩
    simp
  | append_singleton xs x ih =>
    rw [eachCall_concat]
    constructor
    · rintro ⟨hr, hlast⟩
      exact (h.noClash_concat hr (ih.1 hr) x).2 hlast
    · intro hclash
      have hr := ih.2 hclash.of_concat
      exact ⟨hr, (h.noClash_concat hr hclash.of_concat x).1 hclash⟩

/-- What is there under a name has the name, if nothing clashes with it. -/
theorem name_of_get?_of_mem {xs : List α} (hclash : NoClash name? contents xs) {name : String}
    (hname : name ∈ xs.filterMap name?) {v : α} (hv : (contents xs).get? name = some v) :
    name? v = some name :=
  (h.name_of_get? xs hv).2.resolve_right fun hnumber => hclash name hnumber.2 hname

/-- What respects the keys is what loses nothing, if this was so before. -/
theorem losesNothing_iff_of_respectsKeys {xs : List α}
    (hr : EachCall (RespectsKeys name? contents) xs) (x : α) :
    LosesNothing name? contents xs x ↔ RespectsKeys name? contents xs x := by
  constructor
  · intro hkeep hkey
    obtain ⟨v, hv⟩ := Option.ne_none_iff_exists'.1 (mt Dict.get?_eq_none_iff.1 (not_not.2 hkey))
    obtain ⟨hmem, hname⟩ := h.name_of_get? xs hv
    obtain hstays | ⟨name, hvname, hx⟩ := hkeep _ (Dict.get?_eq_some_iff.1 hv)
    · -- it stays although `x` was put in its place, so it is `x`
      rw [← Dict.get?_eq_some_iff, h.concat, Dict.get?_insert_self, Option.some.injEq] at hstays
      subst hstays
      rcases hx : name? x with _ | name
      · rw [hx, Option.getD_none] at hname
        obtain ⟨n, hn, heq⟩ := h.lt_size_of_isNumber xs hr _ (hname.resolve_left (by simp)).2
        have := number_injective heq
        omega
      · exact (known_iff_of_some hx).2 (List.mem_filterMap.2 ⟨x, hmem, hx⟩)
    · exact ⟨name, List.mem_filterMap.2 ⟨v, hmem, hvname⟩, hx⟩
  · intro hrespects entry hentry
    have hv := Dict.get?_eq_some_iff.2 hentry
    rw [← Dict.get?_eq_some_iff, h.concat, Dict.get?_insert]
    split
    · rename_i hkey
      have hmem := Dict.mem_keys_of_get? hv
      rw [hkey] at hmem
      obtain ⟨name, hname, hx⟩ := hrespects hmem
      rw [hx, Option.getD_some] at hkey
      rw [hkey] at hv
      exact .inr ⟨name,
        h.name_of_get?_of_mem ((h.respectsKeys_iff_noClash xs).1 hr) hname hv, hx⟩
    · exact .inl hv

theorem losesNothing_iff (xs : List α) :
    EachCall (LosesNothing name? contents) xs ↔ EachCall (RespectsKeys name? contents) xs := by
  induction xs using List.reverseRecOn with
  | nil => exact ⟨fun _ => eachCall_nil _, fun _ => eachCall_nil _⟩
  | append_singleton xs x ih =>
    rw [eachCall_concat, eachCall_concat, ih]
    exact and_congr_right fun hr => h.losesNothing_iff_of_respectsKeys hr x

theorem size_le (xs : List α) : (contents xs).size ≤ expectedSize name? xs := by
  induction xs using List.reverseRecOn with
  | nil =>
    rw [h.nil]
    exact Nat.zero_le _
  | append_singleton xs x ih =>
    rw [h.size_concat, expectedSize_concat]
    by_cases hknown : Known name? xs x
    · rw [if_pos (h.mem_keys_of_known hknown), if_pos hknown]
      omega
    · rw [if_neg hknown]
      split <;> omega

theorem size_eq_iff (xs : List α) : (contents xs).size = expectedSize name? xs ↔
    EachCall (RespectsKeys name? contents) xs := by
  induction xs using List.reverseRecOn with
  | nil =>
    rw [h.nil]
    exact ⟨fun _ => eachCall_nil _, fun _ => rfl⟩
  | append_singleton xs x ih =>
    rw [h.size_concat, expectedSize_concat, eachCall_concat, ← ih, RespectsKeys]
    have hle := h.size_le xs
    by_cases hknown : Known name? xs x
    · rw [if_pos (h.mem_keys_of_known hknown), if_pos hknown, Nat.add_zero, Nat.add_zero]
      exact ⟨fun hsize => ⟨hsize, fun _ => hknown⟩, And.left⟩
    · rw [if_neg hknown]
      split
      · rename_i hmem
        refine ⟨fun hsize => by omega, fun ⟨_, hrespects⟩ => absurd (hrespects hmem) hknown⟩
      · rename_i hmem
        exact ⟨fun hsize => ⟨by omega, fun hkey => absurd hkey hmem⟩, fun ⟨hsize, _⟩ => by omega⟩

theorem size_le_length (xs : List α) : (contents xs).size ≤ xs.length := by
  induction xs using List.reverseRecOn with
  | nil =>
    rw [h.nil]
    exact Nat.zero_le _
  | append_singleton xs x ih =>
    rw [h.size_concat, List.length_append, List.length_singleton]
    split <;> omega

/-- A number is below that of the additions. -/
theorem lt_length_of_isNumber {xs : List α} {key : String} (hkey : IsNumber name? contents xs key) :
    ∃ n < xs.length, key = toString n := by
  obtain ⟨before, x, after, rfl, -, rfl⟩ := hkey
  refine ⟨_, ?_, rfl⟩
  have := h.size_le_length before
  rw [List.length_append, List.length_cons]
  omega

theorem values_concat_of_known {xs : List α} {x : α} (hclash : NoClash name? contents xs)
    (hknown : Known name? xs x) : (contents (xs ++ [x])).values
      = (contents xs).values.map fun v => if name? x = name? v then x else v := by
  obtain ⟨name, hname, hx⟩ := hknown
  have hmem := (h.mem_keys_iff xs name).2 (.inl hname)
  rw [h.concat, hx, Option.getD_some, Dict.values, Dict.toList_insert,
    Entries.map_snd_put x (contents xs).nodup hmem, Dict.values, List.map_map]
  refine List.map_congr_left fun entry hentry => ?_
  have hv := Dict.get?_eq_some_iff.2 hentry
  have hkey : entry.1 = name ↔ name? entry.2 = some name := by
    constructor
    · rintro rfl
      exact h.name_of_get?_of_mem hclash hname hv
    · intro hvname
      obtain ⟨-, hname' | hnone⟩ := h.name_of_get? xs hv
      · exact Option.some.inj (hname'.symm.trans hvname)
      · cases hnone.1.symm.trans hvname
  simp only [Function.comp_apply, hkey, eq_comm]

theorem values_of_respectsKeys (xs : List α) (hr : EachCall (RespectsKeys name? contents) xs) :
    (contents xs).values = (firstsFrom name? [] xs).map (latest name? xs) := by
  induction xs using List.reverseRecOn with
  | nil =>
    rw [h.nil]
    rfl
  | append_singleton xs x ih =>
    obtain ⟨hr, hlast⟩ := eachCall_concat.1 hr
    have hclash := (h.respectsKeys_iff_noClash xs).1 hr
    rw [firsts_concat]
    by_cases hknown : Known name? xs x
    · rw [h.values_concat_of_known hclash hknown, ih hr, if_pos hknown, List.append_nil,
        map_latest_of_known hknown]
    · rw [h.concat, Dict.values, Dict.toList_insert, Entries.put_of_not_mem x (mt hlast hknown),
        if_neg hknown, map_latest_of_not_known hknown, ← ih hr, List.map_append,
        List.map_singleton, Dict.values]

/-- Values that are added by name are all kept exactly if no numbers clash with names. -/
theorem additions : Additions name? contents where
  losesNothing_iff xs := (h.losesNothing_iff xs).trans (h.respectsKeys_iff_noClash xs)
  size_iff xs := (h.size_eq_iff xs).trans (h.respectsKeys_iff_noClash xs)
  values_iff xs := by
    rw [← h.respectsKeys_iff_noClash]
    refine ⟨fun hvalues => (h.size_eq_iff xs).1 ?_, h.values_of_respectsKeys xs⟩
    have hlength := congrArg List.length hvalues
    rwa [Dict.values, List.length_map, List.length_map, length_firsts] at hlength
  noClash xs hnames key hkey := by
    obtain ⟨n, hn, rfl⟩ := h.lt_length_of_isNumber hkey
    exact hnames n hn

end AddsByName

/-! ## Fields and validations -/

theorem Entity.addsByName (name : String) :
    AddsByName Field.name fun fields => (fields.foldl addField (.named name)).fields where
  nil := rfl
  concat fields f := by
    rw [List.foldl_append]
    rfl

theorem Field.addsByName (name type : String) :
    AddsByName Validation.name fun validations =>
      (validations.foldl addValidation { name := some name, type := some type }).validations where
  nil := rfl
  concat validations v := by
    rw [List.foldl_append]
    rfl

/-- Fields that are added to a new entity, and validations that are added to a new field, are all
kept, each name at its first place with what was added last under it, exactly if no unnamed one
comes under a number that is the name of another one.  Else some call drops what it should keep and
there are fewer than there should be. -/
theorem kept_of_additions (name type : String) :
    (Additions Field.name fun fields =>
      (fields.foldl Entity.addField (.named name)).fields) ∧
    Additions Validation.name fun validations =>
      (validations.foldl Field.addValidation
        { name := some name, type := some type }).validations :=
  ⟨(Entity.addsByName name).additions, (Field.addsByName name type).additions⟩

/-- A field that is named by a number, and one that has no name. -/
def Field.numbered : List Field :=
  [{ name := some "1", type := some "String" }, { type := some "Integer" }]

/-- The field without a name is the second one, and takes the place of the field named 1. -/
theorem Entity.addField_numbered :
    ¬ EachCall (LosesNothing Field.name fun fields =>
      (fields.foldl addField (.named "Invoice")).fields) Field.numbered ∧
    (Field.numbered.foldl addField (.named "Invoice")).fields.values
      = [{ type := some "Integer" }] ∧
    expectedSize Field.name Field.numbered = 2 := by
  refine ⟨fun hkept => ?_, by decide +kernel, by decide +kernel⟩
  have hfirst := hkept [{ name := some "1", type := some "String" }] { type := some "Integer" } []
    rfl ("1", { name := some "1", type := some "String" }) (by decide +kernel)
  obtain hstays | ⟨name, -, hnone⟩ := hfirst
  · revert hstays
    decide +kernel
  · cases hnone

end DomainModel
