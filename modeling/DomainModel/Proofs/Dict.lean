import DomainModel.Dict

/-!
# Laws of dictionaries

A dictionary is known by its keys, in order, and by what it has at each of them (`ext_get?`).  Of
pairs that are set in turn, each key keeps its first place (`keys_insertAll`) and the value that
comes last (`get?_insertAll`), whatever stands between the two.
-/

namespace DomainModel

variable {α β : Type}

theorem eraseDups_of_nodup {names : List String} (h : names.Nodup) : names.eraseDups = names := by
  induction names with
  | nil => rfl
  | cons name names ih =>
    obtain ⟨hn, h⟩ := List.nodup_cons.1 h
    have hf : names.filter (fun other => !other == name) = names := by
      refine List.filter_eq_self.2 fun other ho => ?_
      simp only [Bool.not_eq_true', beq_eq_false_iff_ne]
      rintro rfl
      exact hn ho
    rw [List.eraseDups_cons, hf, ih h]

namespace Entries

theorem mem_iff_lookup {es : List (String × α)} (h : (es.map Prod.fst).Nodup) {k : String} {v : α} :
    (k, v) ∈ es ↔ es.lookup k = some v := by
  induction es with
  | nil => simp
  | cons e es ih =>
    obtain ⟨k', v'⟩ := e
    obtain ⟨he, hes⟩ := List.nodup_cons.1 h
    rw [lookup_cons_ite, List.mem_cons, Prod.mk.injEq]
    by_cases hk : k = k'
    · subst hk
      have hv : (k, v) ∉ es := fun hm => he (List.mem_map.2 ⟨(k, v), hm, rfl⟩)
      simp [hv, eq_comm]
    · simp [hk, ih hes]

theorem lookup_eq_none_iff {es : List (String × α)} {k : String} :
    es.lookup k = none ↔ k ∉ es.map Prod.fst := by
  simp only [List.lookup_eq_none_iff, bne_iff_ne, List.mem_map, not_exists, not_and]
  exact ⟨fun h p hp hk => h p hp hk.symm, fun h p hp hk => h p hp hk.symm⟩

/-- Entries with the same keys and the same look-ups are the same. -/
theorem eq_of_lookup {es fs : List (String × α)} (h : (es.map Prod.fst).Nodup)
    (hk : es.map Prod.fst = fs.map Prod.fst) (hl : ∀ k, es.lookup k = fs.lookup k) : es = fs := by
  induction es generalizing fs with
  | nil => exact (List.map_eq_nil_iff.1 hk.symm).symm
  | cons e es ih =>
    obtain ⟨e', fs, rfl⟩ : ∃ e' fs', fs = e' :: fs' := by
      cases fs with
      | nil => simp at hk
      | cons e' fs => exact ⟨e', fs, rfl⟩
    obtain ⟨hf, hk⟩ := List.cons.inj hk
    obtain ⟨he, h⟩ := List.nodup_cons.1 h
    have hv : e.2 = e'.2 := by
      have := hl e.1
      rw [lookup_cons_ite, lookup_cons_ite, if_pos rfl, if_pos hf] at this
      exact Option.some.inj this
    have hrest : ∀ k, es.lookup k = fs.lookup k := by
      intro k
      by_cases hke : k = e.1
      · rw [hke, lookup_eq_none_iff.2 he, lookup_eq_none_iff.2 (hk ▸ he)]
      · have := hl k
        rwa [lookup_cons_ite, lookup_cons_ite, if_neg hke, if_neg (hf ▸ hke)] at this
    rw [ih h hk hrest, Prod.ext hf hv]

theorem put_of_not_mem {k : String} (v : α) : ∀ {es : List (String × α)},
    k ∉ es.map Prod.fst → put k v es = es ++ [(k, v)]
  | [], _ => rfl
  | e :: es, h => by
    simp only [List.map_cons, List.mem_cons, not_or] at h
    rw [put, if_neg (Ne.symm h.1), put_of_not_mem v h.2, List.cons_append]

theorem lookup_reverse_of_nodup {es : List (String × α)} (h : (es.map Prod.fst).Nodup)
    (k : String) : es.reverse.lookup k = es.lookup k := by
  have hr : (es.reverse.map Prod.fst).Nodup := by
    rw [List.map_reverse]
    exact (List.reverse_perm _).nodup_iff.2 h
  apply Option.ext
  intro v
  rw [← mem_iff_lookup hr, ← mem_iff_lookup h, List.mem_reverse]

end Entries

namespace Dict

theorem ext_get? {d e : Dict α} (hk : d.keys = e.keys) (hg : ∀ k, d.get? k = e.get? k) : d = e :=
  ext_toList (Entries.eq_of_lookup d.nodup hk hg)

theorem get?_eq_some_iff {d : Dict α} {k : String} {v : α} :
    d.get? k = some v ↔ (k, v) ∈ d.toList :=
  (Entries.mem_iff_lookup d.nodup).symm

theorem get?_eq_none_iff {d : Dict α} {k : String} : d.get? k = none ↔ k ∉ d.keys :=
  Entries.lookup_eq_none_iff

theorem mem_keys_of_get? {d : Dict α} {k : String} {v : α} (h : d.get? k = some v) :
    k ∈ d.keys := by
  refine Classical.byContradiction fun hk => ?_
  rw [get?_eq_none_iff.2 hk] at h
  cases h

theorem mem_values_iff {d : Dict α} {v : α} : v ∈ d.values ↔ ∃ k, d.get? k = some v := by
  simp only [values, get?_eq_some_iff, List.mem_map, Prod.exists, exists_eq_right]

/-- Values that say what key they stand at give back the keys. -/
theorem map_values_eq_keys {d : Dict α} {f : α → String}
    (h : ∀ k v, d.get? k = some v → f v = k) : d.values.map f = d.keys := by
  rw [values, keys, List.map_map]
  refine List.map_congr_left fun e he => ?_
  exact h e.1 e.2 (get?_eq_some_iff.2 he)

theorem keys_insert_of_mem {d : Dict α} {k : String} (h : k ∈ d.keys) (v : α) :
    (d.insert k v).keys = d.keys := by
  rw [keys_insert, if_pos h]

theorem get?_insert_self (d : Dict α) (k : String) (v : α) : (d.insert k v).get? k = some v := by
  rw [get?_insert, if_pos rfl]

theorem eraseDups_keys_insert (d : Dict α) (k : String) (v : α) (names : List String) :
    ((d.insert k v).keys ++ names).eraseDups = (d.keys ++ k :: names).eraseDups := by
  rw [keys_insert]
  split
  · rename_i h
    rw [List.eraseDups_append, List.eraseDups_append]
    simp [List.removeAll, h]
  · rw [List.append_assoc, List.singleton_append]

/-- Setting a key again undoes the first setting. -/
theorem insert_insert (d : Dict α) (k : String) (v w : α) :
    (d.insert k v).insert k w = d.insert k w := by
  refine ext_get? ?_ fun k' => ?_
  · rw [keys_insert_of_mem (mem_keys_of_get? (get?_insert_self d k v)), keys_insert, keys_insert]
  · rw [get?_insert, get?_insert, get?_insert]
    split <;> rfl

theorem erase_erase (d : Dict α) (k : String) : (d.erase k).erase k = d.erase k := by
  apply ext_toList
  simp [erase, List.filter_filter]

theorem get?_erase (d : Dict α) (k k' : String) :
    (d.erase k).get? k' = if k' = k then none else d.get? k' := by
  simp only [get?, erase]
  induction d.toList with
  | nil => simp
  | cons e es ih =>
    by_cases he : e.1 = k
    · rw [List.filter_cons_of_neg (by simp [he]), ih, Entries.lookup_cons_ite, he]
      split <;> rfl
    · rw [List.filter_cons_of_pos (by simp [he]), Entries.lookup_cons_ite,
        Entries.lookup_cons_ite, ih]
      by_cases hk : k' = e.1
      · simp [hk, he]
      · simp [hk]

theorem get?_map (f : α → β) (d : Dict α) (k : String) : (d.map f).get? k = (d.get? k).map f := by
  simp only [get?, map]
  induction d.toList with
  | nil => rfl
  | cons e es ih =>
    rw [List.map_cons, Entries.lookup_cons_ite, Entries.lookup_cons_ite, ih]
    split <;> rfl

theorem values_map (f : α → β) (d : Dict α) : (d.map f).values = d.values.map f := by
  simp [values, map, Function.comp_def]

theorem map_map {γ : Type} (f : α → β) (f' : β → γ) (d : Dict α) :
    (d.map f).map f' = d.map (f' ∘ f) :=
  ext_toList (List.map_map ..)

theorem map_eq_self {f : α → α} {d : Dict α} (h : ∀ e ∈ d.toList, f e.2 = e.2) : d.map f = d := by
  have hid : d.toList.map (fun e => (e.1, f e.2)) = d.toList.map id :=
    List.map_congr_left fun e he => Prod.ext rfl (h e he)
  exact ext_toList (hid.trans (List.map_id _))

theorem keys_modify (d : Dict α) (k : String) (f : α → α) : (d.modify k f).keys = d.keys := by
  unfold modify
  split
  · rename_i v hv
    exact keys_insert_of_mem (mem_keys_of_get? hv) _
  · rfl

theorem get?_modify (d : Dict α) (k : String) (f : α → α) (k' : String) :
    (d.modify k f).get? k' = if k' = k then (d.get? k).map f else d.get? k' := by
  unfold modify
  split
  · rename_i v hv
    rw [get?_insert, hv, Option.map_some]
  · rename_i hv
    split
    · rename_i hk
      rw [hk, hv, Option.map_none]
    · rfl

/-- The same keys in the same order, each value replaced by what `f` makes of it and its key. -/
def mapKeyed (f : String → α → β) (d : Dict α) : Dict β where
  toList := d.toList.map fun e => (e.1, f e.1 e.2)
  nodup := by
    have h : (d.toList.map fun e => (e.1, f e.1 e.2)).map Prod.fst = d.toList.map Prod.fst := by
      simp [Function.comp_def]
    rw [h]
    exact d.nodup

theorem keys_mapKeyed (f : String → α → β) (d : Dict α) : (d.mapKeyed f).keys = d.keys := by
  simp [keys, mapKeyed, Function.comp_def]

theorem get?_mapKeyed (f : String → α → β) (d : Dict α) (k : String) :
    (d.mapKeyed f).get? k = (d.get? k).map (f k) := by
  simp only [get?, mapKeyed]
  induction d.toList with
  | nil => rfl
  | cons e es ih =>
    rw [List.map_cons, Entries.lookup_cons_ite, Entries.lookup_cons_ite, ih]
    by_cases hk : k = e.1
    · rw [if_pos hk, if_pos hk, hk]
      rfl
    · rw [if_neg hk, if_neg hk]

theorem values_mapKeyed (f : String → α → β) (d : Dict α) :
    (d.mapKeyed f).values = d.toList.map fun e => f e.1 e.2 := by
  simp [values, mapKeyed, Function.comp_def]

theorem values_mapKeyed_insert (f : String → α → β) {d : Dict α} {k : String} (h : k ∉ d.keys)
    (v : α) : ((d.insert k v).mapKeyed f).values = (d.mapKeyed f).values ++ [f k v] := by
  rw [values_mapKeyed, values_mapKeyed, toList_insert, Entries.put_of_not_mem v h, List.map_append]
  rfl

theorem mapKeyed_congr {f f' : String → α → β} {d : Dict α}
    (h : ∀ k v, d.get? k = some v → f k v = f' k v) : d.mapKeyed f = d.mapKeyed f' := by
  apply ext_toList
  refine List.map_congr_left fun e he => ?_
  rw [h e.1 e.2 (get?_eq_some_iff.2 he)]

/-! ## Setting many keys -/

/-- The dictionary in which each pair has been set in turn, after what it holds. -/
def insertAll (d : Dict α) (es : List (String × α)) : Dict α :=
  es.foldl (fun d e => d.insert e.1 e.2) d

theorem keys_insertAll (d : Dict α) (es : List (String × α)) :
    (d.insertAll es).keys = (d.keys ++ es.map Prod.fst).eraseDups := by
  induction es generalizing d with
  | nil =>
    rw [List.map_nil, List.append_nil]
    exact (eraseDups_of_nodup d.nodup).symm
  | cons e es ih =>
    rw [insertAll, List.foldl_cons, ← insertAll, ih, eraseDups_keys_insert, List.map_cons]

theorem get?_insertAll (d : Dict α) (es : List (String × α)) (k : String) :
    (d.insertAll es).get? k = (es.reverse.lookup k).or (d.get? k) := by
  induction es generalizing d with
  | nil => simp [insertAll]
  | cons e es ih =>
    have he : [e].lookup k = if k = e.1 then some e.2 else none := by
      rw [Entries.lookup_cons_ite, List.lookup_nil]
    rw [insertAll, List.foldl_cons, ← insertAll, ih, get?_insert, List.reverse_cons,
      List.lookup_append, Option.or_assoc, he]
    split <;> simp

/-- A key that is not set again keeps the value that it was last set to. -/
theorem get?_insertAll_of_last (d : Dict α) {before after : List (String × α)} {k : String}
    {v : α} (h : k ∉ after.map Prod.fst) :
    (d.insertAll (before ++ (k, v) :: after)).get? k = some v := by
  have ha : after.reverse.lookup k = none :=
    Entries.lookup_eq_none_iff.2 (by rwa [List.map_reverse, List.mem_reverse])
  rw [get?_insertAll, List.reverse_append, List.reverse_cons, List.append_assoc,
    List.lookup_append, ha, List.singleton_append, Entries.lookup_cons_ite]
  simp

theorem ofList_append (es fs : List (String × α)) : ofList (es ++ fs) = (ofList es).insertAll fs :=
  List.foldl_append

theorem keys_ofList (es : List (String × α)) :
    (ofList es).keys = (es.map Prod.fst).eraseDups := keys_insertAll empty es

theorem get?_ofList_of_last {before after : List (String × α)} {k : String} {v : α}
    (h : k ∉ after.map Prod.fst) : (ofList (before ++ (k, v) :: after)).get? k = some v :=
  get?_insertAll_of_last empty h

/-- What is computed from each key is found at each key. -/
theorem get?_ofList_map (f : String → α) (names : List String) (k : String) :
    (ofList (names.map fun name => (name, f name))).get? k
      = if k ∈ names then some (f k) else none := by
  have h : ∀ names : List String, (names.map fun name => (name, f name)).lookup k
      = if k ∈ names then some (f k) else none := by
    intro names
    induction names with
    | nil => rfl
    | cons name names ih =>
      rw [List.map_cons, Entries.lookup_cons_ite, ih]
      by_cases hk : k = name
      · simp [hk]
      · simp [hk]
  have hof : (ofList (names.map fun name => (name, f name))).get? k = _ := get?_insertAll empty _ k
  rw [hof, ← List.map_reverse, h, get?_empty, Option.or_none]
  simp only [List.mem_reverse]

theorem keys_ofList_map (f : String → α) (names : List String) :
    (ofList (names.map fun name => (name, f name))).keys = names.eraseDups := by
  rw [keys_ofList, List.map_map]
  exact congrArg _ (List.map_id names)

theorem values_ofList_map (f : String → α) (names : List String) :
    (ofList (names.map fun name => (name, f name))).values = names.eraseDups.map f := by
  rw [← keys_ofList_map f, keys, values, List.map_map]
  refine List.map_congr_left fun e he => ?_
  have hget := get?_eq_some_iff.2 he
  rw [get?_ofList_map] at hget
  split at hget
  · exact (Option.some.inj hget).symm
  · cases hget

end Dict

/-- Of the pairs of a key that are collapsed, the last counts. -/
theorem Entries.lookup_collapse (es : List (String × α)) (k : String) :
    (collapse es).lookup k = es.reverse.lookup k := by
  have h := Dict.get?_insertAll (.empty : Dict α) es k
  rw [Dict.get?_empty, Option.or_none] at h
  rw [← Dict.toList_ofList]
  exact h

end DomainModel
