/-!
# Dictionaries in insertion order

A dictionary holds each key once, and lists its entries in the order in which their keys first
came. Setting a key that is present replaces its value where it stands; a new key goes to the end
(`map_fst_put`, `lookup_put`). Erasing a key leaves the order of the others alone.
-/

namespace DomainModel

variable {α β : Type}

namespace Entries

/-- Sets `k` to `v` in a list of entries: in place if `k` is there, at the end if not. -/
def put (k : String) (v : α) : List (String × α) → List (String × α)
  | [] => [(k, v)]
  | e :: es => if e.1 = k then (k, v) :: es else e :: put k v es

/-- The entries that come of setting each pair in turn: a repeated key keeps its first place and
its last value. -/
def collapse (es : List (String × α)) : List (String × α) :=
  es.foldl (fun acc e => put e.1 e.2 acc) []

/-- The value at `k`, and the entries without the first of that key. -/
def takeOut (k : String) : List (String × α) → Option α × List (String × α)
  | [] => (none, [])
  | e :: es =>
    if e.1 = k then (some e.2, es)
    else
      let (v, rest) := takeOut k es
      (v, e :: rest)

theorem map_fst_put (k : String) (v : α) (es : List (String × α)) :
    (put k v es).map Prod.fst
      = if k ∈ es.map Prod.fst then es.map Prod.fst else es.map Prod.fst ++ [k] := by
  induction es with
  | nil => rfl
  | cons e es ih =>
    by_cases h : e.1 = k
    · simp [put, h]
    · have h' : ¬ k = e.1 := fun hk => h hk.symm
      simp only [put, h, if_false, List.map_cons, ih, List.mem_cons, h', false_or]
      split <;> simp

/-- One entry is looked at before the rest. -/
theorem lookup_cons_ite (e : String × α) (es : List (String × α)) (k : String) :
    (e :: es).lookup k = if k = e.1 then some e.2 else es.lookup k := by
  obtain ⟨k', v⟩ := e
  by_cases h : k = k'
  · simp [h]
  · simp [List.lookup_cons, h, beq_eq_false_iff_ne.2 h]

theorem lookup_put (k k' : String) (v : α) (es : List (String × α)) :
    (put k v es).lookup k' = if k' = k then some v else es.lookup k' := by
  induction es with
  | nil => simp [put, lookup_cons_ite]
  | cons e es ih =>
    by_cases h₀ : e.1 = k
    · simp only [put, h₀, if_true, lookup_cons_ite]
      split <;> rfl
    · simp only [put, h₀, if_false, lookup_cons_ite, ih]
      by_cases h : k' = e.1
      · simp [h, h₀]
      · simp [h]

theorem nodup_put {k : String} {v : α} {es : List (String × α)} (h : (es.map Prod.fst).Nodup) :
    ((put k v es).map Prod.fst).Nodup := by
  rw [map_fst_put]
  split
  · exact h
  · rename_i hk
    refine List.nodup_append.2 ⟨h, by simp, ?_⟩
    simp only [List.mem_singleton]
    rintro a ha b rfl rfl
    exact hk ha

theorem takeOut_eq {k : String} {es : List (String × α)} (h : (es.map Prod.fst).Nodup) :
    takeOut k es = (es.lookup k, es.filter (·.1 ≠ k)) := by
  induction es with
  | nil => rfl
  | cons e es ih =>
    obtain ⟨he, hes⟩ := List.nodup_cons.1 h
    rw [takeOut, lookup_cons_ite]
    by_cases hk : e.1 = k
    · have hrest : es.filter (·.1 ≠ k) = es := by
        refine List.filter_eq_self.2 fun e' he' => decide_eq_true ?_
        rintro rfl
        exact he (hk ▸ List.mem_map_of_mem he')
      rw [if_pos hk, if_pos hk.symm, List.filter_cons_of_neg (by simp [hk]), hrest]
    · rw [if_neg hk, if_neg (Ne.symm hk), List.filter_cons_of_pos (by simp [hk]), ih hes]

theorem nodup_takeOut {k : String} {es : List (String × α)} (h : (es.map Prod.fst).Nodup) :
    ((takeOut k es).2.map Prod.fst).Nodup := by
  rw [takeOut_eq h]
  exact h.sublist (List.filter_sublist.map _)

end Entries

/-- Values by key, in the order in which the keys first came. -/
structure Dict (α : Type) where
  toList : List (String × α)
  /-- No key comes twice. -/
  nodup : (toList.map Prod.fst).Nodup
  deriving DecidableEq, Repr

namespace Dict

def empty : Dict α := ⟨[], by simp⟩

instance : Inhabited (Dict α) := ⟨empty⟩

/-- The keys, in order. -/
def keys (d : Dict α) : List String := d.toList.map Prod.fst

/-- The values, in the order of their keys. -/
def values (d : Dict α) : List α := d.toList.map Prod.snd

def size (d : Dict α) : Nat := d.toList.length

/-- The value at `k`. -/
def get? (d : Dict α) (k : String) : Option α := d.toList.lookup k

/-- Sets `k` to `v`: in place if `k` is there, at the end if not. -/
def insert (d : Dict α) (k : String) (v : α) : Dict α :=
  ⟨Entries.put k v d.toList, Entries.nodup_put d.nodup⟩

/-- The dictionary without `k`. -/
def erase (d : Dict α) (k : String) : Dict α where
  toList := d.toList.filter (·.1 ≠ k)
  nodup := d.nodup.sublist (List.filter_sublist.map _)

/-- The value at `k`, and the dictionary without it. -/
def takeOut (d : Dict α) (k : String) : Option α × Dict α :=
  let taken := Entries.takeOut k d.toList
  (taken.1, ⟨taken.2, Entries.nodup_takeOut d.nodup⟩)

/-- The same keys in the same order, with `f` applied to every value. -/
def map (f : α → β) (d : Dict α) : Dict β where
  toList := d.toList.map fun e => (e.1, f e.2)
  nodup := by
    have h : (d.toList.map fun e => (e.1, f e.2)).map Prod.fst = d.toList.map Prod.fst := by
      simp [Function.comp_def]
    rw [h]
    exact d.nodup

/-- The dictionary in which each pair has been set in turn. -/
def ofList (es : List (String × α)) : Dict α :=
  es.foldl (fun d e => d.insert e.1 e.2) empty

/-- Replaces the value at `k`, if there is one, by its image under `f`. -/
def modify (d : Dict α) (k : String) (f : α → α) : Dict α :=
  match d.get? k with
  | some v => d.insert k (f v)
  | none => d

@[simp] theorem toList_empty : (empty : Dict α).toList = [] := rfl

@[simp] theorem get?_empty (k : String) : (empty : Dict α).get? k = none := rfl

theorem ext_toList {d e : Dict α} (h : d.toList = e.toList) : d = e := by
  cases d
  cases e
  cases h
  rfl

theorem toList_insert (d : Dict α) (k : String) (v : α) :
    (d.insert k v).toList = Entries.put k v d.toList := rfl

theorem keys_insert (d : Dict α) (k : String) (v : α) :
    (d.insert k v).keys = if k ∈ d.keys then d.keys else d.keys ++ [k] :=
  Entries.map_fst_put k v d.toList

theorem get?_insert (d : Dict α) (k k' : String) (v : α) :
    (d.insert k v).get? k' = if k' = k then some v else d.get? k' :=
  Entries.lookup_put k k' v d.toList

theorem keys_erase (d : Dict α) (k : String) : (d.erase k).keys = d.keys.filter (· ≠ k) := by
  simp [keys, erase, List.filter_map, Function.comp_def]

theorem takeOut_eq (d : Dict α) (k : String) : d.takeOut k = (d.get? k, d.erase k) := by
  simp only [takeOut, Entries.takeOut_eq d.nodup]
  rfl

theorem keys_map (f : α → β) (d : Dict α) : (d.map f).keys = d.keys := by
  simp [keys, map, Function.comp_def]

/-- Building a dictionary from pairs collapses them. -/
theorem toList_ofList (es : List (String × α)) : (ofList es).toList = Entries.collapse es := by
  have h : ∀ (es : List (String × α)) (d : Dict α),
      (es.foldl (fun d e => d.insert e.1 e.2) d).toList
        = es.foldl (fun acc e => Entries.put e.1 e.2 acc) d.toList := by
    intro es
    induction es with
    | nil => intro d; rfl
    | cons e es ih => intro d; simp [ih, toList_insert]
  exact h es empty

end Dict

end DomainModel
