/-!
# Sets of names in insertion order

A set of names lists each name once, in the order in which the names first came.
-/

namespace DomainModel

/-- Distinct names, in the order in which they first came. -/
structure NameSet where
  toList : List String
  /-- No name comes twice. -/
  nodup : toList.Nodup
  deriving DecidableEq, Repr

namespace NameSet

def empty : NameSet := ⟨[], by simp⟩

instance : Inhabited NameSet := ⟨empty⟩

/-- Adds a name at the end, unless it is there. -/
def insert (s : NameSet) (name : String) : NameSet where
  toList := if name ∈ s.toList then s.toList else s.toList ++ [name]
  nodup := by
    split
    · exact s.nodup
    · rename_i h
      refine List.nodup_append.2 ⟨s.nodup, by simp, ?_⟩
      simp only [List.mem_singleton]
      rintro a ha b rfl rfl
      exact h ha

/-- The names of a list, each at its first place. -/
def ofList (names : List String) : NameSet := names.foldl insert empty

instance : Membership String NameSet := ⟨fun s name => name ∈ s.toList⟩

instance (name : String) (s : NameSet) : Decidable (name ∈ s) :=
  inferInstanceAs (Decidable (name ∈ s.toList))

theorem mem_iff {name : String} {s : NameSet} : name ∈ s ↔ name ∈ s.toList := Iff.rfl

theorem mem_insert {s : NameSet} {name new : String} :
    name ∈ s.insert new ↔ name = new ∨ name ∈ s := by
  simp only [mem_iff, insert]
  split
  · constructor
    · exact .inr
    · rintro (rfl | h) <;> assumption
  · simp [or_comm]

/-- A list and its set hold the same names. -/
theorem mem_ofList {names : List String} {name : String} : name ∈ ofList names ↔ name ∈ names := by
  have h : ∀ (names : List String) (s : NameSet),
      name ∈ names.foldl insert s ↔ name ∈ names ∨ name ∈ s := by
    intro names
    induction names with
    | nil => simp
    | cons new names ih =>
      intro s
      rw [List.foldl_cons, ih, mem_insert, List.mem_cons]
      constructor
      · rintro (h | h | h)
        · exact .inl (.inr h)
        · exact .inl (.inl h)
        · exact .inr h
      · rintro ((h | h) | h)
        · exact .inr (.inl h)
        · exact .inl h
        · exact .inr (.inr h)
  exact (h names empty).trans (by simp [mem_iff, empty])

end NameSet

end DomainModel
