/-!
# Steps that can fail

A run of steps that can fail has a result exactly if each of its steps has one, and what the steps
do to a result can be followed from one step to the next (`exists_of_bind_ok`, `map_bind_congr`).
Where a run fails, it fails at the first step that does (`FirstWithout`).
-/

namespace DomainModel

variable {ε ε' α β : Type}

theorem ok_bind (a : α) (f : α → Except ε β) : (Except.ok a >>= f) = f a := rfl

theorem exists_of_bind_ok {f : α → Except ε β} {b : β} : ∀ {x : Except ε α},
    x >>= f = .ok b → ∃ a, x = .ok a ∧ f a = .ok b
  | .ok a, h => ⟨a, rfl, h⟩

theorem exists_of_map_ok {f : α → β} {b : β} : ∀ {x : Except ε α},
    x.map f = .ok b → ∃ a, x = .ok a ∧ f a = b
  | .ok a, h => ⟨a, rfl, Except.ok.inj h⟩

theorem exists_of_isOk : ∀ {x : Except ε α}, x.isOk = true → ∃ a, x = .ok a
  | .ok a, _ => ⟨a, rfl⟩

theorem exists_of_map_toOption {f : α → β} {b : β} : ∀ {x : Except ε α},
    x.toOption.map f = some b → ∃ a, x = .ok a ∧ f a = b
  | .ok a, h => ⟨a, rfl, Option.some.inj h⟩

theorem bind_unit_eq_ok_iff {x : Except ε Unit} {y : Except ε α} {a : α} :
    (x >>= fun _ => y) = .ok a ↔ x = .ok () ∧ y = .ok a := by
  cases x <;> simp [bind, Except.bind]

theorem bind_unit_eq_error_iff {x : Except ε Unit} {y : Except ε α} {e : ε} :
    (x >>= fun _ => y) = .error e ↔ x = .error e ∨ x = .ok () ∧ y = .error e := by
  cases x <;> simp [bind, Except.bind]

theorem mapError_eq_ok_iff {f : ε → ε'} {x : Except ε α} {a : α} :
    x.mapError f = .ok a ↔ x = .ok a := by
  rcases x with e | a'
  · exact ⟨nofun, nofun⟩
  · constructor <;> rintro ⟨⟩ <;> rfl

theorem mapError_eq_error_iff {f : ε → ε'} {x : Except ε α} {e' : ε'} :
    x.mapError f = .error e' ↔ ∃ e, x = .error e ∧ f e = e' := by
  rcases x with e | a
  · constructor
    · rintro ⟨⟩
      exact ⟨e, rfl, rfl⟩
    · rintro ⟨_, ⟨⟩, rfl⟩
      rfl
  · exact ⟨nofun, nofun⟩

theorem map_mapError_error (f : ε → ε') (g : α → β) (e : ε) :
    ((Except.error e : Except ε α).mapError f).map g = .error (f e) := rfl

theorem map_mapError_ok (f : ε → ε') (g : α → β) (a : α) :
    ((Except.ok a : Except ε α).mapError f).map g = .ok (g a) := rfl

/-- Runs stay alike in what `f` shows of an error and `g` of a result if each step keeps them
alike. -/
theorem map_bind_congr {f : ε → ε'} {g : α → β} {x x' : Except ε α} {k k' : α → Except ε α}
    (hx : (x'.mapError f).map g = (x.mapError f).map g)
    (hk : ∀ a a', g a' = g a → ((k' a').mapError f).map g = ((k a).mapError f).map g) :
    ((x' >>= k').mapError f).map g = ((x >>= k).mapError f).map g := by
  rcases x with e | a <;> rcases x' with e' | a'
  · exact hx
  · cases hx
  · cases hx
  · exact hk a a' (Except.ok.inj hx)

/-- The first element of a list that lacks a property, and the elements before it. -/
structure FirstWithout (p : α → Prop) (xs before : List α) (x : α) : Prop where
  split : ∃ after, xs = before ++ x :: after
  passed : ∀ y ∈ before, p y
  fails : ¬ p x

namespace FirstWithout

variable {p : α → Prop} {xs before : List α} {x y : α}

theorem not_nil : ¬ FirstWithout p [] before x := by
  rintro ⟨⟨after, h⟩, -, -⟩
  exact List.append_ne_nil_of_right_ne_nil before (List.cons_ne_nil x after) h.symm

theorem cons_iff : FirstWithout p (y :: xs) before x ↔
    ¬ p y ∧ before = [] ∧ x = y ∨
      p y ∧ ∃ before', before = y :: before' ∧ FirstWithout p xs before' x := by
  constructor
  · rintro ⟨⟨after, h⟩, hbefore, hx⟩
    rcases before with _ | ⟨z, before⟩
    · obtain ⟨rfl, -⟩ := List.cons.inj h
      exact .inl ⟨hx, rfl, rfl⟩
    · obtain ⟨rfl, hxs⟩ := List.cons.inj h
      obtain ⟨hy, hbefore⟩ := List.forall_mem_cons.1 hbefore
      exact .inr ⟨hy, before, rfl, ⟨after, hxs⟩, hbefore, hx⟩
  · rintro (⟨hy, rfl, rfl⟩ | ⟨hy, before, rfl, ⟨after, rfl⟩, hbefore, hx⟩)
    · exact ⟨⟨xs, rfl⟩, List.forall_mem_nil _, hy⟩
    · exact ⟨⟨after, rfl⟩, List.forall_mem_cons.2 ⟨hy, hbefore⟩, hx⟩

theorem of_find? {q : α → Bool} (h : xs.find? q = some x) :
    ∃ before, FirstWithout (q · = false) xs before x := by
  obtain ⟨hx, before, after, hsplit, hbefore⟩ := List.find?_eq_some_iff_append.1 h
  exact ⟨before, ⟨after, hsplit⟩, fun y hy => by simpa using hbefore y hy, by simp [hx]⟩

end FirstWithout

end DomainModel
