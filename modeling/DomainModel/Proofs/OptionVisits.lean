import DomainModel.Proofs.OptionNames
import Mathlib.Data.List.TakeWhile

/-!
# The visits of a run

The options of a graph ask for one list of visits, each of an option to an entity, and a run makes
them in order up to the first whose entity is unknown (`Graph.makes_applyOptions`).  So the records
that a run leaves, complete or not, are those that it started with, changed by the visits made, and
what they look like on the way is what the first visits make of them.
-/

namespace DomainModel

/-- What an option visits an entity for. -/
inductive Errand where
  | write
  | giveService
  | leaveOut
  deriving DecidableEq, Repr

structure Visit where
  option : ResolvedOption
  errand : Errand
  entity : String
  deriving DecidableEq, Repr

namespace Visit

/-- What the visit makes of the record of its entity. -/
def change (v : Visit) (r : EntityRecord) : EntityRecord :=
  match v.errand with
  | .write => (v.option.write v.entity r).1
  | .giveService => (v.option.giveService v.entity r).1
  | .leaveOut => (ResolvedOption.leaveOutOfSearch v.entity r).1

/-- Whether a run gets past the visit, the entities `known` having records. -/
def passes (known : List String) (v : Visit) : Bool := !isUnknown known v.entity

/-- What visits make of records, one after the other. -/
def changeAll (vs : List Visit) (records : Dict EntityRecord) : Dict EntityRecord :=
  vs.foldl (fun rs v => rs.modify v.entity v.change) records

theorem changeAll_append (vs ws : List Visit) (records : Dict EntityRecord) :
    changeAll (vs ++ ws) records = changeAll ws (changeAll vs records) :=
  List.foldl_append

theorem keys_changeAll (vs : List Visit) (records : Dict EntityRecord) :
    (changeAll vs records).keys = records.keys := by
  induction vs generalizing records with
  | nil => rfl
  | cons v vs ih => rw [changeAll, List.foldl_cons, ← changeAll, ih, Dict.keys_modify]

end Visit

/-! ## Attempts -/

/-- The attempt starts from the sheet and makes the visits up to the first that it does not get
past. -/
structure Attempt.Makes (a : Attempt) (vs : List Visit) (s : Sheet) : Prop where
  records : a.sheet.records = Visit.changeAll (vs.takeWhile (·.passes s.records.keys)) s.records
  failure : a.failure = none ↔ ∀ v ∈ vs, v.passes s.records.keys = true

namespace Attempt.Makes

variable {a : Attempt} {vs ws : List Visit} {s s' : Sheet} {v : Visit}

theorem keys (h : a.Makes vs s) : a.sheet.records.keys = s.records.keys := by
  rw [h.records, Visit.keys_changeAll]

theorem done (s : Sheet) : Makes ⟨s, none⟩ [] s := ⟨rfl, by simp⟩

theorem stopped (h : v.passes s.records.keys = false) (unknown : UnknownName) :
    Makes ⟨s, some unknown⟩ (v :: vs) s := by
  constructor
  · rw [List.takeWhile_cons_of_neg (by simp [h])]
    rfl
  · simp [h]

theorem cons (hv : v.passes s.records.keys = true)
    (hs : s'.records = s.records.modify v.entity v.change) (h : a.Makes vs s') :
    a.Makes (v :: vs) s := by
  have hkeys : s'.records.keys = s.records.keys := by rw [hs, Dict.keys_modify]
  obtain ⟨hr, hf⟩ := h
  rw [hkeys] at hr hf
  constructor
  · rw [List.takeWhile_cons_of_pos hv, hr, hs]
    rfl
  · rw [hf, List.forall_mem_cons]
    simp [hv]

theorem andThen {next : Sheet → Attempt} (h : a.Makes vs s)
    (hnext : ∀ s', (next s').Makes ws s') : (a.andThen next).Makes (vs ++ ws) s := by
  have hn := hnext a.sheet
  obtain ⟨hr, hf⟩ := hn
  rw [h.keys] at hr hf
  cases ha : a.failure with
  | none =>
    have hall := h.failure.1 ha
    have hvs : vs.takeWhile (·.passes s.records.keys) = vs := List.takeWhile_eq_self_iff.2 hall
    rw [Attempt.andThen_of_none ha]
    constructor
    · rw [hr, h.records, hvs, List.takeWhile_append_of_pos hall, Visit.changeAll_append]
    · rw [hf, List.forall_mem_append]
      exact (and_iff_right hall).symm
  | some unknown =>
    have hstop : ¬ ∀ v ∈ vs, v.passes s.records.keys = true := fun hall => by
      rw [h.failure.2 hall] at ha
      cases ha
    have hlen : (vs.takeWhile (·.passes s.records.keys)).length ≠ vs.length := fun hlen =>
      hstop (List.takeWhile_eq_self_iff.1 ((List.takeWhile_prefix _).eq_of_length hlen))
    have hthen : a.andThen next = a := by simp [Attempt.andThen, ha]
    rw [hthen]
    constructor
    · rw [h.records, List.takeWhile_append, if_neg hlen]
    · rw [ha, List.forall_mem_append]
      exact iff_of_false (Option.some_ne_none unknown) fun hall => hstop hall.1

end Attempt.Makes

/-- A visit to names in turn is a visit to each of them, made for the errand that changes records in
the same way. -/
theorem Sheet.makes_visit (o : ResolvedOption) (errand : Errand)
    {change : String → EntityRecord → EntityRecord × List Notice}
    (hc : ∀ name r, (change name r).1 = Visit.change ⟨o, errand, name⟩ r) :
    ∀ (names : List String) (s : Sheet),
      (visit o.option.name change names s).Makes (names.map (⟨o, errand, ·⟩)) s
  | [], s => .done s
  | name :: names, s => by
    simp only [visit, List.map_cons]
    split
    · rename_i record h
      have hv : Visit.passes s.records.keys ⟨o, errand, name⟩ = true := by
        simp [Visit.passes, isUnknown_of_mem (Dict.mem_keys_of_get? h)]
      refine .cons hv ?_ (makes_visit o errand hc names _)
      simp only [Dict.modify, h, hc]
    · rename_i h
      have hmem := Dict.get?_eq_none_iff.1 h
      split
      · rename_i hb
        have hv : Visit.passes s.records.keys ⟨o, errand, name⟩ = true := by
          simp [Visit.passes, isUnknown_eq_false_iff.2 (.inr hb)]
        refine .cons hv ?_ (makes_visit o errand hc names _)
        simp only [Dict.modify, h]
      · rename_i hb
        exact .stopped (by simp [Visit.passes, isUnknown, hmem, hb]) _

namespace ResolvedOption

/-- The visits that an option asks for, in order. -/
def visits (o : ResolvedOption) : List Visit :=
  o.entityNames.map (⟨o, .write, ·⟩)
    ++ (if o.requiresService then o.entityNames else []).map (⟨o, .giveService, ·⟩)
    ++ (if o.excludesFromSearch then o.option.excludedNames.toList else []).map (⟨o, .leaveOut, ·⟩)

theorem makes_apply (o : ResolvedOption) (s : Sheet) : (o.apply s).Makes o.visits s :=
  ((Sheet.makes_visit o .write (fun _ _ => rfl) _ s).andThen
    (Sheet.makes_visit o .giveService (fun _ _ => rfl) _)).andThen
    (Sheet.makes_visit o .leaveOut (fun _ _ => rfl) _)

theorem makes_applyAll : ∀ (os : List ResolvedOption) (s : Sheet),
    (applyAll os s).Makes (os.flatMap visits) s
  | [], s => .done s
  | o :: os, s => (o.makes_apply s).andThen (makes_applyAll os)

end ResolvedOption

namespace Graph

/-- The visits that the options of a graph ask for, in order. -/
def visits (g : Graph) : List Visit := g.resolveOptions.flatMap ResolvedOption.visits

/-- The visits that a run gets past, the entities `known` having records. -/
def visitsMade (g : Graph) (known : List String) : List Visit := g.visits.takeWhile (·.passes known)

theorem makes_applyOptions (g : Graph) (s : Sheet) : (g.applyOptions s).Makes g.visits s :=
  ResolvedOption.makes_applyAll g.resolveOptions s

end Graph

end DomainModel
