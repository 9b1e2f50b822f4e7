import DomainModel.Check
import DomainModel.Proofs.Outcomes

/-!
# Reporting one breach or all

The checks of a graph have one result for each entity and then one for each deployment.  A pass over
them that does not stop gives the breaches of the entities and then those of the deployments, and
one that stops ends as checks do that are run one after the other (`Graph.check_failFast_eq`).  So
both modes accept the same graphs, and what fails first is what comes first among all breaches
(`Graph.checkModes_agree`).
-/

namespace DomainModel

/-- The breaches of results are those of the results that are not accepted, in their order. -/
theorem map_error_filterMap_breach? : ∀ results : List (Except Breach Unit),
    (results.filterMap breach?).map .error = results.filter fun result => !result.isOk
  | [] => rfl
  | .ok () :: results => map_error_filterMap_breach? results
  | .error _ :: results => congrArg (_ :: ·) (map_error_filterMap_breach? results)

/-- The first of the breaches, if there is any. -/
def firstOf : List Breach → Except Breach Unit
  | [] => .ok ()
  | b :: _ => .error b

theorem firstOf_append (bs cs : List Breach) :
    firstOf (bs ++ cs) = firstOf bs >>= fun _ => firstOf cs := by
  cases bs <;> rfl

theorem checkAll_eq_firstOf {α : Type} (check : α → Except Breach Unit) : ∀ xs : List α,
    checkAll check xs = firstOf (xs.filterMap fun x => breach? (check x))
  | [] => rfl
  | x :: xs => by
    rw [checkAll, checkAll_eq_firstOf check xs, List.filterMap_cons]
    rcases check x with b | ⟨⟩ <;> rfl

theorem collect_aggregate : ∀ results : List (Except Breach Unit),
    collect .aggregate results = results.filterMap breach?
  | [] => rfl
  | .ok () :: results => by
    rw [collect, collect_aggregate results]
    rfl
  | .error b :: results => by
    rw [collect, collect_aggregate results]
    rfl

theorem collect_failFast : ∀ results : List (Except Breach Unit),
    collect .failFast results = (results.filterMap breach?).take 1
  | [] => rfl
  | .ok () :: results => by
    rw [collect, collect_failFast results]
    rfl
  | .error b :: results => rfl

namespace Graph

/-- The breaches of a graph: those of its entities, then those of its deployments. -/
def breaches (g : Graph) : List Breach :=
  entityBreaches g.entities ++ g.deployments.filterMap fun d => breach? d.check

/-- Checks the entities of a graph, then its deployments, one after the other until one fails. -/
def firstBreach (g : Graph) : Except Breach Unit := do
  checkAll Entity.check g.entities
  checkAll Deployment.check g.deployments

theorem breaches_eq_filterMap (g : Graph) : g.breaches = g.checkResults.filterMap breach? := by
  rw [checkResults, List.filterMap_append, List.filterMap_map, List.filterMap_map]
  rfl

theorem firstBreach_eq_firstOf (g : Graph) : g.firstBreach = firstOf g.breaches := by
  rw [firstBreach, checkAll_eq_firstOf, checkAll_eq_firstOf, ← firstOf_append]
  rfl

theorem check_aggregate (g : Graph) : g.check .aggregate = report g.breaches := by
  rw [check, collect_aggregate, breaches_eq_filterMap]

theorem check_failFast (g : Graph) : g.check .failFast = report (g.breaches.take 1) := by
  rw [check, collect_failFast, breaches_eq_filterMap]

/-- The pass that ends at the first breach ends where the checks do. -/
theorem check_failFast_eq (g : Graph) :
    g.check .failFast = g.firstBreach.mapError fun b => [b] := by
  rw [check_failFast, firstBreach_eq_firstOf]
  cases g.breaches <;> rfl

/-- Both modes are one pass over the same results and accept the same graphs.  The pass that stops
ends as the checks do, run one after the other.  All breaches are those of the entities followed by
those of the deployments, which are the failed results in order, so at most one for each; and the
first of them is what is reported alone.  The breaches of entities are found list by list. -/
theorem checkModes_agree (g : Graph) :
    (∀ mode, g.check mode = report (collect mode g.checkResults)) ∧
      (g.check .failFast = g.firstBreach.mapError fun b => [b]) ∧
      (g.check .failFast = .ok () ↔ g.check .aggregate = .ok ()) ∧
      (∀ reported, g.check .failFast = .error reported ↔
        ∃ first rest, g.check .aggregate = .error (first :: rest) ∧ reported = [first]) ∧
      (∀ reported, g.check .aggregate = .error reported ↔ reported ≠ [] ∧
        reported = entityBreaches g.entities ++ g.deployments.filterMap fun d => breach? d.check) ∧
      (entityBreaches g.entities ++ g.deployments.filterMap fun d => breach? d.check).map .error
        = g.checkResults.filter (fun result => !result.isOk) ∧
      ∀ es es' : List Entity, entityBreaches (es ++ es') = entityBreaches es ++ entityBreaches es' := by
  have hall : entityBreaches g.entities ++ g.deployments.filterMap (fun d => breach? d.check)
      = g.breaches := rfl
  refine ⟨fun _ => rfl, g.check_failFast_eq, ?_, ?_, ?_, ?_, fun es es' => List.filterMap_append⟩
  · rw [check_failFast, check_aggregate]
    cases g.breaches <;> simp [report]
  · intro reported
    rw [check_failFast, check_aggregate]
    cases g.breaches <;> simp [report, eq_comm]
  · intro reported
    rw [check_aggregate, hall]
    cases g.breaches with
    | nil => simp [report]
    | cons b bs =>
      simp only [report, Except.error.injEq]
      constructor
      · rintro rfl
        exact ⟨List.cons_ne_nil b bs, rfl⟩
      · rintro ⟨-, rfl⟩
        rfl
  · rw [hall, breaches_eq_filterMap, map_error_filterMap_breach?]

end Graph

end DomainModel
