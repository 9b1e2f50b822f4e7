import DomainModel.Check
import DomainModel.Proofs.Outcomes

/-!
# Well-formed graphs

The checks look attributes up by name and give the first rule that is broken.  They accept exactly
the graphs in which every declaration has what it needs, whether the first breach is reported or all
of them (`Graph.check_iff_wellFormed`).  What is present but empty counts as present, so an empty
name of a validation or type of a deployment is not missing, but unknown or unsupported.
-/

namespace DomainModel

/-! ## Steps that are accepted -/

section Steps

variable {α : Type}

theorem checkAttributes_eq [Attributed α] (kind : DescriptorKind) (record : α)
    (required : List String) : checkAttributes kind record required =
      if missingAttributes record required = [] then .ok ()
      else .error (.missingAttributes kind (missingAttributes record required)) := by
  unfold checkAttributes requireAttributes
  split <;> rfl

theorem checkAttributes_eq_ok_iff [Attributed α] {kind : DescriptorKind} {record : α}
    {required : List String} :
    checkAttributes kind record required = .ok () ↔ ∀ name ∈ required, has record name = true := by
  rw [checkAttributes_eq]
  simp [missingAttributes, List.filter_eq_nil_iff]

theorem checkAll_eq_ok_iff {check : α → Except Breach Unit} : ∀ {xs : List α},
    checkAll check xs = .ok () ↔ ∀ x ∈ xs, check x = .ok ()
  | [] => by simp [checkAll]
  | x :: xs => by
    rw [checkAll, bind_unit_eq_ok_iff, checkAll_eq_ok_iff, List.forall_mem_cons]

theorem breach?_eq_none_iff {result : Except Breach Unit} :
    breach? result = none ↔ result = .ok () := by
  rcases result with b | ⟨⟩ <;> simp [breach?]

end Steps

/-! ## Entities -/

theorem ValidationKind.ofName?_eq_some_iff {name : String} {kind : ValidationKind} :
    ofName? name = some kind ↔ kind ∈ all ∧ kind.name = name := by
  constructor
  · intro h
    exact ⟨List.mem_of_find?_eq_some h, by simpa using List.find?_some h⟩
  · rintro ⟨hmem, rfl⟩
    revert kind
    decide

/-- The validation is one of the catalogue, and has a value if that needs one. -/
def Validation.WellFormed (v : Validation) : Prop :=
  ∃ kind ∈ ValidationKind.all, v.name = some kind.name ∧
    (kind.requiresValue = true → ∃ value, v.value = some value ∧ value ≠ .null)

structure Field.WellFormed (f : Field) : Prop where
  name : f.name.isSome = true
  type : f.type.isSome = true
  validations : ∀ v ∈ f.validations.values, v.WellFormed

structure Entity.WellFormed (e : Entity) : Prop where
  name : e.name.isSome = true
  tableName : e.tableName.isSome = true
  nonempty : e.fields.values ≠ []
  fields : ∀ f ∈ e.fields.values, f.WellFormed

theorem Validation.isSome_definedValue_iff {v : Validation} :
    v.definedValue.isSome = true ↔ ∃ value, v.value = some value ∧ value ≠ .null := by
  unfold definedValue
  rcases v.value with _ | value <;> simp [Option.filter, Option.isSome_iff_ne_none]

theorem Validation.check_eq (v : Validation) :
    v.check = match v.name with
      | none => .error (.missingAttributes .validation ["name"])
      | some name =>
        match ValidationKind.ofName? name with
        | none => .error (.unknownValidation name)
        | some kind =>
          if kind.requiresValue = true ∧ v.definedValue = none
          then .error (.missingValidationValue name) else .ok () := by
  rcases hn : v.name with _ | name
  · have hmissing : missingAttributes v ["name"] = ["name"] := by
      simp [missingAttributes, has, hasAttribute, hn]
    rw [check, checkAttributes_eq, hmissing]
    rfl
  have hmissing : missingAttributes v ["name"] = [] := by
    simp [missingAttributes, has, hasAttribute, hn]
  rw [check, checkAttributes_eq, hmissing, hn]
  simp only [if_true, bind, Except.bind, Option.getD_some]
  rcases ValidationKind.ofName? name with _ | ⟨kindName, requiresValue⟩
  · rfl
  · rcases requiresValue <;> rcases v.definedValue <;> rfl

theorem Validation.check_eq_ok_iff {v : Validation} : v.check = .ok () ↔ v.WellFormed := by
  rw [check_eq]
  constructor
  · intro h
    split at h
    · cases h
    · rename_i name hn
      split at h
      · cases h
      · rename_i kind hk
        obtain ⟨hmem, rfl⟩ := ValidationKind.ofName?_eq_some_iff.1 hk
        refine ⟨kind, hmem, hn, fun hr => isSome_definedValue_iff.1 ?_⟩
        split at h
        · cases h
        · rename_i hv
          exact Option.isSome_iff_ne_none.2 fun hnone => hv ⟨hr, hnone⟩
  · rintro ⟨kind, hmem, hn, hvalue⟩
    have hk := ValidationKind.ofName?_eq_some_iff.2 ⟨hmem, rfl⟩
    simp only [hn, hk]
    refine if_neg fun ⟨hr, hnone⟩ => ?_
    exact Option.isSome_iff_ne_none.1 (isSome_definedValue_iff.2 (hvalue hr)) hnone

theorem Field.check_eq_ok_iff {f : Field} : f.check = .ok () ↔ f.WellFormed := by
  rw [check, bind_unit_eq_ok_iff, checkAttributes_eq_ok_iff, checkAll_eq_ok_iff]
  simp only [mapError_eq_ok_iff, Validation.check_eq_ok_iff]
  constructor
  · rintro ⟨hattributes, hvalidations⟩
    exact ⟨hattributes "name" (by simp), hattributes "type" (by simp), hvalidations⟩
  · rintro ⟨hname, htype, hvalidations⟩
    exact ⟨by simpa using ⟨hname, htype⟩, hvalidations⟩

theorem Entity.checkFields_eq_ok_iff {e : Entity} :
    e.checkFields = .ok () ↔ e.fields.values ≠ [] ∧ ∀ f ∈ e.fields.values, f.WellFormed := by
  have hempty : e.fields.toList = [] ↔ e.fields.values = [] := by
    rw [Dict.values, List.map_eq_nil_iff]
  rw [checkFields]
  split
  · rename_i h
    simp [hempty.1 h]
  · rename_i h
    simp only [checkAll_eq_ok_iff, Field.check_eq_ok_iff]
    exact (and_iff_right (mt hempty.2 h)).symm

theorem Entity.check_eq_ok_iff {e : Entity} : e.check = .ok () ↔ e.WellFormed := by
  rw [check, bind_unit_eq_ok_iff, checkAttributes_eq_ok_iff, mapError_eq_ok_iff,
    checkFields_eq_ok_iff]
  constructor
  · rintro ⟨hattributes, hne, hfields⟩
    exact ⟨hattributes "name" (by simp), hattributes "tableName" (by simp), hne, hfields⟩
  · rintro ⟨hname, htable, hne, hfields⟩
    exact ⟨by simpa using ⟨hname, htable⟩, hne, hfields⟩

/-! ## Deployments -/

/-- The deployment is of a supported type and has what every deployment and that type need. -/
structure Deployment.WellFormed (d : Deployment) : Prop where
  type : ∃ type ∈ ["docker-compose", "kubernetes", "openshift"], d.deploymentType = some type
  appsFolders : d.appsFolders.isSome = true
  dockerRepositoryName : d.dockerRepositoryName.isSome = true
  ingressDomain : d.deploymentType = some "kubernetes" →
    d.kubernetesServiceType = some "Ingress" → d.ingressDomain.isSome = true
  openshiftNamespace : d.deploymentType = some "openshift" → d.openshiftNamespace.isSome = true

/-- What the deployments of a type need besides what every deployment needs. -/
theorem Deployment.specific_iff {d : Deployment} {type : String}
    (ht : d.deploymentType = some type) :
    (∃ required, d.specificAttributes? = some required ∧ ∀ name ∈ required, has d name = true) ↔
      type ∈ ["docker-compose", "kubernetes", "openshift"] ∧
        (type = "kubernetes" → d.kubernetesServiceType = some "Ingress" →
          d.ingressDomain.isSome = true) ∧
        (type = "openshift" → d.openshiftNamespace.isSome = true) := by
  have hingress : has d "ingressDomain" = d.ingressDomain.isSome := rfl
  have hnamespace : has d "openshiftNamespace" = d.openshiftNamespace.isSome := rfl
  unfold specificAttributes?
  rw [ht, Option.getD_some]
  split
  · simp
  · by_cases hservice : d.kubernetesServiceType = some "Ingress" <;> simp [hservice, hingress]
  · simp [hnamespace]
  · rename_i hcompose hkubernetes hopenshift
    have hnot : type ∉ ["docker-compose", "kubernetes", "openshift"] := by
      simpa using ⟨hcompose, hkubernetes, hopenshift⟩
    constructor
    · rintro ⟨_, ⟨⟩, _⟩
    · intro h
      exact absurd h.1 hnot

theorem Deployment.check_eq_ok_iff {d : Deployment} : d.check = .ok () ↔ d.WellFormed := by
  have hcheck : d.check = .ok () ↔ (∀ name ∈ ["deploymentType", "appsFolders",
      "dockerRepositoryName"], has d name = true) ∧
      ∃ required, d.specificAttributes? = some required ∧ ∀ name ∈ required, has d name = true := by
    rw [check, bind_unit_eq_ok_iff, checkAttributes_eq_ok_iff]
    rcases d.specificAttributes? with _ | required
    · simp [throw, throwThe, MonadExceptOf.throw]
    · simp only [checkAttributes_eq_ok_iff, Option.some.injEq, exists_eq_left']
  rw [hcheck]
  constructor
  · rintro ⟨hattributes, hspecific⟩
    obtain ⟨type, ht⟩ := Option.isSome_iff_exists.1 (hattributes "deploymentType" (by simp))
    obtain ⟨hmem, hingress, hnamespace⟩ := (specific_iff ht).1 hspecific
    exact ⟨⟨type, hmem, ht⟩, hattributes "appsFolders" (by simp),
      hattributes "dockerRepositoryName" (by simp),
      fun hk => hingress (Option.some.inj (ht.symm.trans hk)),
      fun ho => hnamespace (Option.some.inj (ht.symm.trans ho))⟩
  · rintro ⟨⟨type, hmem, ht⟩, hfolders, hrepository, hingress, hnamespace⟩
    have htype : d.deploymentType.isSome = true := by rw [ht, Option.isSome_some]
    refine ⟨by simpa using ⟨htype, hfolders, hrepository⟩, (specific_iff ht).2 ⟨hmem, ?_, ?_⟩⟩
    · rintro rfl
      exact hingress ht
    · rintro rfl
      exact hnamespace ht

/-- An empty type is not among the missing attributes. -/
theorem Deployment.check_of_empty_type (d : Deployment) :
    check { d with deploymentType := some "" } = .error
      (if missingAttributes d ["appsFolders", "dockerRepositoryName"] = []
      then .unsupportedDeploymentType ""
      else .missingAttributes .deployment
        (missingAttributes d ["appsFolders", "dockerRepositoryName"])) := by
  have hmissing : missingAttributes { d with deploymentType := some "" }
      ["deploymentType", "appsFolders", "dockerRepositoryName"]
      = missingAttributes d ["appsFolders", "dockerRepositoryName"] := rfl
  rw [check, checkAttributes_eq, hmissing]
  split <;> rfl

/-! ## Graphs -/

structure Graph.WellFormed (g : Graph) : Prop where
  entities : ∀ e ∈ g.entities, e.WellFormed
  deployments : ∀ d ∈ g.deployments, d.WellFormed

theorem collect_eq_nil_iff {mode : CheckMode} : ∀ {results : List (Except Breach Unit)},
    collect mode results = [] ↔ ∀ result ∈ results, result = .ok ()
  | [] => by simp [collect]
  | .ok () :: results => by simp [collect, collect_eq_nil_iff]
  | .error b :: results => by cases mode <;> simp [collect]

theorem report_eq_ok_iff {bs : List Breach} : report bs = .ok () ↔ bs = [] := by
  cases bs <;> simp [report]

/-- Whether a pass ends at the first breach or not, it finds one if there is any. -/
theorem Graph.check_eq_ok_iff {g : Graph} {mode : CheckMode} :
    g.check mode = .ok () ↔ g.WellFormed := by
  rw [check, report_eq_ok_iff, collect_eq_nil_iff, checkResults, List.forall_mem_append,
    List.forall_mem_map, List.forall_mem_map]
  simp only [Entity.check_eq_ok_iff, Deployment.check_eq_ok_iff]
  exact ⟨fun h => ⟨h.1, h.2⟩, fun h => ⟨h.1, h.2⟩⟩

/-- Both ways of checking accept exactly the well-formed graphs.  An empty name of a validation is
unknown and an empty type of a deployment unsupported, but neither is missing. -/
theorem Graph.check_iff_wellFormed (g : Graph) (mode : CheckMode) :
    (g.check mode = .ok () ↔ g.WellFormed) ∧
    (∀ v : Validation, Validation.check { v with name := some "" }
      = .error (.unknownValidation "")) ∧
    ∀ d : Deployment, Deployment.check { d with deploymentType := some "" } = .error
      (if missingAttributes d ["appsFolders", "dockerRepositoryName"] = []
      then .unsupportedDeploymentType ""
      else .missingAttributes .deployment
        (missingAttributes d ["appsFolders", "dockerRepositoryName"])) := by
  refine ⟨check_eq_ok_iff, fun v => ?_, Deployment.check_of_empty_type⟩
  rw [Validation.check_eq]
  rfl

end DomainModel
