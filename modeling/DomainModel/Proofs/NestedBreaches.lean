import DomainModel.Error
import Mathlib.Data.List.Chain

/-!
# Breaches inside breaches

A breach is its root in the declarations that it was found in (`within_root`).  Its chain goes in
through them, one after the other, down to the root, and its message names them, the outermost
first, before it says what the root is (`rooted_in_scopes`).
-/

namespace DomainModel

namespace Breach

/-! ## Declarations around a breach -/

/-- A declaration that breaches are found in. -/
inductive Scope where
  | entity (name : String)
  | field (name : String)
  deriving DecidableEq, Repr

namespace Scope

/-- The breach, found in the declaration. -/
def around : Scope → Breach → Breach
  | entity name, b => inEntity name b
  | field name, b => inField name b

/-- How a message names the declaration, before it tells of the breach. -/
def lead : Scope → String
  | entity name => "Entity " ++ name ++ ",\n\t"
  | field name => "Field " ++ name ++ ", \n\t"

theorem message_around (scope : Scope) (b : Breach) :
    (scope.around b).message = scope.lead ++ b.message := by
  cases scope <;> rfl

end Scope

/-- The declarations that a breach was found in, the outermost first. -/
def scopes : Breach → List Scope
  | inEntity entity cause => .entity entity :: cause.scopes
  | inField field cause => .field field :: cause.scopes
  | _ => []

/-- The breach, found in declarations of which the first is the outermost. -/
def within (scopes : List Scope) (b : Breach) : Breach := scopes.foldr Scope.around b

/-- The breach that is next inside a breach. -/
def cause? : Breach → Option Breach
  | inEntity _ cause | inField _ cause => some cause
  | _ => none

theorem cause?_eq_some_iff {b cause : Breach} :
    b.cause? = some cause ↔ ∃ scope : Scope, b = scope.around cause := by
  constructor
  · intro h
    cases b with
    | inEntity entity _ => exact ⟨.entity entity, by rw [Option.some.inj h]; rfl⟩
    | inField field _ => exact ⟨.field field, by rw [Option.some.inj h]; rfl⟩
    | _ => cases h
  · rintro ⟨scope, rfl⟩
    cases scope <;> rfl

/-! ## The root and what is around it -/

/-- A breach is its root, found in the declarations around it. -/
theorem within_root (b : Breach) : within b.scopes b.root = b := by
  induction b with
  | inEntity entity cause ih => exact congrArg (inEntity entity) ih
  | inField field cause ih => exact congrArg (inField field) ih
  | _ => rfl

theorem cause?_root (b : Breach) : b.root.cause? = none := by
  induction b with
  | inEntity _ cause ih | inField _ cause ih => exact ih
  | _ => rfl

theorem root_root (b : Breach) : b.root.root = b.root := by
  induction b with
  | inEntity _ cause ih | inField _ cause ih => exact ih
  | _ => rfl

/-- Each breach of the chain is next inside the one before it. -/
theorem isChain_chain (b : Breach) :
    List.IsChain (fun outer inner => outer.cause? = some inner) (b :: b.chain) := by
  induction b with
  | inEntity _ cause ih | inField _ cause ih => exact .cons_cons rfl ih
  | _ => exact .singleton _

theorem length_chain (b : Breach) : b.chain.length = b.scopes.length := by
  induction b with
  | inEntity _ cause ih | inField _ cause ih =>
    rw [chain, scopes, List.length_cons, List.length_cons, ih]
  | _ => rfl

theorem message_within (scopes : List Scope) (b : Breach) :
    (within scopes b).message = String.join (scopes.map Scope.lead) ++ b.message := by
  induction scopes with
  | nil => rw [List.map_nil, String.join_nil, String.empty_append]; rfl
  | cons scope scopes ih =>
    rw [within, List.foldr_cons, ← within, Scope.message_around, ih, List.map_cons,
      String.join_cons, String.append_assoc]

/-- A breach is a root, which is found in nothing, in the declarations around it.  Its chain leads
from each breach to the next one inside it and ends at the root, with one step for each declaration.
The message is that of the root after the declarations, the outermost first, and a failure tells of
the breach what the breach tells. -/
theorem rooted_in_scopes (b : Breach) :
    within b.scopes b.root = b ∧ (∀ scope cause, b.root ≠ Scope.around scope cause) ∧
      b.root.root = b.root ∧ b.root = b.chain.getLast?.getD b ∧
      List.IsChain (fun outer inner => outer.cause? = some inner) (b :: b.chain) ∧
      b.chain.length = b.scopes.length ∧
      b.message = String.join (b.scopes.map Scope.lead) ++ b.root.message ∧
      (Failure.breach b).message :: (Failure.breach b).chain = (b :: b.chain).map message := by
  have hroot : ∀ scope cause, b.root ≠ Scope.around scope cause := by
    intro scope cause heq
    have hnone := b.cause?_root
    rw [cause?_eq_some_iff.2 ⟨scope, heq⟩] at hnone
    cases hnone
  have hmessage := message_within b.scopes b.root
  rw [within_root] at hmessage
  exact ⟨b.within_root, hroot, b.root_root, b.root_eq_getLast_chain, b.isChain_chain,
    b.length_chain, hmessage, rfl⟩

example : (inEntity "Invoice" (inField "total" (unknownValidation "big"))).message
    = "Entity Invoice,\n\tField total, \n\tThe validation big doesn't exist." := by
  decide +kernel

end Breach

end DomainModel
