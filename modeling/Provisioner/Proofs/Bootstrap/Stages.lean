import Provisioner.Install.Bootstrap
import Provisioner.Proofs.Program.InTurn
/-!
# The stages of installing the lifecycle manager

Once it is known that the manager is missing and its manifests are read, installing it is a fixed
list of stages in turn: the manifests are applied, the two operators roll out, each subscription
that is declared is carried through its install, and the package server rolls out.  Which
subscriptions there are is read off the definitions and the components alone.
-/

namespace Provisioner.Install

open Program
open Manifest (Source)
open Text.Utf8 (Bytes)

/-- The manifests of the manager. -/
structure Manifests where
  /-- Definitions of its kinds. -/
  definitions : Bytes
  /-- The manager itself. -/
  components : Bytes
  /-- The catalog of the database operators. -/
  catalog : Bytes

/-- Read the manifests of the manager; the first one that cannot be read fails. -/
def Manifests.read (source : Source) : Except Error Manifests := do
  let definitions ← source Manifest.olmDefinitions
  let components ← source Manifest.olmComponents
  let catalog ← source Manifest.catalog
  return ⟨definitions, components, catalog⟩

/-- Either one of the manifests cannot be read, or all of them are. -/
lemma Manifests.read_cases (source : Source) :
    (∃ path e, path ∈ [Manifest.olmDefinitions, Manifest.olmComponents, Manifest.catalog] ∧
      source path = .error e ∧ Manifests.read source = .error e) ∨
    (∃ m : Manifests, source Manifest.olmDefinitions = .ok m.definitions ∧
      source Manifest.olmComponents = .ok m.components ∧
      source Manifest.catalog = .ok m.catalog ∧ Manifests.read source = .ok m) := by
  unfold Manifests.read
  cases hdefinitions : source Manifest.olmDefinitions with
  | error e => exact .inl ⟨_, e, by simp, hdefinitions, rfl⟩
  | ok definitions =>
    cases hcomponents : source Manifest.olmComponents with
    | error e => exact .inl ⟨_, e, by simp, hcomponents, rfl⟩
    | ok components =>
      cases hcatalog : source Manifest.catalog with
      | error e => exact .inl ⟨_, e, by simp, hcatalog, rfl⟩
      | ok catalog => exact .inr ⟨⟨definitions, components, catalog⟩, rfl, rfl, rfl, rfl⟩

/-- The subscriptions that the manifests declare, in order. -/
def Manifests.subscriptions (m : Manifests) : Except ManifestError (List Resource) := do
  let first ← Manifest.decode m.definitions
  let second ← Manifest.decode m.components
  return (first ++ second).filter isSubscription

/-- A part of installing the manager. -/
inductive Stage where
  /-- Apply a manifest. -/
  | apply (path : String) (manifest : Bytes)
  /-- Wait for a deployment of the manager. -/
  | rollout (deployment : String)
  /-- Carry a declared subscription through its install. -/
  | carry (subscription : Resource)
  /-- Give up, since the manifests do not tell which subscriptions there are. -/
  | undeclared (cause : ManifestError)

/-- The work of a stage. -/
def Stage.work (poll : Poll) (ns : String) : Stage → Work Unit
  | apply path manifest => applyFile path manifest
  | rollout deployment => waitForRollout poll ⟨ns, deployment⟩
  | carry subscription => bootstrapSubscription poll subscription
  | undeclared cause => .fail (.manifest cause.message)

/-- The stages in order. -/
def Manifests.stages (m : Manifests) : List Stage :=
  [.apply Manifest.olmDefinitions m.definitions, .apply Manifest.olmComponents m.components,
    .apply Manifest.catalog m.catalog, .rollout olmOperator, .rollout catalogOperator] ++
  match m.subscriptions with
  | .ok subscriptions => subscriptions.map .carry ++ [.rollout packageServer]
  | .error cause => [.undeclared cause]

/-! ## Installing the manager is the stages in turn -/

lemma bootstrapAll_eq_inTurn (poll : Poll) (subscriptions : List Resource) :
    bootstrapAll poll subscriptions = inTurn (subscriptions.map (bootstrapSubscription poll)) := by
  induction subscriptions with
  | nil => rfl
  | cons subscription rest ih => rw [List.map_cons, inTurn_cons, ← ih]; rfl

/-- What is left to do after the manager's operators have rolled out. -/
def afterRollouts (poll : Poll) (ns : String) (m : Manifests) : Work Unit := do
  let first ← ofManifest (Manifest.decode m.definitions)
  let second ← ofManifest (Manifest.decode m.components)
  bootstrapAll poll ((first ++ second).filter isSubscription)
  waitForRollout poll ⟨ns, packageServer⟩

lemma afterRollouts_eq_inTurn (poll : Poll) (ns : String) (m : Manifests) :
    afterRollouts poll ns m =
      match m.subscriptions with
      | .ok subscriptions =>
        inTurn ((subscriptions.map Stage.carry ++ [Stage.rollout packageServer]).map
          (Stage.work poll ns))
      | .error cause => inTurn ([Stage.undeclared cause].map (Stage.work poll ns)) := by
  unfold afterRollouts Manifests.subscriptions
  cases hfirst : Manifest.decode m.definitions with
  | error cause => rfl
  | ok first =>
    cases hsecond : Manifest.decode m.components with
    | error cause => rfl
    | ok second =>
      have hcarry : (((first ++ second).filter isSubscription).map Stage.carry).map
          (Stage.work poll ns) =
          ((first ++ second).filter isSubscription).map (bootstrapSubscription poll) := by
        rw [List.map_map]
        rfl
      show (bootstrapAll poll ((first ++ second).filter isSubscription)).bind
          (fun _ => waitForRollout poll ⟨ns, packageServer⟩) = inTurn (List.map _ _)
      rw [List.map_append, inTurn_append, hcarry, bootstrapAll_eq_inTurn]
      refine congrArg _ (funext fun _ => ?_)
      exact (bind_done (waitForRollout poll ⟨ns, packageServer⟩)).symm

lemma inTurn_stages (poll : Poll) (ns : String) (m : Manifests) :
    inTurn (m.stages.map (Stage.work poll ns)) =
      (applyFile Manifest.olmDefinitions m.definitions).bind fun _ =>
      (applyFile Manifest.olmComponents m.components).bind fun _ =>
      (applyFile Manifest.catalog m.catalog).bind fun _ =>
      (waitForRollout poll ⟨ns, olmOperator⟩).bind fun _ =>
      (waitForRollout poll ⟨ns, catalogOperator⟩).bind fun _ => afterRollouts poll ns m := by
  rw [afterRollouts_eq_inTurn, Manifests.stages]
  cases m.subscriptions <;> rfl

/-- What is done when the manager is missing. -/
def installMissing (poll : Poll) (source : Source) (ns : String) : Work Unit :=
  (ofExcept (Manifests.read source)).bind fun m => inTurn (m.stages.map (Stage.work poll ns))

/-- The manager is looked up, and installed from its manifests when it is missing. -/
theorem installOlm_eq (poll : Poll) (source : Source) (ns : String) :
    installOlm poll source ns = (Call.getDeployment ⟨ns, olmOperator⟩).perform.bind fun
      | some _ => .done ()
      | none => installMissing poll source ns := by
  unfold installOlm
  refine congrArg (Program.bind _) (funext fun found => ?_)
  cases found with
  | some d => rfl
  | none =>
    unfold installMissing Manifests.read
    cases hdefinitions : source Manifest.olmDefinitions with
    | error e => rfl
    | ok definitions =>
      cases hcomponents : source Manifest.olmComponents with
      | error e => rfl
      | ok components =>
        cases hcatalog : source Manifest.catalog with
        | error e => rfl
        | ok catalog => exact (inTurn_stages poll ns ⟨definitions, components, catalog⟩).symm

end Provisioner.Install
