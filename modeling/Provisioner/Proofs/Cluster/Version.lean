import Provisioner.Cluster.Inspect
import Provisioner.Proofs.Cluster.Watch
/-!
# The version of an operator

The version of an operator is the tag of an image reference: a registry with perhaps a port, a path,
and perhaps a tag.  What is reported is what stands after the last colon.  That is the tag where
there is one, whatever the registry; without a tag it is an error, unless the registry has a colon,
whose port is then reported with the path.
-/

namespace Provisioner

open Program

/-! ## Image references -/

/-- Where images are kept. -/
structure Registry where
  host : String
  port : Option String := none

/-- The host, and the port behind a colon. -/
def Registry.text (r : Registry) : String :=
  match r.port with
  | some port => r.host ++ ":" ++ port
  | none => r.host

/-- A reference to an image, whose path and tag have no colon in them, and the tag no slash. -/
structure ImageReference where
  registry : Option Registry := none
  path : String
  tag : Option String := none
  path_plain : ':' ∉ path.toList
  tag_plain : ∀ text, tag = some text → ':' ∉ text.toList ∧ '/' ∉ text.toList

namespace ImageReference

/-- The registry and the path. -/
def repository (i : ImageReference) : String :=
  match i.registry with
  | some registry => registry.text ++ "/" ++ i.path
  | none => i.path

/-- The reference as it is written. -/
def text (i : ImageReference) : String :=
  match i.tag with
  | some tag => i.repository ++ ":" ++ tag
  | none => i.repository

/-- The version that a reference tells: its tag, which must be there. -/
def version (i : ImageReference) : Except Error String :=
  match i.tag with
  | some tag => .ok tag
  | none =>
    .error (.precondition "operator_version" ("image " ++ i.text ++ " carries no version tag"))

end ImageReference

/-! ## The last colon -/

lemma imageTag?_eq_none_iff {image : String} : imageTag? image = none ↔ ':' ∉ image.toList := by
  rw [imageTag?, Text.cutLast, Option.map_eq_none_iff, Option.map_eq_none_iff,
    Text.splitLast_eq_none]

/-- What stands after a colon is found when there is no other one in it. -/
lemma imageTag?_append (before : String) {last : String} (hlast : ':' ∉ last.toList) :
    imageTag? (before ++ ":" ++ last) = some last := by
  have htext : (before ++ ":" ++ last).toList = before.toList ++ ':' :: last.toList := by
    rw [String.toList_append, String.toList_append, List.append_assoc]
    rfl
  rw [imageTag?, Text.cutLast, htext, Text.splitLast_append _ hlast]
  exact congrArg some String.ofList_toList

namespace ImageReference

variable {i : ImageReference}

lemma imageTag?_of_tag {tag : String} (htag : i.tag = some tag) : imageTag? i.text = some tag := by
  rw [text, htag]
  exact imageTag?_append i.repository (i.tag_plain tag htag).1

lemma imageTag?_of_untagged (htag : i.tag = none) : imageTag? i.text = imageTag? i.repository := by
  rw [text, htag]

/-- A port is taken for the start of a tag that goes on with the path. -/
lemma imageTag?_of_port {host port : String} (hregistry : i.registry = some ⟨host, some port⟩)
    (hport : ':' ∉ port.toList) : imageTag? i.repository = some (port ++ "/" ++ i.path) := by
  have hrepository : i.repository = host ++ ":" ++ (port ++ "/" ++ i.path) := by
    rw [repository, hregistry]
    simp only [Registry.text, String.append_assoc]
  have hlast : ':' ∉ (port ++ "/" ++ i.path).toList := by
    simp [hport, i.path_plain]
  rw [hrepository]
  exact imageTag?_append host hlast

end ImageReference

/-! ## The image of a container -/

/-- The container is the first one of a name in the description of the pods. -/
structure Deployment.FirstNamed (d : Deployment) (name : String) (c : Container) : Prop where
  named : c.name = name
  listed : ∃ spec before after, d.spec = some spec ∧
    spec.containers = some (before ++ c :: after) ∧ ∀ other ∈ before, other.name ≠ name

/-- The first container of a name runs an image. -/
def Deployment.RunsImage (d : Deployment) (name image : String) : Prop :=
  ∃ c, d.FirstNamed name c ∧ c.image = some image

lemma Deployment.imageOf?_eq_some_iff {d : Deployment} {name image : String} :
    d.imageOf? name = some image ↔ d.RunsImage name image := by
  unfold imageOf?
  simp only [Option.bind_eq_bind, Option.bind_eq_some_iff, List.find?_eq_some_iff_append,
    beq_iff_eq]
  constructor
  · rintro ⟨spec, hspec, containers, hcontainers, c, ⟨hname, before, after, rfl, hbefore⟩, himage⟩
    exact ⟨c, ⟨hname, spec, before, after, hspec, hcontainers, by simpa using hbefore⟩, himage⟩
  · rintro ⟨c, ⟨hname, spec, before, after, hspec, hcontainers, hbefore⟩, himage⟩
    exact ⟨spec, hspec, _, hcontainers, c, ⟨hname, before, after, rfl, by simpa using hbefore⟩,
      himage⟩

namespace Cluster

variable {σ : Type} {h : Handler Platform σ} {now : Duration} {s : σ} {log : List (Event Platform)}
  {o : Outcome σ Error String} {ns : String} {operator : OperatorImage} {d : Deployment}

/-! ## What is reported -/

/-- What is reported of the answer to the question for a deployment. -/
def reportOf (ns : String) (operator : OperatorImage) :
    Except Error (Option Deployment) → Except Error String
  | .error e => .error e
  | .ok none => .error (.notFound ("deployment " ++ ns ++ "/" ++ operator.deployment))
  | .ok (some d) => versionOf operator d

/-- The deployment is asked for once, and its answer decides. -/
lemma runs_operatorVersion (hr : Runs h (operatorVersion ns operator) now s log o) :
    ∃ reply, log = [.ofCall (.getDeployment ⟨ns, operator.deployment⟩) reply now] ∧
      o.result = some (reportOf ns operator reply) := by
  rcases runs_perform_bind hr with ⟨found, mid, t, rest, hrest, rfl⟩ | ⟨e, finish, t, rfl, rfl⟩
  · refine ⟨.ok found, ?_⟩
    cases found with
    | none =>
      obtain ⟨rfl, rfl⟩ := runs_fail_iff.mp hrest
      exact ⟨rfl, rfl⟩
    | some d =>
      obtain ⟨rfl, rfl⟩ := runs_ofExcept_iff.mp hrest
      exact ⟨rfl, rfl⟩
  · exact ⟨.error e, rfl, rfl⟩

lemma versionOf_of_missing (hmissing : ∀ image, ¬ d.RunsImage operator.container image) :
    versionOf operator d = .error (.notFound
      ("version of operator " ++ operator.deployment ++ "/" ++ operator.container)) := by
  have hnone : d.imageOf? operator.container = none :=
    Option.eq_none_iff_forall_ne_some.mpr fun image himage =>
      hmissing image (Deployment.imageOf?_eq_some_iff.mp himage)
  rw [versionOf, hnone]

lemma versionOf_of_tag {image tag : String} (hruns : d.RunsImage operator.container image)
    (htag : imageTag? image = some tag) : versionOf operator d = .ok tag := by
  simp only [versionOf, Deployment.imageOf?_eq_some_iff.mpr hruns, htag]

lemma versionOf_of_untagged {image : String} (hruns : d.RunsImage operator.container image)
    (htag : imageTag? image = none) : versionOf operator d =
      .error (.precondition "operator_version" ("image " ++ image ++ " carries no version tag")) := by
  simp only [versionOf, Deployment.imageOf?_eq_some_iff.mpr hruns, htag]

/-- The version is that of the reference unless there is a colon but no tag. -/
lemma versionOf_eq_version_iff {i : ImageReference}
    (hruns : d.RunsImage operator.container i.text) :
    versionOf operator d = i.version ↔ i.tag ≠ none ∨ ':' ∉ i.repository.toList := by
  rw [ImageReference.version]
  cases htag : i.tag with
  | some tag => simp [versionOf_of_tag hruns (ImageReference.imageTag?_of_tag htag)]
  | none =>
    have htext := ImageReference.imageTag?_of_untagged htag
    rw [← imageTag?_eq_none_iff, ← htext]
    cases hfound : imageTag? i.text with
    | some found => simp [versionOf_of_tag hruns hfound]
    | none => simp [versionOf_of_untagged hruns hfound]

/-- What is reported as the version of an operator, for every answer to the one question that is
asked.  The reference of the image decides: its tag is the version, and no tag is an error, but for
a registry with a port, which is reported with the path where there is no tag. -/
theorem operatorVersion_reports (hr : Runs h (operatorVersion ns operator) now s log o) :
    ∃ reply : Except Error (Option Deployment),
      log = [.ofCall (.getDeployment ⟨ns, operator.deployment⟩) reply now] ∧
      (∀ e, reply = .error e → o.result = some (.error e)) ∧
      (reply = .ok none → o.result = some (.error
        (.notFound ("deployment " ++ ns ++ "/" ++ operator.deployment)))) ∧
      ∀ d, reply = .ok (some d) →
        ((∀ image, ¬ d.RunsImage operator.container image) → o.result = some (.error (.notFound
          ("version of operator " ++ operator.deployment ++ "/" ++ operator.container)))) ∧
        ∀ i : ImageReference, d.RunsImage operator.container i.text →
          (o.result = some i.version ↔ i.tag ≠ none ∨ ':' ∉ i.repository.toList) ∧
          ∀ host port, i.registry = some ⟨host, some port⟩ → ':' ∉ port.toList → i.tag = none →
            o.result = some (.ok (port ++ "/" ++ i.path)) := by
  obtain ⟨reply, hlog, ho⟩ := runs_operatorVersion hr
  refine ⟨reply, hlog, ?_, ?_, ?_⟩
  · rintro e rfl
    exact ho
  · rintro rfl
    exact ho
  · rintro d rfl
    have hversion : o.result = some (versionOf operator d) := ho
    refine ⟨fun hmissing => ?_, fun i hruns => ⟨?_, fun host port hregistry hport htag => ?_⟩⟩
    · rw [hversion, versionOf_of_missing hmissing]
    · rw [hversion, Option.some_inj]
      exact versionOf_eq_version_iff hruns
    · have hfound := (ImageReference.imageTag?_of_untagged htag).trans
        (ImageReference.imageTag?_of_port hregistry hport)
      rw [hversion, versionOf_of_tag hruns hfound]

/-- An image of a registry with a port, without a tag. -/
def localImage : ImageReference where
  registry := some ⟨"localhost", some "5000"⟩
  path := "pxc-operator"
  path_plain := by decide
  tag_plain := by simp

/-- The same image with a tag. -/
def taggedImage : ImageReference :=
  { localImage with
    tag := some "1.7.0"
    tag_plain := by
      rintro _ ⟨⟩
      decide }

/-- A deployment with one container that runs an image. -/
def deploymentOf (container : String) (i : ImageReference) : Deployment :=
  { spec := some { containers := some [⟨container, some i.text⟩] } }

lemma runsImage_deploymentOf (container : String) (i : ImageReference) :
    (deploymentOf container i).RunsImage container i.text :=
  ⟨⟨container, some i.text⟩, ⟨rfl, _, [], [], rfl, rfl, by simp⟩, rfl⟩

/-- A cluster that has such a deployment of the operator wherever it is asked for one. -/
def serving (i : ImageReference) : Handler Platform Unit :=
  answering fun
    | .getDeployment _ => .ok (some (deploymentOf pxcOperator.container i))
    | _ => .error (.notFound "")

theorem operatorVersion_reports_tag :
    (run (serving taggedImage) (operatorVersion "db" pxcOperator) 0 ()).result =
      some (.ok "1.7.0") := by
  obtain ⟨reply, hlog, -, -, hreport⟩ := operatorVersion_reports
    (runs_self (serving taggedImage) (operatorVersion "db" pxcOperator) 0 ())
  obtain rfl : reply = .ok (some (deploymentOf pxcOperator.container taggedImage)) := by
    cases hlog
    rfl
  have htagged : taggedImage.tag ≠ none ∨ ':' ∉ taggedImage.repository.toList := .inl (by decide)
  exact ((hreport _ rfl).2 taggedImage (runsImage_deploymentOf _ _)).1.mpr htagged

/-- Without a tag the port and the path are reported, not that there is none. -/
theorem operatorVersion_reports_port :
    localImage.tag = none ∧ localImage.text = "localhost:5000/pxc-operator" ∧
    (deploymentOf pxcOperator.container localImage).RunsImage pxcOperator.container
      localImage.text ∧
    (run (serving localImage) (operatorVersion "db" pxcOperator) 0 ()).result =
      some (.ok "5000/pxc-operator") :=
  ⟨rfl, rfl, runsImage_deploymentOf _ _, rfl⟩

end Cluster

end Provisioner
