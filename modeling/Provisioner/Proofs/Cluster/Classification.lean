import Provisioner.Cluster.Inspect
import Provisioner.Proofs.Cluster.Watch
/-!
# What storage classes tell of a cluster

A storage class tells what sort of cluster it belongs to by the texts in its provisioner, or tells
nothing.  Among the classes of a cluster the first one that tells anything decides, whatever stands
after it, and the classes that tell nothing make no difference wherever they stand.
-/

namespace Provisioner

open Program

namespace StorageClass

/-- The provisioner of a class has a text in it. -/
def Mentions (c : StorageClass) (text : String) : Prop := text.toList <:+: c.provisioner.toList

instance (c : StorageClass) (text : String) : Decidable (c.Mentions text) :=
  inferInstanceAs (Decidable (text.toList <:+: c.provisioner.toList))

/-- The provisioner of a class has one of the texts in it that stand for a local cluster. -/
def MentionsLocal (c : StorageClass) : Prop :=
  c.Mentions "minikube" ∨ c.Mentions "kubevirt.io/hostpath-provisioner" ∨ c.Mentions "standard"

instance (c : StorageClass) : Decidable c.MentionsLocal :=
  inferInstanceAs (Decidable (_ ∨ _ ∨ _))

/-- A class tells nothing of its cluster. -/
def Silent (c : StorageClass) : Prop := ¬ c.Mentions "aws" ∧ ¬ c.MentionsLocal

instance (c : StorageClass) : Decidable c.Silent := inferInstanceAs (Decidable (_ ∧ _))

/-- A class tells that its cluster is of a sort; the text of Amazon's service goes first. -/
inductive Tells (c : StorageClass) : ClusterType → Prop
  | eks (service : c.Mentions "aws") : Tells c .eks
  | minikube (other : ¬ c.Mentions "aws") (marked : c.MentionsLocal) : Tells c .minikube

variable {c : StorageClass} {t : ClusterType}

lemma Tells.ne_generic (tells : c.Tells t) : t ≠ .generic := by
  cases tells <;> simp

lemma Tells.ne_unknown (tells : c.Tells t) : t ≠ .unknown := by
  cases tells <;> simp

lemma tells_eks_iff : c.Tells .eks ↔ c.Mentions "aws" := by
  constructor
  · intro tells
    cases tells with
    | eks service => exact service
  · exact .eks

lemma tells_minikube_iff : c.Tells .minikube ↔ ¬ c.Mentions "aws" ∧ c.MentionsLocal := by
  constructor
  · intro tells
    cases tells with
    | minikube other marked => exact ⟨other, marked⟩
  · rintro ⟨other, marked⟩
    exact .minikube other marked

end StorageClass

namespace ClusterType

variable {c : StorageClass} {classes : List StorageClass} {t : ClusterType}

/-! ## One class -/

lemma ofClass?_eq (c : StorageClass) :
    ofClass? c =
      if c.Mentions "aws" then some eks else if c.MentionsLocal then some minikube else none := by
  have hservice : Text.occurs eksMarker c.provisioner = true ↔ c.Mentions "aws" := Text.occurs_iff
  have hlocal : (localMarkers.any fun marker => Text.occurs marker c.provisioner) = true ↔
      c.MentionsLocal := by
    simp only [localMarkers, List.any_cons, List.any_nil, Bool.or_false, Bool.or_eq_true,
      Text.occurs_iff]
    rfl
  simp only [ofClass?, hservice, hlocal]

lemma ofClass?_eq_some_iff : ofClass? c = some t ↔ c.Tells t := by
  rw [ofClass?_eq]
  by_cases hservice : c.Mentions "aws"
  · rw [if_pos hservice, Option.some_inj]
    constructor
    · rintro rfl
      exact .eks hservice
    · intro tells
      cases tells with
      | eks service => rfl
      | minikube other marked => exact absurd hservice other
  · rw [if_neg hservice]
    by_cases hmarked : c.MentionsLocal
    · rw [if_pos hmarked, Option.some_inj]
      constructor
      · rintro rfl
        exact .minikube hservice hmarked
      · intro tells
        cases tells with
        | eks service => exact absurd service hservice
        | minikube other marked => rfl
    · rw [if_neg hmarked]
      constructor
      · intro hnone
        cases hnone
      · intro tells
        cases tells with
        | eks service => exact absurd service hservice
        | minikube other marked => exact absurd marked hmarked

lemma ofClass?_eq_none_iff : ofClass? c = none ↔ c.Silent := by
  rw [ofClass?_eq, StorageClass.Silent]
  by_cases hservice : c.Mentions "aws" <;> by_cases hmarked : c.MentionsLocal <;>
    simp [hservice, hmarked]

/-! ## All classes -/

/-- What the classes of a cluster come to: what the first one that tells anything tells. -/
inductive Decided : List StorageClass → ClusterType → Prop
  | first {before after : List StorageClass} {c : StorageClass} {t : ClusterType}
      (silent : ∀ d ∈ before, d.Silent) (tells : c.Tells t) : Decided (before ++ c :: after) t
  /-- No class tells anything. -/
  | undecided {classes : List StorageClass} (silent : ∀ d ∈ classes, d.Silent) :
      Decided classes .generic

/-- The first class that tells anything is found, and there is none when all are silent. -/
lemma findSome?_eq_none_iff :
    classes.findSome? ofClass? = none ↔ ∀ d ∈ classes, d.Silent := by
  simp only [List.findSome?_eq_none_iff, ofClass?_eq_none_iff]

lemma classify_of_findSome? (hfirst : classes.findSome? ofClass? = some t) :
    classify classes = t := by
  rw [classify, hfirst, Option.getD_some]

lemma decided_classify (classes : List StorageClass) : Decided classes (classify classes) := by
  cases hfirst : classes.findSome? ofClass? with
  | none =>
    have hgeneric : classify classes = .generic := by rw [classify, hfirst, Option.getD_none]
    rw [hgeneric]
    exact .undecided (findSome?_eq_none_iff.mp hfirst)
  | some t =>
    rw [classify_of_findSome? hfirst]
    obtain ⟨before, c, after, rfl, hc, hbefore⟩ := List.findSome?_eq_some_iff.mp hfirst
    have hsilent : ∀ d ∈ before, d.Silent := fun d hd => ofClass?_eq_none_iff.mp (hbefore d hd)
    exact .first hsilent (ofClass?_eq_some_iff.mp hc)

lemma Decided.classify_eq (decided : Decided classes t) : classify classes = t := by
  cases decided with
  | first silent tells =>
    have hbefore := findSome?_eq_none_iff.mpr silent
    have hfirst := ofClass?_eq_some_iff.mpr tells
    apply classify_of_findSome?
    rw [List.findSome?_append, hbefore, Option.none_or, List.findSome?_cons, hfirst]
  | undecided silent => rw [classify, findSome?_eq_none_iff.mpr silent, Option.getD_none]

/-- What is decided is decided by the classes alone. -/
lemma classify_eq_iff : classify classes = t ↔ Decided classes t := by
  constructor
  · rintro rfl
    exact decided_classify classes
  · exact Decided.classify_eq

lemma classify_ne_unknown (classes : List StorageClass) : classify classes ≠ .unknown := by
  have decided := decided_classify classes
  generalize classify classes = t at decided
  cases decided with
  | first silent tells => exact tells.ne_unknown
  | undecided silent => simp

/-- No sort in particular is what comes of classes that are all silent. -/
lemma classify_eq_generic_iff : classify classes = .generic ↔ ∀ d ∈ classes, d.Silent := by
  rw [classify_eq_iff]
  constructor
  · intro decided
    generalize ht : ClusterType.generic = t at decided
    cases decided with
    | first silent tells => exact absurd ht.symm tells.ne_generic
    | undecided silent => exact silent
  · exact .undecided

lemma classify_append (xs ys : List StorageClass) :
    classify (xs ++ ys) = if classify xs = .generic then classify ys else classify xs := by
  split
  · rename_i hgeneric
    have hsilent := findSome?_eq_none_iff.mpr (classify_eq_generic_iff.mp hgeneric)
    rw [classify, List.findSome?_append, hsilent, Option.none_or, classify]
  · rename_i hother
    have decided := decided_classify xs
    generalize classify xs = t at decided hother
    cases decided with
    | first silent tells =>
      rw [List.append_assoc, List.cons_append]
      exact (Decided.first silent tells).classify_eq
    | undecided silent => exact absurd rfl hother

lemma classify_singleton (c : StorageClass) : classify [c] = (ofClass? c).getD .generic := by
  rw [classify, List.findSome?_singleton]

/-- One class comes to what it tells. -/
lemma classify_singleton_eq_iff (ht : t ≠ .generic) : classify [c] = t ↔ c.Tells t := by
  rw [classify_singleton, ← ofClass?_eq_some_iff]
  cases ofClass? c with
  | none => simp [ht.symm]
  | some told => simp

end ClusterType

namespace Cluster

variable {σ : Type}

/-- The storage classes are asked for once, and nothing but them tells what sort of cluster it
is. -/
lemma runs_clusterType {h : Handler Platform σ} {now : Duration} {s : σ}
    {log : List (Event Platform)} {o : Outcome σ Error ClusterType}
    (hr : Runs h clusterType now s log o) :
    ∃ reply : Except Error (List StorageClass), log = [.ofCall .listStorageClasses reply now] ∧
      o.result = some (reply.map ClusterType.classify) := by
  rcases runs_perform_bind hr with ⟨classes, mid, t, rest, hrest, rfl⟩ | ⟨e, finish, t, rfl, rfl⟩
  · obtain ⟨rfl, rfl⟩ := runs_done_iff.mp hrest
    exact ⟨.ok classes, rfl, rfl⟩
  · exact ⟨.error e, rfl, rfl⟩

end Cluster

namespace ClusterType

variable {σ : Type}

/-- **The first storage class that tells anything decides.**  Classes in a row come to what the
first ones come to, unless that is no sort in particular.  One class comes to Amazon's service if
its provisioner says so, whatever else it says, to a local cluster if it only says that, and to no
sort in particular if it says neither; so do no classes at all, and no classes leave it unknown.
Hence what classes come to is what the first one tells that is not silent, and a class that is silent
can be put in or left out anywhere.  The sort of a cluster is asked for by its classes alone. -/
theorem first_telling_decides (h : Handler Platform σ) (now : Duration) (s : σ)
    (xs ys : List StorageClass) (c : StorageClass) :
    (classify (xs ++ ys) = if classify xs = .generic then classify ys else classify xs) ∧
    (classify [c] = .eks ↔ c.Mentions "aws") ∧
    (classify [c] = .minikube ↔ ¬ c.Mentions "aws" ∧ c.MentionsLocal) ∧
    (classify [c] = .generic ↔ ¬ c.Mentions "aws" ∧ ¬ c.MentionsLocal) ∧
    classify [] = .generic ∧ classify xs ≠ .unknown ∧
    (∀ t, classify xs = t ↔ Decided xs t) ∧
    (c.Silent → classify (xs ++ c :: ys) = classify (xs ++ ys)) ∧
    ∃ reply : Except Error (List StorageClass),
      trace h Cluster.clusterType now s = [.ofCall .listStorageClasses reply now] ∧
      (run h Cluster.clusterType now s).result = some (reply.map classify) := by
  have hrun := Cluster.runs_clusterType (runs_self h Cluster.clusterType now s)
  refine ⟨classify_append xs ys, ?_, ?_, ?_, rfl, classify_ne_unknown xs,
    fun t => classify_eq_iff, ?_, hrun⟩
  · rw [classify_singleton_eq_iff (by simp), StorageClass.tells_eks_iff]
  · rw [classify_singleton_eq_iff (by simp), StorageClass.tells_minikube_iff]
  · simp [classify_eq_generic_iff, StorageClass.Silent]
  · intro hsilent
    have hone : classify [c] = .generic := by simpa [classify_eq_generic_iff] using hsilent
    have hrest : classify (c :: ys) = classify ys := by
      rw [← List.singleton_append, classify_append, if_pos hone]
    rw [classify_append, hrest, classify_append]

/-- A class of a provisioner. -/
def provisionedBy (provisioner : String) : StorageClass := { provisioner }

/-- A silent class between others makes no difference, and of those the local one goes first. -/
theorem first_telling_decides_local :
    (provisionedBy "rbd.csi.ceph.com").Silent ∧
      classify [provisionedBy "pd.csi.storage.gke.io", provisionedBy "rbd.csi.ceph.com",
        provisionedBy "k8s.io/minikube-hostpath", provisionedBy "ebs.csi.aws.com"] = .minikube := by
  have hsilent : (provisionedBy "rbd.csi.ceph.com").Silent := by decide +kernel
  obtain ⟨-, -, -, -, -, -, -, hdrop, -⟩ := first_telling_decides
    (answering fun _ => .error (.notFound "")) 0 () [provisionedBy "pd.csi.storage.gke.io"]
    [provisionedBy "k8s.io/minikube-hostpath", provisionedBy "ebs.csi.aws.com"]
    (provisionedBy "rbd.csi.ceph.com")
  refine ⟨hsilent, (hdrop hsilent).trans ?_⟩
  decide +kernel

end ClusterType

end Provisioner
