import Mathlib.Data.List.Forall2
import Provisioner.Kube.Node
/-!
# The nodes that take work

One taint that keeps no work away is enough for a node to take work, whatever its other taints are,
and so is having no taints at all.  Which taints a node has decides, not their order or how often
each is listed: the nodes that take work are told in order, each as often as it stands among all
nodes, however many of its taints keep no work away.
-/

namespace Provisioner

/-- The taint keeps work away: it is one of three, with the effect that belongs to it. -/
inductive Taint.KeepsAway : Taint → Prop
  | uninitialized : KeepsAway ⟨"node.cloudprovider.kubernetes.io/uninitialized", "NoSchedule"⟩
  | unschedulable : KeepsAway ⟨"node.kubernetes.io/unschedulable", "NoSchedule"⟩
  | master : KeepsAway ⟨"node-role.kubernetes.io/master", "NoSchedule"⟩

namespace Node

variable {n m : Node} {t : Taint} {nodes others : List Node}

/-- The taints of a node. -/
def taintList (n : Node) : List Taint := n.taints.getD []

/-- The same node with other taints. -/
def withTaints (n : Node) (taints : List Taint) : Node := { n with taints := some taints }

@[simp] lemma taintList_withTaints (n : Node) (taints : List Taint) :
    (n.withTaints taints).taintList = taints := rfl

/-- The node has no taints, or one that keeps no work away. -/
def TakesWork (n : Node) : Prop := n.taintList = [] ∨ ∃ t ∈ n.taintList, ¬ t.KeepsAway

/-- The same node but for the order of its taints and how often each of them is listed. -/
structure Retainted (n m : Node) : Prop where
  rest : m = { n with taints := m.taints }
  taints : ∀ t, t ∈ m.taintList ↔ t ∈ n.taintList

/-! ## One node -/

lemma mem_forbiddenTaints_iff : t ∈ forbiddenTaints ↔ t.KeepsAway := by
  constructor
  · intro ht
    simp only [forbiddenTaints, List.mem_cons, List.not_mem_nil, or_false] at ht
    rcases ht with rfl | rfl | rfl
    · exact .uninitialized
    · exact .unschedulable
    · exact .master
  · intro ht
    cases ht <;> simp [forbiddenTaints]

instance (t : Taint) : Decidable t.KeepsAway := decidable_of_iff _ mem_forbiddenTaints_iff

lemma isWorker_iff : n.isWorker = true ↔ n.TakesWork := by
  rw [isWorker, Bool.or_eq_true, List.isEmpty_iff, List.any_eq_true]
  simp only [Bool.not_eq_true', ← Bool.not_eq_true, List.contains_iff_mem, mem_forbiddenTaints_iff]
  rfl

/-- The other taints of a node do not matter once one of them keeps no work away. -/
lemma takesWork_of_mem (ht : t ∈ n.taintList) (harmless : ¬ t.KeepsAway) : n.TakesWork :=
  .inr ⟨t, ht, harmless⟩

lemma retainted_of_perm {taints : List Taint} (order : taints.Perm n.taintList) :
    n.Retainted (n.withTaints taints) :=
  ⟨rfl, fun _ => order.mem_iff⟩

lemma retainted_of_repeated (ht : t ∈ n.taintList) :
    n.Retainted (n.withTaints (t :: n.taintList)) := by
  refine ⟨rfl, fun other => ?_⟩
  rw [taintList_withTaints, List.mem_cons]
  constructor
  · rintro (rfl | hother)
    · exact ht
    · exact hother
  · exact .inr

lemma Retainted.takesWork_iff (same : n.Retainted m) : n.TakesWork ↔ m.TakesWork := by
  have hempty : n.taintList = [] ↔ m.taintList = [] := by
    simp only [List.eq_nil_iff_forall_not_mem, same.taints]
  simp only [TakesWork, hempty, same.taints]

/-! ## All nodes -/

lemma mem_workers_iff : n ∈ workers nodes ↔ n ∈ nodes ∧ n.TakesWork := by
  rw [workers, List.mem_filter, isWorker_iff]

lemma workers_append (xs ys : List Node) : workers (xs ++ ys) = workers xs ++ workers ys :=
  List.filter_append xs ys

lemma workers_cons_of_takesWork (takes : n.TakesWork) (nodes : List Node) :
    workers (n :: nodes) = n :: workers nodes :=
  List.filter_cons_of_pos (isWorker_iff.mpr takes)

lemma count_workers (takes : n.TakesWork) (nodes : List Node) :
    (workers nodes).count n = nodes.count n :=
  List.count_filter (isWorker_iff.mpr takes)

/-- Nodes that only differ in how their taints are listed are kept alike. -/
lemma forall₂_retainted_workers (same : List.Forall₂ Retainted nodes others) :
    List.Forall₂ Retainted (workers nodes) (workers others) := by
  refine List.rel_filter (fun n m same => ?_) same
  simpa only [isWorker_iff] using same.takesWork_iff

/-- **The nodes that take work are selected by their taints.**  They stand in the order of all nodes
and none of them more often than there; a node is kept, each time that it is listed, exactly when it
has no taints or one that keeps no work away.  The order of taints and their repetition change
nothing, nor does selecting twice, and nodes in a row are selected part by part.  A node that gets a
taint that keeps no work away, wherever among its taints, is kept in its place. -/
theorem workers_selected (nodes others xs ys : List Node) :
    (workers nodes).Sublist nodes ∧
    (∀ n, (workers nodes).count n ≤ nodes.count n) ∧
    (∀ n ∈ nodes, n ∈ workers nodes ↔ n.TakesWork) ∧
    (∀ n, n.TakesWork → (workers nodes).count n = nodes.count n) ∧
    (List.Forall₂ Retainted nodes others →
      List.Forall₂ Retainted (workers nodes) (workers others)) ∧
    workers (workers nodes) = workers nodes ∧
    workers (xs ++ ys) = workers xs ++ workers ys ∧
    ∀ (n : Node) (first last : List Taint) (t : Taint), n.taintList = first ++ last →
      ¬ t.KeepsAway →
      workers (xs ++ n.withTaints (first ++ t :: last) :: ys) =
        workers xs ++ n.withTaints (first ++ t :: last) :: workers ys := by
  have hsublist : (workers nodes).Sublist nodes := List.filter_sublist
  refine ⟨hsublist, hsublist.count_le, ?_, fun n takes => count_workers takes nodes,
    forall₂_retainted_workers, ?_, workers_append xs ys, ?_⟩
  · intro n hn
    rw [mem_workers_iff, and_iff_right hn]
  · rw [workers, workers, List.filter_filter]
    simp only [Bool.and_self]
  · intro n first last t _ harmless
    have ht : t ∈ (n.withTaints (first ++ t :: last)).taintList := by simp
    rw [workers_append, workers_cons_of_takesWork (takesWork_of_mem ht harmless)]

def masterTaint : Taint := ⟨"node-role.kubernetes.io/master", "NoSchedule"⟩

def customTaint : Taint := ⟨"custom/foo", "NoExecute"⟩

/-- A node of the control plane. -/
def controlNode : Node := { metadata := { name := some "cp-0" }, taints := some [masterTaint] }

/-- A node with a taint of each sort. -/
def mixedNode : Node :=
  { metadata := { name := some "mixed-0" }, taints := some [customTaint, masterTaint] }

/-- A node of the control plane is not selected, however often its taint is listed, until it gets
another one. -/
theorem workers_selected_mixed :
    List.Forall₂ Retainted (workers [controlNode, mixedNode])
      (workers [controlNode.withTaints [masterTaint, masterTaint],
        mixedNode.withTaints [masterTaint, customTaint]]) ∧
    workers [controlNode, mixedNode] = [mixedNode] ∧
    workers [mixedNode, controlNode.withTaints [customTaint, masterTaint]] =
      [mixedNode, controlNode.withTaints [customTaint, masterTaint]] := by
  have hcontrol : controlNode.Retainted (controlNode.withTaints [masterTaint, masterTaint]) :=
    retainted_of_repeated List.mem_cons_self
  have hmixed : mixedNode.Retainted (mixedNode.withTaints [masterTaint, customTaint]) :=
    retainted_of_perm (List.Perm.swap _ _ _)
  obtain ⟨-, -, -, -, hsame, -, -, hmore⟩ := workers_selected [controlNode, mixedNode]
    [controlNode.withTaints [masterTaint, masterTaint],
      mixedNode.withTaints [masterTaint, customTaint]] [mixedNode] []
  refine ⟨hsame (.cons hcontrol (.cons hmixed .nil)), by decide +kernel, ?_⟩
  have hkept := hmore controlNode [] [masterTaint] customTaint rfl (by decide)
  exact hkept.trans (by decide +kernel)

end Node

end Provisioner
