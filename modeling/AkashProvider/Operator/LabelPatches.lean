import AkashProvider.Operator.Affinity

/-!
# Patches of node labels

When the labels of a node may have changed, the monitor of the node generates them.  If they are
not the ones it holds, it patches the node.  It takes the new labels for the current ones before
the patch, so that after a failure they are not sent again (`failed_patch_kept`).
-/

namespace AkashProvider.Operator

open InventoryV1 (Node)

def copyManagedLabels (labels : Labels) : Labels := labels.filter fun e => isLabelManaged e.1

/-- What a label signal finds: the configuration, the node in Kubernetes, the inventory of the
node, the storage classes that are present, and whether a patch succeeds. -/
structure LabelSignal where
  cfg : NodeConfig
  knode : KubeNode
  node : Node
  presentSc : List String
  patched : Bool

/-- `written` is a record: the managed labels of the last patch that succeeded, or of the node as
it was first read. -/
structure LabelMonitor where
  currLabels : Labels
  written : Labels
  /-- How many patches were sent. -/
  sent : Nat

namespace LabelMonitor

def start (knode : KubeNode) : LabelMonitor :=
  ⟨copyManagedLabels knode.labels, copyManagedLabels knode.labels, 0⟩

variable (S : Sdk)

def LabelSignal.generated (e : LabelSignal) : Labels :=
  (generateLabels S e.cfg e.knode e.node e.presentSc).1

def step (s : LabelMonitor) (e : LabelSignal) : Option LabelMonitor :=
  let labels := LabelSignal.generated S e
  if Labels.Same labels s.currLabels then some s
  else some {
    currLabels := copyManagedLabels labels
    written := if e.patched then copyManagedLabels (patchedLabels e.knode labels) else s.written
    sent := s.sent + 1 }

variable {S} {s s' : LabelMonitor} {e : LabelSignal} {knode : KubeNode}

theorem copyManagedLabels_patchedLabels (knode : KubeNode) (labels : Labels) :
    copyManagedLabels (patchedLabels knode labels) = copyManagedLabels labels := by
  simp [copyManagedLabels, patchedLabels, List.filter_append, List.filter_filter]

theorem known_step (h : s.currLabels = s.written) (hpatched : e.patched = true)
    (hstep : step S s e = some s') : s'.currLabels = s'.written := by
  by_cases hsame : Labels.Same (LabelSignal.generated S e) s.currLabels
  all_goals grind [step, Option.some.injEq, copyManagedLabels_patchedLabels]

/-- If every patch succeeds, the labels that the monitor holds are those of the node, and the next
signal sends a patch iff it finds other ones. -/
theorem known_labels_written
    (h : Runs (step S) (fun _ e => e.patched = true) (start knode) s) :
    s.currLabels = s.written ∧ ∀ e s', step S s e = some s' →
      (s'.sent = s.sent + 1 ↔ ¬ Labels.Same (LabelSignal.generated S e) s.written) := by
  have hknown : s.currLabels = s.written :=
    h.invariant (I := fun s => s.currLabels = s.written)
      (fun _ _ _ hok hstep hs => known_step hs hok hstep) rfl
  refine ⟨hknown, ?_⟩
  intro e s' hstep
  by_cases hsame : Labels.Same (LabelSignal.generated S e) s.written
  all_goals grind [step, Option.some.injEq]

/-- A node that is ready, with nothing on it. -/
def readySignal (patched : Bool) : LabelSignal :=
  ⟨openConfig, readyNode, freeNode "node" 1000 1000 0 [], [], patched⟩

theorem known_labels_written_ready : ∃ s,
    Runs (step .reference) (fun _ e => e.patched = true) (start readyNode) s ∧ s.sent = 1 ∧
      s.currLabels = s.written := by
  have hrun : Runs (step .reference) (fun _ e => e.patched = true) (start readyNode) _ :=
    (Runs.refl (start readyNode)).next (readySignal true) rfl rfl
  exact ⟨_, hrun, rfl, (known_labels_written hrun).1⟩

/-- A patch fails.  The next signal sends none, and the node has no labels. -/
theorem failed_patch_kept : ∃ s s', step .reference (start readyNode) (readySignal false) = some s ∧
    s.currLabels = [(akashManagedLabelName, "true")] ∧ s.written = [] ∧
      step .reference s (readySignal true) = some s' ∧ s'.sent = s.sent :=
  ⟨_, _, rfl, by decide, rfl, rfl, by decide⟩

end LabelMonitor

end AkashProvider.Operator
