import ClusterCaps.Pass.Visit
import ClusterCaps.Policy.Cluster

/-!
One pass over a topology: the SQL nodes are visited in groups of a given size and folded group by
group. The first failure in the order of the topology ends the pass, and so does a crash.
-/
set_option autoImplicit false

namespace ClusterCaps

-- An event with the spans around it, the outermost first. What is logged on a thread of its own is
-- told apart.
structure Emission where
  spans : List Log.Span
  event : Log.Event
  onCaller : Bool
deriving DecidableEq, Repr

namespace Emission

def direct (event : Log.Event) : Emission := ⟨[], event, true⟩

def within (span : Log.Span) (emission : Emission) : Emission :=
  { emission with spans := span :: emission.spans }

def ofVisit (onCaller : Bool) (visit : Visit) : List Emission :=
  visit.events.map fun event => ⟨[Visit.span visit.node], event, onCaller⟩

end Emission

structure Findings where
  cluster : Cluster
  snapshots : List (String × Node.Snapshot)
  skipped : List String
deriving DecidableEq, Repr

-- Why a pass has no findings. A crash that no thread contains takes its caller with it.
inductive Stop where
  | failed (error : PassError)
  | unwound
deriving DecidableEq, Repr

structure Pass where
  -- Visits of one group take place at the same time. Here their contacts stand one after the other.
  contacts : List Contact
  visits : List Visit
  emissions : List Emission
  result : Except Stop Findings

namespace Pass

def after (contact : Contact) (pass : Pass) : Pass := { pass with contacts := contact :: pass.contacts }

@[simp]
theorem after_visits (contact : Contact) (pass : Pass) : (pass.after contact).visits = pass.visits := rfl

@[simp]
theorem after_emissions (contact : Contact) (pass : Pass) : (pass.after contact).emissions = pass.emissions := rfl

@[simp]
theorem after_result (contact : Contact) (pass : Pass) : (pass.after contact).result = pass.result := rfl

def chunks {α : Type} (size : Nat) : Nat → List α → List (List α)
  | 0, _ => []
  | _ + 1, [] => []
  | steps + 1, item :: items =>
    (item :: items).take (max 1 size) :: chunks size steps ((item :: items).drop (max 1 size))

def crashError (node : String) : PassError :=
  .initialization ("probe thread for '" ++ node ++ "' panicked")

def snapshots : List Visit → Except Stop (List (String × Node.Snapshot))
  | [] => .ok []
  | visit :: rest =>
    match visit.ending with
    | .crashed => .error .unwound
    | .failed error => .error (.failed error)
    | .found snapshot =>
      match snapshots rest with
      | .error stop => .error stop
      | .ok found => .ok ((visit.node, snapshot) :: found)

-- Visits at the same time, each on a thread of its own: one crash is contained, and comes before
-- any failure; a second one is not.
def gathered (visits : List Visit) : Except Stop (List (String × Node.Snapshot)) :=
  match visits.filter Visit.hasCrashed with
  | [] => snapshots visits
  | [visit] => .error (.failed (crashError visit.node))
  | _ => .error .unwound

def settled (visits : List Visit) : Except Stop (List (String × Node.Snapshot)) :=
  match visits with
  | [visit] => snapshots [visit]
  | visits => gathered visits

structure Survey where
  visits : List Visit
  emissions : List Emission
  result : Except Stop (Fold × List (String × Node.Snapshot))

def survey (visit : String → Visit) (fold : Fold) (found : List (String × Node.Snapshot)) :
    List (List Descriptor) → Survey
  | [] => ⟨[], [], .ok (fold, found)⟩
  | chunk :: rest =>
    let visits := chunk.map fun node => visit node.name
    let emissions := visits.flatMap (Emission.ofVisit (chunk.length == 1))
    match settled visits with
    | .error stop => ⟨visits, emissions, .error stop⟩
    | .ok snapshots =>
      let later := survey visit (fold.merge (Fold.ofNodes (snapshots.map (·.2))))
        (found ++ snapshots) rest
      ⟨visits ++ later.visits, emissions ++ later.emissions, later.result⟩

def skippedEvent (node : Descriptor) : Log.Event :=
  .named .info Visit.logTarget "node.skipped" "non-SQL node left out of the fold"
    [("node", .text node.name), ("engine", .text node.kind.name)]

def foldedEvent (nodes skipped : Nat) : Log.Event :=
  .named .debug Visit.logTarget "cluster.folded" "cluster capabilities folded"
    [("stage", .text Log.Stage.fold.name), ("nodes", .int nodes), ("skipped", .int skipped)]

def ofDescriptors (visit : String → Visit) (parallelism : Nat) (deployment : Deployment)
    (nodes : List Descriptor) : Pass :=
  let sql := nodes.filter Descriptor.isSql
  let others := nodes.filter fun node => !node.isSql
  let skips := others.map fun node => Emission.direct (skippedEvent node)
  let result := survey visit Fold.empty [] (chunks parallelism sql.length sql)
  let contacts := result.visits.flatMap Visit.contacts
  match result.result with
  | .error stop => ⟨contacts, result.visits, skips ++ result.emissions, .error stop⟩
  | .ok (fold, found) =>
    ⟨contacts, result.visits,
      skips ++ result.emissions ++ [Emission.direct (foldedEvent fold.nodes others.length)],
      .ok ⟨fold.finish deployment, found, others.map Descriptor.name⟩⟩

theorem of_descriptors_contacts (visit : String → Visit) (parallelism : Nat) (deployment : Deployment)
    (nodes : List Descriptor) :
    (ofDescriptors visit parallelism deployment nodes).contacts =
      (ofDescriptors visit parallelism deployment nodes).visits.flatMap Visit.contacts := by
  unfold ofDescriptors
  dsimp only
  split <;> rfl

-- The nodes are asked for first, and once.
def run (topology : Topology) (options : ProbeOptions) (parallelism : Nat)
    (deployment : Deployment) : Pass :=
  match topology.nodes with
  | .error cause => ⟨[.nodes], [], [], .error (.failed (.topology cause))⟩
  | .ok nodes => (ofDescriptors (Visit.of topology options) parallelism deployment nodes).after .nodes

theorem run_listed (topology : Topology) (options : ProbeOptions) (parallelism : Nat) (deployment : Deployment)
    (nodes : List Descriptor) (listed : topology.nodes = .ok nodes) :
    run topology options parallelism deployment =
      (ofDescriptors (Visit.of topology options) parallelism deployment nodes).after .nodes := by
  simp only [run, listed]

theorem run_contacts (topology : Topology) (options : ProbeOptions) (parallelism : Nat) (deployment : Deployment) :
    let pass := run topology options parallelism deployment
    pass.contacts = .nodes :: pass.visits.flatMap Visit.contacts := by
  intro pass
  cases listed : topology.nodes with
  | error cause => simp only [pass, run, listed, List.flatMap_nil]
  | ok nodes =>
      have ran := run_listed topology options parallelism deployment nodes listed
      simp only [pass, ran, after, of_descriptors_contacts]

end Pass

end ClusterCaps
