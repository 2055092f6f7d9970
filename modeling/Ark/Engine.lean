import Ark.Prioritize

/-!
# The restore engine's world

The collaborators a restore talks to, and the state it runs in. The archive is read
through an `archive.Reader` whose answers depend only on the archive. The cluster, the
block store, item actions, the restic restorer and the background tasks answer every
call through a function of all calls made so far, so a theorem over every such
function holds for every behaviour of theirs, stateful ones included. Every call is
logged with its answer in `State.calls`; a Go panic ends the run as an `EStateM` error,
which keeps the log.

A pod-volume task runs as soon as `GoErrorSlice` starts it, and its errors wait for the global
wait group. A readiness task is run when the engine waits for it, the latest point the Go
scheduler may run it; one that no wait reaches is never run, where Go runs it and drops its
warning, so only its `WaitForReady` call is missing from the log.
-/

/-- The state a run ended in, on either exit. -/
def EStateM.Result.state {ε σ α : Type} : EStateM.Result ε σ α → σ
  | .ok _ s => s
  | .error _ s => s

/-- The panic a run ended in, if it ended in one. -/
def EStateM.Result.panic? {ε σ α : Type} : EStateM.Result ε σ α → Option ε
  | .ok _ _ => none
  | .error e _ => some e

/-- The value a run returned, if it returned. -/
def EStateM.Result.value? {ε σ α : Type} : EStateM.Result ε σ α → Option α
  | .ok a _ => some a
  | .error _ _ => none

namespace Ark

inductive ResourceScope where
  | cluster
  | namespaced
  deriving DecidableEq, Repr

/-- The bytes of an archive file: the JSON document they encode, or bytes that are no
JSON. -/
inductive Blob where
  | json (doc : Json)
  | malformed
  deriving DecidableEq, Repr

/-- An extracted `archive.Reader`. -/
structure Reader where
  extract : Except String Unit
  getResourceScope : String → Except String (Option ResourceScope)
  listNamespaces : String → Except String (List String)
  listContents : String → String → Except String (List String)
  get : String → String → String → Except String Blob

/-- The archive item a call is made for: resource, namespace and file name. -/
structure Origin where
  resource : String
  ns : String
  file : String
  deriving DecidableEq, Repr

/-- A dynamic client, as `ClientForGroupVersionResource` builds it. -/
structure Client where
  groupVersion : GroupVersion
  resource : String
  namespaced : Bool
  ns : String
  deriving DecidableEq, Repr

/-- The namespace object `getNamespace` builds. -/
structure Namespace where
  name : String
  labels : List (String × String) := []
  annotations : List (String × String) := []
  finalizers : List String := []
  deriving DecidableEq, Repr

inductive CreateResult where
  | created (obj : Unstructured)
  | alreadyExists (err : String)
  | failed (err : String)
  deriving DecidableEq, Repr

/-- What an item action's `Execute` returned; `updated` is `none` when the returned object
is not an `*unstructured.Unstructured`. -/
structure ExecuteResult where
  updated : Option Unstructured
  warning : Option String
  err : Option String
  deriving DecidableEq, Repr

instance decEqExcept {ε α : Type} [DecidableEq ε] [DecidableEq α] : DecidableEq (Except ε α) :=
  fun a b =>
  match a, b with
  | .ok x, .ok y => decidable_of_iff (x = y) (by simp)
  | .error x, .error y => decidable_of_iff (x = y) (by simp)
  | .ok _, .error _ => isFalse (by simp)
  | .error _, .ok _ => isFalse (by simp)

/-- Every call the engine makes to a collaborator, with its answer. -/
inductive Call where
  | extract (result : Except String Unit)
  | close
  | getResourceScope (resource : String)
  | listNamespaces (resource : String)
  | listContents (resource ns : String)
  | get (origin : Origin)
  | ensureNamespaceExists (ns : Namespace) (result : Except String Bool)
  | clientFor (client : Client) (result : Except String Unit)
  | create (origin : Origin) (client : Client) (obj : Unstructured) (result : CreateResult)
  | getLive (origin : Origin) (client : Client) (name : String)
      (result : Except String Unstructured)
  | patch (origin : Origin) (client : Client) (name : String) (patch : Json)
      (result : Except String Unit)
  | watch (client : Client) (result : Except String Unit)
  | stopWatch (client : Client)
  | createVolumeFromSnapshot (origin : Origin) (snapshotID volumeType zone : String)
      (iops : Option Int) (result : Except String String)
  | setVolumeID (origin : Origin) (obj : Unstructured) (volumeID : String)
      (result : Except String (Option Unstructured))
  | execute (action : Nat) (origin : Origin) (obj : Unstructured) (result : ExecuteResult)
  | newRestorer (result : Except String Unit)
  | waitForReady (name : String) (ready : Bool)
  | restorePodVolumes (pod : Unstructured) (errs : List String)
  deriving DecidableEq, Repr

/-- The cluster: the dynamic client factory and its clients, the namespace client, and
the watch a PV readiness task waits on (`true` when the volume became available within
the task's minute). -/
structure Cluster where
  ensureNamespaceExists : List Call → Namespace → Except String Bool
  clientForGroupVersionResource : List Call → Client → Except String Unit
  create : List Call → Client → Unstructured → CreateResult
  get : List Call → Client → String → Except String Unstructured
  patch : List Call → Client → String → Json → Except String Unit
  watch : List Call → Client → Except String Unit
  waitForReady : List Call → String → Bool

/-- `cloudprovider.BlockStore`; `setVolumeID` gives `none` for a result that is not an
`*unstructured.Unstructured`. -/
structure BlockStore where
  createVolumeFromSnapshot : List Call → String → String → String → Option Int →
    Except String String
  setVolumeID : List Call → Unstructured → String → Except String (Option Unstructured)

/-- `restic.RestorerFactory` and the restorer it makes. -/
structure ResticRestorerFactory where
  newRestorer : List Call → Restore → Except String Unit
  restorePodVolumes : List Call → Unstructured → List String

/-- What an item action's `AppliesTo` returns. -/
structure ResourceSelector where
  includedNamespaces : List String := []
  excludedNamespaces : List String := []
  includedResources : List String := []
  excludedResources : List String := []
  labelSelector : String := ""

/-- A pluggable `ItemAction`. -/
structure ItemAction where
  appliesTo : Except String ResourceSelector
  execute : List Call → Unstructured → Restore → ExecuteResult

/-- `kubernetesRestorer`, with `labels.Parse` for the actions' selectors. -/
structure KubernetesRestorer where
  discoveryHelper : Helper
  cluster : Cluster
  blockStore : Option BlockStore
  resticRestorerFactory : Option ResticRestorerFactory
  resourcePriorities : List String
  parseSelector : String → Except String Selector

/-- The engine's state: the call log, the provisioning set, the open watches, the readiness
tasks not yet run (PV names), and the errors of the pod-volume tasks not yet waited for. -/
structure State where
  calls : List Call := []
  pvsToProvision : List String := []
  resourceWatches : List Client := []
  resourceTasks : List String := []
  globalTasks : List (List String) := []
  deriving DecidableEq, Repr

abbrev M := EStateM String State

/-- The state after logging `c`. -/
def State.record (s : State) (c : Call) : State := { s with calls := s.calls ++ [c] }

@[simp] theorem State.record_calls (s : State) (c : Call) : (s.record c).calls = s.calls ++ [c] :=
  rfl

@[simp] theorem State.record_pvsToProvision (s : State) (c : Call) :
    (s.record c).pvsToProvision = s.pvsToProvision := rfl

/-- A call to a collaborator: answered from the log, then logged. -/
def call {α : Type} (answer : List Call → α) (log : α → Call) : M α := fun s =>
  let a := answer s.calls
  .ok a (s.record (log a))

theorem call_apply {α : Type} (answer : List Call → α) (log : α → Call) (s : State) :
    call answer log s = .ok (answer s.calls) (s.record (log (answer s.calls))) :=
  rfl

end Ark
