import Ark.Engine

/-!
# Restoring the items of one resource type

`restoreResource` walks the archive files of one resource type in one namespace, and
for each item runs the steps of its loop body: read and decode, the label selector, the
completed check, the lazily built client, the mirror-pod check, the persistent-volume
and claim special cases, the item actions, the metadata reset and labels, and the
create with its conflict handling. The body is cut into stages at the points where the
Go code leaves the item (`continue`) or the whole call (`return`); each stage ends in
`Stage.go` with the item for the next stage or in `Stage.exit`.
-/

namespace Ark

/-- An item action with the filters `resolveActions` computed for it once. -/
structure ResolvedAction where
  index : Nat
  action : ItemAction
  resourceIncludesExcludes : IncludesExcludes
  namespaceIncludesExcludes : IncludesExcludes
  selector : Selector

/-- The restore's `context`: what stays fixed while it runs. `resticRestorer` is the
factory whose restorer was made, if one was. -/
structure Context where
  kr : KubernetesRestorer
  reader : Reader
  backup : Backup
  restore : Restore
  prioritizedResources : List GroupResource
  selector : Selector
  actions : List ResolvedAction
  resticRestorer : Option ResticRestorerFactory

/-- `restoreResource`'s locals that live across items: its two results, the client built
from the first item, and whether a watch was opened (`resourceWatch != nil`). -/
structure Frame where
  warnings : RestoreResult := {}
  errs : RestoreResult := {}
  client : Option Client := none
  watching : Bool := false

def Frame.addErr (fr : Frame) (ns err : String) : Frame :=
  { fr with errs := addToResult fr.errs ns err }

def Frame.addWarning (fr : Frame) (ns err : String) : Frame :=
  { fr with warnings := addToResult fr.warnings ns err }

/-- How an item ends: on to the next file (`continue`), or out of `restoreResource`. -/
inductive Flow where
  | next
  | stop
  deriving DecidableEq, Repr

/-- How a stage of an item ends: on to the next stage with the item, or out of it. -/
inductive Stage where
  | go (obj : Unstructured) (fr : Frame)
  | exit (flow : Flow) (fr : Frame)

/-- The item named in `restoreResource`'s messages. -/
def Origin.describe (o : Origin) : String :=
  s!"item {quote o.file} for resource {quote o.resource} in namespace {quote o.ns}"

/-- Modelled from the spec: the label keys of Ark's `api` package are not under src/; they
are the spec's restore-name and source-backup-name identification labels. -/
def restoreNameLabel : String := "ark.heptio.com/restore-name"
/-- Modelled from the spec, see `restoreNameLabel`. -/
def backupNameLabel : String := "ark.heptio.com/backup-name"
/-- Modelled from the spec, see `restoreNameLabel`. -/
def restoreLabelKey : String := "ark-restore"

/-- `v1.MirrorPodAnnotationKey`. -/
def mirrorPodAnnotationKey : String := "kubernetes.io/config.mirror"

/-- Modelled from the spec: `restic.GetPodSnapshotAnnotations` is not under src/; it
returns the pod's pod-volume-snapshot annotations. -/
def getPodSnapshotAnnotations (obj : Unstructured) : List (String × String) :=
  obj.getAnnotations.filter fun p => "snapshot.ark.heptio.com/".data.isPrefixOf p.1.data

/-! ## Pure steps -/

/-- `json.Unmarshal` into an `Unstructured`: the document must be a map with a kind. -/
def decodeItem : Blob → Except String Unstructured
  | .json (.obj m) =>
    if (Unstructured.mk m).getKind = "" then .error "Object Kind is missing"
    else .ok ⟨m⟩
  | .json _ => .error "cannot unmarshal into an unstructured object"
  | .malformed => .error "invalid character looking for beginning of value"

/-- `isCompleted`: a Pod whose phase is Failed or Succeeded, or a Job with a completion
time. -/
def isCompleted (obj : Unstructured) (gr : GroupResource) : Except String Bool :=
  if gr = Kuberesource.pods then
    match nestedString (.obj obj.object) ["status", "phase"] with
    | .error e => .error e
    | .ok phase => .ok (phase = some "Failed" ∨ phase = some "Succeeded")
  else if gr = Kuberesource.jobs then
    match nestedString (.obj obj.object) ["status", "completionTime"] with
    | .error e => .error e
    | .ok ct => .ok (ct ≠ none ∧ ct ≠ some "")
  else .ok false

/-- `resetMetadataAndStatus`: keeps only name, namespace, labels and annotations in the
metadata, and drops the status. -/
def resetMetadataAndStatus (obj : Unstructured) : Except String Unstructured :=
  match getMap obj.object ["metadata"] with
  | .error e => .error e
  | .ok metadata =>
    let kept := metadata.filter fun p => p.1 ∈ ["name", "namespace", "labels", "annotations"]
    .ok ⟨deleteKey (setKey obj.object "metadata" (.obj kept)) "status"⟩

/-- `addRestoreLabels`. -/
def addRestoreLabels (obj : Unstructured) (restoreName backupName : String) : Unstructured :=
  obj.setLabels (setKey (setKey (setKey obj.getLabels backupNameLabel backupName)
    restoreNameLabel restoreName) restoreLabelKey restoreName)

/-- The mirror-pod check of the loop body. -/
def isMirrorPod (gr : GroupResource) (obj : Unstructured) : Bool :=
  gr = Kuberesource.pods && (obj.getAnnotations.lookup mirrorPodAnnotationKey).getD "" != ""

/-- The provisioning check of the PV branch: no snapshot record and reclaim policy
Delete. -/
def toProvision (backup : Backup) (obj : Unstructured) : Bool :=
  getString obj.object ["spec", "persistentVolumeReclaimPolicy"] == .ok "Delete" &&
    (backup.volumeBackups.lookup obj.getName).isNone

/-- The PVC branch's reset of a claim whose volume is left to dynamic provisioning:
`spec.volumeName` and the two binding annotations are deleted. -/
def resetClaim (obj : Unstructured) (spec : List (String × Json)) : Unstructured :=
  let obj : Unstructured := ⟨setKey obj.object "spec" (.obj (deleteKey spec "volumeName"))⟩
  obj.setAnnotations (deleteKey (deleteKey obj.getAnnotations "pv.kubernetes.io/bind-completed")
    "pv.kubernetes.io/bound-by-controller")

/-! ## Stages -/

/-- Reading and decoding the item, the label selector and the completed check. -/
def admitItem (ctx : Context) (origin : Origin) (gr : GroupResource) (fr : Frame) : M Stage := do
  match ← call (fun _ => ctx.reader.get origin.resource origin.ns origin.file)
      (fun _ => .get origin) with
  | .error e => pure (.exit .next (fr.addErr origin.ns s!"error getting {origin.describe}: {e}"))
  | .ok bytes =>
    match decodeItem bytes with
    | .error e => pure (.exit .next (fr.addErr origin.ns s!"error decoding {origin.describe}: {e}"))
    | .ok obj =>
      if !ctx.selector.matchesLabels obj.getLabels then pure (.exit .next fr)
      else match isCompleted obj gr with
        | .error e => pure (.exit .next
            (fr.addErr origin.ns s!"error checking completion for {origin.describe}: {e}"))
        | .ok true => pure (.exit .next fr)
        | .ok false => pure (.go obj fr)

/-- The client of the resource type, built from the first item that gets this far. -/
def resourceClientFor (ctx : Context) (gr : GroupResource) (ns : String) (obj : Unstructured)
    (fr : Frame) : M (Except Frame (Client × Frame)) :=
  match fr.client with
  | some client => pure (.ok (client, fr))
  | none => do
    let client : Client := ⟨obj.groupVersion, gr.resource, ns ≠ "", ns⟩
    match ← call (ctx.kr.cluster.clientForGroupVersionResource · client)
        (.clientFor client) with
    | .error e =>
      let err := s!"error getting resource client for namespace {quote ns}, resource {quote gr.string}: {e}"
      pure (.error { fr with errs := addArkError fr.errs err })
    | .ok () => pure (.ok (client, { fr with client := some client }))

/-- `pvRestorer.executePVAction`. A `nil` snapshot record is dereferenced, and panics. -/
def executePVAction (ctx : Context) (origin : Origin) (obj : Unstructured) :
    M (Except String Unstructured) := do
  let pvName := obj.getName
  if pvName = "" then pure (.error "PersistentVolume is missing its name") else
  match getMap obj.object ["spec"] with
  | .error e => pure (.error e)
  | .ok spec =>
    let obj : Unstructured :=
      ⟨setKey obj.object "spec" (.obj (deleteKey (deleteKey spec "claimRef") "storageClassName"))⟩
    if isSetToFalse ctx.backup.snapshotVolumes then pure (.ok obj) else
    if isSetToFalse ctx.restore.spec.restorePVs then pure (.ok obj) else
    match ctx.backup.volumeBackups.lookup pvName with
    | none => pure (.ok obj)
    | some backupInfo =>
      match ctx.kr.blockStore with
      | none => pure (.error
          "you must configure a persistentVolumeProvider to restore PersistentVolumes from snapshots")
      | some blockStore =>
        match backupInfo with
        | none => throw "runtime error: invalid memory address or nil pointer dereference"
        | some info => do
          match ← call (blockStore.createVolumeFromSnapshot · info.snapshotID info.type
              info.availabilityZone info.iops)
              (.createVolumeFromSnapshot origin info.snapshotID info.type info.availabilityZone
                info.iops) with
          | .error e => pure (.error e)
          | .ok volumeID =>
            match ← call (blockStore.setVolumeID · obj volumeID) (.setVolumeID origin obj volumeID) with
            | .error e => pure (.error e)
            | .ok none => pure (.error "unexpected type")
            | .ok (some updated) => pure (.ok updated)

/-- The PersistentVolume branch: a volume left to provisioning is skipped; any other is
restored from its snapshot, and the first one opens the watch its readiness task waits
on. -/
def restorePV (ctx : Context) (origin : Origin) (gr : GroupResource) (client : Client)
    (name : String) (obj : Unstructured) (fr : Frame) : M Stage :=
  if gr ≠ Kuberesource.persistentVolumes then pure (.go obj fr)
  else if toProvision ctx.backup obj then do
    modify fun s => { s with pvsToProvision := s.pvsToProvision.insert name }
    pure (.exit .next fr)
  else do
    match ← executePVAction ctx origin obj with
    | .error e => pure (.exit .next (fr.addErr origin.ns s!"error executing PVAction for {origin.describe}: {e}"))
    | .ok obj =>
      if fr.watching then pure (.go obj fr) else
      match ← call (ctx.kr.cluster.watch · client) (.watch client) with
      | .error e => pure (.exit .stop (fr.addErr origin.ns
          s!"error watching for namespace {quote origin.ns}, resource {quote gr.string}: {e}"))
      | .ok () => do
        modify fun s =>
          { s with resourceWatches := s.resourceWatches ++ [client], resourceTasks := s.resourceTasks ++ [name] }
        pure (.go obj { fr with watching := true })

/-- The dynamic type of a decoded JSON value, as a failed type assertion names it; integral
numbers decode as `int64`. -/
def goTypeName : Json → String
  | .null => "nil"
  | .bool _ => "bool"
  | .num _ => "int64"
  | .str _ => "string"
  | .arr _ => "[]interface \x7b\x7d"
  | .obj _ => "map[string]interface \x7b\x7d"

/-- The PersistentVolumeClaim branch. `volumeName.(string)` is an unchecked type assertion,
which panics on a value that is not a string. -/
def resetPVC (gr : GroupResource) (ns : String) (obj : Unstructured) (fr : Frame) : M Stage :=
  if gr ≠ Kuberesource.persistentVolumeClaims then pure (.go obj fr) else
  match getMap obj.object ["spec"] with
  | .error e => pure (.exit .next (fr.addErr ns e))
  | .ok spec =>
    match spec.lookup "volumeName" with
    | none => pure (.go obj fr)
    | some (.str volumeName) => do
      let s ← get
      if volumeName ∈ s.pvsToProvision then pure (.go (resetClaim obj spec) fr)
      else pure (.go obj fr)
    | some v => throw s!"interface conversion: interface \x7b\x7d is {goTypeName v}, not string"

/-- The action loop. An action's error, or a result that is not an `Unstructured`, goes to
the next action; a warning is recorded as `errors.Wrapf(err, ...)`, which is `nil`, and
panics, when the action returned no error. -/
def runActions (ctx : Context) (origin : Origin) :
    List ResolvedAction → Unstructured → Frame → M (Unstructured × Frame)
  | [], obj, fr => pure (obj, fr)
  | a :: as, obj, fr =>
    if !a.selector.matchesLabels obj.getLabels then runActions ctx origin as obj fr else do
    let r ← call (a.action.execute · obj ctx.restore) (.execute a.index origin obj)
    let fr ← match r.warning, r.err with
      | none, _ => pure fr
      | some _, none => throw "runtime error: invalid memory address or nil pointer dereference"
      | some _, some e => pure (fr.addWarning origin.ns s!"warning preparing {origin.describe}: {e}")
    match r.err with
    | some e => runActions ctx origin as obj (fr.addErr origin.ns s!"error preparing {origin.describe}: {e}")
    | none =>
      match r.updated with
      | none => runActions ctx origin as obj (fr.addErr origin.ns s!"unexpected type for {origin.describe}")
      | some updated => runActions ctx origin as updated fr

/-! ## Conflicts with live objects -/

/-- A map as Go sees it: the first binding of each key, in key order. -/
def canonMap (fs : List (String × Json)) : List (String × Json) :=
  ((fs.foldl fun acc p => if acc.any (·.1 == p.1) then acc else acc ++ [p]) []).insertionSort
    fun p q => decide (p.1.data ≤ q.1.data)

mutual
/-- The canonical form of a document: its maps as `canonMap` gives them. -/
def Json.canon : Json → Json
  | .arr xs => .arr (Json.canonItems xs)
  | .obj fs => .obj (canonMap (Json.canonFields fs))
  | j => j
def Json.canonItems : List Json → List Json
  | [] => []
  | x :: xs => x.canon :: Json.canonItems xs
def Json.canonFields : List (String × Json) → List (String × Json)
  | [] => []
  | (k, v) :: fs => (k, v.canon) :: Json.canonFields fs
end

/-- `equality.Semantic.DeepEqual` on two items: equal as JSON values, maps compared as
maps. -/
def deepEqual (a b : Unstructured) : Bool :=
  (Json.obj a.object).canon == (Json.obj b.object).canon

/-- The list of `key` in a ServiceAccount, as its typed conversion reads it. -/
def serviceAccountList (obj : Unstructured) (key : String) : Except String (List Json) :=
  match obj.object.lookup key with
  | none | some .null => .ok []
  | some (.arr xs) => .ok xs
  | some _ => .error s!"unable to convert {key} of the service account"

/-- Modelled from the spec: `mergeServiceAccounts` is not under src/. The live object with
its secrets and image-pull secrets the union of the live and the backed-up entries,
de-duplicated, live entries kept first. -/
def mergeServiceAccounts (fromCluster fromBackup : Unstructured) : Except String Unstructured := do
  let union (live backup : List Json) : List Json :=
    backup.foldl (fun acc x => if x ∈ acc then acc else acc ++ [x]) live
  let secrets := union (← serviceAccountList fromCluster "secrets")
    (← serviceAccountList fromBackup "secrets")
  let pulls := union (← serviceAccountList fromCluster "imagePullSecrets")
    (← serviceAccountList fromBackup "imagePullSecrets")
  pure ⟨setKey (setKey fromCluster.object "secrets" (.arr secrets)) "imagePullSecrets" (.arr pulls)⟩

/-- Modelled from the spec: `generatePatch` is not under src/. The merge patch from the
live object to the desired one, `nil` when they are equal. -/
def generatePatch (fromCluster desired : Unstructured) : Except String (Option Json) :=
  if deepEqual fromCluster desired then .ok none
  else .ok (some (.obj (desired.object.filter fun p => fromCluster.object.lookup p.1 ≠ some p.2)))

/-- The `AlreadyExists` branch: the live object, reset and labelled the same way, is
compared with the item; only a ServiceAccount is patched, any other difference is a
warning. -/
def restoreExisting (ctx : Context) (origin : Origin) (gr : GroupResource) (client : Client)
    (name : String) (obj : Unstructured) (restoreErr : String) (fr : Frame) : M Frame := do
  match ← call (ctx.kr.cluster.get · client name) (.getLive origin client name) with
  | .error e => pure (fr.addWarning origin.ns e)
  | .ok fromCluster =>
    match resetMetadataAndStatus fromCluster with
    | .error e => pure (fr.addWarning origin.ns e)
    | .ok fromCluster =>
      let labels := obj.getLabels
      let fromCluster := addRestoreLabels fromCluster ((labels.lookup restoreNameLabel).getD "")
        ((labels.lookup backupNameLabel).getD "")
      if deepEqual fromCluster obj then pure fr
      else if gr = Kuberesource.serviceAccounts then
        match mergeServiceAccounts fromCluster obj with
        | .error e => pure (fr.addWarning origin.ns e)
        | .ok desired =>
          match generatePatch fromCluster desired with
          | .error e => pure (fr.addWarning origin.ns e)
          | .ok none => pure fr
          | .ok (some patch) => do
            match ← call (ctx.kr.cluster.patch · client name patch)
                (.patch origin client name patch) with
            | .error e => pure (fr.addWarning origin.ns e)
            | .ok () => pure fr
      else pure (fr.addWarning origin.ns
        s!"not restored: {restoreErr} and is different from backed up version.")

/-- The create, its conflict handling, and the pod-volume task of a created pod. The task
(`GoErrorSlice`) is taken to run as soon as it is started: its `RestorePodVolumes` call is made
here, and its errors wait in `globalTasks` for the global wait group's `Wait`. -/
def createItem (ctx : Context) (origin : Origin) (gr : GroupResource) (client : Client)
    (name : String) (obj : Unstructured) (fr : Frame) : M Frame := do
  match ← call (ctx.kr.cluster.create · client obj) (.create origin client obj) with
  | .alreadyExists e => restoreExisting ctx origin gr client name obj e fr
  | .failed e => pure (fr.addErr origin.ns s!"error restoring {origin.describe}: {e}")
  | .created created =>
    if gr = Kuberesource.pods ∧ getPodSnapshotAnnotations obj ≠ [] then
      match ctx.resticRestorer with
      | none => pure fr
      | some restorer => do
        let errs ← call (restorer.restorePodVolumes · created) (.restorePodVolumes created)
        modify fun s => { s with globalTasks := s.globalTasks ++ [errs] }
        pure fr
    else pure fr

/-! ## The loop -/

/-- One iteration of `restoreResource`'s loop over the files. -/
def restoreItem (ctx : Context) (resource ns : String) (applicable : List ResolvedAction)
    (fr : Frame) (file : String) : M (Flow × Frame) := do
  let gr := parseGroupResource resource
  let origin : Origin := ⟨resource, ns, file⟩
  match ← admitItem ctx origin gr fr with
  | .exit flow fr => pure (flow, fr)
  | .go obj fr =>
    match ← resourceClientFor ctx gr ns obj fr with
    | .error fr => pure (.stop, fr)
    | .ok (client, fr) =>
      let name := obj.getName
      if isMirrorPod gr obj then pure (.next, fr) else
      match ← restorePV ctx origin gr client name obj fr with
      | .exit flow fr => pure (flow, fr)
      | .go obj fr =>
        match ← resetPVC gr ns obj fr with
        | .exit flow fr => pure (flow, fr)
        | .go obj fr => do
          let (obj, fr) ← runActions ctx origin applicable obj fr
          match resetMetadataAndStatus obj with
          | .error e => pure (.next, fr.addErr ns e)
          | .ok obj =>
            let obj := if ns ≠ "" then obj.setNamespace ns else obj
            let obj := addRestoreLabels obj ctx.restore.name ctx.restore.spec.backupName
            pure (.next, ← createItem ctx origin gr client name obj fr)

/-- The loop over the files, up to the first item that returns from `restoreResource`. -/
def restoreItems (ctx : Context) (resource ns : String) (applicable : List ResolvedAction) :
    List String → Frame → M Frame
  | [], fr => pure fr
  | file :: files, fr => do
    match ← restoreItem ctx resource ns applicable fr file with
    | (.next, fr) => restoreItems ctx resource ns applicable files fr
    | (.stop, fr) => pure fr

/-- `restoreResource`: the cluster-scoped case (`ns` empty) is skipped when the request
excludes cluster resources; the actions are pre-filtered by resource and namespace. -/
def restoreResource (ctx : Context) (resource ns : String) : M (RestoreResult × RestoreResult) :=
  if isSetToFalse ctx.restore.spec.includeClusterResources && ns == "" then pure ({}, {}) else do
  match ← call (fun _ => ctx.reader.listContents resource ns) (fun _ => .listContents resource ns) with
  | .error e => pure ({}, addToResult {} ns s!"error reading resource directory {quote resource}: {e}")
  | .ok [] => pure ({}, {})
  | .ok files =>
    let gr := parseGroupResource resource
    let applicable := ctx.actions.filter fun a =>
      a.resourceIncludesExcludes.shouldInclude gr.string &&
        (ns == "" || a.namespaceIncludesExcludes.shouldInclude ns)
    let fr ← restoreItems ctx resource ns applicable files {}
    pure (fr.warnings, fr.errs)

end Ark
