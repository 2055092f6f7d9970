import Ark.Archive
import Ark.Item

/-!
# The backup controller

`backupController.processBackup` takes a backup from its informer's cache, validates it,
patches its status to `InProgress` (or `FailedValidation`) through the API server, runs
and uploads the backup, and patches the final status. Each patch is the JSON merge patch
from the object it started from to the one it wants. The informer's cache and the
location listers are snapshots the run reads; the API server, the temp files, the plugin
manager, the backup store, the backupper and the encoder answer every call through a
function of all calls made so far, and every call is logged with its answer, as for a
restore. A Go map is the list of its entries, and `range` over it visits the keys in the
order `rangeOrder` gives, which Go picks anew each time.
-/

namespace Ark

namespace BackupController

/-- `api.BackupPhase`; `empty` is the phase of a backup nobody has processed. -/
inductive Phase where
  | empty
  | new
  | failedValidation
  | inProgress
  | completed
  | failed
  deriving DecidableEq, Repr

def Phase.string : Phase → String
  | .empty => ""
  | .new => "New"
  | .failedValidation => "FailedValidation"
  | .inProgress => "InProgress"
  | .completed => "Completed"
  | .failed => "Failed"

/-- The fields of `api.BackupSpec` the controller reads or writes. -/
structure Spec where
  includedNamespaces : List String := []
  excludedNamespaces : List String := []
  includedResources : List String := []
  excludedResources : List String := []
  storageLocation : String := ""
  volumeSnapshotLocations : List String := []
  deriving DecidableEq, Repr

/-- The fields of `api.BackupStatus` the controller writes and no clock sets. -/
structure Status where
  version : Nat := 0
  validationErrors : List String := []
  phase : Phase := .empty
  deriving DecidableEq, Repr

/-- `api.Backup`, as the controller sees it: its identity, the resource version the API
server keeps, its spec and its status. -/
structure Backup where
  ns : String
  name : String
  resourceVersion : Nat := 0
  spec : Spec := {}
  status : Status := {}
  deriving DecidableEq, Repr

/-- `api.BackupStorageLocation`. -/
structure StorageLocation where
  ns : String
  name : String
  deriving DecidableEq, Repr

/-- `api.VolumeSnapshotLocation`: its identity and its provider. -/
structure SnapshotLocation where
  ns : String
  name : String
  provider : String
  deriving DecidableEq, Repr

/-- A Go map from providers to `*api.VolumeSnapshotLocation`; `none` is a `nil` pointer. -/
structure LocationMap where
  entries : List (String × Option SnapshotLocation)
  nodup : (entries.map (·.1)).Nodup

/-- `pkgbackup.Request`: the backup with the locations its validation resolved. -/
structure Request where
  backup : Backup
  storageLocation : Option StorageLocation := none
  snapshotLocations : List SnapshotLocation := []
  deriving DecidableEq, Repr

/-! ## Merge patches -/

/-- A field of a merge patch from `o` to `u`: absent when the two agree. -/
def diff {α : Type} [DecidableEq α] (o u : α) : Option α := if o = u then none else some u

/-- `jsonpatch.CreateMergePatch` of two marshalled backups: each field that differs, with its
new value. -/
structure Patch where
  resourceVersion : Option Nat := none
  includedNamespaces : Option (List String) := none
  excludedNamespaces : Option (List String) := none
  includedResources : Option (List String) := none
  excludedResources : Option (List String) := none
  storageLocation : Option String := none
  volumeSnapshotLocations : Option (List String) := none
  version : Option Nat := none
  validationErrors : Option (List String) := none
  phase : Option Phase := none
  deriving DecidableEq, Repr

def createMergePatch (o u : Backup) : Patch where
  resourceVersion := diff o.resourceVersion u.resourceVersion
  includedNamespaces := diff o.spec.includedNamespaces u.spec.includedNamespaces
  excludedNamespaces := diff o.spec.excludedNamespaces u.spec.excludedNamespaces
  includedResources := diff o.spec.includedResources u.spec.includedResources
  excludedResources := diff o.spec.excludedResources u.spec.excludedResources
  storageLocation := diff o.spec.storageLocation u.spec.storageLocation
  volumeSnapshotLocations := diff o.spec.volumeSnapshotLocations u.spec.volumeSnapshotLocations
  version := diff o.status.version u.status.version
  validationErrors := diff o.status.validationErrors u.status.validationErrors
  phase := diff o.status.phase u.status.phase

/-- A merge patch applied to `b`: each field the patch carries is replaced. -/
def Patch.applyTo (p : Patch) (b : Backup) : Backup where
  ns := b.ns
  name := b.name
  resourceVersion := p.resourceVersion.getD b.resourceVersion
  spec :=
    { includedNamespaces := p.includedNamespaces.getD b.spec.includedNamespaces
      excludedNamespaces := p.excludedNamespaces.getD b.spec.excludedNamespaces
      includedResources := p.includedResources.getD b.spec.includedResources
      excludedResources := p.excludedResources.getD b.spec.excludedResources
      storageLocation := p.storageLocation.getD b.spec.storageLocation
      volumeSnapshotLocations := p.volumeSnapshotLocations.getD b.spec.volumeSnapshotLocations }
  status :=
    { version := p.version.getD b.status.version
      validationErrors := p.validationErrors.getD b.status.validationErrors
      phase := p.phase.getD b.status.phase }

/-- Modelled from the API server's contract for merge patches: a patch that carries a
`metadata.resourceVersion` other than the stored one is a conflict; any other is applied to
the stored object, whose resource version is bumped. -/
def serverPatch (stored : Backup) (p : Patch) : Except String Backup :=
  if p.resourceVersion.any (· ≠ stored.resourceVersion) then
    .error s!"Operation cannot be fulfilled on backups {quote stored.name}: the object has been modified"
  else .ok { p.applyTo stored with resourceVersion := stored.resourceVersion + 1 }

/-! ## The collaborators -/

/-- A call of the controller to a collaborator, with its answer. The API server's answer to
a patch is the patched object. -/
inductive Call where
  | patch (ns name : String) (patch : Patch) (result : Except String Backup)
  | trackerAdd (ns name : String)
  | trackerDelete (ns name : String)
  | tempFile (result : Except String Unit)
  | getBackupItemActions (result : Except String Unit)
  | newBackupStore (location : Option StorageLocation) (result : Except String Unit)
  | backup (request : Request) (result : Except String Unit)
  | encode (request : Request) (result : Except String Unit)
  | stat (result : Except String Unit)
  | putBackup (name : String) (json : Option Backup) (tarball : Bool) (result : Except String Unit)
  deriving DecidableEq, Repr

/-- `backupController` and what it reaches: the contents of the informers' caches its
listers read, the validation of include/exclude lists, the defaults, and the collaborators
that answer from the log. `range` visits each key of a map once, in the order `rangeOrder`
gives. `stored` is the object the API server holds when a patch of it arrives, or the error
the patch fails with. -/
structure Controller where
  backups : List Backup
  validateIncludesExcludes : List String → List String → List String
  backupLocations : List StorageLocation
  defaultBackupLocation : String
  snapshotLocations : List SnapshotLocation
  defaultSnapshotLocations : LocationMap
  rangeOrder : List String → List String
  rangeOrder_perm : ∀ keys, (rangeOrder keys).Perm keys
  stored : List Call → String → String → Except String Backup
  tempFile : List Call → Except String Unit
  getBackupItemActions : List Call → Except String Unit
  newBackupStore : List Call → Option StorageLocation → Except String Unit
  backup : List Call → Request → Except String Unit
  encode : List Call → Request → Except String Unit
  stat : List Call → Except String Unit
  putBackup : List Call → String → Option Backup → Bool → Except String Unit

abbrev CM := EStateM String (List Call)

/-- A call to a collaborator: answered from the log, then logged. -/
def invoke {α : Type} (answer : List Call → α) (log : α → Call) : CM α := fun calls =>
  let a := answer calls
  .ok a (calls ++ [log a])

theorem invoke_apply {α : Type} (answer : List Call → α) (log : α → Call) (calls : List Call) :
    invoke answer log calls = .ok (answer calls) (calls ++ [log (answer calls)]) :=
  rfl

/-! ## The listers -/

/-- A lister's `Get`: the cached object of that namespace and name. -/
def listerGet {α : Type} (resource : String) (objects : List α) (ns : α → String)
    (name : α → String) (n m : String) : Except String α :=
  match objects.find? fun o => ns o = n ∧ name o = m with
  | some o => .ok o
  | none => .error s!"{resource}.ark.heptio.com {quote m} not found"

/-- `lister.Backups(ns).Get(name)`. -/
def Controller.lister (c : Controller) : String → String → Except String Backup :=
  listerGet "backup" c.backups (·.ns) (·.name)

/-- `backupLocationLister.BackupStorageLocations(ns).Get(name)`. -/
def Controller.backupLocationLister (c : Controller) :
    String → String → Except String StorageLocation :=
  listerGet "backupstoragelocation" c.backupLocations (·.ns) (·.name)

/-- `snapshotLocationLister.VolumeSnapshotLocations(ns).Get(name)`. -/
def Controller.snapshotLocationLister (c : Controller) :
    String → String → Except String SnapshotLocation :=
  listerGet "volumesnapshotlocation" c.snapshotLocations (·.ns) (·.name)

/-! ## The controller -/

/-- client-go's `cache.SplitMetaNamespaceKey`: `namespace/name`, or a name alone. -/
def splitMetaNamespaceKey (key : String) : Except String (String × String) :=
  match splitPath key with
  | [name] => .ok ("", name)
  | [ns, name] => .ok (ns, name)
  | _ => .error s!"unexpected key format: {quote key}"

def patchBackup (c : Controller) (original updated : Backup) : CM (Except String Backup) := do
  let patch := createMergePatch original updated
  match ← invoke (fun calls => (c.stored calls original.ns original.name).bind (serverPatch · patch))
      (.patch original.ns original.name patch) with
  | .error e => pure (.error s!"error patching backup: {e}")
  | .ok res => pure (.ok res)

def getLocationAndValidate (c : Controller) (itm : Request) (defaultBackupLocation : String) :
    Request × List String :=
  let validationErrors :=
    (c.validateIncludesExcludes itm.backup.spec.includedResources
      itm.backup.spec.excludedResources).map (s!"Invalid included/excluded resource lists: {·}") ++
    (c.validateIncludesExcludes itm.backup.spec.includedNamespaces
      itm.backup.spec.excludedNamespaces).map (s!"Invalid included/excluded namespace lists: {·}")
  let itm := if itm.backup.spec.storageLocation = "" then
    { itm with backup.spec.storageLocation := defaultBackupLocation } else itm
  match c.backupLocationLister itm.backup.ns itm.backup.spec.storageLocation with
  | .error e => (itm, validationErrors ++ [s!"Error getting backup storage location: {e}"])
  | .ok storageLocation => ({ itm with storageLocation := some storageLocation }, validationErrors)

/-- The first loop of `defaultAndValidateSnapshotLocations`: the location of each requested
name, kept per provider, and the errors. -/
def collectLocations (c : Controller) (ns : String) :
    List String → List (String × SnapshotLocation) → List String →
      List (String × SnapshotLocation) × List String
  | [], providerLocations, errors => (providerLocations, errors)
  | locationName :: names, providerLocations, errors =>
    match c.snapshotLocationLister ns locationName with
    | .error e => collectLocations c ns names providerLocations
        (errors ++ [s!"error getting volume snapshot location named {locationName}: {e}"])
    | .ok location =>
      match providerLocations.lookup location.provider with
      | some providerLocation =>
        if providerLocation.name ≠ locationName then
          collectLocations c ns names providerLocations (errors ++
            [s!"more than one VolumeSnapshotLocation name specified for provider {location.provider}: {locationName}; unexpected name was {providerLocation.name}"])
        else collectLocations c ns names providerLocations errors
      | none => collectLocations c ns names (providerLocations ++ [(location.provider, location)]) errors

/-- The provider locations once the defaults of the providers not requested are added. -/
def addDefaults (providerLocations : List (String × Option SnapshotLocation)) :
    List (String × Option SnapshotLocation) → List (String × Option SnapshotLocation)
  | [] => providerLocations
  | (provider, defaultLocation) :: defaults =>
    addDefaults (if (providerLocations.lookup provider).isSome then providerLocations
      else providerLocations ++ [(provider, defaultLocation)]) defaults

/-- The last loop: the name and the object of each provider's location, in the order `range`
visits the providers; a `nil` location is dereferenced, and panics. -/
def appendLocations (providerLocations : List (String × Option SnapshotLocation)) :
    List String → Request → CM Request
  | [], itm => pure itm
  | provider :: providers, itm =>
    match providerLocations.lookup provider with
    | some (some loc) => appendLocations providerLocations providers
        { itm with backup.spec.volumeSnapshotLocations := itm.backup.spec.volumeSnapshotLocations ++ [loc.name],
                   snapshotLocations := itm.snapshotLocations ++ [loc] }
    | _ => throw "runtime error: invalid memory address or nil pointer dereference"

def defaultAndValidateSnapshotLocations (c : Controller) (itm : Request)
    (defaultLocations : LocationMap) : CM (Request × List String) := do
  let (providerLocations, errors) :=
    collectLocations c itm.backup.ns itm.backup.spec.volumeSnapshotLocations [] []
  if errors ≠ [] then pure (itm, errors) else
  let providerLocations := addDefaults (providerLocations.map fun (p, l) => (p, some l))
    defaultLocations.entries
  let itm ← appendLocations providerLocations (c.rangeOrder (providerLocations.map (·.1)))
    { itm with backup.spec.volumeSnapshotLocations := [] }
  pure (itm, [])

/-- `runBackup`: the errors it returns are those `kerrors.NewAggregate` aggregates, none on
success. -/
def runBackup (c : Controller) (backup : Request) : CM (Request × List String) := do
  match ← invoke c.tempFile .tempFile with
  | .error e => pure (backup, [s!"error creating temp file for backup log: {e}"])
  | .ok () =>
  match ← invoke c.tempFile .tempFile with
  | .error e => pure (backup, [s!"error creating temp file for backup: {e}"])
  | .ok () =>
  match ← invoke c.getBackupItemActions .getBackupItemActions with
  | .error e => pure (backup, [e])
  | .ok () =>
  match ← invoke (c.newBackupStore · backup.storageLocation) (.newBackupStore backup.storageLocation) with
  | .error e => pure (backup, [e])
  | .ok () =>
  let (errs, phase) := match ← invoke (c.backup · backup) (.backup backup) with
    | .error e => ([e], Phase.failed)
    | .ok () => ([], Phase.completed)
  let backup := { backup with backup.status.phase := phase }
  let (errs, json, tarball) := match ← invoke (c.encode · backup) (.encode backup) with
    | .error e => (errs ++ [s!"error encoding backup: {e}"], none, false)
    | .ok () => (errs, some backup.backup, true)
  let errs := match ← invoke c.stat .stat with
    | .error e => errs ++ [s!"error getting file info: {e}"]
    | .ok () => errs
  let errs := match ← invoke (c.putBackup · backup.backup.name json tarball)
      (.putBackup backup.backup.name json tarball) with
    | .error e => errs ++ [e]
    | .ok () => errs
  pure (backup, errs)

/-- `backupVersion`, the version `processBackup` writes into the status. -/
def backupVersion : Nat := 1

/-- `processBackup`, returning the error it returns; a patch of the final status that fails
is only logged. -/
def processBackup (c : Controller) (key : String) : CM (Option String) := do
  match splitMetaNamespaceKey key with
  | .error e => pure (some s!"error splitting queue key: {e}")
  | .ok (ns, name) =>
  match c.lister ns name with
  | .error e => pure (some s!"error getting backup: {e}")
  | .ok original =>
  if original.status.phase ≠ .empty ∧ original.status.phase ≠ .new then pure none else
  let request : Request := { backup := { original with status.version := backupVersion } }
  let (request, errs) := getLocationAndValidate c request c.defaultBackupLocation
  let request := { request with
    backup.status.validationErrors := request.backup.status.validationErrors ++ errs }
  let (request, errs) ← defaultAndValidateSnapshotLocations c request c.defaultSnapshotLocations
  let request := { request with
    backup.status.validationErrors := request.backup.status.validationErrors ++ errs }
  let request := { request with backup.status.phase :=
    if request.backup.status.validationErrors ≠ [] then .failedValidation else .inProgress }
  match ← patchBackup c original request.backup with
  | .error e => pure (some s!"error updating Backup status to {request.backup.status.phase.string}: {e}")
  | .ok updatedBackup =>
  let original := updatedBackup
  let request := { request with backup := updatedBackup }
  if request.backup.status.phase = .failedValidation then pure none else do
  invoke (fun _ => ()) fun _ => .trackerAdd request.backup.ns request.backup.name
  let (request, errs) ← runBackup c request
  let request := if errs ≠ [] then { request with backup.status.phase := .failed } else request
  let _ ← patchBackup c original request.backup
  invoke (fun _ => ()) fun _ => .trackerDelete request.backup.ns request.backup.name
  pure none

end BackupController

end Ark
