import Ark.Restore
import Ark.ItemSpec

/-!
# What a whole restore can do

The triples of the walk over the prioritized resource types and of `Restore` around it.
`WalkKeeps` lifts `ItemKeeps` to a list of resource types: the walk restores each type
other than namespaces, in the namespaces the archive lists for it or cluster-wide, and
makes no other call that is not plain. From it follow the two theorems of this module: a
restore creates only items that pass `restoreResource`'s checks, and creates volumes only
from the snapshot records of such PersistentVolumes.
-/

namespace Ark

/-- What an invariant must be kept by for the walk over the resource types `grs` to keep
it: plain calls, and the restore of every type but namespaces in every namespace the
request lets `restoreResource` restore. -/
structure WalkKeeps (ctx : Context) (grs : List GroupResource) (I : State → Prop) : Prop where
  reads : ReadsLog I
  plain : PlainKeeps I
  items : ∀ gr ∈ grs, gr ≠ Kuberesource.namespaces → ∀ ns,
    (isSetToFalse ctx.restore.spec.includeClusterResources && ns == "") = false →
    ItemKeeps ctx gr.string ns I

theorem WalkKeeps.tail {ctx : Context} {gr : GroupResource} {grs : List GroupResource}
    {I : State → Prop} (h : WalkKeeps ctx (gr :: grs) I) : WalkKeeps ctx grs I :=
  ⟨h.reads, h.plain, fun g hg => h.items g (List.mem_cons_of_mem gr hg)⟩

section Walk

variable {ctx : Context} {I : State → Prop}

theorem getNamespace_triple (hp : PlainKeeps I) {nsName remappedName : String} :
    Triple I (fun _ => True) (getNamespace ctx nsName remappedName) fun _ _ => True := by
  unfold getNamespace
  refine Triple.call_bind (fun s hI _ => hp s _ trivial hI) fun _ => ?_
  split
  next => exact Triple.pure fun _ _ _ => trivial
  next => split <;> exact Triple.pure fun _ _ _ => trivial

theorem ensureNamespace_triple (hp : PlainKeeps I) {nsName mappedNsName : String} {w : Walk} :
    Triple I (fun _ => True) (ensureNamespace ctx nsName mappedNsName w) fun _ _ => True := by
  unfold ensureNamespace
  split
  next => exact Triple.pure fun _ _ _ => trivial
  next =>
    refine Triple.bind (getNamespace_triple hp) fun _ => ?_
    refine Triple.call_bind (fun s hI _ => hp s _ trivial hI) fun _ => ?_
    split <;> exact Triple.pure fun _ _ _ => trivial

theorem restoreNamespaces_triple (hp : PlainKeeps I) {namespaceFilter : IncludesExcludes}
    {resource : GroupResource}
    (hk : ∀ ns, (isSetToFalse ctx.restore.spec.includeClusterResources && ns == "") = false →
      ItemKeeps ctx resource.string ns I) :
    ∀ (namespaces : List String) (w : Walk),
      Triple I (fun _ => True) (restoreNamespaces ctx namespaceFilter resource namespaces w)
        fun _ _ => True
  | [], _ => Triple.pure fun _ _ _ => trivial
  | nsName :: rest, w => by
    unfold restoreNamespaces
    split
    next => exact restoreNamespaces_triple hp hk rest w
    next =>
    refine Triple.bind (ensureNamespace_triple hp) fun _ => ?_
    split
    next => exact restoreNamespaces_triple hp hk rest _
    next => exact Triple.bind (restoreResource_triple (hk _)) fun _ =>
      restoreNamespaces_triple hp hk rest _

theorem runReadinessTasks_triple (hp : PlainKeeps I) :
    ∀ names : List String, Triple I (fun _ => True) (runReadinessTasks ctx names) fun _ _ => True
  | [] => Triple.pure fun _ _ _ => trivial
  | _ :: names => Triple.call_bind (fun s hI _ => hp s _ trivial hI) fun _ =>
      runReadinessTasks_triple hp names

theorem waitResourceTasks_triple (hp : PlainKeeps I) (hr : ReadsLog I) :
    Triple I (fun _ => True) (waitResourceTasks ctx) fun _ _ => True :=
  Triple.get_bind fun _ => Triple.bind (Q := fun _ _ => True) (Triple.set fun _ hI ⟨_, hs⟩ =>
    ⟨hr _ _ (hs ▸ rfl) (hs ▸ rfl) hI, trivial⟩) fun _ => (runReadinessTasks_triple hp _).weaken

theorem waitGlobalTasks_triple (hr : ReadsLog I) :
    Triple I (fun _ => True) waitGlobalTasks fun _ _ => True :=
  Triple.get_bind fun _ => Triple.bind (Q := fun _ _ => True) (Triple.set fun _ hI ⟨_, hs⟩ =>
    ⟨hr _ _ (hs ▸ rfl) (hs ▸ rfl) hI, trivial⟩) fun _ => Triple.pure fun _ _ _ => trivial

theorem restoreResources_triple {namespaceFilter : IncludesExcludes} :
    ∀ {grs : List GroupResource} (_ : WalkKeeps ctx grs I) (w : Walk),
      Triple I (fun _ => True) (restoreResources ctx namespaceFilter grs w) fun _ _ => True
  | [], _, _ => Triple.pure fun _ _ _ => trivial
  | gr :: grs, hw, w => by
    unfold restoreResources
    split
    next => exact restoreResources_triple hw.tail w
    next hne =>
    refine Triple.call_bind (fun s hI _ => hw.plain s _ trivial hI) fun _ => ?_
    have hk := hw.items gr (List.mem_cons_self gr grs) hne
    split
    next => exact Triple.pure fun _ _ _ => trivial
    next => exact restoreResources_triple hw.tail w
    next => exact Triple.bind (restoreResource_triple (hk _)) fun _ =>
      restoreResources_triple hw.tail _
    next =>
      refine Triple.call_bind (fun s hI _ => hw.plain s _ trivial hI) fun _ => ?_
      split
      next => exact Triple.pure fun _ _ _ => trivial
      next =>
        refine Triple.bind (restoreNamespaces_triple hw.plain hk _ w) fun _ => ?_
        exact Triple.bind (waitResourceTasks_triple hw.plain hw.reads) fun _ =>
          restoreResources_triple hw.tail _

theorem stopWatches_triple (hp : PlainKeeps I) :
    ∀ watches : List Client, Triple I (fun _ => True) (stopWatches watches) fun _ _ => True
  | [] => Triple.pure fun _ _ _ => trivial
  | _ :: watches => Triple.call_bind (fun s hI _ => hp s _ trivial hI) fun _ =>
      stopWatches_triple hp watches

/-- The walk keeps `I`, from a state satisfying `J`, for every namespace filter. -/
def WalkTriple (ctx : Context) (I J : State → Prop) : Prop :=
  ∀ namespaceFilter, Triple I J (restoreResources ctx namespaceFilter ctx.prioritizedResources {})
    fun _ _ => True

theorem WalkKeeps.walkTriple (hw : WalkKeeps ctx ctx.prioritizedResources I) : WalkTriple ctx I I :=
  fun _ => (restoreResources_triple hw {}).weaken

variable {J : State → Prop}

theorem restoreFromArchive_triple (hp : PlainKeeps I) (hr : ReadsLog I) (hw : WalkTriple ctx I J) :
    Triple I J (restoreFromArchive ctx) fun _ _ => True := by
  unfold restoreFromArchive
  refine Triple.bind (hw _) fun ⟨flow, w⟩ => ?_
  dsimp only
  split
  next =>
    refine Triple.pure_bind (Triple.get_bind fun _ => ?_)
    exact Triple.bind (stopWatches_triple hp _).weaken fun _ => Triple.pure fun _ _ _ => trivial
  next =>
    refine Triple.bind (waitGlobalTasks_triple hr).weaken fun _ => ?_
    refine Triple.pure_bind (Triple.get_bind fun _ => ?_)
    exact Triple.bind (stopWatches_triple hp _).weaken fun _ => Triple.pure fun _ _ _ => trivial

theorem execute_triple (hp : PlainKeeps I) (hr : ReadsLog I) (hJ : PlainKeeps J)
    (hw : WalkTriple ctx I J) : Triple I J (execute ctx) fun _ _ => True := by
  unfold execute
  refine Triple.call_bind_keep (fun s hI hj => ⟨hp s _ trivial hI, hJ s _ trivial hj⟩) fun _ => ?_
  split
  next => exact Triple.pure fun _ _ _ => trivial
  next => exact Triple.bind (restoreFromArchive_triple hp hr hw) fun _ =>
    Triple.call_bind (fun s hI _ => hp s _ trivial hI) fun _ => Triple.pure fun _ _ _ => trivial

theorem newResticRestorer_triple (hp : PlainKeeps I) (hJ : PlainKeeps J) {kr : KubernetesRestorer}
    {restore : Restore} : Triple I J (newResticRestorer kr restore) fun _ s => J s := by
  unfold newResticRestorer
  split
  next => exact Triple.pure fun _ _ hj => hj
  next =>
    refine Triple.call_bind_keep (fun s hI hj => ⟨hp s _ trivial hI, hJ s _ trivial hj⟩) fun _ => ?_
    split <;> exact Triple.pure fun _ _ hj => hj

/-- `Restore` keeps `I` from a state satisfying `J` when its walk does so in every context it
may build, and its other calls keep both. -/
theorem restore_triple {kr : KubernetesRestorer} {restore : Restore} {backup : Backup}
    {reader : Reader} {actions : List ItemAction} (hp : PlainKeeps I) (hr : ReadsLog I)
    (hJ : PlainKeeps J)
    (hw : ∀ selector prioritized resolved restorer,
      labelSelectorAsSelector (some (restore.spec.labelSelector.getD {})) = .ok selector →
      prioritizeResources kr.discoveryHelper kr.resourcePriorities
        (getResourceIncludesExcludes kr.discoveryHelper restore.spec.includedResources
          restore.spec.excludedResources).shouldInclude = .ok prioritized →
      WalkTriple ⟨kr, reader, backup, restore, prioritized, selector, resolved, restorer⟩ I J) :
    Triple I J (kr.restore restore backup reader actions) fun _ _ => True := by
  unfold KubernetesRestorer.restore
  split
  next => exact Triple.pure fun _ _ _ => trivial
  next selector hsel =>
  dsimp only
  split
  next => exact Triple.pure fun _ _ _ => trivial
  next prioritized hprio =>
  split
  next => exact Triple.pure fun _ _ _ => trivial
  next resolved _ =>
  refine Triple.bind (newResticRestorer_triple hp hJ) fun r => ?_
  rcases r with _ | restorer
  · exact Triple.pure fun _ _ _ => trivial
  · exact execute_triple hp hr hJ (hw selector prioritized resolved restorer hsel hprio)

end Walk

/-! ## Fixed collaborators -/

/-- A discovery that resolves the group-less types `names`, served as `v1`. -/
def coreTypes (names : List String) : Helper where
  resourceFor gvr := if gvr.group = "" ∧ gvr.resource ∈ names then .ok ⟨"", "v1", gvr.resource⟩
    else .error s!"the server could not find the requested resource {gvr.resource}"
  resources := [⟨"v1", names⟩]

/-- A cluster that grants every call and answers each create with `create`. -/
def grantingCluster (create : Unstructured → CreateResult) : Cluster where
  ensureNamespaceExists _ _ := .ok true
  clientForGroupVersionResource _ _ := .ok ()
  create _ _ obj := create obj
  get _ _ _ := .ok ⟨[]⟩
  patch _ _ _ _ := .ok ()
  watch _ _ := .ok ()
  waitForReady _ _ := true

/-- A block store whose every snapshot restores as `volumeID`. -/
def fixedBlockStore (volumeID : String) : BlockStore where
  createVolumeFromSnapshot _ _ _ _ _ := .ok volumeID
  setVolumeID _ obj _ := .ok (some obj)

/-- A restorer of the types `names`, with no priorities, no restic and no item actions'
selectors to parse. -/
def restorerOf (names : List String) (cluster : Cluster) (blockStore : Option BlockStore) :
    KubernetesRestorer where
  discoveryHelper := coreTypes names
  cluster := cluster
  blockStore := blockStore
  resticRestorerFactory := none
  resourcePriorities := []
  parseSelector _ := .ok .everything

/-- The reader of an extracted archive holding the documents `files`, under the paths a
`gzipTarReader` reads: a type is cluster-scoped when it has a file outside every namespace, and
listing a namespace with no file fails, as reading its missing directory does. -/
def archiveOf (files : List (Origin × Json)) : Reader where
  extract := .ok ()
  getResourceScope r :=
    if files.any fun f => f.1.resource = r ∧ f.1.ns = "" then .ok (some .cluster)
    else if files.any (·.1.resource = r) then .ok (some .namespaced) else .ok none
  listNamespaces r := .ok ((files.filter (·.1.resource = r)).foldl
    (fun acc f => if f.1.ns ∈ acc then acc else acc ++ [f.1.ns]) [])
  listContents r ns :=
    match (files.filter fun f => f.1.resource = r ∧ f.1.ns = ns).map (·.1.file) with
    | [] =>
      let dir := if ns = "" then s!"/resources/{r}/cluster" else s!"/resources/{r}/namespaces/{ns}"
      .error s!"error reading directory {dir}: open {dir}: no such file or directory"
    | names => .ok names
  get r ns name :=
    match files.find? (·.1 = ⟨r, ns, name⟩) with
    | some f => .ok (.json f.2)
    | none => .error s!"open {name}: no such file or directory"

/-- The item a create call created, at its origin. -/
def Call.created : Call → Option (Origin × Unstructured)
  | .create origin _ _ (.created obj) => some (origin, obj)
  | _ => none

theorem Call.created_eq_some {c : Call} {origin : Origin} {obj : Unstructured}
    (h : c.created = some (origin, obj)) :
    ∃ client sent, c = .create origin client sent (.created obj) := by
  unfold Call.created at h
  split at h
  · cases h; exact ⟨_, _, rfl⟩
  · cases h

/-- A PersistentVolume `name` with reclaim policy `policy`. -/
def persistentVolumeDoc (name policy : String) : Json :=
  .obj [("apiVersion", .str "v1"), ("kind", .str "PersistentVolume"),
    ("metadata", .obj [("name", .str name)]),
    ("spec", .obj [("persistentVolumeReclaimPolicy", .str policy)])]

/-- A pod `name` backed up in namespace `ns`. -/
def podDoc (name ns : String) : Json :=
  .obj [("apiVersion", .str "v1"), ("kind", .str "Pod"),
    ("metadata", .obj [("name", .str name), ("namespace", .str ns)])]

/-- A claim `name` whose `spec.volumeName` is `volumeName`. -/
def claimDoc (name : String) (volumeName : Json) : Json :=
  .obj [("apiVersion", .str "v1"), ("kind", .str "PersistentVolumeClaim"),
    ("metadata", .obj [("name", .str name)]), ("spec", .obj [("volumeName", volumeName)])]

/-- A request with no filter, mapping or selector. -/
def plainRequest : Restore := ⟨"restore-1", { backupName := "backup-1" }⟩

/-- A request that maps `ns-1` to `ns-2` and excludes `ns-2`. -/
def remappingRequest : Restore where
  name := "restore-1"
  spec := { backupName := "backup-1", excludedNamespaces := ["ns-2"],
            namespaceMapping := [("ns-1", "ns-2")] }

/-- The checks `restoreResource` makes of the archive item at `origin`, read as `item`: it is
read and decoded, it is not of the namespaces type, the request's label selector matches it
(a request without one selects everything), it is not a completed pod or job, not a mirror
pod, not a PersistentVolume left to dynamic provisioning, and it is not cluster-scoped in a
restore that excludes cluster resources. -/
structure Admissible (reader : Reader) (backup : Backup) (restore : Restore) (origin : Origin)
    (item : Unstructured) : Prop where
  read : ∃ bytes, reader.get origin.resource origin.ns origin.file = .ok bytes ∧
    decodeItem bytes = .ok item
  notNamespaces : origin.resource ≠ Kuberesource.namespaces.string
  selected : ∃ selector, labelSelectorAsSelector (some (restore.spec.labelSelector.getD {})) =
    .ok selector ∧ selector.matchesLabels item.getLabels = true
  notCompleted : isCompleted item (parseGroupResource origin.resource) = .ok false
  notMirror : isMirrorPod (parseGroupResource origin.resource) item = false
  notProvisioned : parseGroupResource origin.resource = Kuberesource.persistentVolumes →
    toProvision backup item = false
  clusterIncluded : origin.ns = "" → isSetToFalse restore.spec.includeClusterResources = false

theorem allCalls_readsLog {p : Call → Prop} : ReadsLog (AllCalls p) :=
  fun _ _ hc _ h c hmem => h c (hc ▸ hmem)

theorem allCalls_plainKeeps {p : Call → Prop} (hp : ∀ c, Call.Plain c → p c) :
    PlainKeeps (AllCalls p) :=
  fun _ c hc h => allCalls_record.mpr ⟨h, hp c hc⟩

/-- An item the walk admitted, of a type other than namespaces, cluster-scoped only when the
request does not exclude cluster resources, and neither a mirror pod nor a PV left to
provisioning, is admissible. -/
theorem Admitted.admissible {kr : KubernetesRestorer} {reader : Reader} {backup : Backup}
    {restore : Restore} {prioritized : List GroupResource} {selector : Selector}
    {resolved : List ResolvedAction} {restorer : Option ResticRestorerFactory}
    {gr : GroupResource} {origin : Origin} {item : Unstructured}
    (hsel : labelSelectorAsSelector (some (restore.spec.labelSelector.getD {})) = .ok selector)
    (hne : gr ≠ Kuberesource.namespaces) (hres : origin.resource = gr.string)
    (hguard : (isSetToFalse restore.spec.includeClusterResources && origin.ns == "") = false)
    (h : Admitted ⟨kr, reader, backup, restore, prioritized, selector, resolved, restorer⟩
      origin (parseGroupResource origin.resource) item)
    (hmirror : isMirrorPod (parseGroupResource origin.resource) item = false)
    (hprov : parseGroupResource origin.resource = Kuberesource.persistentVolumes →
      toProvision backup item = false) :
    Admissible reader backup restore origin item where
  read := h.read
  notNamespaces := hres ▸ gr.string_ne_namespaces hne
  selected := ⟨selector, hsel, h.selected⟩
  notCompleted := h.notCompleted
  notMirror := hmirror
  notProvisioned := hprov
  clusterIncluded := fun h0 => by simpa [h0] using hguard

/-- Every item a restore creates passed `restoreResource`'s checks. -/
theorem restore_creates_admissible (kr : KubernetesRestorer) (restore : Restore)
    (backup : Backup) (reader : Reader) (actions : List ItemAction) :
    ∀ c ∈ (kr.restore restore backup reader actions {}).state.calls, ∀ origin client obj r,
      c = .create origin client obj r → ∃ item, Admissible reader backup restore origin item := by
  let p : Call → Prop := fun c => ∀ origin client obj r, c = .create origin client obj r →
    ∃ item, Admissible reader backup restore origin item
  have hp : PlainKeeps (AllCalls p) := allCalls_plainKeeps fun _ hc _ _ _ _ he => by
    subst he; exact hc.elim
  refine (restore_triple hp allCalls_readsLog hp (fun selector _ _ _ hsel _ =>
    WalkKeeps.walkTriple ⟨allCalls_readsLog, hp, fun gr _ hne ns hguard => ?_⟩) {}
      (fun _ h => nomatch h) (fun _ h => nomatch h)).state
  refine ⟨allCalls_readsLog, hp, fun _ _ _ h => allCalls_readsLog _ _ rfl rfl h, ?_, ?_,
    fun _ _ _ _ _ _ _ _ _ _ _ _ h => allCalls_record.mpr ⟨h, fun _ _ _ _ he => nomatch he⟩⟩
  · exact fun _ _ _ _ _ _ _ _ h => allCalls_record.mpr ⟨h, fun _ _ _ _ he => nomatch he⟩
  · rintro s origin client obj r hres rfl ⟨item, hf⟩ h
    exact allCalls_record.mpr ⟨h, fun _ _ _ _ he => by
      cases he
      exact ⟨item, hf.admitted.admissible hsel hne hres hguard hf.notMirror hf.notProvisioned⟩⟩

/-- The restore of a one-pod archive sends the pod to Create, and the pod is admissible. -/
theorem restore_creates_admissible_pod :
    let run := (restorerOf ["pods"] (grantingCluster .created) none).restore plainRequest {}
      (archiveOf [(⟨"pods", "ns-1", "pod-1.json"⟩, podDoc "pod-1" "ns-1")]) [] {}
    ∃ client obj r, Call.create ⟨"pods", "ns-1", "pod-1.json"⟩ client obj r ∈ run.state.calls ∧
      ∃ item, Admissible (archiveOf [(⟨"pods", "ns-1", "pod-1.json"⟩, podDoc "pod-1" "ns-1")]) {}
        plainRequest ⟨"pods", "ns-1", "pod-1.json"⟩ item := by
  intro run
  have h : (⟨"pods", "ns-1", "pod-1.json"⟩ : Origin) ∈
      (run.state.calls.filterMap Call.created).map (·.1) := by
    decide
  obtain ⟨⟨_, _⟩, hmem, rfl⟩ := List.mem_map.mp h
  obtain ⟨c, hc, hcr⟩ := List.mem_filterMap.mp hmem
  obtain ⟨_, _, rfl⟩ := Call.created_eq_some hcr
  exact ⟨_, _, _, hc, restore_creates_admissible _ _ _ _ _ _ hc _ _ _ _ rfl⟩

/-- Every volume a restore creates from a snapshot is made for an admissible PersistentVolume
item whose backup record under its name is non-nil, from that record's snapshot, type, zone
and IOPS, and only when neither the backup nor the request turns PV snapshots off and a block
store is configured. -/
theorem restore_snapshots_admissible (kr : KubernetesRestorer) (restore : Restore)
    (backup : Backup) (reader : Reader) (actions : List ItemAction) :
    ∀ c ∈ (kr.restore restore backup reader actions {}).state.calls,
      ∀ origin snapshotID volumeType zone iops r,
        c = .createVolumeFromSnapshot origin snapshotID volumeType zone iops r →
        ∃ item info, Admissible reader backup restore origin item ∧
          parseGroupResource origin.resource = Kuberesource.persistentVolumes ∧
          backup.volumeBackups.lookup item.getName = some (some info) ∧
          snapshotID = info.snapshotID ∧ volumeType = info.type ∧
          zone = info.availabilityZone ∧ iops = info.iops ∧
          isSetToFalse backup.snapshotVolumes = false ∧
          isSetToFalse restore.spec.restorePVs = false ∧ kr.blockStore.isSome = true := by
  let p : Call → Prop := fun c => ∀ origin snapshotID volumeType zone iops r,
    c = .createVolumeFromSnapshot origin snapshotID volumeType zone iops r →
    ∃ item info, Admissible reader backup restore origin item ∧
      parseGroupResource origin.resource = Kuberesource.persistentVolumes ∧
      backup.volumeBackups.lookup item.getName = some (some info) ∧
      snapshotID = info.snapshotID ∧ volumeType = info.type ∧
      zone = info.availabilityZone ∧ iops = info.iops ∧
      isSetToFalse backup.snapshotVolumes = false ∧
      isSetToFalse restore.spec.restorePVs = false ∧ kr.blockStore.isSome = true
  have hp : PlainKeeps (AllCalls p) := allCalls_plainKeeps fun _ hc _ _ _ _ _ _ he => by
    subst he; exact hc.elim
  refine (restore_triple hp allCalls_readsLog hp (fun selector _ _ _ hsel _ =>
    WalkKeeps.walkTriple ⟨allCalls_readsLog, hp, fun gr _ hne ns hguard => ?_⟩) {}
      (fun _ h => nomatch h) (fun _ h => nomatch h)).state
  refine ⟨allCalls_readsLog, hp, fun _ _ _ h => allCalls_readsLog _ _ rfl rfl h, ?_, ?_,
    fun _ _ _ _ _ _ _ _ _ _ _ _ h => allCalls_record.mpr ⟨h, fun _ _ _ _ _ _ he => nomatch he⟩⟩
  · rintro s origin item info r hres rfl hf h
    refine allCalls_record.mpr ⟨h, fun _ _ _ _ _ _ he => ?_⟩
    cases he
    have hmirror : isMirrorPod (parseGroupResource origin.resource) item = false := by
      simp [isMirrorPod, hf.isPV, Kuberesource.persistentVolumes, Kuberesource.pods]
    exact ⟨item, info, hf.admitted.admissible hsel hne hres hguard hmirror
      (fun _ => hf.notProvisioned), hf.isPV, hf.record, rfl, rfl, rfl, rfl, hf.snapshotVolumes,
      hf.restorePVs, hf.blockStore⟩
  · exact fun _ _ _ _ _ _ _ _ h => allCalls_record.mpr ⟨h, fun _ _ _ _ _ _ he => nomatch he⟩

/-- A PersistentVolume with a snapshot record, restored with a block store: the run creates its
volume from the record, and the call is admissible. -/
theorem restore_snapshots_admissible_volume :
    let run := (restorerOf ["persistentvolumes"] (grantingCluster .created)
      (some (fixedBlockStore "vol-1"))).restore plainRequest
      { volumeBackups := [("pv-1", some ⟨"snap-1", "gp2", "zone-a", none⟩)] }
      (archiveOf [(⟨"persistentvolumes", "", "pv-1.json"⟩, persistentVolumeDoc "pv-1" "Retain")]) [] {}
    Call.createVolumeFromSnapshot ⟨"persistentvolumes", "", "pv-1.json"⟩ "snap-1" "gp2" "zone-a" none
        (.ok "vol-1") ∈ run.state.calls ∧
      ∃ item, ∃ info : VolumeBackupInfo, Admissible
        (archiveOf [(⟨"persistentvolumes", "", "pv-1.json"⟩, persistentVolumeDoc "pv-1" "Retain")])
        { volumeBackups := [("pv-1", some ⟨"snap-1", "gp2", "zone-a", none⟩)] } plainRequest
        ⟨"persistentvolumes", "", "pv-1.json"⟩ item ∧
        parseGroupResource "persistentvolumes" = Kuberesource.persistentVolumes ∧
        [("pv-1", some ⟨"snap-1", "gp2", "zone-a", none⟩)].lookup item.getName = some (some info) ∧
        "snap-1" = info.snapshotID ∧ "gp2" = info.type ∧ "zone-a" = info.availabilityZone ∧
        none = info.iops ∧ isSetToFalse none = false ∧ isSetToFalse none = false ∧
        (some (fixedBlockStore "vol-1")).isSome = true := by
  intro run
  have hc : Call.createVolumeFromSnapshot ⟨"persistentvolumes", "", "pv-1.json"⟩ "snap-1" "gp2"
      "zone-a" none (.ok "vol-1") ∈ run.state.calls := by
    decide
  exact ⟨hc, restore_snapshots_admissible _ _ _ _ _ _ hc _ _ _ _ _ _ rfl⟩

/-- The walk restores `ns-1` into `ns-2` by reading the archive's `ns-2`: it creates the pod
of the excluded namespace and never the pod of `ns-1`. -/
theorem restore_reads_mapped_namespace :
    (((restorerOf ["pods"] (grantingCluster .created) none).restore remappingRequest {}
      (archiveOf [(⟨"pods", "ns-1", "pod-1.json"⟩, podDoc "pod-1" "ns-1"),
        (⟨"pods", "ns-2", "pod-2.json"⟩, podDoc "pod-2" "ns-2")]) [] {}).state.calls.filterMap
      Call.created).map (·.1) = [⟨"pods", "ns-2", "pod-2.json"⟩] := by
  decide

/-- Two restores of a PersistentVolume that gets a readiness task. When no namespace-scoped
type follows it, `Restore` returns with the task never waited for; when one does (here with
its only namespace excluded), the task runs and times out, and its warning is in neither
result. -/
theorem restore_loses_readiness_tasks :
    let pv : Origin × Json :=
      (⟨"persistentvolumes", "", "pv-1.json"⟩, persistentVolumeDoc "pv-1" "Retain")
    let alone := (restorerOf ["persistentvolumes"] (grantingCluster .created) none).restore
      ⟨"restore-1", { backupName := "backup-1" }⟩ {} (archiveOf [pv]) [] {}
    let late := (restorerOf ["persistentvolumes", "pods"]
      { (grantingCluster .created) with waitForReady := fun _ _ => false } none).restore
      ⟨"restore-1", { backupName := "backup-1", excludedNamespaces := ["ns-1"] }⟩ {}
      (archiveOf [pv, (⟨"pods", "ns-1", "pod-1.json"⟩, podDoc "pod-1" "ns-1")]) [] {}
    alone.state.resourceTasks = ["pv-1"] ∧
      Call.waitForReady "pv-1" false ∈ late.state.calls ∧ late.value? = some ({}, {}) := by
  decide

/-- Two archives that make `Restore` panic: a claim whose `spec.volumeName` is `null`, and a
PersistentVolume whose snapshot record is `nil`. -/
theorem restore_panics_on_archive :
    ((restorerOf ["persistentvolumeclaims"] (grantingCluster .created) none).restore
      ⟨"restore-1", { backupName := "backup-1" }⟩ {}
      (archiveOf [(⟨"persistentvolumeclaims", "ns-1", "claim-1.json"⟩, claimDoc "claim-1" .null)])
      [] {}).panic? = some "interface conversion: interface \x7b\x7d is nil, not string" ∧
    ((restorerOf ["persistentvolumes"] (grantingCluster .created)
      (some (fixedBlockStore "vol-1"))).restore ⟨"restore-1", { backupName := "backup-1" }⟩
      { volumeBackups := [("pv-1", none)] }
      (archiveOf [(⟨"persistentvolumes", "", "pv-1.json"⟩, persistentVolumeDoc "pv-1" "Retain")])
      [] {}).panic? = some "runtime error: invalid memory address or nil pointer dereference" := by
  decide

end Ark
