import Ark.RestoreSpec

/-!
# The PersistentVolume step, by cases

`restorePV` and the `executePVAction` it calls decide a volume's fate by five checks spread
over two functions. `pvCase` lists the cases in the order the specification gives them:
left to provisioning, invalid, restored without its snapshot, restored from its snapshot.
`pvOutcome` says what each case does with the block store and the cluster's watch, and
`restorePV_cases` proves that the step follows the cases for every volume, context and
answer of the collaborators.
-/

namespace Ark

/-- The cases the PV step tells a volume apart by. -/
inductive PVCase where
  /-- No snapshot record and reclaim policy `Delete`: left to dynamic provisioning. -/
  | provision
  /-- No name, or no spec map. -/
  | invalid (err : String)
  /-- Restored without its snapshot, as `stripped`. -/
  | unsnapshotted (stripped : Unstructured)
  /-- Restored from the snapshot record `rec` (`none` for a `nil` record), with the block
  store configured, if one is. -/
  | snapshotted (stripped : Unstructured) (rec : Option VolumeBackupInfo)
      (blockStore : Option BlockStore)

/-- The volume `obj` with `spec.claimRef` and `spec.storageClassName` removed. -/
def stripVolume (obj : Unstructured) (spec : List (String × Json)) : Unstructured :=
  ⟨setKey obj.object "spec" (.obj (deleteKey (deleteKey spec "claimRef") "storageClassName"))⟩

/-- The case of the volume `obj`: a snapshot record is used unless the backup did not
snapshot volumes or the request does not restore them. -/
def pvCase (ctx : Context) (obj : Unstructured) : PVCase :=
  if toProvision ctx.backup obj then .provision
  else if obj.getName = "" then .invalid "PersistentVolume is missing its name"
  else match getMap obj.object ["spec"] with
  | .error e => .invalid e
  | .ok spec =>
    match ctx.backup.volumeBackups.lookup obj.getName with
    | some rec =>
      if isSetToFalse ctx.backup.snapshotVolumes || isSetToFalse ctx.restore.spec.restorePVs
      then .unsnapshotted (stripVolume obj spec)
      else .snapshotted (stripVolume obj spec) rec ctx.kr.blockStore
    | none => .unsnapshotted (stripVolume obj spec)

section Outcome

variable (ctx : Context) (origin : Origin) (client : Client) (name : String) (fr : Frame)

/-- An item error of the PV step: the item is not created, and the loop goes on. -/
def pvFailed (e : String) : Stage :=
  .exit .next (fr.addErr origin.ns s!"error executing PVAction for {origin.describe}: {e}")

/-- The volume `obj` handed on to the rest of the item's restore. The first volume of the
resource opens the watch its readiness tasks wait on; a failed watch stops the resource. -/
def pvHandOn (obj : Unstructured) (s : State) : EStateM.Result String State Stage :=
  if fr.watching then .ok (.go obj fr) s else
  match ctx.kr.cluster.watch s.calls client with
  | .error e => .ok (.exit .stop (fr.addErr origin.ns s!"error watching for namespace {quote origin.ns}, resource {quote Kuberesource.persistentVolumes.string}: {e}"))
      (s.record (.watch client (.error e)))
  | .ok () => .ok (.go obj { fr with watching := true })
      { s.record (.watch client (.ok ())) with
        resourceWatches := s.resourceWatches ++ [client], resourceTasks := s.resourceTasks ++ [name] }

/-- What the PV step does in each case: a volume restored from its snapshot makes one
`CreateVolumeFromSnapshot` with the record's fields, then one `SetVolumeID` of the stripped
volume with the volume ID it answered, and hands on what that answers. -/
def pvOutcome : PVCase → State → EStateM.Result String State Stage
  | .provision, s => .ok (.exit .next fr) { s with pvsToProvision := s.pvsToProvision.insert name }
  | .invalid e, s => .ok (pvFailed origin fr e) s
  | .unsnapshotted obj, s => pvHandOn ctx origin client name fr obj s
  | .snapshotted _ _ none, s => .ok (pvFailed origin fr
      "you must configure a persistentVolumeProvider to restore PersistentVolumes from snapshots") s
  | .snapshotted _ none (some _), s =>
      .error "runtime error: invalid memory address or nil pointer dereference" s
  | .snapshotted obj (some info) (some bs), s =>
    match bs.createVolumeFromSnapshot s.calls info.snapshotID info.type info.availabilityZone
        info.iops with
    | .error e => .ok (pvFailed origin fr e) (s.record (.createVolumeFromSnapshot origin
        info.snapshotID info.type info.availabilityZone info.iops (.error e)))
    | .ok volumeID =>
      let s := s.record (.createVolumeFromSnapshot origin info.snapshotID info.type
        info.availabilityZone info.iops (.ok volumeID))
      match bs.setVolumeID s.calls obj volumeID with
      | .error e => .ok (pvFailed origin fr e) (s.record (.setVolumeID origin obj volumeID (.error e)))
      | .ok none => .ok (pvFailed origin fr "unexpected type")
          (s.record (.setVolumeID origin obj volumeID (.ok none)))
      | .ok (some updated) =>
        pvHandOn ctx origin client name fr updated
          (s.record (.setVolumeID origin obj volumeID (.ok (some updated))))

end Outcome

section Cases

variable {ctx : Context} {origin : Origin} {client : Client} {obj : Unstructured} {fr : Frame}
  {s : State}

/-- A volume not left to provisioning goes through `executePVAction`: its error is an item
error, and the object it answers is handed on. -/
theorem restorePV_of_action (hp : toProvision ctx.backup obj = false) :
    restorePV ctx origin Kuberesource.persistentVolumes client obj.getName obj fr s =
      match executePVAction ctx origin obj s with
      | .ok (.error e) s' => .ok (pvFailed origin fr e) s'
      | .ok (.ok obj') s' => pvHandOn ctx origin client obj.getName fr obj' s'
      | .error e s' => .error e s' := by
  simp only [restorePV, ne_eq, not_true_eq_false, if_false, hp, Bool.false_eq_true, bind, EStateM.bind]
  rcases executePVAction ctx origin obj s with ⟨_ | obj', s'⟩ | ⟨e, s'⟩
  · rfl
  · dsimp only
    unfold pvHandOn
    split
    · rfl
    · simp only [call_apply, EStateM.bind]
      cases ctx.kr.cluster.watch s'.calls client <;> rfl
  · rfl

end Cases

/-- The PV step follows its cases, for every volume, context, frame and answer of the
collaborators. -/
theorem restorePV_eq_pvOutcome (ctx : Context) (origin : Origin) (client : Client)
    (obj : Unstructured) (fr : Frame) (s : State) :
    restorePV ctx origin Kuberesource.persistentVolumes client obj.getName obj fr s =
      pvOutcome ctx origin client obj.getName fr (pvCase ctx obj) s := by
  by_cases hp : toProvision ctx.backup obj
  · simp [restorePV, pvCase, hp]; rfl
  rw [restorePV_of_action (by simpa using hp)]
  by_cases hn : obj.getName = ""
  · simp [executePVAction, pvCase, hp, hn]; rfl
  cases hm : getMap obj.object ["spec"] with
  | error e => simp [executePVAction, pvCase, hp, hn, hm]; rfl
  | ok spec =>
  cases hl : ctx.backup.volumeBackups.lookup obj.getName with
  | none => simp [executePVAction, pvCase, hp, hn, hm, hl, stripVolume, pvOutcome]; rfl
  | some rec =>
  by_cases hf : isSetToFalse ctx.backup.snapshotVolumes ∨ isSetToFalse ctx.restore.spec.restorePVs
  · rcases hf with h | h <;> simp [executePVAction, pvCase, hp, hn, hm, hl, h, stripVolume, pvOutcome] <;> rfl
  obtain ⟨h1, h2⟩ : isSetToFalse ctx.backup.snapshotVolumes = false ∧
      isSetToFalse ctx.restore.spec.restorePVs = false := by simpa using hf
  simp only [executePVAction, pvCase, hp, hn, hm, hl, h1, h2, if_false, Bool.false_eq_true,
    Bool.or_self, ite_false, stripVolume]
  rcases ctx.kr.blockStore with _ | bs
  · cases rec <;> rfl
  rcases rec with _ | info
  · rfl
  simp only [pvOutcome, bind, EStateM.bind, call_apply]
  cases bs.createVolumeFromSnapshot s.calls info.snapshotID info.type info.availabilityZone info.iops
  · rfl
  rename_i volumeID
  simp only [EStateM.bind, call_apply]
  rcases bs.setVolumeID _ _ volumeID with _ | _ | _ <;> rfl

theorem pvHandOn_ok (ctx : Context) (origin : Origin) (client : Client) (name : String) (fr : Frame)
    (obj : Unstructured) (s : State) : ∃ st s', pvHandOn ctx origin client name fr obj s = .ok st s' := by
  unfold pvHandOn
  split
  · exact ⟨_, _, rfl⟩
  · split <;> exact ⟨_, _, rfl⟩

/-- Every case but a `nil` snapshot record with a block store returns. -/
theorem pvOutcome_ok (ctx : Context) (origin : Origin) (client : Client) (name : String)
    (fr : Frame) {c : PVCase} (hc : ∀ stripped bs, c ≠ .snapshotted stripped none (some bs))
    (s : State) : ∃ st s', pvOutcome ctx origin client name fr c s = .ok st s' := by
  match c with
  | .provision | .invalid _ | .snapshotted _ none none | .snapshotted _ (some _) none =>
    exact ⟨_, _, rfl⟩
  | .unsnapshotted obj => exact pvHandOn_ok ctx origin client name fr obj s
  | .snapshotted _ none (some _) => exact absurd rfl (hc _ _)
  | .snapshotted obj (some info) (some bs) =>
    dsimp only [pvOutcome]
    split
    · exact ⟨_, _, rfl⟩
    split
    · exact ⟨_, _, rfl⟩
    · exact ⟨_, _, rfl⟩
    · exact pvHandOn_ok ctx origin client name fr _ _

/-- A volume whose snapshot record, if it has one, is not `nil` is not in the `nil` case. -/
theorem pvCase_ne_nil {ctx : Context} {obj : Unstructured}
    (hrec : ctx.backup.volumeBackups.lookup obj.getName ≠ some none) (stripped : Unstructured)
    (bs : BlockStore) : pvCase ctx obj ≠ .snapshotted stripped none (some bs) := by
  intro h
  unfold pvCase at h
  split_ifs at h
  all_goals
    split at h
    · exact PVCase.noConfusion h
    split at h
  · exact PVCase.noConfusion h
  · exact PVCase.noConfusion h
  · exact hrec ((PVCase.snapshotted.inj h).2.1 ▸ ‹_›)
  · exact PVCase.noConfusion h

/-- For a volume whose snapshot record, if it has one, is not `nil`, the PV step returns and
follows its cases, for every context, frame and answer of the collaborators. -/
theorem restorePV_cases (ctx : Context) (origin : Origin) (client : Client) (obj : Unstructured)
    (fr : Frame) (s : State) (hrec : ctx.backup.volumeBackups.lookup obj.getName ≠ some none) :
    restorePV ctx origin Kuberesource.persistentVolumes client obj.getName obj fr s =
        pvOutcome ctx origin client obj.getName fr (pvCase ctx obj) s ∧
      ∃ st s', restorePV ctx origin Kuberesource.persistentVolumes client obj.getName obj fr s =
        .ok st s' := by
  rw [restorePV_eq_pvOutcome]
  exact ⟨rfl, pvOutcome_ok ctx origin client obj.getName fr (pvCase_ne_nil hrec) s⟩

/-- A context whose backup holds a snapshot record for `pv-1`, with a block store. -/
def snapshotRecordContext : Context :=
  ⟨restorerOf ["persistentvolumes"] (grantingCluster .created) (some (fixedBlockStore "vol-1")),
    archiveOf [], { volumeBackups := [("pv-1", some ⟨"snap-1", "gp2", "zone-1", none⟩)] },
    plainRequest, [], .everything, [], none⟩

/-- The volume `pv-1`, with reclaim policy `Retain`. -/
def retainedVolume : Unstructured :=
  ⟨[("apiVersion", .str "v1"), ("kind", .str "PersistentVolume"),
    ("metadata", .obj [("name", .str "pv-1")]),
    ("spec", .obj [("persistentVolumeReclaimPolicy", .str "Retain")])]⟩

theorem restorePV_cases_snapshot_record :
    snapshotRecordContext.backup.volumeBackups.lookup retainedVolume.getName ≠ some none ∧
      ∃ st s', restorePV snapshotRecordContext ⟨"persistentvolumes", "", "pv-1.json"⟩
        Kuberesource.persistentVolumes ⟨⟨"", "v1"⟩, "persistentvolumes", false, ""⟩
        retainedVolume.getName retainedVolume {} {} = .ok st s' :=
  have hrec : snapshotRecordContext.backup.volumeBackups.lookup retainedVolume.getName ≠ some none := by
    decide
  ⟨hrec, (restorePV_cases _ _ _ _ _ _ hrec).2⟩

/-- A block store that cannot restore any snapshot. -/
def failingBlockStore : BlockStore where
  createVolumeFromSnapshot _ _ _ _ _ := .error "snapshot not found"
  setVolumeID _ obj _ := .ok (some obj)

/-- A restore of the volume `pv-1`, backed up with a snapshot, by a block store that fails. -/
def failedSnapshotRun : EStateM.Result String State (RestoreResult × RestoreResult) :=
  (restorerOf ["persistentvolumes"] (grantingCluster .created) (some failingBlockStore)).restore
    plainRequest { volumeBackups := [("pv-1", some ⟨"snap-1", "gp2", "zone-1", none⟩)] }
    (archiveOf [(⟨"persistentvolumes", "", "pv-1.json"⟩, persistentVolumeDoc "pv-1" "Retain")]) [] {}

/-- A volume with a snapshot record and a block store whose `CreateVolumeFromSnapshot`
fails: the call is made, nothing is handed on or created, and an item error is recorded. -/
theorem restore_fails_volume_on_snapshot_error :
    .createVolumeFromSnapshot ⟨"persistentvolumes", "", "pv-1.json"⟩ "snap-1" "gp2" "zone-1" none
        (.error "snapshot not found") ∈ failedSnapshotRun.state.calls ∧
      failedSnapshotRun.state.calls.filterMap Call.created = [] ∧
      failedSnapshotRun.value?.map (·.2) = some { cluster :=
        ["error executing PVAction for item \"pv-1.json\" for resource \"persistentvolumes\" in namespace \"\": snapshot not found"] } := by
  decide

end Ark
