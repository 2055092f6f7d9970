import Ark.Item
import Ark.Triple

/-!
# What restoring one resource type can do

The triples of `restoreResource` and its stages, for every invariant of the engine's state
that reads only the call log and the provisioning set. Every call keeps such an invariant
but a create and the creation of a volume from a snapshot: `ItemKeeps` asks that it be kept
by those given what the engine knows when it makes them (`CreateFacts`, `SnapshotFacts`),
and by the PV branch's insertions into the provisioning set. The theorems about what a
restore creates are its instances.
-/

namespace Ark

/-- A call that neither creates an object or a volume from a snapshot nor patches an object. -/
def Call.Plain : Call → Prop
  | .create .. => False
  | .createVolumeFromSnapshot .. => False
  | .patch .. => False
  | _ => True

/-- `I` is kept by logging every plain call. -/
def PlainKeeps (I : State → Prop) : Prop := ∀ s c, Call.Plain c → I s → I (s.record c)

/-- `I` reads only the call log and the provisioning set. -/
def ReadsLog (I : State → Prop) : Prop :=
  ∀ s s', s.calls = s'.calls → s.pvsToProvision = s'.pvsToProvision → I s → I s'

/-- What `admitItem` passes on: an item read and decoded from the archive, selected by the
request's selector, and not completed. -/
structure Admitted (ctx : Context) (origin : Origin) (gr : GroupResource) (item : Unstructured) :
    Prop where
  read : ∃ bytes, ctx.reader.get origin.resource origin.ns origin.file = .ok bytes ∧
    decodeItem bytes = .ok item
  selected : ctx.selector.matchesLabels item.getLabels = true
  notCompleted : isCompleted item gr = .ok false

/-! ## Claims of provisioned volumes -/

/-- `obj` has a value at `path`. -/
def Unstructured.hasField (obj : Unstructured) (path : List String) : Bool :=
  match nestedField (.obj obj.object) path with
  | .ok (some _) => true
  | _ => false

/-- The volume a claim is bound to, as the PVC branch reads it: `spec.volumeName` when it is
a string. -/
def boundVolume (obj : Unstructured) : Option String :=
  match getMap obj.object ["spec"] with
  | .ok spec =>
    match spec.lookup "volumeName" with
    | some (.str v) => some v
    | _ => none
  | .error _ => none

/-- A claim with no `spec.volumeName` and neither binding annotation. -/
def Unbound (obj : Unstructured) : Bool :=
  !obj.hasField ["spec", "volumeName"] &&
    !obj.hasField ["metadata", "annotations", "pv.kubernetes.io/bind-completed"] &&
    !obj.hasField ["metadata", "annotations", "pv.kubernetes.io/bound-by-controller"]

/-- An item action run on the item at `origin` returned an object that is not `Unbound`. -/
def Rebound (origin : Origin) (calls : List Call) : Prop :=
  ∃ i o r u, Call.execute i origin o r ∈ calls ∧ r.updated = some u ∧ Unbound u = false

/-- `obj` is `obj₀`, or an object an item action returned for the item at `origin`. -/
def FromActions (origin : Origin) (obj₀ obj : Unstructured) (calls : List Call) : Prop :=
  obj = obj₀ ∨ ∃ i o r, Call.execute i origin o r ∈ calls ∧ r.updated = some obj

theorem nestedField_obj_cons (m : List (String × Json)) (f : String) (fs : List String) :
    nestedField (.obj m) (f :: fs) = match m.lookup f with
      | some w => nestedField w fs
      | none => .ok none := rfl

theorem lookup_stringMapJson (sm : List (String × String)) (k : String) :
    (sm.map fun p => (p.1, Json.str p.2)).lookup k = (sm.lookup k).map .str := by
  induction sm with
  | nil => rfl
  | cons p sm ih =>
    obtain ⟨k0, v0⟩ := p
    simp only [List.map_cons, lookup_cons_ite, ih]
    split <;> rfl

/-- `hasField` on a path through key `k` reads only the binding of `k`. -/
theorem hasField_cons_congr {u u' : Unstructured} {k : String} (p : List String)
    (h : u'.object.lookup k = u.object.lookup k) : u'.hasField (k :: p) = u.hasField (k :: p) := by
  simp only [Unstructured.hasField, nestedField_obj_cons, h]

theorem setNestedField_metadata_lookup_ne (u : Unstructured) (v : Json) (k k' : String)
    (h : k' ≠ "metadata") :
    (u.setNestedField v ["metadata", k]).object.lookup k' = u.object.lookup k' := by
  unfold Unstructured.setNestedField
  simp only [Ark.setNestedField]
  rcases hm : u.object.lookup "metadata" with _ | ⟨_ | _ | _ | _ | _ | inner⟩ <;>
    simp [hm, lookup_setKey_ne _ _ h]

theorem hasField_setNestedField_metadata {u : Unstructured} {v : Json} {k a : String}
    (p : List String) (hk : a ≠ k) :
    (u.setNestedField v ["metadata", k]).hasField ("metadata" :: a :: p) =
      u.hasField ("metadata" :: a :: p) := by
  unfold Unstructured.setNestedField
  simp only [Ark.setNestedField]
  rcases hm : u.object.lookup "metadata" with _ | ⟨_ | _ | _ | _ | _ | inner⟩ <;>
    simp [Unstructured.hasField, nestedField_obj_cons, hm, lookup_setKey_ne _ _ hk, nestedField]

theorem hasField_setAnnotations {u : Unstructured} {sm : List (String × String)} {a : String}
    (h : sm.lookup a = none) :
    (u.setAnnotations sm).hasField ["metadata", "annotations", a] = false := by
  unfold Unstructured.setAnnotations Unstructured.setNestedField
  simp only [Ark.setNestedField]
  rcases hm : u.object.lookup "metadata" with _ | ⟨_ | _ | _ | _ | _ | inner⟩ <;>
    simp [Unstructured.hasField, nestedField_obj_cons, hm, nestedField, stringMapJson, lookup_stringMapJson, h]


theorem lookup_filter_keys (keys : List String) (m : List (String × Json)) (k : String) :
    (m.filter fun p => decide (p.1 ∈ keys)).lookup k = if k ∈ keys then m.lookup k else none := by
  induction m with
  | nil => split <;> rfl
  | cons p m ih =>
    obtain ⟨k0, v0⟩ := p
    by_cases h : k0 ∈ keys <;> rcases eq_or_ne k k0 with rfl | hk <;>
      simp [List.filter_cons, lookup_cons_ite, *]

theorem lookup_filter_mem {keys : List String} {k : String} (hk : k ∈ keys)
    (m : List (String × Json)) :
    (m.filter fun p => decide (p.1 ∈ keys)).lookup k = m.lookup k := by
  rw [lookup_filter_keys, if_pos hk]

theorem hasField_metadata_congr {u u' : Unstructured} {m m' : List (String × Json)} {a : String}
    (p : List String) (hu : u.object.lookup "metadata" = some (.obj m))
    (hu' : u'.object.lookup "metadata" = some (.obj m')) (h : m'.lookup a = m.lookup a) :
    u'.hasField ("metadata" :: a :: p) = u.hasField ("metadata" :: a :: p) := by
  simp only [Unstructured.hasField, nestedField_obj_cons, hu, hu', h]

theorem unbound_setNestedField_metadata {u : Unstructured} {v : Json} {k : String}
    (hk : k ≠ "annotations") : Unbound (u.setNestedField v ["metadata", k]) = Unbound u := by
  simp only [Unbound, hasField_cons_congr _ (setNestedField_metadata_lookup_ne u v k "spec" (by decide)),
    hasField_setNestedField_metadata _ (Ne.symm hk)]

theorem unbound_resetClaim (obj : Unstructured) (spec : List (String × Json)) :
    Unbound (resetClaim obj spec) = true := by
  simp only [resetClaim, Unstructured.setAnnotations, Unbound]
  rw [hasField_cons_congr _ (setNestedField_metadata_lookup_ne _ _ _ "spec" (by decide))]
  rw [← Unstructured.setAnnotations, hasField_setAnnotations, hasField_setAnnotations]
  · simp [Unstructured.hasField, nestedField_obj_cons, nestedField]
  · simp
  · rw [lookup_deleteKey_ne _ (by decide)]; simp

theorem lookup_of_getMap_single {root : List (String × Json)} {k : String}
    {m : List (String × Json)} (h : getMap root [k] = .ok m) : root.lookup k = some (.obj m) := by
  unfold getMap at h
  rcases hk : root.lookup k with _ | ⟨_ | _ | _ | _ | _ | m'⟩ <;> simp [hk] at h
  rw [h]

theorem unbound_resetMetadataAndStatus {obj obj' : Unstructured}
    (h : resetMetadataAndStatus obj = .ok obj') : Unbound obj' = Unbound obj := by
  unfold resetMetadataAndStatus at h
  split at h
  · cases h
  · rename_i metadata hm
    have hobj := congrArg Unstructured.object (Except.ok.inj h).symm
    simp only at hobj
    have hspec : obj'.object.lookup "spec" = obj.object.lookup "spec" := by
      rw [hobj, lookup_deleteKey_ne _ (by decide), lookup_setKey_ne _ _ (by decide)]
    have hmeta : obj'.object.lookup "metadata" = some (.obj (metadata.filter fun p =>
        p.1 ∈ ["name", "namespace", "labels", "annotations"])) := by
      rw [hobj, lookup_deleteKey_ne _ (by decide), lookup_setKey_self]
    simp only [Unbound, hasField_cons_congr _ hspec,
      hasField_metadata_congr _ (lookup_of_getMap_single hm) hmeta
        (lookup_filter_mem (k := "annotations") (by decide) _)]

theorem resetMetadataAndStatus_of_lookup {o m : List (String × Json)}
    (h : o.lookup "metadata" = some (.obj m)) :
    resetMetadataAndStatus ⟨o⟩ = .ok ⟨deleteKey (setKey o "metadata"
      (.obj (m.filter fun p => p.1 ∈ ["name", "namespace", "labels", "annotations"]))) "status"⟩ := by
  simp [resetMetadataAndStatus, getMap, h]

/-- `resetMetadataAndStatus` fails exactly on an object without a metadata map, and takes
nothing from it then: Go returns before the deletes. Otherwise it keeps the four metadata
keys the object has, drops `status`, keeps every other top-level key, and is idempotent. -/
theorem resetMetadataAndStatus_spec (obj : Unstructured) :
    ((∃ e, resetMetadataAndStatus obj = .error e) ↔
      ∀ m, obj.object.lookup "metadata" ≠ some (.obj m)) ∧
    ∀ m, obj.object.lookup "metadata" = some (.obj m) →
      ∃ obj', resetMetadataAndStatus obj = .ok obj' ∧
        (∃ m', obj'.object.lookup "metadata" = some (.obj m') ∧ ∀ k, m'.lookup k =
          if k ∈ ["name", "namespace", "labels", "annotations"] then m.lookup k else none) ∧
        obj'.object.lookup "status" = none ∧
        (∀ k, k ≠ "metadata" → k ≠ "status" → obj'.object.lookup k = obj.object.lookup k) ∧
        resetMetadataAndStatus obj' = .ok obj' := by
  refine ⟨⟨fun ⟨e, he⟩ m hm => ?_, fun h => ?_⟩,
    fun m hm => ⟨_, resetMetadataAndStatus_of_lookup hm, ?_⟩⟩
  · rw [resetMetadataAndStatus_of_lookup hm] at he; cases he
  · unfold resetMetadataAndStatus getMap
    rcases hl : obj.object.lookup "metadata" with _ | ⟨_ | _ | _ | _ | _ | m⟩ <;>
      simp [hl] at h ⊢
  have hmeta : ∀ v, (deleteKey (setKey obj.object "metadata" v) "status").lookup "metadata" =
      some v := fun v => by rw [lookup_deleteKey_ne _ (by decide), lookup_setKey_self]
  refine ⟨⟨_, hmeta _, lookup_filter_keys _ m⟩, lookup_deleteKey_self _ _,
    fun k h₁ h₂ => by rw [lookup_deleteKey_ne _ h₂, lookup_setKey_ne _ _ h₁], ?_⟩
  rw [resetMetadataAndStatus_of_lookup (hmeta _), List.filter_filter]
  simp only [Bool.and_self, ← setKey_deleteKey_ne _ _ (by decide : "metadata" ≠ "status"),
    setKey_setKey_self, deleteKey_deleteKey_self]

theorem unbound_setNamespace (obj : Unstructured) (ns : String) :
    Unbound (obj.setNamespace ns) = Unbound obj :=
  unbound_setNestedField_metadata (by decide)

theorem unbound_addRestoreLabels (obj : Unstructured) (restoreName backupName : String) :
    Unbound (addRestoreLabels obj restoreName backupName) = Unbound obj :=
  unbound_setNestedField_metadata (by decide)

/-! ## Events -/

/-- What the engine knows of the item at `origin`, read as `item`, when it creates `obj` in
state `s`: the checks the item passed, and that `obj` is the object its actions left, reset,
put in the item's namespace and labelled with the restore. -/
structure ItemFacts (ctx : Context) (origin : Origin) (item obj : Unstructured) (s : State) :
    Prop where
  admitted : Admitted ctx origin (parseGroupResource origin.resource) item
  notMirror : isMirrorPod (parseGroupResource origin.resource) item = false
  notProvisioned : parseGroupResource origin.resource = Kuberesource.persistentVolumes →
    toProvision ctx.backup item = false
  claim : parseGroupResource origin.resource = Kuberesource.persistentVolumeClaims →
    ∀ v, boundVolume item = some v → v ∈ s.pvsToProvision → Unbound obj = true ∨ Rebound origin s.calls
  made : ∃ reset, (∃ acted, resetMetadataAndStatus acted = .ok reset) ∧
    obj = addRestoreLabels (if origin.ns ≠ "" then reset.setNamespace origin.ns else reset)
      ctx.restore.name ctx.restore.spec.backupName

def CreateFacts (ctx : Context) (origin : Origin) (obj : Unstructured) (s : State) : Prop :=
  ∃ item, ItemFacts ctx origin item obj s

/-- What the engine knows when it creates a volume from the snapshot `info` for the PV at
`origin`, read as `item`. -/
structure SnapshotFacts (ctx : Context) (origin : Origin) (item : Unstructured)
    (info : VolumeBackupInfo) : Prop where
  admitted : Admitted ctx origin (parseGroupResource origin.resource) item
  isPV : parseGroupResource origin.resource = Kuberesource.persistentVolumes
  notProvisioned : toProvision ctx.backup item = false
  record : ctx.backup.volumeBackups.lookup item.getName = some (some info)
  snapshotVolumes : isSetToFalse ctx.backup.snapshotVolumes = false
  restorePVs : isSetToFalse ctx.restore.spec.restorePVs = false
  blockStore : ctx.kr.blockStore.isSome = true

/-- What an invariant must be kept by for `restoreResource ctx resource ns` to keep it. -/
structure ItemKeeps (ctx : Context) (resource ns : String) (I : State → Prop) : Prop where
  reads : ReadsLog I
  plain : PlainKeeps I
  provision : parseGroupResource resource = Kuberesource.persistentVolumes →
    ∀ s name, I s → I { s with pvsToProvision := s.pvsToProvision.insert name }
  snapshot : ∀ s origin item info r, origin.resource = resource → origin.ns = ns →
    SnapshotFacts ctx origin item info → I s →
    I (s.record (.createVolumeFromSnapshot origin info.snapshotID info.type
      info.availabilityZone info.iops r))
  create : ∀ s origin client obj r, origin.resource = resource → origin.ns = ns →
    CreateFacts ctx origin obj s → I s → I (s.record (.create origin client obj r))
  patch : ∀ (s : State) (origin : Origin) (client : Client) (obj : Unstructured) (name e : String)
    (live : Unstructured) (p : Json) (r : Except String Unit), origin.resource = resource → origin.ns = ns →
    parseGroupResource origin.resource = Kuberesource.serviceAccounts →
    I ((s.record (.create origin client obj (.alreadyExists e))).record
      (.getLive origin client name (.ok live))) →
    I (((s.record (.create origin client obj (.alreadyExists e))).record
      (.getLive origin client name (.ok live))).record (.patch origin client name p r))

/-! ## Stages -/

section Stages

variable {ctx : Context} {I : State → Prop} {origin : Origin} {gr : GroupResource} {fr : Frame}

theorem admitItem_triple (hp : PlainKeeps I) :
    Triple I (fun _ => True) (admitItem ctx origin gr fr)
      fun st _ => ∀ obj fr', st = .go obj fr' → Admitted ctx origin gr obj := by
  refine Triple.call_bind (fun s hI _ => hp s _ trivial hI) fun _ => ?_
  split
  next => exact Triple.pure fun _ _ _ _ _ h => nomatch h
  next bytes hget =>
    split
    next => exact Triple.pure fun _ _ _ _ _ h => nomatch h
    next obj hdec =>
      split
      next => exact Triple.pure fun _ _ _ _ _ h => nomatch h
      next hsel =>
        split
        next => exact Triple.pure fun _ _ _ _ _ h => nomatch h
        next => exact Triple.pure fun _ _ _ _ _ h => nomatch h
        next hc =>
          refine Triple.pure fun _ _ _ _ _ h => ?_
          cases h
          exact ⟨⟨bytes, hget, hdec⟩, by simpa using hsel, hc⟩

theorem resourceClientFor_triple (hp : PlainKeeps I) {ns : String} {obj : Unstructured} :
    Triple I (fun _ => True) (resourceClientFor ctx gr ns obj fr) fun _ _ => True := by
  unfold resourceClientFor
  split
  next => exact Triple.pure fun _ _ _ => trivial
  next =>
    refine Triple.call_bind (fun s hI _ => hp s _ trivial hI) fun _ => ?_
    split <;> exact Triple.pure fun _ _ _ => trivial

theorem executePVAction_triple (hp : PlainKeeps I) {obj : Unstructured}
    (hsnap : ∀ s info r, ctx.kr.blockStore.isSome = true →
      ctx.backup.volumeBackups.lookup obj.getName = some (some info) →
      isSetToFalse ctx.backup.snapshotVolumes = false →
      isSetToFalse ctx.restore.spec.restorePVs = false → I s →
      I (s.record (.createVolumeFromSnapshot origin info.snapshotID info.type
        info.availabilityZone info.iops r))) :
    Triple I (fun _ => True) (executePVAction ctx origin obj) fun _ _ => True := by
  unfold executePVAction
  dsimp only
  split
  next => exact Triple.pure fun _ _ _ => trivial
  split
  next => exact Triple.pure fun _ _ _ => trivial
  split
  next => exact Triple.pure fun _ _ _ => trivial
  next hsv =>
  split
  next => exact Triple.pure fun _ _ _ => trivial
  next hrp =>
  split
  next => exact Triple.pure fun _ _ _ => trivial
  next backupInfo hrec =>
  split
  next => exact Triple.pure fun _ _ _ => trivial
  next bs hbs =>
  split
  next => exact Triple.throw
  next info =>
  refine Triple.call_bind (fun s hI _ => hsnap s info _ (by simp [hbs]) hrec
    (by simpa using hsv) (by simpa using hrp) hI) fun _ => ?_
  split
  next => exact Triple.pure fun _ _ _ => trivial
  next =>
    refine Triple.call_bind (fun s hI _ => hp s _ trivial hI) fun _ => ?_
    split <;> exact Triple.pure fun _ _ _ => trivial

theorem restorePV_triple (hp : PlainKeeps I) (hr : ReadsLog I) {client : Client} {name : String}
    {obj : Unstructured}
    (hprov : gr = Kuberesource.persistentVolumes →
      ∀ s, I s → I { s with pvsToProvision := s.pvsToProvision.insert name })
    (hsnap : gr = Kuberesource.persistentVolumes → toProvision ctx.backup obj = false →
      ∀ s info r, ctx.kr.blockStore.isSome = true →
      ctx.backup.volumeBackups.lookup obj.getName = some (some info) →
      isSetToFalse ctx.backup.snapshotVolumes = false →
      isSetToFalse ctx.restore.spec.restorePVs = false → I s →
      I (s.record (.createVolumeFromSnapshot origin info.snapshotID info.type
        info.availabilityZone info.iops r))) :
    Triple I (fun _ => True) (restorePV ctx origin gr client name obj fr)
      fun st _ => ∀ obj' fr', st = .go obj' fr' →
        (gr = Kuberesource.persistentVolumes → toProvision ctx.backup obj = false) ∧
        (gr ≠ Kuberesource.persistentVolumes → obj' = obj) := by
  unfold restorePV
  split
  next hgr => exact Triple.pure fun _ _ _ _ _ h => by cases h; exact ⟨fun h => absurd h hgr, fun _ => rfl⟩
  next hgr =>
  have hgr : gr = Kuberesource.persistentVolumes := not_not.mp hgr
  split
  next =>
    refine Triple.modify_bind ?_ (Triple.pure fun _ _ _ _ _ h => nomatch h)
    exact fun s hI _ => ⟨hprov hgr s hI, trivial⟩
  next hnp =>
  have hnp : toProvision ctx.backup obj = false := by simpa using hnp
  have post : ∀ obj', (gr = Kuberesource.persistentVolumes → toProvision ctx.backup obj = false) ∧
      (gr ≠ Kuberesource.persistentVolumes → obj' = obj) :=
    fun _ => ⟨fun _ => hnp, absurd hgr⟩
  refine Triple.bind (executePVAction_triple hp (hsnap hgr hnp)) fun _ => ?_
  split
  next => exact Triple.pure fun _ _ _ _ _ h => nomatch h
  next =>
  split
  next => exact Triple.pure fun _ _ _ obj' _ _ => post obj'
  next =>
  refine Triple.call_bind (fun s hI _ => hp s _ trivial hI) fun _ => ?_
  split
  next => exact Triple.pure fun _ _ _ _ _ h => nomatch h
  next =>
    refine Triple.modify_bind ?_ (Triple.pure fun _ _ _ obj' _ _ => post obj')
    exact fun s hI _ => ⟨hr s _ rfl rfl hI, trivial⟩

theorem resetPVC_triple {ns : String} {obj : Unstructured} {pvs : List String} :
    Triple I (fun s => s.pvsToProvision = pvs) (resetPVC gr ns obj fr)
      fun st s => s.pvsToProvision = pvs ∧ ∀ obj' fr', st = .go obj' fr' →
        gr = Kuberesource.persistentVolumeClaims → ∀ v, boundVolume obj = some v → v ∈ pvs →
        ∃ spec, obj' = resetClaim obj spec := by
  unfold resetPVC
  split
  next hgr => exact Triple.pure fun _ _ hs => ⟨hs, fun _ _ _ h => absurd h hgr⟩
  next =>
  split
  next => exact Triple.pure fun _ _ hs => ⟨hs, fun _ _ h => nomatch h⟩
  next spec hspec =>
  split
  next hv =>
    refine Triple.pure fun _ _ hs => ⟨hs, fun _ _ _ _ v hb _ => ?_⟩
    simp [boundVolume, hspec, hv] at hb
  next volumeName hv =>
    refine Triple.get_bind fun s => ?_
    split
    next => exact Triple.pure fun _ _ ⟨hs, _⟩ => ⟨hs, fun _ _ h _ _ _ _ => by cases h; exact ⟨spec, rfl⟩⟩
    next hin =>
      refine Triple.pure fun _ _ ⟨hs, hss⟩ => ⟨hs, fun _ _ _ _ v hb hvp => ?_⟩
      simp only [boundVolume, hspec, hv, Option.some.injEq] at hb
      subst hb hss
      exact absurd (hs ▸ hvp) hin
  next => exact Triple.throw

theorem FromActions.append {obj₀ obj : Unstructured} {calls : List Call} (cs : List Call)
    (h : FromActions origin obj₀ obj calls) : FromActions origin obj₀ obj (calls ++ cs) :=
  h.imp id fun ⟨i, o, r, hmem, hu⟩ => ⟨i, o, r, List.mem_append_left _ hmem, hu⟩

theorem runActions_triple (hp : PlainKeeps I) {pvs : List String} {obj₀ : Unstructured} :
    ∀ (as : List ResolvedAction) (obj : Unstructured) (fr : Frame),
      Triple I (fun s => s.pvsToProvision = pvs ∧ FromActions origin obj₀ obj s.calls)
        (runActions ctx origin as obj fr)
        fun r s => s.pvsToProvision = pvs ∧ FromActions origin obj₀ r.1 s.calls
  | [], obj, fr => Triple.pure fun _ _ h => h
  | a :: as, obj, fr => by
    unfold runActions
    split
    next => exact runActions_triple hp as obj fr
    next =>
    refine Triple.call_bind_mem (fun s hI _ => hp s _ trivial hI)
      (fun _ c h => ⟨h.1, h.2.append [c]⟩) fun cs => ?_
    dsimp only
    split
    all_goals first | exact Triple.throw_bind | refine Triple.pure_bind ?_
    all_goals
      split
      next => exact (runActions_triple hp as obj _).conseq (fun _ _ h => h.1) fun _ _ _ h => h
      next =>
      split
      next => exact (runActions_triple hp as obj _).conseq (fun _ _ h => h.1) fun _ _ _ h => h
      next u hu =>
        exact (runActions_triple hp as u _).conseq
          (fun _ _ ⟨⟨h1, _⟩, hmem⟩ => ⟨h1, .inr ⟨_, _, _, hmem, hu⟩⟩) fun _ _ _ h => h

/-- The conflict branch patches only a ServiceAccount, right after the get of its live
object answered it. -/
theorem restoreExisting_triple (hp : PlainKeeps I) {P : State → Prop} {client : Client}
    {name restoreErr : String} {obj : Unstructured}
    (hpatch : ∀ s live p r, P s → gr = Kuberesource.serviceAccounts →
      I (s.record (.getLive origin client name (.ok live))) →
      I ((s.record (.getLive origin client name (.ok live))).record (.patch origin client name p r))) :
    Triple I P (restoreExisting ctx origin gr client name obj restoreErr fr) fun _ _ => True := by
  unfold restoreExisting
  refine Triple.call_bind_after (fun s hI _ => hp s _ trivial hI) fun cs => ?_
  generalize ctx.kr.cluster.get cs client name = live
  rcases live with e | fromCluster
  · exact Triple.pure fun _ _ _ => trivial
  dsimp only
  split
  next => exact Triple.pure fun _ _ _ => trivial
  split
  next => exact Triple.pure fun _ _ _ => trivial
  split
  next hgr =>
    split
    next => exact Triple.pure fun _ _ _ => trivial
    split
    next => exact Triple.pure fun _ _ _ => trivial
    next => exact Triple.pure fun _ _ _ => trivial
    next =>
      refine Triple.call_bind (fun s' hI ⟨s, hP, _, hs'⟩ => ?_) fun _ => ?_
      · subst hs'
        exact hpatch s _ _ _ hP hgr hI
      · split <;> exact Triple.pure fun _ _ _ => trivial
  next => exact Triple.pure fun _ _ _ => trivial

theorem createItem_triple (hp : PlainKeeps I) (hr : ReadsLog I) {P : State → Prop} {client : Client}
    {name : String} {obj : Unstructured}
    (hcreate : ∀ s r, I s → P s → I (s.record (.create origin client obj r)))
    (hpatch : ∀ s e live p r, P s → gr = Kuberesource.serviceAccounts →
      I ((s.record (.create origin client obj (.alreadyExists e))).record
        (.getLive origin client name (.ok live))) →
      I (((s.record (.create origin client obj (.alreadyExists e))).record
        (.getLive origin client name (.ok live))).record (.patch origin client name p r))) :
    Triple I P (createItem ctx origin gr client name obj fr) fun _ _ => True := by
  unfold createItem
  refine Triple.call_bind_after (fun s hI hP => hcreate s _ hI hP) fun cs => ?_
  generalize ctx.kr.cluster.create cs client obj = created
  rcases created with _ | e | _ <;> dsimp only
  · refine Triple.weaken ?_
    split
    next =>
      split
      next => exact Triple.pure fun _ _ _ => trivial
      next =>
        refine Triple.call_bind (fun s hI _ => hp s _ trivial hI) fun _ => ?_
        refine Triple.modify_bind ?_ (Triple.pure fun _ _ _ => trivial)
        exact fun s hI _ => ⟨hr s _ rfl rfl hI, trivial⟩
    next => exact Triple.pure fun _ _ _ => trivial
  · refine restoreExisting_triple hp fun s' live p r ⟨s, hP, _, hs'⟩ hgr hI => ?_
    subst hs'
    exact hpatch s e live p r hP hgr hI
  · exact Triple.pure fun _ _ _ => trivial

/-- A claim reset for provisioning stays unbound through the item actions, unless one of
them rebinds it, and through the metadata reset, the namespace and the restore labels. -/
theorem unbound_created {obj₀ obj obj' : Unstructured} {calls : List Call} {ns restoreName
    backupName : String} (h₀ : Unbound obj₀ = true) (ha : FromActions origin obj₀ obj calls)
    (hr : resetMetadataAndStatus obj = .ok obj') :
    Unbound (addRestoreLabels (if ns ≠ "" then obj'.setNamespace ns else obj') restoreName
      backupName) = true ∨ Rebound origin calls := by
  have hns : Unbound (if ns ≠ "" then obj'.setNamespace ns else obj') = Unbound obj := by
    split <;> simp only [unbound_setNamespace, unbound_resetMetadataAndStatus hr]
  rw [unbound_addRestoreLabels, hns]
  rcases ha with rfl | ⟨i, o, r, hmem, hu⟩
  · exact .inl h₀
  · cases hb : Unbound obj
    · exact .inr ⟨i, o, r, obj, hmem, hu, hb⟩
    · exact .inl rfl

end Stages

section Loop

variable {ctx : Context} {I : State → Prop} {resource ns : String}
  {applicable : List ResolvedAction}

theorem restoreItem_triple (hk : ItemKeeps ctx resource ns I) {fr : Frame} {file : String} :
    Triple I (fun _ => True) (restoreItem ctx resource ns applicable fr file) fun _ _ => True := by
  unfold restoreItem
  dsimp only
  refine Triple.bind (admitItem_triple hk.plain) fun st => Triple.of_fact fun hst => ?_
  split
  next => exact Triple.pure fun _ _ _ => trivial
  next item fr1 =>
  have had := hst item fr1 rfl
  refine Triple.bind (resourceClientFor_triple hk.plain) fun _ => ?_
  split
  next => exact Triple.pure fun _ _ _ => trivial
  next client fr2 =>
  split
  next => exact Triple.pure fun _ _ _ => trivial
  next hmirror =>
  refine Triple.bind (restorePV_triple hk.plain hk.reads (fun h s hI => hk.provision h s _ hI)
    fun h hnp s info r hbs hrec hsv hrp hI =>
      hk.snapshot s _ item info r rfl rfl ⟨had, h, hnp, hrec, hsv, hrp, hbs⟩ hI)
    fun st2 => Triple.of_fact fun hst2 => ?_
  split
  next => exact Triple.pure fun _ _ _ => trivial
  next obj2 fr3 =>
  obtain ⟨hnp, hsame⟩ := hst2 obj2 fr3 rfl
  refine Triple.ghost (fun s => s.pvsToProvision) fun pvs => ?_
  refine Triple.bind (resetPVC_triple.conseq (fun _ _ h => h.2) fun _ _ _ h => h) fun st3 => ?_
  split
  next => exact Triple.pure fun _ _ _ => trivial
  next obj3 fr4 =>
  refine Triple.of_and_fact fun hreset => ?_
  refine Triple.bind ((runActions_triple hk.plain applicable obj3 fr4).conseq
    (fun _ _ h => ⟨h, .inl rfl⟩) fun _ _ _ h => h) fun ⟨obj4, fr5⟩ => ?_
  dsimp only
  split
  next => exact Triple.pure fun _ _ _ => trivial
  next obj5 hobj5 =>
  refine Triple.bind (createItem_triple hk.plain hk.reads (fun s r hI ⟨hpvs, hfrom⟩ =>
    hk.create s _ client _ r rfl rfl ⟨item, had, by simpa using hmirror, hnp, ?_, _, ⟨_, hobj5⟩, rfl⟩ hI)
    fun s e live p r _ hgr hI => hk.patch s _ client _ _ e live p r rfl rfl hgr hI) fun _ =>
      Triple.pure fun _ _ _ => trivial
  intro hpvc v hv hvs
  have hgr : parseGroupResource resource ≠ Kuberesource.persistentVolumes :=
    hpvc ▸ by decide
  obtain ⟨spec, rfl⟩ := hreset obj3 fr4 rfl hpvc v (hsame hgr ▸ hv) (hpvs ▸ hvs)
  exact unbound_created (unbound_resetClaim _ spec) hfrom hobj5

theorem restoreItems_triple (hk : ItemKeeps ctx resource ns I) :
    ∀ (files : List String) (fr : Frame),
      Triple I (fun _ => True) (restoreItems ctx resource ns applicable files fr) fun _ _ => True
  | [], _ => Triple.pure fun _ _ _ => trivial
  | file :: files, fr => by
    unfold restoreItems
    refine Triple.bind (restoreItem_triple hk) fun _ => ?_
    split
    next => exact restoreItems_triple hk files _
    next => exact Triple.pure fun _ _ _ => trivial

theorem restoreResource_triple
    (hk : (isSetToFalse ctx.restore.spec.includeClusterResources && ns == "") = false →
      ItemKeeps ctx resource ns I) :
    Triple I (fun _ => True) (restoreResource ctx resource ns) fun _ _ => True := by
  unfold restoreResource
  split
  next => exact Triple.pure fun _ _ _ => trivial
  next hg =>
  have hk := hk (by simpa using hg)
  refine Triple.call_bind (fun s hI _ => hk.plain s _ trivial hI) fun _ => ?_
  split
  next => exact Triple.pure fun _ _ _ => trivial
  next => exact Triple.pure fun _ _ _ => trivial
  next =>
    dsimp only
    exact Triple.bind (restoreItems_triple hk _ _) fun _ => Triple.pure fun _ _ _ => trivial

end Loop

end Ark
