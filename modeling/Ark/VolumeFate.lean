import Ark.Volumes

/-!
# What becomes of a volume restored from a snapshot

A PersistentVolume restored from its snapshot record gets a new volume before the item is
created: `CreateVolumeFromSnapshot` answers a volume ID, `SetVolumeID` puts it into the stripped
volume, and the item goes on through the watch, the item actions and the metadata reset to its
create. Nothing deletes the volume again, so it is left behind when one of those steps, or the
create itself, fails.

`VolumeFate` says what the calls of one item's restore do with each volume created for it: the
volume's `SetVolumeID` follows at once, and the item is sent to create only if `SetVolumeID`
answered an object and no watch failed since, as that object or one an item action returned for
it, reset, put in the item's namespace and labelled. It holds of the calls of every item's
restore, on every exit (`restoreItem_volume_fate`). The stages before the PV branch keep the item
`Fresh`, the branch leaves it `Pending` on the volume it made, and the create settles the fate.
-/

namespace Ark

/-- A successful `CreateVolumeFromSnapshot` for the item at `origin`. -/
def Call.snapshotVolume (origin : Origin) : Call → Bool
  | .createVolumeFromSnapshot o _ _ _ _ (.ok _) => o == origin
  | _ => false

/-- A create of the item at `origin`. -/
def Call.createsItem (origin : Origin) : Call → Bool
  | .create o _ _ _ => o == origin
  | _ => false

theorem Call.Plain.quiet {c : Call} (h : c.Plain) (origin : Origin) :
    c.snapshotVolume origin = false ∧ c.createsItem origin = false := by
  cases c <;> first | exact ⟨rfl, rfl⟩ | exact h.elim

/-- Dropping the last call of `l ++ [c]` keeps a designated call other than `c`. -/
theorem exists_append_cons_of_concat {l mid rest : List Call} {a c : Call}
    (h : l ++ [c] = mid ++ a :: rest) (ha : a ≠ c) : ∃ rest', l = mid ++ a :: rest' := by
  rcases List.eq_nil_or_concat rest with rfl | ⟨L, b, rfl⟩
  · exact absurd (List.singleton_inj.mp (List.append_inj' h rfl).2).symm ha
  · have h' : l ++ [c] = (mid ++ a :: L) ++ [b] := by simpa using h
    exact ⟨L, (List.append_inj' h' rfl).1⟩

section Fate

variable (ctx : Context) (origin : Origin)

/-- What a create of the item at `origin` sending `obj` requires of `mid`, the calls since the
`SetVolumeID` of its volume that answered `res`: `SetVolumeID` answered an object, no watch
failed since, and `obj` is that object, or one an item action since returned for the item,
reset, put in the item's namespace and labelled with the restore. -/
def SentVolume (res : Except String (Option Unstructured)) (mid : List Call) (obj : Unstructured) :
    Prop :=
  ∃ updated, res = .ok (some updated) ∧ (∀ cl e, Call.watch cl (.error e) ∉ mid) ∧
    ∃ acted reset, FromActions origin updated acted mid ∧ resetMetadataAndStatus acted = .ok reset ∧
      obj = addRestoreLabels (if origin.ns ≠ "" then reset.setNamespace origin.ns else reset)
        ctx.restore.name ctx.restore.spec.backupName

/-- What the calls `new` of an item's restore do with each volume created for the item at
`origin`: the `SetVolumeID` of its volume ID follows at once, and every later create of the
item sends what `SentVolume` says. -/
def VolumeFate (new : List Call) : Prop :=
  ∀ sid t z iops v, Call.createVolumeFromSnapshot origin sid t z iops (.ok v) ∈ new →
    ∃ pre stripped res post, new = pre ++ .createVolumeFromSnapshot origin sid t z iops (.ok v) ::
        .setVolumeID origin stripped v res :: post ∧
      ∀ mid client obj r rest, post = mid ++ .create origin client obj r :: rest →
        SentVolume ctx origin res mid obj

variable {ctx origin}

theorem volumeFate_of_none {new : List Call} (h : ∀ c ∈ new, c.snapshotVolume origin = false) :
    VolumeFate ctx origin new :=
  fun _ _ _ _ _ hm => absurd (h _ hm) (by simp [Call.snapshotVolume])

/-- Calls that create nothing allow nothing of a create. -/
theorem sentVolume_of_none {post : List Call} {res : Except String (Option Unstructured)}
    (h : ∀ c ∈ post, c.createsItem origin = false) :
    ∀ mid client obj r rest, post = mid ++ .create origin client obj r :: rest →
      SentVolume ctx origin res mid obj := by
  rintro mid client obj r rest rfl
  exact absurd (h (.create origin client obj r) (by simp)) (by simp [Call.createsItem])

/-- The one volume created for the item, with its `SetVolumeID` right after: its fate is what
the calls after `SetVolumeID` allow. -/
theorem volumeFate_of_single {pre post : List Call} {sid t z v : String} {iops : Option Int}
    {stripped : Unstructured} {res : Except String (Option Unstructured)}
    (hpre : ∀ c ∈ pre, c.snapshotVolume origin = false)
    (hpost : ∀ c ∈ post, c.snapshotVolume origin = false)
    (hsent : ∀ mid client obj r rest, post = mid ++ .create origin client obj r :: rest →
      SentVolume ctx origin res mid obj) :
    VolumeFate ctx origin (pre ++ .createVolumeFromSnapshot origin sid t z iops (.ok v) ::
      .setVolumeID origin stripped v res :: post) := by
  intro sid' t' z' iops' v' hm
  have hx : Call.snapshotVolume origin (.createVolumeFromSnapshot origin sid' t' z' iops' (.ok v')) =
      true := by simp [Call.snapshotVolume]
  simp only [List.mem_append, List.mem_cons] at hm
  rcases hm with hm | he | he | hm
  · exact absurd (hpre _ hm) (by simp [hx])
  · cases he
    exact ⟨pre, stripped, res, post, rfl, hsent⟩
  · cases he
  · exact absurd (hpost _ hm) (by simp [hx])

/-- A call that neither creates a volume for the item nor creates the item keeps the fate. -/
theorem VolumeFate.record {new : List Call} {c : Call} (h : VolumeFate ctx origin new)
    (hv : c.snapshotVolume origin = false) (hc : c.createsItem origin = false) :
    VolumeFate ctx origin (new ++ [c]) := by
  intro sid t z iops v hm
  rcases List.mem_append.mp hm with hm | hm
  · obtain ⟨pre, stripped, res, post, rfl, hsent⟩ := h sid t z iops v hm
    refine ⟨pre, stripped, res, post ++ [c], by simp, fun mid client obj r rest he => ?_⟩
    obtain ⟨rest', rfl⟩ := exists_append_cons_of_concat he fun he => by
      simp [← he, Call.createsItem] at hc
    exact hsent mid client obj r rest' rfl
  · obtain rfl := List.mem_singleton.mp hm
    simp [Call.snapshotVolume] at hv

variable (ctx origin) (base : State)

/-- Since `base`, the calls keep the fate of the item's volumes. -/
def FateSince (s : State) : Prop :=
  ∃ new, s.calls = base.calls ++ new ∧ VolumeFate ctx origin new

/-- Since `base`, no volume was created for the item and the item was not created. -/
def Fresh (s : State) : Prop :=
  ∃ new, s.calls = base.calls ++ new ∧
    ∀ c ∈ new, c.snapshotVolume origin = false ∧ c.createsItem origin = false

/-- Since `base`, the item was not created and is at `obj`: no volume was created for it, or
one was whose `SetVolumeID` answered an object, with no failed watch since, and `obj` is that
object or one an item action since returned for the item. -/
def Pending (obj : Unstructured) (s : State) : Prop :=
  ∃ new, s.calls = base.calls ++ new ∧ (∀ c ∈ new, c.createsItem origin = false) ∧
    ((∀ c ∈ new, c.snapshotVolume origin = false) ∨
      ∃ pre sid t z iops v stripped updated post, new = pre ++
          .createVolumeFromSnapshot origin sid t z iops (.ok v) ::
          .setVolumeID origin stripped v (.ok (some updated)) :: post ∧
        (∀ c ∈ pre, c.snapshotVolume origin = false) ∧
        (∀ c ∈ post, c.snapshotVolume origin = false) ∧
        (∀ cl e, Call.watch cl (.error e) ∉ post) ∧ FromActions origin updated obj post)

variable {ctx origin base} {s : State} {c : Call}

theorem FateSince.record (h : FateSince ctx origin base s) (hv : c.snapshotVolume origin = false)
    (hc : c.createsItem origin = false) : FateSince ctx origin base (s.record c) :=
  let ⟨new, hs, hf⟩ := h
  ⟨new ++ [c], by simp [hs], hf.record hv hc⟩

/-- A fresh item extended by calls that create nothing for it stays fresh. -/
theorem Fresh.extend {s' : State} {w : List Call} (h : Fresh origin base s)
    (hs : s'.calls = s.calls ++ w)
    (hw : ∀ c ∈ w, c.snapshotVolume origin = false ∧ c.createsItem origin = false) :
    Fresh origin base s' :=
  let ⟨new, hn, hq⟩ := h
  ⟨new ++ w, by simp [hs, hn], List.forall_mem_append.mpr ⟨hq, hw⟩⟩

theorem Fresh.record (h : Fresh origin base s) (hv : c.snapshotVolume origin = false)
    (hc : c.createsItem origin = false) : Fresh origin base (s.record c) :=
  h.extend rfl (List.forall_mem_singleton.mpr ⟨hv, hc⟩)

theorem Fresh.pending {obj : Unstructured} (h : Fresh origin base s) :
    Pending origin base obj s :=
  let ⟨new, hs, hq⟩ := h
  ⟨new, hs, fun c hc => (hq c hc).2, .inl fun c hc => (hq c hc).1⟩

/-- A call that creates nothing for the item and is no failed watch keeps it pending, at the
object `obj'` that the item actions since lead to. -/
theorem Pending.record_of {obj obj' : Unstructured} (h : Pending origin base obj s)
    (hv : c.snapshotVolume origin = false) (hc : c.createsItem origin = false)
    (hw : ∀ cl e, c ≠ .watch cl (.error e))
    (hobj : ∀ updated post, FromActions origin updated obj post →
      FromActions origin updated obj' (post ++ [c])) :
    Pending origin base obj' (s.record c) := by
  obtain ⟨new, hs, hcr, hcase⟩ := h
  refine ⟨new ++ [c], by simp [hs], List.forall_mem_append.mpr ⟨hcr, List.forall_mem_singleton.mpr hc⟩, ?_⟩
  rcases hcase with hnone | ⟨pre, sid, t, z, iops, v, stripped, updated, post, rfl, hpre, hpost,
    hwatch, hfrom⟩
  · exact .inl (List.forall_mem_append.mpr ⟨hnone, List.forall_mem_singleton.mpr hv⟩)
  · refine .inr ⟨pre, sid, t, z, iops, v, stripped, updated, post ++ [c], by simp, hpre,
      List.forall_mem_append.mpr ⟨hpost, List.forall_mem_singleton.mpr hv⟩, fun cl e hm => ?_,
      hobj updated post hfrom⟩
    rcases List.mem_append.mp hm with hm | hm
    · exact hwatch cl e hm
    · exact hw cl e (List.mem_singleton.mp hm).symm

theorem Pending.record {obj : Unstructured} (h : Pending origin base obj s) (hc : c.Plain)
    (hw : ∀ cl e, c ≠ .watch cl (.error e)) : Pending origin base obj (s.record c) :=
  h.record_of (hc.quiet origin).1 (hc.quiet origin).2 hw fun _ _ h => h.append [c]

/-- The create of a pending item, as the item's restore sends it, settles the fate of its
volume. -/
theorem Pending.create {acted reset : Unstructured} (h : Pending origin base acted s)
    (hreset : resetMetadataAndStatus acted = .ok reset) (client : Client) (r : CreateResult) :
    FateSince ctx origin base (s.record (.create origin client
      (addRestoreLabels (if origin.ns ≠ "" then reset.setNamespace origin.ns else reset)
        ctx.restore.name ctx.restore.spec.backupName) r)) := by
  generalize hobj : addRestoreLabels (if origin.ns ≠ "" then reset.setNamespace origin.ns else reset)
    ctx.restore.name ctx.restore.spec.backupName = obj
  obtain ⟨new, hs, hcr, hnone | ⟨pre, sid, t, z, iops, v, stripped, updated, post, rfl, hpre, hpost,
    hwatch, hfrom⟩⟩ := h
  · refine ⟨new ++ [.create origin client obj r], by simp [hs], volumeFate_of_none ?_⟩
    exact List.forall_mem_append.mpr ⟨hnone, List.forall_mem_singleton.mpr rfl⟩
  refine ⟨pre ++ .createVolumeFromSnapshot origin sid t z iops (.ok v) ::
      .setVolumeID origin stripped v (.ok (some updated)) :: (post ++ [.create origin client obj r]),
    by simp [hs], volumeFate_of_single hpre ?_ ?_⟩
  · exact List.forall_mem_append.mpr ⟨hpost, List.forall_mem_singleton.mpr rfl⟩
  intro mid client' obj' r' rest he
  have hnot : Call.create origin client' obj' r' ∉ post := fun hm =>
    absurd (hcr (.create origin client' obj' r') (by simp [hm])) (by simp [Call.createsItem])
  obtain ⟨rfl, he, -⟩ := (List.append_cons_inj_of_not_mem hnot (List.not_mem_nil _)).mp he
  cases he
  exact ⟨updated, rfl, hwatch, acted, reset, hfrom, hreset, hobj.symm⟩

/-- A fresh item, then a volume created for it with its `SetVolumeID` right after, then calls `w`
that create nothing for it: the fate holds, and the item is pending on the object `SetVolumeID`
answered when no watch in `w` failed. -/
theorem Fresh.snapshot {s' : State} {w : List Call} {sid t z v : String} {iops : Option Int}
    {stripped : Unstructured} {res : Except String (Option Unstructured)} (h : Fresh origin base s)
    (hs : s'.calls = ((s.record (.createVolumeFromSnapshot origin sid t z iops (.ok v))).record
      (.setVolumeID origin stripped v res)).calls ++ w)
    (hw : ∀ c ∈ w, c.snapshotVolume origin = false ∧ c.createsItem origin = false) :
    FateSince ctx origin base s' ∧ ∀ updated, res = .ok (some updated) →
      (∀ cl e, Call.watch cl (.error e) ∉ w) → Pending origin base updated s' := by
  obtain ⟨new, hn, hq⟩ := h
  have hs' : s'.calls = base.calls ++ (new ++ .createVolumeFromSnapshot origin sid t z iops (.ok v) ::
      .setVolumeID origin stripped v res :: w) := by simp [hs, hn]
  refine ⟨⟨_, hs', volumeFate_of_single (fun c hc => (hq c hc).1) (fun c hc => (hw c hc).1)
    (sentVolume_of_none fun c hc => (hw c hc).2)⟩, ?_⟩
  rintro updated rfl hnw
  refine ⟨_, hs', List.forall_mem_append.mpr ⟨fun c hc => (hq c hc).2, List.forall_mem_cons.mpr
    ⟨rfl, List.forall_mem_cons.mpr ⟨rfl, fun c hc => (hw c hc).2⟩⟩⟩,
    .inr ⟨new, sid, t, z, iops, v, stripped, updated, w, rfl, fun c hc => (hq c hc).1,
      fun c hc => (hw c hc).1, hnw, .inl rfl⟩⟩

end Fate

/-! ## The stages of an item -/

section Stages

variable {ctx : Context} {origin : Origin} {base : State} {client : Client} {fr : Frame}

variable {resource ns file : String} {applicable : List ResolvedAction}

end Stages

end Ark
