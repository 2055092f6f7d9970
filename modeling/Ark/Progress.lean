import Ark.Watches

/-!
# Which listed items `restoreResource` reads

`restoreResource` lists the archive's files of a resource type in a namespace and restores them
one by one, each from a `Get` of its file. The loop goes on to the next file after every item,
restored or skipped, except when the resource client cannot be built or the watch of a
PersistentVolume cannot be opened: those return from `restoreResource` at once.

This module follows the reads through every stage of an item (`ReadsSince`): `admitItem` reads
the item's file and no other stage reads one, and only the client and watch failures stop the
loop. For every context, resource type and namespace whose listing returns: the files a returning
`restoreResource` reads are a prefix of the listing, in order, each once, and they are the whole
listing unless the run's last call is the failed `ClientForGroupVersionResource` or `Watch`
(`restoreResource_reads_listed_files`).
-/

namespace Ark

/-- The archive item a call read: the origin of a `Get`. -/
def Call.read : Call → Option Origin
  | .get origin => some origin
  | _ => none

/-- A call after which `restoreResource` returns: a failed client build or `Watch`. -/
def Call.stops : Call → Bool
  | .clientFor _ (.error _) | .watch _ (.error _) => true
  | _ => false

/-- The flow a stage hands on: an item that goes on is not stopped. -/
def Stage.flow : Stage → Flow
  | .go .. => .next
  | .exit flow _ => flow

/-- The last call of the log stops the loop. -/
def LastStops (s : State) : Prop := ∃ c, s.calls.getLast? = some c ∧ c.stops

theorem lastStops_record {s : State} {c : Call} (h : c.stops) : LastStops (s.record c) :=
  ⟨c, by simp [State.record], h⟩

section Loop

variable (base : State)

/-- Since `base`, the log grew by calls that read the items `rd`, in order. -/
def ReadsSince (rd : List Origin) (s : State) : Prop :=
  ∃ new, s.calls = base.calls ++ new ∧ new.filterMap Call.read = rd

variable {base} {rd : List Origin} {s : State} {c : Call}

theorem ReadsSince.init : ReadsSince base [] base :=
  ⟨[], by simp, rfl⟩

theorem ReadsSince.record_read {origin : Origin} (h : ReadsSince base rd s)
    (hc : c.read = some origin) : ReadsSince base (rd ++ [origin]) (s.record c) :=
  let ⟨new, hs, hr⟩ := h
  ⟨new ++ [c], by simp [State.record, hs], by simp [hr, hc]⟩

theorem ReadsSince.record (h : ReadsSince base rd s) (hc : c.read = none) :
    ReadsSince base rd (s.record c) :=
  let ⟨new, hs, hr⟩ := h
  ⟨new ++ [c], by simp [State.record, hs], by simp [hr, hc]⟩

/-- An item that goes on: it did not stop the loop. -/
theorem ReadsSince.next (h : ReadsSince base rd s) :
    ReadsSince base rd s ∧ (Flow.next = .stop → LastStops s) :=
  ⟨h, fun h => nomatch h⟩

variable {ctx : Context} {origin : Origin} {gr : GroupResource} {fr : Frame}

theorem admitItem_reads :
    Triple (fun _ => True) (ReadsSince base rd) (admitItem ctx origin gr fr)
      fun st s => ReadsSince base (rd ++ [origin]) s ∧ st.flow = .next := by
  refine Triple.bind (Triple.call (Q := fun _ => ReadsSince base (rd ++ [origin]))
    fun _ _ h => ⟨trivial, h.record_read rfl⟩) fun _ => ?_
  split
  · exact Triple.pure fun _ _ h => ⟨h, rfl⟩
  split
  · exact Triple.pure fun _ _ h => ⟨h, rfl⟩
  split
  · exact Triple.pure fun _ _ h => ⟨h, rfl⟩
  split <;> exact Triple.pure fun _ _ h => ⟨h, rfl⟩

/-- Without a client, the item's failed client build stops the loop. -/
theorem resourceClientFor_reads {ns : String} {obj : Unstructured} :
    Triple (fun _ => True) (ReadsSince base rd) (resourceClientFor ctx gr ns obj fr)
      fun r s => ReadsSince base rd s ∧ (r.isOk = false → LastStops s) := by
  unfold resourceClientFor
  split
  · exact Triple.pure fun _ _ h => ⟨h, fun h => nomatch h⟩
  refine Triple.call_bind_after (fun _ _ _ => trivial) fun cs => ?_
  split
  · rename_i hok
    exact Triple.pure fun _ _ ⟨s, h, _, hs⟩ => by
      rw [hs, hok]
      exact ⟨h.record rfl, fun _ => lastStops_record rfl⟩
  · exact Triple.pure fun _ _ ⟨s, h, _, hs⟩ => hs ▸ ⟨h.record rfl, fun h => nomatch h⟩

theorem executePVAction_reads {obj : Unstructured} :
    Triple (fun _ => True) (ReadsSince base rd) (executePVAction ctx origin obj)
      fun _ => ReadsSince base rd := by
  unfold executePVAction
  dsimp only
  split
  · exact Triple.pure fun _ _ h => h
  split
  · exact Triple.pure fun _ _ h => h
  split
  · exact Triple.pure fun _ _ h => h
  split
  · exact Triple.pure fun _ _ h => h
  split
  · exact Triple.pure fun _ _ h => h
  split
  · exact Triple.pure fun _ _ h => h
  split
  · exact Triple.throw
  refine Triple.call_bind_keep (fun _ _ h => ⟨trivial, h.record rfl⟩) fun _ => ?_
  split
  · exact Triple.pure fun _ _ h => h
  refine Triple.call_bind_keep (fun _ _ h => ⟨trivial, h.record rfl⟩) fun _ => ?_
  split <;> exact Triple.pure fun _ _ h => h

/-- The volume branch: a failed `Watch` stops the loop. -/
theorem restorePV_reads {client : Client} {name : String} {obj : Unstructured} :
    Triple (fun _ => True) (ReadsSince base rd) (restorePV ctx origin gr client name obj fr)
      fun st s => ReadsSince base rd s ∧ (st.flow = .stop → LastStops s) := by
  unfold restorePV
  split
  · exact Triple.pure fun _ _ h => h.next
  split
  · exact Triple.modify_bind (fun _ _ h => ⟨trivial, h⟩) (Triple.pure fun _ _ h => h.next)
  refine Triple.bind executePVAction_reads fun _ => ?_
  split
  · exact Triple.pure fun _ _ h => h.next
  split
  · exact Triple.pure fun _ _ h => h.next
  refine Triple.call_bind_after (fun _ _ _ => trivial) fun cs => ?_
  split
  · rename_i hok
    exact Triple.pure fun _ _ ⟨s, h, _, hs⟩ => by
      rw [hs, hok]
      exact ⟨h.record rfl, fun _ => lastStops_record rfl⟩
  · refine Triple.conseq ?_ (fun _ _ ⟨_, h, _, hs⟩ => hs ▸ h.record (by rfl)) fun _ _ _ h => h
    exact Triple.modify_bind (fun _ _ h => ⟨trivial, h⟩) (Triple.pure fun _ _ h => h.next)

theorem resetPVC_reads {ns : String} {obj : Unstructured} :
    Triple (fun _ => True) (ReadsSince base rd) (resetPVC gr ns obj fr)
      fun st s => ReadsSince base rd s ∧ (st.flow = .stop → LastStops s) := by
  unfold resetPVC
  split
  · exact Triple.pure fun _ _ h => h.next
  split
  · exact Triple.pure fun _ _ h => h.next
  split
  · exact Triple.pure fun _ _ h => h.next
  · exact Triple.get_bind fun _ => by split <;> exact Triple.pure fun _ _ h => h.1.next
  · exact Triple.throw

theorem runActions_reads :
    ∀ (actions : List ResolvedAction) (obj : Unstructured) (fr : Frame),
      Triple (fun _ => True) (ReadsSince base rd) (runActions ctx origin actions obj fr)
        fun _ => ReadsSince base rd
  | [], _, _ => Triple.pure fun _ _ h => h
  | a :: as, obj, fr => by
    unfold runActions
    split
    · exact runActions_reads as obj fr
    refine Triple.call_bind_keep (fun _ _ h => ⟨trivial, h.record rfl⟩) fun _ => ?_
    dsimp only
    split <;> first | exact Triple.throw_bind | refine Triple.pure_bind ?_
    all_goals
      split
      · exact runActions_reads _ _ _
      split <;> exact runActions_reads _ _ _

theorem restoreExisting_reads {client : Client} {name : String} {obj : Unstructured}
    {restoreErr : String} :
    Triple (fun _ => True) (ReadsSince base rd)
      (restoreExisting ctx origin gr client name obj restoreErr fr) fun _ => ReadsSince base rd := by
  unfold restoreExisting
  dsimp only
  refine Triple.call_bind_keep (fun _ _ h => ⟨trivial, h.record rfl⟩) fun _ => ?_
  split
  · exact Triple.pure fun _ _ h => h
  split
  · exact Triple.pure fun _ _ h => h
  split
  · exact Triple.pure fun _ _ h => h
  split
  · split
    · exact Triple.pure fun _ _ h => h
    split
    · exact Triple.pure fun _ _ h => h
    · exact Triple.pure fun _ _ h => h
    · refine Triple.call_bind_keep (fun _ _ h => ⟨trivial, h.record rfl⟩) fun _ => ?_
      split <;> exact Triple.pure fun _ _ h => h
  · exact Triple.pure fun _ _ h => h

theorem createItem_reads {client : Client} {name : String} {obj : Unstructured} :
    Triple (fun _ => True) (ReadsSince base rd) (createItem ctx origin gr client name obj fr)
      fun _ => ReadsSince base rd := by
  refine Triple.call_bind_keep (fun _ _ h => ⟨trivial, h.record rfl⟩) fun _ => ?_
  split
  · exact restoreExisting_reads
  · exact Triple.pure fun _ _ h => h
  · split
    · split
      · exact Triple.pure fun _ _ h => h
      · refine Triple.call_bind_keep (fun _ _ h => ⟨trivial, h.record rfl⟩) fun _ => ?_
        exact Triple.modify_bind (fun _ _ h => ⟨trivial, h⟩) (Triple.pure fun _ _ h => h)
    · exact Triple.pure fun _ _ h => h

/-- An item reads its own file, once, and stops the loop only by a failed client build or
`Watch`, its run's last call. -/
theorem restoreItem_reads {resource ns : String} {applicable : List ResolvedAction}
    {file : String} :
    Triple (fun _ => True) (ReadsSince base rd) (restoreItem ctx resource ns applicable fr file)
      fun r s => ReadsSince base (rd ++ [⟨resource, ns, file⟩]) s ∧ (r.1 = .stop → LastStops s) := by
  unfold restoreItem
  dsimp only
  refine Triple.bind admitItem_reads fun _ => ?_
  split
  · exact Triple.pure fun _ _ ⟨h, hflow⟩ => ⟨h, fun h => nomatch hflow.symm.trans h⟩
  refine Triple.bind (resourceClientFor_reads.conseq (fun _ _ h => h.1) fun _ _ _ h => h)
    fun _ => ?_
  split
  · exact Triple.pure fun _ _ h => ⟨h.1, fun _ => h.2 rfl⟩
  split
  · exact Triple.pure fun _ _ h => h.1.next
  refine Triple.bind (restorePV_reads.conseq (fun _ _ h => h.1) fun _ _ _ h => h) fun _ => ?_
  split
  · exact Triple.pure fun _ _ h => h
  refine Triple.bind (resetPVC_reads.conseq (fun _ _ h => h.1) fun _ _ _ h => h) fun _ => ?_
  split
  · exact Triple.pure fun _ _ h => h
  refine Triple.bind ((runActions_reads _ _ _).conseq (fun _ _ h => h.1) fun _ _ _ h => h)
    fun _ => ?_
  split
  · exact Triple.pure fun _ _ h => h.next
  · exact Triple.bind createItem_reads fun _ => Triple.pure fun _ _ h => h.next

/-- The loop over the files `files`, after reading `done`: it reads a prefix of `files`, all of
them unless its last call stopped it. -/
theorem restoreItems_reads {resource ns : String} {applicable : List ResolvedAction} :
    ∀ (files done : List String) (fr : Frame),
      Triple (fun _ => True) (ReadsSince base (done.map (Origin.mk resource ns)))
        (restoreItems ctx resource ns applicable files fr) fun _ s =>
          ∃ read, read <+: files ∧ ReadsSince base ((done ++ read).map (Origin.mk resource ns)) s ∧
            (read = files ∨ LastStops s)
  | [], _, _ => Triple.pure fun _ _ h => ⟨[], List.nil_prefix, by simpa using h, .inl rfl⟩
  | f :: files, done, _ => Triple.bind restoreItem_reads fun _ => by
    split
    · refine (restoreItems_reads files (done ++ [f]) _).conseq (fun _ _ h => by simpa using h.1)
        fun _ _ _ ⟨read, hp, hr, hs⟩ => ⟨f :: read, List.cons_prefix_cons.mpr ⟨rfl, hp⟩,
          by simpa using hr, hs.imp (congrArg _) id⟩
    · exact Triple.pure fun _ _ h => ⟨[f], List.cons_prefix_cons.mpr ⟨rfl, List.nil_prefix⟩,
        by simpa using h.1, .inr (h.2 rfl)⟩

end Loop

/-- For every context, resource type, namespace and starting state, when the type is not
skipped as cluster-scoped and the archive lists the files `files` for it: a run of
`restoreResource` that returns reads, by its `Get` calls, the items of a prefix of `files`, in
order and each once, and reads all of `files` unless the run's last call is a failed client
build or `Watch`: only those end the loop early. -/
theorem restoreResource_reads_listed_files (ctx : Context) (resource ns : String)
    (files : List String) (hl : ctx.reader.listContents resource ns = .ok files)
    (hc : (isSetToFalse ctx.restore.spec.includeClusterResources && ns == "") = false)
    (s : State) :
    ∀ r s', restoreResource ctx resource ns s = .ok r s' →
      ∃ read new, read <+: files ∧ s'.calls = s.calls ++ new ∧
        new.filterMap Call.read = read.map (Origin.mk resource ns) ∧
        (read = files ∨ ∃ c, s'.calls.getLast? = some c ∧ c.stops) := by
  have h : Triple (fun _ => True) (ReadsSince s []) (restoreResource ctx resource ns) fun _ s' =>
      ∃ read, read <+: files ∧ ReadsSince s (read.map (Origin.mk resource ns)) s' ∧
        (read = files ∨ LastStops s') := by
    unfold restoreResource
    rw [hc, if_neg Bool.false_ne_true]
    refine Triple.call_bind_keep (fun _ _ h => ⟨trivial, h.record rfl⟩) fun _ => ?_
    dsimp only
    rw [hl]
    rcases files with _ | ⟨f, fs⟩
    · exact Triple.pure fun _ _ h => ⟨[], List.nil_prefix, h, .inl rfl⟩
    · exact Triple.bind (restoreItems_reads _ [] {}) fun _ =>
        Triple.pure fun _ _ ⟨read, hp, hr, hs⟩ => ⟨read, hp, by simpa using hr, hs⟩
  intro r s' hrun
  have := h s trivial ReadsSince.init
  rw [hrun] at this
  obtain ⟨-, read, hp, ⟨new, hcalls, hreads⟩, hs⟩ := this
  exact ⟨read, new, hp, hcalls, hreads, hs⟩

/-- The two-volume restore on a cluster that refuses watches. -/
def watchRefusingContext : Context :=
  { twoVolumeContext with
    kr := { twoVolumeContext.kr with
      cluster := { grantingCluster .created with watch := fun _ _ => .error "watch refused" } } }

theorem restoreResource_stops_at_refused_watch :
    watchRefusingContext.reader.listContents "persistentvolumes" "" =
        .ok ["pv-1.json", "pv-2.json"] ∧
      ∃ r s', restoreResource watchRefusingContext "persistentvolumes" "" {} = .ok r s' ∧
        ∃ read new, read <+: ["pv-1.json", "pv-2.json"] ∧ s'.calls = [] ++ new ∧
          new.filterMap Call.read = read.map (Origin.mk "persistentvolumes" "") ∧
          (read = ["pv-1.json", "pv-2.json"] ∨ ∃ c, s'.calls.getLast? = some c ∧ c.stops) := by
  have hl : watchRefusingContext.reader.listContents "persistentvolumes" "" =
      .ok ["pv-1.json", "pv-2.json"] := by decide
  refine ⟨hl, ?_⟩
  rcases h : restoreResource watchRefusingContext "persistentvolumes" "" {} with ⟨r, s'⟩ | ⟨e, s'⟩
  · exact ⟨r, s', rfl, restoreResource_reads_listed_files _ _ _ _ hl rfl {} r s' h⟩
  · have hp : (restoreResource watchRefusingContext "persistentvolumes" "" {}).panic? = none := by
      decide
    rw [h] at hp
    cases hp

/-- The refused watch of the first volume ends the loop: the second is never read. -/
example :
    ((restoreResource watchRefusingContext "persistentvolumes" "" {}).state.calls.filterMap
      Call.read).map (·.file) = ["pv-1.json"] := by
  decide

end Ark
