import Ark.ControllerSpec

/-!
# Two replicas of the backup controller

Two replicas of the backup controller process one backup key against one API server, each
reading the backup from its own informer cache. The server stores the backup as created, and
then the object its last accepted patch answered. `processBackup` is taken in its three stages
(`processBackup_eq`): the read of the cache, with the phase check and the validation; the first
patch; and the tracked run with the patch of its final status. A step of the system is one
replica syncing its cache from the server, taking one stage, or taking the key whole.

The phase check reads only the cache, and the first patch is between two objects of one
resource version, so it carries none and the server applies it to whatever it stores
(`serverPatch_createMergePatch`): two replicas that both synced before either patched both run
the backup (`both_replicas_run_backup`), and so do two replicas whose fresh reads come before
either first patch. The check is enough when neither happens: a read from a cache right after
its sync either finds the backup taken, or sees it new and no run claimed, and a first patch
accepted leaves the stored backup taken (`patchValidated_taken`, `finishBackup_taken`). So in
every trace in which each replica reads right after syncing and sends its first patch right
after its read, however the runs and the syncs interleave, the backup is run at most once
(`exclusive_windows_run_backup_at_most_once`).
-/

namespace Ark.BackupController

/-! ## The stages of `processBackup` -/


/-- `processBackup` up to its first patch: the key, the cached backup, the phase check and the
validation. `.error r` is the value `processBackup` returns there; `.ok (original, request)` is
the cached backup and the request its first patch sends. -/
def prepareBackup (c : Controller) (key : String) :
    CM (Except (Option String) (Backup × Request)) := do
  match splitMetaNamespaceKey key with
  | .error e => pure (.error (some s!"error splitting queue key: {e}"))
  | .ok (ns, name) =>
  match c.lister ns name with
  | .error e => pure (.error (some s!"error getting backup: {e}"))
  | .ok original =>
  if original.status.phase ≠ .empty ∧ original.status.phase ≠ .new then pure (.error none) else
  let request : Request := { backup := { original with status.version := backupVersion } }
  let (request, errs) := getLocationAndValidate c request c.defaultBackupLocation
  let request := { request with
    backup.status.validationErrors := request.backup.status.validationErrors ++ errs }
  let (request, errs) ← defaultAndValidateSnapshotLocations c request c.defaultSnapshotLocations
  let request := { request with
    backup.status.validationErrors := request.backup.status.validationErrors ++ errs }
  let request := { request with backup.status.phase :=
    if request.backup.status.validationErrors ≠ [] then .failedValidation else .inProgress }
  pure (.ok (original, request))

/-- The first patch of `processBackup`: `.ok` carries the request with the backup the API
server answered, when the run goes on. -/
def patchValidated (c : Controller) (original : Backup) (request : Request) :
    CM (Except (Option String) Request) := do
  match ← patchBackup c original request.backup with
  | .error e =>
    pure (.error (some s!"error updating Backup status to {request.backup.status.phase.string}: {e}"))
  | .ok updatedBackup =>
  let request := { request with backup := updatedBackup }
  if request.backup.status.phase = .failedValidation then pure (.error none) else pure (.ok request)

/-- The rest of `processBackup`: the tracked run and the patch of its final status. -/
def finishBackup (c : Controller) (request : Request) : CM (Option String) := do
  let original := request.backup
  invoke (fun _ => ()) fun _ => .trackerAdd request.backup.ns request.backup.name
  let (request, errs) ← runBackup c request
  let request := if errs ≠ [] then { request with backup.status.phase := .failed } else request
  let _ ← patchBackup c original request.backup
  invoke (fun _ => ()) fun _ => .trackerDelete request.backup.ns request.backup.name
  pure none

/-- `processBackup` is its three stages in a row. -/
theorem processBackup_eq (c : Controller) (key : String) :
    processBackup c key = (do
      match ← prepareBackup c key with
      | .error r => pure r
      | .ok (original, request) =>
        match ← patchValidated c original request with
        | .error r => pure r
        | .ok request => finishBackup c request) := by
  funext calls
  unfold processBackup prepareBackup patchValidated
  rcases splitMetaNamespaceKey key with e | ⟨ns, name⟩
  · rfl
  dsimp only
  rcases c.lister ns name with e | original
  · rfl
  dsimp only
  split_ifs
  · rfl
  simp only [bind, EStateM.bind]
  generalize defaultAndValidateSnapshotLocations c _ c.defaultSnapshotLocations calls = r
  rcases r with ⟨⟨q, errs⟩, s⟩ | ⟨e, s⟩
  · dsimp only [pure, EStateM.pure, EStateM.bind]
    generalize patchBackup c original _ s = r
    rcases r with ⟨_ | updated, s⟩ | ⟨e, s⟩
    · rfl
    · dsimp only
      split_ifs <;> rfl
    · rfl
  · rfl

/-! ## The system -/

/-- The two replicas. -/
inductive Replica where
  | a
  | b
  deriving DecidableEq, Repr

/-- A step of the system: a replica's informer syncs its cache; or a replica takes the key
whole, or one stage of `processBackup`: the read up to the first patch, the first patch, or
the rest. -/
inductive Event where
  | sync (i : Replica)
  | process (i : Replica)
  | read (i : Replica)
  | patch (i : Replica)
  | finish (i : Replica)
  deriving DecidableEq, Repr

/-- Where a replica taking the key a stage at a time is: between keys, read with its first
patch to send, or patched with its run to start. -/
inductive Pending where
  | idle
  | read (original : Backup) (request : Request)
  | patched (request : Request)
  deriving DecidableEq, Repr

/-- The object the API server stores once the calls `calls` were made: the one the last
accepted patch answered, or the backup as created. -/
def storedObject (created : Backup) (calls : List Call) : Backup :=
  calls.foldl (fun b c => match c with
    | .patch _ _ _ (.ok res) => res
    | _ => b) created

/-- The log of the API server and the other collaborators, each replica's cache and stage, and
the runs each replica started. -/
structure World where
  calls : List Call := []
  cache : Replica → List Backup := fun _ => []
  pending : Replica → Pending := fun _ => .idle
  runs : Replica → Nat := fun _ => 0

/-- Replica `i` of the controller `env`: its cache is its own, and the API server answers a
patch from the object it stores. -/
def World.replica (w : World) (env : Controller) (created : Backup) (i : Replica) : Controller :=
  { env with backups := w.cache i, stored := fun calls _ _ => .ok (storedObject created calls) }

/-- Replica `i` at stage `p`. -/
def World.setPending (w : World) (i : Replica) (p : Pending) : World :=
  { w with pending := fun j => if j = i then p else w.pending j }

/-- The log `calls`, which extends `w`'s, with the runs its new calls start counted for
replica `i`. -/
def World.record (w : World) (i : Replica) (calls : List Call) : World :=
  { w with
    calls
    runs := fun j => if j = i then w.runs j + ((calls.drop w.calls.length).filter Call.startsRun).length
      else w.runs j }

/-- One step: a sync caches the object the API server stores; a process runs `processBackup` on
the shared log; a stage runs from where the replica is, and a replica not there does nothing. -/
def World.step (env : Controller) (created : Backup) (key : String) (w : World) : Event → World
  | .sync i => { w with cache := fun j => if j = i then [storedObject created w.calls] else w.cache j }
  | .process i => w.record i (processBackup (w.replica env created i) key w.calls).state
  | .read i => match w.pending i with
    | .idle => match prepareBackup (w.replica env created i) key w.calls with
      | .ok (.ok (original, request)) calls => { w with calls }.setPending i (.read original request)
      | r => { w with calls := r.state }
    | _ => w
  | .patch i => match w.pending i with
    | .read original request =>
      match patchValidated (w.replica env created i) original request w.calls with
      | .ok (.ok request) calls => { w with calls }.setPending i (.patched request)
      | r => { w with calls := r.state }.setPending i .idle
    | _ => w
  | .finish i => match w.pending i with
    | .patched request =>
      (w.record i (finishBackup (w.replica env created i) request w.calls).state).setPending i .idle
    | _ => w

/-- The system after a list of events, taken in order. -/
def World.run (env : Controller) (created : Backup) (key : String) : World → List Event → World :=
  List.foldl (World.step env created key)

/-- A merge patch between two objects of one resource version carries none, and the API server
applies it to whatever object it stores. -/
theorem serverPatch_createMergePatch {o u : Backup} (h : u.resourceVersion = o.resourceVersion)
    (stored : Backup) :
    serverPatch stored (createMergePatch o u) =
      .ok { (createMergePatch o u).applyTo stored with resourceVersion := stored.resourceVersion + 1 } := by
  simp [serverPatch, createMergePatch, diff, h]

/-- Both replicas sync before either processes: each sees the backup `New`, each patch is
accepted, and each replica runs the backup. -/
theorem both_replicas_run_backup :
    (World.run (fixedController newBackup (.ok ())) newBackup "heptio-ark/backup-1" {}
        [.sync .a, .sync .b, .process .a, .process .b]).runs .a = 1 ∧
      (World.run (fixedController newBackup (.ok ())) newBackup "heptio-ark/backup-1" {}
        [.sync .a, .sync .b, .process .a, .process .b]).runs .b = 1 := by
  decide

/-! ## The stages from a fresh cache -/

theorem appendLocations_state (pm : List (String × Option SnapshotLocation)) (calls : List Call) :
    ∀ (ks : List String) (itm : Request), (appendLocations pm ks itm calls).state = calls
  | [], _ => rfl
  | k :: ks, itm => by
    unfold appendLocations
    rcases pm.lookup k with _ | _ | loc
    exacts [rfl, rfl, appendLocations_state pm calls ks _]

/-- A run in two parts, neither of which calls a collaborator, calls none. -/
theorem bind_state {α β : Type} {x : CM α} {f : α → CM β} (hx : ∀ calls, (x calls).state = calls)
    (hf : ∀ a calls, (f a calls).state = calls) (calls : List Call) :
    ((x >>= f) calls).state = calls := by
  show (EStateM.bind x f calls).state = calls
  unfold EStateM.bind
  have h := hx calls
  revert h
  rcases x calls with ⟨a, s⟩ | ⟨_, s⟩
  · rintro rfl
    exact hf a s
  · exact id

/-- `defaultAndValidateSnapshotLocations` calls no collaborator. -/
theorem defaultAndValidateSnapshotLocations_state (c : Controller) (itm : Request)
    (defaults : LocationMap) (calls : List Call) :
    (defaultAndValidateSnapshotLocations c itm defaults calls).state = calls := by
  unfold defaultAndValidateSnapshotLocations
  dsimp only
  split_ifs
  · rfl
  · refine bind_state (fun calls => appendLocations_state _ calls _ _) ?_ calls
    exact fun _ _ => rfl

theorem storedObject_append (created : Backup) (l₁ l₂ : List Call) :
    storedObject created (l₁ ++ l₂) = storedObject (storedObject created l₁) l₂ :=
  List.foldl_append _ _ _ _

/-- A backup some run has taken: its phase is neither empty nor `New`. -/
def Taken (b : Backup) : Prop := b.status.phase ≠ .empty ∧ b.status.phase ≠ .new

theorem Taken.of_phase {b : Backup} {ph : Phase} (h : b.status.phase = ph) (he : ph ≠ .empty)
    (hn : ph ≠ .new) : Taken b :=
  ⟨h ▸ he, h ▸ hn⟩

/-- `runBackup`'s own calls start no run. -/
theorem filter_startsRun_of_runSteps {run : List Call} (h : run.all Call.isRunStep) :
    run.filter Call.startsRun = [] :=
  List.filter_eq_nil_iff.mpr fun x hx hs => by
    have := List.all_eq_true.mp h x hx
    cases x <;> first | exact Bool.false_ne_true hs | exact Bool.false_ne_true this

/-- The read calls no collaborator. -/
theorem prepareBackup_state (c : Controller) (key : String) (calls : List Call) :
    (prepareBackup c key calls).state = calls := by
  unfold prepareBackup
  rcases splitMetaNamespaceKey key with e | ⟨ns, name⟩
  · rfl
  dsimp only
  rcases c.lister ns name with e | original
  · rfl
  dsimp only
  split_ifs
  · rfl
  refine bind_state (fun _ => defaultAndValidateSnapshotLocations_state _ _ _ _) ?_ calls
  exact fun _ _ => rfl

/-- A read that goes on to the first patch: a cached backup not taken, and a request that sets
`FailedValidation` or `InProgress`. -/
theorem prepareBackup_ok {c : Controller} {key : String} {calls s : List Call} {o : Backup}
    {q : Request} (h : prepareBackup c key calls = .ok (.ok (o, q)) s) :
    (∃ ns name, c.lister ns name = .ok o) ∧ ¬Taken o ∧
      (q.backup.status.phase = .failedValidation ∨ q.backup.status.phase = .inProgress) := by
  unfold prepareBackup at h
  generalize splitMetaNamespaceKey key = r at h
  rcases r with e | ⟨ns, name⟩
  · cases h
  dsimp only at h
  generalize hl : c.lister ns name = r at h
  rcases r with e | original
  · cases h
  dsimp only at h
  split_ifs at h with hph
  · cases h
  simp only [bind, EStateM.bind] at h
  generalize defaultAndValidateSnapshotLocations c _ c.defaultSnapshotLocations calls = r at h
  rcases r with ⟨⟨q', errs⟩, s'⟩ | _
  · cases h
    refine ⟨⟨ns, name, hl⟩, hph, ?_⟩
    dsimp only
    split_ifs <;> simp
  · cases h

/-- The first patch, from a backup not taken: one patch call, whose object, if the API server
answers one, is taken; the run goes on only from an accepted `InProgress` patch. -/
theorem patchValidated_taken (c : Controller) {o : Backup} {q : Request} (calls : List Call)
    (ho : ¬Taken o)
    (hq : q.backup.status.phase = .failedValidation ∨ q.backup.status.phase = .inProgress) :
    ∃ p a, (patchValidated c o q calls).state = calls ++ [.patch o.ns o.name p a] ∧
      (∀ b, a = .ok b → Taken b) ∧
      ∀ q' s, patchValidated c o q calls = .ok (.ok q') s →
        a = .ok q'.backup ∧ q'.backup.status.phase = .inProgress := by
  have hp : (createMergePatch o q.backup).phase = some q.backup.status.phase :=
    diff_of_ne fun h => ho (Taken.of_phase h (by rcases hq with hq | hq <;> rw [hq] <;> decide)
      (by rcases hq with hq | hq <;> rw [hq] <;> decide))
  simp only [patchValidated, bind, EStateM.bind, patchBackup_apply]
  generalize ha : (c.stored calls o.ns o.name).bind _ = a
  rcases a with e | b
  · refine ⟨_, _, rfl, fun _ h => ?_, fun _ _ h => ?_⟩ <;> cases h
  have hb : b.status.phase = q.backup.status.phase := serverPatch_phase ha hp
  have hbt : Taken b := by rcases hq with hq | hq <;> exact Taken.of_phase (hb.trans hq) (by decide) (by decide)
  dsimp only [Except.mapError]
  split_ifs with hfv
  · refine ⟨_, _, rfl, fun _ h => by cases h; exact hbt, fun _ _ h => ?_⟩
    cases h
  · refine ⟨_, _, rfl, fun _ h => by cases h; exact hbt, fun _ _ h => ?_⟩
    cases h
    exact ⟨rfl, (hq.resolve_left fun h => hfv (hb.trans h)) ▸ hb⟩

/-- The rest, from an `InProgress` request: one run is started, and whatever object the API
server stores, the patch of the final status leaves it taken. -/
theorem finishBackup_taken (c : Controller) {created : Backup} {q : Request} (calls : List Call)
    (hstored : c.stored = fun calls _ _ => .ok (storedObject created calls))
    (hq : q.backup.status.phase = .inProgress) :
    ∃ new, (finishBackup c q calls).state = calls ++ new ∧
      (new.filter Call.startsRun).length = 1 ∧ Taken (storedObject created (calls ++ new)) := by
  simp only [finishBackup, bind, EStateM.bind, invoke_apply]
  have hrun := runBackup_ends c q (calls ++ [.trackerAdd q.backup.ns q.backup.name])
  generalize runBackup c q _ = rr at hrun ⊢
  rcases rr with ⟨⟨r', errs⟩, s⟩ | _
  swap
  · exact hrun.elim
  obtain ⟨run, rfl, hsteps, -, hcomp, phase, hr'⟩ := hrun
  dsimp only
  simp only [patchBackup_apply, hstored, Except.bind]
  generalize hfin : (if errs ≠ [] then _ else r').backup = fin
  have hfin' : fin.resourceVersion = q.backup.resourceVersion ∧
      (fin.status.phase = .completed ∨ fin.status.phase = .failed) := by
    subst hfin
    by_cases herr : errs = []
    · simp [herr, hr', show phase = .completed by simpa [hr'] using hcomp herr]
    · simp [herr, hr']
  generalize storedObject created _ = stored
  obtain ⟨b, hres, hb⟩ : ∃ b, serverPatch stored (createMergePatch q.backup fin) = .ok b ∧ Taken b := by
    refine ⟨_, serverPatch_createMergePatch hfin'.1 stored, ?_⟩
    rcases hfin'.2 with h | h <;> simp [Taken, Patch.applyTo, createMergePatch, diff, hq, h]
  rw [hres]
  refine ⟨[.trackerAdd q.backup.ns q.backup.name] ++ run ++
    [.patch q.backup.ns q.backup.name (createMergePatch q.backup fin) (.ok b),
      .trackerDelete fin.ns fin.name], by simp [pure, EStateM.pure, EStateM.Result.state],
    by simp [List.filter_append, filter_startsRun_of_runSteps hsteps, Call.startsRun], ?_⟩
  rw [← List.append_assoc, storedObject_append]
  exact hb

/-- `processBackup` from a cache that shows what the API server stores, the replica's cache
right after a sync: a backup some run has taken gets no call; otherwise the run starts at most
one backup run, and the object stored after one has been taken. -/
theorem processBackup_fresh (c : Controller) (key : String) (calls : List Call) {created : Backup}
    (hstored : c.stored = fun calls _ _ => .ok (storedObject created calls))
    (hcache : c.backups = [storedObject created calls]) :
    ∃ new, (processBackup c key calls).state = calls ++ new ∧
      (Taken (storedObject created calls) → new = []) ∧
      ((new.filter Call.startsRun).length = 0 ∨
        ((new.filter Call.startsRun).length = 1 ∧ Taken (storedObject created (calls ++ new)))) := by
  rw [processBackup_eq]
  simp only [bind, EStateM.bind]
  have hs := prepareBackup_state c key calls
  generalize hp : prepareBackup c key calls = r at hs
  rcases r with ⟨_ | ⟨o, q⟩, s⟩ | ⟨e, s⟩
  · exact ⟨[], by simpa using hs, fun _ => rfl, .inl rfl⟩
  · obtain rfl : calls = s := hs.symm
    obtain ⟨⟨ns, name, hl⟩, ho, hq⟩ := prepareBackup_ok hp
    have horig : o = storedObject created calls := by simpa [hcache] using (listerGet_ok hl).1
    have hnot : Taken (storedObject created calls) → False := fun h => ho (horig ▸ h)
    obtain ⟨p, a, hstate, htaken, hnext⟩ := patchValidated_taken c calls ho hq
    dsimp only
    simp only [EStateM.bind]
    generalize patchValidated c o q calls = r at hstate hnext
    rcases r with ⟨_ | q', s'⟩ | ⟨e, s'⟩
    · exact ⟨[_], hstate, fun h => (hnot h).elim, .inl rfl⟩
    · obtain ⟨rfl, hip⟩ := hnext q' s' rfl
      obtain ⟨new, hf, hcount, ht⟩ := finishBackup_taken c s' hstored hip
      subst hstate
      refine ⟨_ :: new, by simpa using hf, fun h => (hnot h).elim, .inr ⟨?_, by simpa using ht⟩⟩
      simpa [Call.startsRun] using hcount
    · exact ⟨[_], hstate, fun h => (hnot h).elim, .inl rfl⟩
  · exact ⟨[], by simpa using hs, fun _ => rfl, .inl rfl⟩

/-! ## Runs over exclusive windows -/

/-- The runs a replica has claimed and not started: one once its first patch, to `InProgress`,
was accepted. -/
def Pending.claims : Pending → Nat
  | .patched _ => 1
  | _ => 0

/-- The runs started and the runs claimed, over both replicas. -/
def World.claims (w : World) : Nat :=
  w.runs .a + w.runs .b + (w.pending .a).claims + (w.pending .b).claims

@[simp] theorem World.setPending_pending (w : World) (i j : Replica) (p : Pending) :
    (w.setPending i p).pending j = if j = i then p else w.pending j :=
  rfl

theorem World.setPending_setPending (w : World) (i : Replica) (p p' : Pending) (s : List Call) :
    { w.setPending i p with calls := s }.setPending i p' = { w with calls := s }.setPending i p' := by
  unfold World.setPending
  congr 1
  funext j
  split_ifs with h
  · rfl
  · exact if_neg h

theorem claims_setPending (w : World) (i : Replica) (p : Pending) :
    (w.setPending i p).claims + (w.pending i).claims = w.claims + p.claims := by
  cases i <;> simp [World.claims, World.setPending] <;> omega

theorem claims_record (w : World) (i : Replica) (new : List Call) :
    (w.record i (w.calls ++ new)).claims = w.claims + (new.filter Call.startsRun).length := by
  cases i <;> simp [World.claims, World.record] <;> omega

section Steps

variable (env : Controller) (created : Backup) (key : String) {w : World} {i : Replica}

/-- The read from a cache that shows the stored object: nothing changes, or the replica was
idle, the stored object is not taken, and the replica holds its read. -/
theorem step_read_fresh (hc : w.cache i = [storedObject created w.calls]) :
    w.step env created key (.read i) = w ∨ w.pending i = .idle ∧ ∃ q,
      ¬Taken (storedObject created w.calls) ∧
      (q.backup.status.phase = .failedValidation ∨ q.backup.status.phase = .inProgress) ∧
      w.step env created key (.read i) = w.setPending i (.read (storedObject created w.calls) q) := by
  simp only [World.step]
  split
  · rename_i hidle
    have hs := prepareBackup_state (w.replica env created i) key w.calls
    split
    · rename_i o q s hp
      obtain ⟨⟨ns, name, hl⟩, ho, hq⟩ := prepareBackup_ok hp
      have horig : o = storedObject created w.calls := by
        simpa [World.replica, hc] using (listerGet_ok hl).1
      rw [hp] at hs
      subst horig
      obtain rfl : w.calls = s := hs.symm
      exact .inr ⟨hidle, q, ho, hq, rfl⟩
    · exact .inl (by rw [hs])
  · exact .inl rfl

/-- A replica holding no read does nothing on a patch event. -/
theorem step_patch_of_unread (h : ∀ o q, w.pending i ≠ .read o q) :
    w.step env created key (.patch i) = w := by
  simp only [World.step]

/-- The first patch of a held read: the replica is idle again, or it holds an `InProgress`
request and the stored object is taken. -/
theorem step_patch_read {o : Backup} {q : Request} (hp : w.pending i = .read o q) (ho : ¬Taken o)
    (hq : q.backup.status.phase = .failedValidation ∨ q.backup.status.phase = .inProgress) :
    (∃ s, w.step env created key (.patch i) = { w with calls := s }.setPending i .idle) ∨
      ∃ q' s, w.step env created key (.patch i) = { w with calls := s }.setPending i (.patched q') ∧
        q'.backup.status.phase = .inProgress ∧ Taken (storedObject created s) := by
  obtain ⟨p, a, hstate, htaken, hnext⟩ := patchValidated_taken (w.replica env created i) w.calls ho hq
  simp only [World.step, hp]
  split
  · rename_i q' s hv
    obtain ⟨rfl, hip⟩ := hnext q' s hv
    rw [hv] at hstate
    subst hstate
    exact .inr ⟨q', _, rfl, hip, by rw [storedObject_append]; exact htaken _ rfl⟩
  · exact .inl ⟨_, rfl⟩

/-- The rest, from a replica holding an `InProgress` request: it starts one run, is idle
again, and the stored object is taken. -/
theorem step_finish_patched {q : Request} (hp : w.pending i = .patched q)
    (hq : q.backup.status.phase = .inProgress) :
    ∃ new, w.step env created key (.finish i) = (w.record i (w.calls ++ new)).setPending i .idle ∧
      (new.filter Call.startsRun).length = 1 ∧ Taken (storedObject created (w.calls ++ new)) := by
  obtain ⟨new, hs, hcount, ht⟩ := finishBackup_taken (w.replica env created i) w.calls rfl hq
  exact ⟨new, by simp only [World.step, hp, hs], hcount, ht⟩

end Steps

/-- Between blocks: no replica holds a read it has not patched, every replica holding a patched
request holds an `InProgress` one, and no run is claimed, or one and the stored backup taken. -/
structure AtMostOneRun (created : Backup) (w : World) : Prop where
  unread : ∀ i o q, w.pending i ≠ .read o q
  patched : ∀ i q, w.pending i = .patched q → q.backup.status.phase = .inProgress
  claims : w.claims = 0 ∨ (w.claims = 1 ∧ Taken (storedObject created w.calls))

section Invariant

variable {env : Controller} {created : Backup} {key : String} {w : World} {i : Replica}

theorem AtMostOneRun.init : AtMostOneRun created {} :=
  ⟨fun _ _ _ h => (nomatch h), fun _ _ h => (nomatch h), .inl rfl⟩

theorem AtMostOneRun.sync (h : AtMostOneRun created w) :
    AtMostOneRun created (w.step env created key (.sync i)) :=
  ⟨h.unread, h.patched, h.claims⟩

/-- Replica `i` set at a stage other than a held read, in a world whose stages are `w`'s. -/
theorem AtMostOneRun.setPending {v : World} {p : Pending} (h : AtMostOneRun created w)
    (hv : v.pending = w.pending) (hp : ∀ o q, p ≠ .read o q)
    (hq : ∀ q, p = .patched q → q.backup.status.phase = .inProgress)
    (hc : (v.setPending i p).claims = 0 ∨
      ((v.setPending i p).claims = 1 ∧ Taken (storedObject created v.calls))) :
    AtMostOneRun created (v.setPending i p) := by
  refine ⟨fun j o q => ?_, fun j q => ?_, hc⟩ <;> simp only [World.setPending_pending, hv] <;>
    split_ifs
  · exact hp o q
  · exact h.unread j o q
  · exact hq q
  · exact h.patched j q

/-- A replica's read, right after its sync, then its first patch. -/
theorem AtMostOneRun.window (h : AtMostOneRun created w) :
    AtMostOneRun created
      (((w.step env created key (.sync i)).step env created key (.read i)).step env created key
        (.patch i)) := by
  generalize hw : w.step env created key (.sync i) = w₁
  have h₁ : AtMostOneRun created w₁ := hw ▸ h.sync
  have hc : w₁.cache i = [storedObject created w₁.calls] := by subst hw; simp [World.step]
  rcases step_read_fresh env created key hc with hr | ⟨hidle, q, ho, hq, hr⟩
  · rw [hr, step_patch_of_unread env created key (h₁.unread i)]
    exact h₁
  rw [hr]
  have hclaims : w₁.claims = 0 := h₁.claims.resolve_right fun h => ho h.2
  have hread : (w₁.setPending i (.read (storedObject created w₁.calls) q)).pending i =
      .read (storedObject created w₁.calls) q := by simp
  rcases step_patch_read env created key hread ho hq with ⟨s, hs⟩ | ⟨q', s, hs, hip, ht⟩
  · rw [hs, World.setPending_setPending]
    refine h₁.setPending rfl (fun _ _ h => (nomatch h)) (fun _ h => (nomatch h)) (.inl ?_)
    have := claims_setPending { w₁ with calls := s } i .idle
    change _ + (w₁.pending i).claims = w₁.claims + 0 at this
    rw [hidle] at this
    change _ + 0 = _ at this
    omega
  · rw [hs, World.setPending_setPending]
    refine h₁.setPending rfl (fun _ _ h => (nomatch h)) (fun _ h => by cases h; exact hip)
      (.inr ⟨?_, ht⟩)
    have := claims_setPending { w₁ with calls := s } i (.patched q')
    change _ + (w₁.pending i).claims = w₁.claims + 1 at this
    rw [hidle] at this
    change _ + 0 = _ at this
    omega

/-- A replica's whole processing, right after its sync. -/
theorem AtMostOneRun.syncProcess (h : AtMostOneRun created w) :
    AtMostOneRun created ((w.step env created key (.sync i)).step env created key (.process i)) := by
  generalize hw : w.step env created key (.sync i) = w₁
  have h₁ : AtMostOneRun created w₁ := hw ▸ h.sync
  have hc : w₁.cache i = [storedObject created w₁.calls] := by subst hw; simp [World.step]
  obtain ⟨new, hs, htaken, hcount⟩ :=
    processBackup_fresh (w₁.replica env created i) key w₁.calls rfl hc
  have hcl := claims_record w₁ i new
  simp only [World.step, hs]
  refine ⟨h₁.unread, h₁.patched, ?_⟩
  rcases h₁.claims with h0 | ⟨h1, ht⟩
  · rcases hcount with hn | ⟨hn, ht'⟩
    · exact .inl (by omega)
    · exact .inr ⟨by omega, ht'⟩
  · obtain rfl := htaken ht
    refine .inr ⟨by rw [hcl, h1]; rfl, by simpa using ht⟩

/-- A replica's run, from wherever it is. -/
theorem AtMostOneRun.finish (h : AtMostOneRun created w) :
    AtMostOneRun created (w.step env created key (.finish i)) := by
  rcases hp : w.pending i with _ | ⟨o, q⟩ | q
  · simp only [World.step, hp]
    exact h
  · simp only [World.step, hp]
    exact h
  obtain ⟨new, hs, hcount, ht⟩ := step_finish_patched env created key hp (h.patched i q hp)
  rw [hs]
  refine h.setPending rfl (fun _ _ h => (nomatch h)) (fun _ h => (nomatch h)) (.inr ⟨?_, ht⟩)
  have h₁ := claims_setPending (w.record i (w.calls ++ new)) i .idle
  have h₂ := claims_setPending w i .idle
  have h₃ := claims_record w i new
  change _ + (w.pending i).claims = _ + 0 at h₁
  rw [hp] at h₁ h₂
  change _ + 1 = _ + 0 at h₁ h₂
  rcases h.claims with h0 | ⟨h1, -⟩ <;> omega

end Invariant

/-- The traces in which each replica reads its cache right after syncing it and sends its first
patch right after its read: blocks of a sync; of a sync, then the same replica's read and first
patch; of a sync, then the same replica's whole processing; and of a replica's run, which may
come at any point. -/
inductive Exclusive : List Event → Prop
  | nil : Exclusive []
  | sync (i : Replica) {es : List Event} : Exclusive es → Exclusive (.sync i :: es)
  | window (i : Replica) {es : List Event} :
      Exclusive es → Exclusive (.sync i :: .read i :: .patch i :: es)
  | process (i : Replica) {es : List Event} : Exclusive es → Exclusive (.sync i :: .process i :: es)
  | finish (i : Replica) {es : List Event} : Exclusive es → Exclusive (.finish i :: es)

theorem atMostOneRun_run {env : Controller} {created : Backup} {key : String} {es : List Event}
    (he : Exclusive es) :
    ∀ {w : World}, AtMostOneRun created w → AtMostOneRun created (w.run env created key es) := by
  induction he with
  | nil => exact id
  | sync _ _ ih => exact fun h => ih h.sync
  | window _ _ ih => exact fun h => ih h.window
  | process _ _ ih => exact fun h => ih h.syncProcess
  | finish _ _ ih => exact fun h => ih h.finish

/-- With each replica's cache fresh when read and no other replica acting between a replica's
read and its first patch, the phase check is enough: in every such interleaving of the two
replicas' stages, however their runs and syncs interleave, for every controller and every
answer of the collaborators, the backup is run at most once in all. -/
theorem exclusive_windows_run_backup_at_most_once (env : Controller) (created : Backup)
    (key : String) (es : List Event) (h : Exclusive es) :
    (World.run env created key {} es).runs .a + (World.run env created key {} es).runs .b ≤ 1 := by
  have h' : AtMostOneRun created (World.run env created key {} es) := atMostOneRun_run h .init
  rcases h'.claims with h0 | ⟨h1, -⟩ <;> unfold World.claims at * <;> omega

/-- Fresh reads whose windows interleave: both first patches are accepted, and both replicas
run the backup. -/
example :
    (World.run (fixedController newBackup (.ok ())) newBackup "heptio-ark/backup-1" {}
        [.sync .a, .read .a, .sync .b, .read .b, .patch .a, .patch .b, .finish .a, .finish .b]).runs .a = 1 ∧
      (World.run (fixedController newBackup (.ok ())) newBackup "heptio-ark/backup-1" {}
        [.sync .a, .read .a, .sync .b, .read .b, .patch .a, .patch .b, .finish .a, .finish .b]).runs .b = 1 := by
  decide

theorem exclusive_windows_run_sample :
    Exclusive [.sync .a, .read .a, .patch .a, .sync .b, .read .b, .patch .b, .finish .a, .finish .b] ∧
      (World.run (fixedController newBackup (.ok ())) newBackup "heptio-ark/backup-1" {}
        [.sync .a, .read .a, .patch .a, .sync .b, .read .b, .patch .b, .finish .a, .finish .b]).runs .a +
      (World.run (fixedController newBackup (.ok ())) newBackup "heptio-ark/backup-1" {}
        [.sync .a, .read .a, .patch .a, .sync .b, .read .b, .patch .b, .finish .a, .finish .b]).runs .b ≤ 1 :=
  have h : Exclusive [.sync .a, .read .a, .patch .a, .sync .b, .read .b, .patch .b, .finish .a,
      .finish .b] := .window _ (.window _ (.finish _ (.finish _ .nil)))
  ⟨h, exclusive_windows_run_backup_at_most_once _ _ _ _ h⟩

end Ark.BackupController
