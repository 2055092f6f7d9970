import Ark.SnapshotLocations

/-!
# The backup controller's patches

`processBackup` patches a backup's status twice at most: once after validation, to
`FailedValidation` or `InProgress`, and once after `runBackup`, to `Completed` or `Failed`.
`runBackup_ends` says what `runBackup` logs and reports for every answer of its
collaborators, and `processBackup_patches` puts the patches of a whole run in order, from the
validation steps' specifications and that of `runBackup`. The backup `runBackup` uploads is
encoded before its tarball's `Stat`, so an upload can carry `Completed` while the final patch
says `Failed`.
-/

namespace Ark.BackupController

/-- `backupTracker.Add`, which `processBackup` calls right before `runBackup`. -/
def Call.startsRun : Call → Bool
  | .trackerAdd _ _ => true
  | _ => false

/-- A call `runBackup` makes: neither a patch nor a tracker call. -/
def Call.isRunStep : Call → Bool
  | .patch .. | .trackerAdd .. | .trackerDelete .. => false
  | _ => true

/-- A call of `runBackup` whose answer is an error. -/
def Call.failed : Call → Bool
  | .tempFile (.error _) | .getBackupItemActions (.error _) | .newBackupStore _ (.error _)
  | .backup _ (.error _) | .encode _ (.error _) | .stat (.error _)
  | .putBackup _ _ _ (.error _) => true
  | _ => false

/-- How `runBackup` of `req` from the log `calls` ends: it returns, having logged only its own
steps; it reports errors exactly when one of them failed, and the backup is then `Completed`
when none did; it changes nothing of the backup but its phase. -/
def RunBackupEnds (req : Request) (calls : List Call) :
    EStateM.Result String (List Call) (Request × List String) → Prop
  | .ok (r, errs) s => ∃ new, s = calls ++ new ∧ new.all Call.isRunStep ∧
      errs.isEmpty = new.all (!·.failed) ∧ (errs = [] → r.backup.status.phase = .completed) ∧
      ∃ phase, r.backup = { req.backup with status.phase := phase }
  | .error _ _ => False

theorem runBackup_ends (c : Controller) (req : Request) (calls : List Call) :
    RunBackupEnds req calls (runBackup c req calls) := by
  have leaf : ∀ (r : Request) (errs : List String) (new : List Call), new.all Call.isRunStep →
      errs.isEmpty = new.all (!·.failed) → (errs = [] → r.backup.status.phase = .completed) →
      (∃ phase, r.backup = { req.backup with status.phase := phase }) →
      RunBackupEnds req calls (.ok (r, errs) (calls ++ new)) :=
    fun _ _ new h₁ h₂ h₃ h₄ => ⟨new, rfl, h₁, h₂, h₃, h₄⟩
  simp only [runBackup, bind, EStateM.bind, invoke_apply]
  rcases c.tempFile calls with e | ⟨⟩
  · exact leaf _ _ _ rfl rfl (fun h => nomatch h) ⟨_, rfl⟩
  simp only [EStateM.bind, invoke_apply, List.append_assoc, List.singleton_append]
  generalize c.tempFile _ = r
  rcases r with e | ⟨⟩
  · exact leaf _ _ _ rfl rfl (fun h => nomatch h) ⟨_, rfl⟩
  simp only [EStateM.bind, invoke_apply, List.append_assoc, List.singleton_append]
  generalize c.getBackupItemActions _ = r
  rcases r with e | ⟨⟩
  · exact leaf _ _ _ rfl rfl (fun h => nomatch h) ⟨_, rfl⟩
  simp only [EStateM.bind, invoke_apply, List.append_assoc, List.singleton_append]
  generalize c.newBackupStore _ _ = r
  rcases r with e | ⟨⟩
  · exact leaf _ _ _ rfl rfl (fun h => nomatch h) ⟨_, rfl⟩
  simp only [EStateM.bind, invoke_apply, List.append_assoc, List.singleton_append]
  generalize c.backup _ _ = rb
  generalize c.encode _ _ = re
  generalize c.stat _ = rs
  generalize c.putBackup _ _ _ _ = rp
  rcases rb with _ | ⟨⟩ <;> rcases re with _ | ⟨⟩ <;> rcases rs with _ | ⟨⟩ <;>
    rcases rp with _ | ⟨⟩ <;> exact leaf _ _ _ rfl rfl (fun h => by first | rfl | nomatch h) ⟨_, rfl⟩

/-- `getLocationAndValidate` sets the request's storage location, and the backup's when it names
none, and changes nothing else. -/
theorem getLocationAndValidate_fst (c : Controller) (itm : Request) (d : String) :
    ∃ name loc, (getLocationAndValidate c itm d).1 =
      { itm with backup.spec.storageLocation := name, storageLocation := loc } := by
  unfold getLocationAndValidate
  split_ifs <;> dsimp only <;> cases c.backupLocationLister _ _ <;> exact ⟨_, _, rfl⟩

/-- `patchBackup` sends the merge patch from `o` to `u`, logs the API server's answer, and returns
it with its error wrapped. -/
theorem patchBackup_apply (c : Controller) (o u : Backup) (calls : List Call) :
    patchBackup c o u calls =
      .ok (((c.stored calls o.ns o.name).bind (serverPatch · (createMergePatch o u))).mapError
          fun e => s!"error patching backup: {e}")
        (calls ++ [.patch o.ns o.name (createMergePatch o u)
          ((c.stored calls o.ns o.name).bind (serverPatch · (createMergePatch o u)))]) := by
  simp only [patchBackup, bind, EStateM.bind, invoke_apply]
  cases (c.stored calls o.ns o.name).bind _ <;> rfl

/-- An object the API server answers a patch with has the phase the patch carries. -/
theorem serverPatch_phase {stored : Except String Backup} {b : Backup} {p : Patch} {ph : Phase}
    (h : stored.bind (serverPatch · p) = .ok b) (hp : p.phase = some ph) : b.status.phase = ph := by
  rcases stored with _ | stored
  · cases h
  simp only [Except.bind, serverPatch] at h
  split_ifs at h
  cases h
  simp [Patch.applyTo, hp]

/-- The first patch of `original` sets `FailedValidation`: the cached backup already carries
validation errors, or the checks of its include/exclude lists and storage location, or of its
snapshot locations, report one. -/
def ValidationFails (c : Controller) (original : Backup) : Prop :=
  original.status.validationErrors ≠ [] ∨
    (getLocationAndValidate c { backup := { original with status.version := backupVersion } }
      c.defaultBackupLocation).2 ≠ [] ∨
    InvalidRequest c original.ns original.spec.volumeSnapshotLocations

/-- With non-`nil` defaults, `defaultAndValidateSnapshotLocations` returns, changes no status, and
reports errors exactly for an invalid request. -/
theorem defaultAndValidateSnapshotLocations_status {c : Controller} {itm : Request}
    {defaults : LocationMap} {calls : List Call}
    {r : EStateM.Result String (List Call) (Request × List String)}
    (hnil : ∀ e ∈ defaults.entries, e.2.isSome)
    (h : defaultAndValidateSnapshotLocations c itm defaults calls = r) :
    ∃ itm' errors, r = .ok (itm', errors) calls ∧
      (errors ≠ [] ↔ InvalidRequest c itm.backup.ns itm.backup.spec.volumeSnapshotLocations) ∧
      itm'.backup.status = itm.backup.status := by
  obtain ⟨itm', errors, hrun, hiff, hinvalid, hvalid⟩ :=
    defaultAndValidateSnapshotLocations_ok c itm defaults calls hnil
  refine ⟨itm', errors, h ▸ hrun, hiff, ?_⟩
  by_cases he : errors = []
  · obtain ⟨_, _, -, -, -, rfl⟩ := hvalid he
    rfl
  · rw [hinvalid he]

theorem diff_of_ne {α : Type} [DecidableEq α] {o u : α} (h : o ≠ u) : diff o u = some u :=
  if_neg h

/-- A cached backup some run has already taken is left alone: no call is made. -/
theorem processBackup_of_processed {c : Controller} {key ns name : String} {original : Backup}
    (calls : List Call) (hkey : splitMetaNamespaceKey key = .ok (ns, name))
    (hcached : c.lister ns name = .ok original)
    (hph : original.status.phase ≠ .empty ∧ original.status.phase ≠ .new) :
    processBackup c key calls = .ok none calls := by
  simp only [processBackup, hkey, hcached]
  rw [if_pos hph]
  rfl

/-- The patches `processBackup` sends, for every cached backup and every answer of the listers
and collaborators, when no default snapshot location is `nil`. A backup already taken gets no
call at all. Otherwise the first call is a patch, to `FailedValidation` exactly when validation
fails and to `InProgress` otherwise; after `FailedValidation`, or a failed patch, nothing more
is called. After an accepted `InProgress` patch the run is tracked, `runBackup` makes its own
calls, none a patch, and one more patch sets `Completed` if none of them failed and `Failed`
otherwise. -/
theorem processBackup_patches (c : Controller) (key ns name : String) (original : Backup)
    (calls : List Call) (hkey : splitMetaNamespaceKey key = .ok (ns, name))
    (hcached : c.lister ns name = .ok original)
    (hnil : ∀ e ∈ c.defaultSnapshotLocations.entries, e.2.isSome) :
    ∃ r new, processBackup c key calls = .ok r (calls ++ new) ∧
      (original.status.phase ≠ .empty → original.status.phase ≠ .new → new = []) ∧
      (original.status.phase = .empty ∨ original.status.phase = .new →
        ∃ p a rest, new = .patch original.ns original.name p a :: rest ∧
          (p.phase = some .failedValidation ↔ ValidationFails c original) ∧
          (p.phase = some .inProgress ↔ ¬ValidationFails c original) ∧
          (ValidationFails c original → rest = []) ∧
          (∀ e, a = .error e → rest = []) ∧
          (¬ValidationFails c original → ∀ b, a = .ok b → ∃ run p' a',
            rest = .trackerAdd b.ns b.name :: run ++ [.patch b.ns b.name p' a', .trackerDelete b.ns b.name] ∧
            (∀ x ∈ run, x.isRunStep) ∧
            p'.phase = some (if ∀ x ∈ run, x.failed = false then .completed else .failed))) := by
  by_cases hph : original.status.phase ≠ .empty ∧ original.status.phase ≠ .new
  · refine ⟨none, [], ?_, fun _ _ => rfl, fun h => by rcases h with h | h <;> simp [h] at hph⟩
    rw [List.append_nil]
    exact processBackup_of_processed calls hkey hcached hph
  have hfresh : original.status.phase = .empty ∨ original.status.phase = .new := by
    simpa only [ne_eq, not_and_or, not_not] using hph
  simp only [processBackup, hkey, hcached, hph, if_false, bind, EStateM.bind]
  obtain ⟨n, loc, hg⟩ := getLocationAndValidate_fst c { backup := { original with status.version := backupVersion } }
    c.defaultBackupLocation
  rw [hg]
  generalize he₁ : (getLocationAndValidate c _ _).2 = errs₁
  generalize hdv : defaultAndValidateSnapshotLocations c _ c.defaultSnapshotLocations calls = r
  obtain ⟨itm', errors, rfl, hiff, hst⟩ := defaultAndValidateSnapshotLocations_status hnil hdv
  dsimp only at hiff hst ⊢
  simp only [patchBackup_apply, hst]
  have hvf : original.status.validationErrors ++ errs₁ ++ errors ≠ [] ↔ ValidationFails c original := by
    simp only [ValidationFails, he₁, ← hiff, ne_eq, List.append_eq_nil, not_and_or, or_assoc]
  generalize hph' : (if original.status.validationErrors ++ errs₁ ++ errors ≠ [] then
    Phase.failedValidation else Phase.inProgress) = ph
  have hph₂ : (ph = .failedValidation ↔ ValidationFails c original) ∧
      (ph = .inProgress ↔ ¬ValidationFails c original) := by
    rw [← hph', ← hvf]
    split_ifs with h
    · exact ⟨iff_of_true rfl h, iff_of_false (by decide) fun h' => h' h⟩
    · exact ⟨iff_of_false (by decide) h, iff_of_true rfl h⟩
  generalize hp : createMergePatch original _ = p
  have hpp : p.phase = some ph := hp ▸ diff_of_ne fun h => by
    rw [← hph'] at h
    rcases hfresh with h' | h' <;> split_ifs at h <;> simp [h'] at h
  have hfirst : (p.phase = some .failedValidation ↔ ValidationFails c original) ∧
      (p.phase = some .inProgress ↔ ¬ValidationFails c original) := by
    simpa only [hpp, Option.some_inj] using hph₂
  have hstale : original.status.phase ≠ .empty → original.status.phase ≠ .new → False :=
    fun h₁ h₂ => hfresh.elim h₁ h₂
  generalize ha : (c.stored calls original.ns original.name).bind _ = a
  rcases a with e | b
  · exact ⟨_, [_], rfl, fun h₁ h₂ => (hstale h₁ h₂).elim, fun _ =>
      ⟨p, .error e, [], rfl, hfirst.1, hfirst.2, fun _ => rfl, fun _ _ => rfl, fun _ _ h => nomatch h⟩⟩
  have hb : b.status.phase = ph := serverPatch_phase ha hpp
  by_cases hv : ValidationFails c original
  · have hb' : b.status.phase = .failedValidation := hb.trans (hph₂.1.mpr hv)
    refine ⟨none, [.patch original.ns original.name p (.ok b)], ?_,
      fun h₁ h₂ => (hstale h₁ h₂).elim, fun _ => ⟨p, .ok b, [], rfl, hfirst.1, hfirst.2,
        fun _ => rfl, fun _ h => (nomatch h), fun h => absurd hv h⟩⟩
    simp only [Except.mapError, hb', if_true]
    rfl
  have hb' : b.status.phase = .inProgress := hb.trans (hph₂.2.mpr hv)
  simp only [Except.mapError, hb', reduceCtorEq, if_false, EStateM.bind, invoke_apply]
  have hrun := runBackup_ends c
    { backup := b, storageLocation := itm'.storageLocation, snapshotLocations := itm'.snapshotLocations }
    (calls ++ [.patch original.ns original.name p (.ok b)] ++ [.trackerAdd b.ns b.name])
  generalize runBackup c _ _ = rr at hrun ⊢
  rcases rr with ⟨⟨r', errs⟩, s'⟩ | _
  swap
  · exact hrun.elim
  obtain ⟨run, rfl, hsteps, hfail, hcomp, phase, hr'⟩ := hrun
  replace hfail : errs = [] ↔ ∀ x ∈ run, x.failed = false := by
    rw [← List.isEmpty_iff, hfail, List.all_eq_true]
    simp only [Bool.not_eq_true']
  simp only [patchBackup_apply]
  generalize hfin : (if errs ≠ [] then _ else r').backup = fin
  have hfin' : fin.ns = b.ns ∧ fin.name = b.name ∧
      fin.status.phase = if ∀ x ∈ run, x.failed = false then .completed else .failed := by
    subst hfin
    by_cases herr : errs = []
    · have hc : phase = .completed := by simpa [hr'] using hcomp herr
      rw [if_pos (hfail.mp herr)]
      simp [herr, hr', hc]
    · rw [if_neg fun h => herr (hfail.mpr h)]
      simp [herr, hr']
  obtain ⟨hns, hname, hphase⟩ := hfin'
  rw [hns, hname]
  refine ⟨none, .patch original.ns original.name p (.ok b) :: .trackerAdd b.ns b.name :: run ++
      [.patch b.ns b.name (createMergePatch b fin) _, .trackerDelete b.ns b.name], by simp; rfl,
    fun h₁ h₂ => (hstale h₁ h₂).elim, fun _ => ⟨p, .ok b, _, rfl, hfirst.1, hfirst.2,
      fun h => absurd h hv, fun _ h => (nomatch h), fun _ b₂ hb₂ => ?_⟩⟩
  cases hb₂
  refine ⟨run, _, _, rfl, List.all_eq_true.mp hsteps, ?_⟩
  rw [← hphase]
  exact diff_of_ne (by rw [hb', hphase]; split_ifs <;> decide)

/-- A new backup `backup-1`, processed by a controller whose collaborators all succeed: the
theorem's hypotheses hold, and the first call is a patch, to `InProgress` unless validation
fails. -/
theorem newBackup_first_patch :
    ∃ r new, processBackup (fixedController newBackup (.ok ())) "heptio-ark/backup-1" [] =
        .ok r ([] ++ new) ∧
      ∃ p a rest, new = .patch "heptio-ark" "backup-1" p a :: rest ∧
        (p.phase = some .inProgress ↔ ¬ValidationFails (fixedController newBackup (.ok ())) newBackup) :=
  let ⟨r, new, hrun, _, hfresh⟩ := processBackup_patches (fixedController newBackup (.ok ()))
    "heptio-ark/backup-1" "heptio-ark" "backup-1" newBackup [] (by decide) (by decide) (by decide)
  let ⟨p, a, rest, hnew, _, hip, _⟩ := hfresh (.inr rfl)
  ⟨r, new, hrun, p, a, rest, hnew, hip⟩

/-- The phase a call's merge patch sets, if the call is a patch. -/
def Call.patchPhase : Call → Option (Option Phase)
  | .patch _ _ p _ => some p.phase
  | _ => none

/-- The phase of the backup whose JSON a successful `PutBackup` uploaded. -/
def Call.uploadedPhase : Call → Option Phase
  | .putBackup _ (some json) _ (.ok ()) => some json.status.phase
  | _ => none

/-- `newBackup`, carrying a validation error from before any run. -/
def staleBackup : Backup := { newBackup with status.validationErrors := ["stale"] }

/-- A new backup that already carries a validation error: its include/exclude lists, storage
location and snapshot locations all pass, and its first patch still sets `FailedValidation`,
and nothing runs. -/
theorem processBackup_fails_stale_validation :
    (getLocationAndValidate (fixedController staleBackup (.ok ()))
        { backup := { staleBackup with status.version := 1 } } "default").2 = [] ∧
      (defaultAndValidateSnapshotLocations (fixedController staleBackup (.ok ()))
        { backup := staleBackup } ⟨[], List.nodup_nil⟩ []).value?.map (·.2) = some [] ∧
      (processBackup (fixedController staleBackup (.ok ())) "heptio-ark/backup-1" []).state.filterMap
        Call.patchPhase = [some .failedValidation] ∧
      (processBackup (fixedController staleBackup (.ok ())) "heptio-ark/backup-1" []).state.all
        (!·.startsRun) := by
  decide

/-- `Stat` of the tarball fails after the backup and its encoding succeeded: the backup uploaded
says `Completed`, and the final patch says `Failed`. -/
theorem processBackup_uploads_completed_but_patches_failed :
    (processBackup (fixedController newBackup (.error "stat failed")) "heptio-ark/backup-1"
        []).state.filterMap Call.uploadedPhase = [.completed] ∧
      (processBackup (fixedController newBackup (.error "stat failed")) "heptio-ark/backup-1"
        []).state.filterMap Call.patchPhase = [some .inProgress, some .failed] := by
  decide

end Ark.BackupController
