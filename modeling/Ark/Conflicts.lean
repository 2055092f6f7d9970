import Ark.RestoreSpec

/-!
# Items that already exist

When an item's create answers `AlreadyExists`, `restoreResource` gets the live object and
compares it, reset and labelled as the item is, with the item. Only a ServiceAccount is
patched, with the secrets of both merged; any other difference, and a failed get or reset,
is a warning. `createItem_alreadyExists` says what one such item gets, and
`restore_patchesFollowConflicts` that the conflict branch is the only place a whole restore
patches anything: its invariant, every patch right after its item's create and get, is kept by
every other call, and the item framework carries the facts the branch knows to its patch.
-/

namespace Ark

/-- Whether the conflict branch warns about an item of a type other than ServiceAccounts, from
the answer of the get of its live object: the get failed, the reset of the live object failed,
or the live object, reset and labelled as the item is, differs from the item. -/
def conflictWarns (obj : Unstructured) : Except String Unstructured → Bool
  | .error _ => true
  | .ok live =>
    match resetMetadataAndStatus live with
    | .error _ => true
    | .ok live => !deepEqual (addRestoreLabels live ((obj.getLabels.lookup restoreNameLabel).getD "")
        ((obj.getLabels.lookup backupNameLabel).getD "")) obj

/-- An item whose create answers `AlreadyExists`: one get of the live object is made, and no
error is recorded. An item of another type than ServiceAccounts gets no further call, and one
warning exactly when `conflictWarns` says so; a ServiceAccount gets at most one patch, and at
most one warning. -/
theorem createItem_alreadyExists {ctx : Context} {origin : Origin} {gr : GroupResource}
    {client : Client} {name e : String} {obj : Unstructured} {fr : Frame} {s : State}
    (h : ctx.kr.cluster.create s.calls client obj = .alreadyExists e) :
    ∃ fr' live extra, createItem ctx origin gr client name obj fr s = .ok fr'
        { s with calls := s.calls ++ .create origin client obj (.alreadyExists e) ::
          .getLive origin client name live :: extra } ∧
      fr'.errs = fr.errs ∧
      (gr ≠ Kuberesource.serviceAccounts → extra = [] ∧
        (conflictWarns obj live = true → ∃ w, fr' = fr.addWarning origin.ns w) ∧
        (conflictWarns obj live = false → fr' = fr)) ∧
      (gr = Kuberesource.serviceAccounts →
        (extra = [] ∨ ∃ p r, extra = [.patch origin client name p r]) ∧
        (fr' = fr ∨ ∃ w, fr' = fr.addWarning origin.ns w)) := by
  simp only [createItem, restoreExisting, bind, EStateM.bind, call_apply, h]
  generalize ctx.kr.cluster.get _ client name = live
  have hs : (s.record (.create origin client obj (.alreadyExists e))).record
      (.getLive origin client name live) = { s with calls := s.calls ++
        [.create origin client obj (.alreadyExists e), .getLive origin client name live] } := by
    simp [State.record]
  rw [hs]
  rcases live with err | fromCluster
  · exact ⟨_, .error err, [], rfl, rfl, fun _ => ⟨rfl, fun _ => ⟨_, rfl⟩, fun h => nomatch h⟩,
      fun _ => ⟨.inl rfl, .inr ⟨_, rfl⟩⟩⟩
  dsimp only
  cases hreset : resetMetadataAndStatus fromCluster with
  | error err =>
    have hw : conflictWarns obj (.ok fromCluster) = true := by simp [conflictWarns, hreset]
    exact ⟨_, .ok fromCluster, [], rfl, rfl,
      fun _ => ⟨rfl, fun _ => ⟨_, rfl⟩, fun h => absurd hw (by simp [h])⟩,
      fun _ => ⟨.inl rfl, .inr ⟨_, rfl⟩⟩⟩
  | ok live =>
  dsimp only
  generalize hlabelled : addRestoreLabels live _ _ = labelled
  by_cases heq : deepEqual labelled obj = true
  · rw [if_pos heq]
    refine ⟨fr, .ok fromCluster, [], rfl, rfl, fun _ => ⟨rfl, fun hw => ?_, fun _ => rfl⟩,
      fun _ => ⟨.inl rfl, .inl rfl⟩⟩
    simp [conflictWarns, hreset, hlabelled, heq] at hw
  rw [if_neg heq]
  have hw : conflictWarns obj (.ok fromCluster) = true := by
    simp [conflictWarns, hreset, hlabelled, heq]
  by_cases hgr : gr = Kuberesource.serviceAccounts
  swap
  · rw [if_neg hgr]
    exact ⟨_, .ok fromCluster, [], rfl, rfl,
      fun _ => ⟨rfl, fun _ => ⟨_, rfl⟩, fun h => absurd hw (by simp [h])⟩, fun h => absurd h hgr⟩
  rw [if_pos hgr]
  rcases mergeServiceAccounts labelled obj with err | desired
  · exact ⟨_, .ok fromCluster, [], rfl, rfl, fun h => absurd hgr h,
      fun _ => ⟨.inl rfl, .inr ⟨_, rfl⟩⟩⟩
  dsimp only
  rcases generatePatch labelled desired with err | _ | patch
  · exact ⟨_, .ok fromCluster, [], rfl, rfl, fun h => absurd hgr h,
      fun _ => ⟨.inl rfl, .inr ⟨_, rfl⟩⟩⟩
  · exact ⟨_, .ok fromCluster, [], rfl, rfl, fun h => absurd hgr h, fun _ => ⟨.inl rfl, .inl rfl⟩⟩
  simp only [EStateM.bind, call_apply]
  rcases ctx.kr.cluster.patch _ client name patch with err | ⟨⟩
  · exact ⟨fr.addWarning origin.ns err, .ok fromCluster, [.patch origin client name patch (.error err)],
      by simp [State.record]; rfl, rfl, fun h => absurd hgr h,
      fun _ => ⟨.inr ⟨_, _, rfl⟩, .inr ⟨_, rfl⟩⟩⟩
  · exact ⟨fr, .ok fromCluster, [.patch origin client name patch (.ok ())],
      by simp [State.record]; rfl, rfl, fun h => absurd hgr h,
      fun _ => ⟨.inr ⟨_, _, rfl⟩, .inl rfl⟩⟩

/-- A log with one call appended, split at a call of it: the split is at the new call, or
within the old log. -/
theorem append_singleton_eq_append_cons {α : Type} {l cs₁ cs₂ : List α} {c x : α}
    (h : l ++ [c] = cs₁ ++ x :: cs₂) :
    (l = cs₁ ∧ c = x ∧ cs₂ = []) ∨ ∃ cs₂', l = cs₁ ++ x :: cs₂' ∧ cs₂ = cs₂' ++ [c] := by
  rcases List.eq_nil_or_concat cs₂ with rfl | ⟨L, b, rfl⟩
  · obtain ⟨rfl, h'⟩ := List.append_inj' h rfl
    exact .inl ⟨rfl, List.singleton_inj.mp h', rfl⟩
  · simp only [List.concat_eq_append] at h ⊢
    rw [← List.cons_append, ← List.append_assoc] at h
    obtain ⟨rfl, h'⟩ := List.append_inj' h rfl
    exact .inr ⟨L, rfl, by rw [List.singleton_inj.mp h']⟩

/-- Every patch of the log is of a ServiceAccount item, right after the item's create answered
`AlreadyExists` and the get of its live object answered it. -/
def PatchesFollowConflicts (s : State) : Prop :=
  ∀ cs₁ cs₂ origin client name p r, s.calls = cs₁ ++ .patch origin client name p r :: cs₂ →
    parseGroupResource origin.resource = Kuberesource.serviceAccounts ∧
      ∃ cs obj e live, cs₁ = cs ++ [.create origin client obj (.alreadyExists e),
        .getLive origin client name (.ok live)]

theorem PatchesFollowConflicts.record {s : State} {c : Call}
    (hc : ∀ origin client name p r, c = .patch origin client name p r →
      parseGroupResource origin.resource = Kuberesource.serviceAccounts ∧
        ∃ cs obj e live, s.calls = cs ++ [.create origin client obj (.alreadyExists e),
          .getLive origin client name (.ok live)])
    (h : PatchesFollowConflicts s) : PatchesFollowConflicts (s.record c) := by
  intro cs₁ cs₂ origin client name p r heq
  rcases append_singleton_eq_append_cons heq with ⟨rfl, rfl, -⟩ | ⟨cs₂', hl, -⟩
  · exact hc _ _ _ _ _ rfl
  · exact h _ _ _ _ _ _ _ hl

theorem patchesFollowConflicts_readsLog : ReadsLog PatchesFollowConflicts :=
  fun _ _ hc _ h => by unfold PatchesFollowConflicts; rw [← hc]; exact h

theorem patchesFollowConflicts_plainKeeps : PlainKeeps PatchesFollowConflicts :=
  fun _ _ hc h => h.record fun _ _ _ _ _ he => by subst he; exact hc.elim

theorem itemKeeps_patchesFollowConflicts {ctx : Context} {resource ns : String} :
    ItemKeeps ctx resource ns PatchesFollowConflicts where
  reads := patchesFollowConflicts_readsLog
  plain := patchesFollowConflicts_plainKeeps
  provision _ _ _ h := h
  snapshot _ _ _ _ _ _ _ _ h := h.record fun _ _ _ _ _ he => nomatch he
  create _ _ _ _ _ _ _ _ h := h.record fun _ _ _ _ _ he => nomatch he
  patch s _ _ obj _ e live _ _ _ _ hgr h := h.record fun _ _ _ _ _ he => by
    cases he
    exact ⟨hgr, s.calls, obj, e, live, by simp⟩

/-- A whole restore patches only ServiceAccounts it found already there. -/
theorem restore_patchesFollowConflicts (kr : KubernetesRestorer) (restore : Restore) (backup : Backup)
    (reader : Reader) (actions : List ItemAction) :
    PatchesFollowConflicts (kr.restore restore backup reader actions {}).state :=
  (restore_triple patchesFollowConflicts_plainKeeps patchesFollowConflicts_readsLog
    patchesFollowConflicts_plainKeeps (fun _ _ _ _ _ _ => WalkKeeps.walkTriple
      ⟨patchesFollowConflicts_readsLog, patchesFollowConflicts_plainKeeps,
        fun _ _ _ _ _ => itemKeeps_patchesFollowConflicts⟩) {}
    (fun _ _ _ _ _ _ _ h => absurd h (by simp)) (fun _ _ _ _ _ _ _ h => absurd h (by simp))).state

/-- The conflict branch, item by item and over a whole restore: an item whose create answers
`AlreadyExists` gets no error, and only a ServiceAccount may be patched, once; every patch of a
restore is of such a ServiceAccount, right after its create and the get of its live object. -/
theorem restore_patches_only_existing_serviceAccounts :
    (∀ (ctx : Context) (origin : Origin) (gr : GroupResource) (client : Client) (name e : String)
      (obj : Unstructured) (fr : Frame) (s : State),
      ctx.kr.cluster.create s.calls client obj = .alreadyExists e →
      ∃ fr' live extra, createItem ctx origin gr client name obj fr s = .ok fr'
          { s with calls := s.calls ++ .create origin client obj (.alreadyExists e) ::
            .getLive origin client name live :: extra } ∧
        fr'.errs = fr.errs ∧
        (gr ≠ Kuberesource.serviceAccounts → extra = [] ∧
          (conflictWarns obj live = true → ∃ w, fr' = fr.addWarning origin.ns w) ∧
          (conflictWarns obj live = false → fr' = fr)) ∧
        (gr = Kuberesource.serviceAccounts →
          (extra = [] ∨ ∃ p r, extra = [.patch origin client name p r]) ∧
          (fr' = fr ∨ ∃ w, fr' = fr.addWarning origin.ns w))) ∧
    ∀ (kr : KubernetesRestorer) (restore : Restore) (backup : Backup) (reader : Reader)
      (actions : List ItemAction) (cs₁ cs₂ : List Call) (origin : Origin) (client : Client)
      (name : String) (p : Json) (r : Except String Unit),
      (kr.restore restore backup reader actions {}).state.calls =
        cs₁ ++ .patch origin client name p r :: cs₂ →
      parseGroupResource origin.resource = Kuberesource.serviceAccounts ∧
        ∃ cs obj e live, cs₁ = cs ++ [.create origin client obj (.alreadyExists e),
          .getLive origin client name (.ok live)] :=
  ⟨fun _ _ _ _ _ _ _ _ _ h => createItem_alreadyExists h,
    fun kr restore backup reader actions => restore_patchesFollowConflicts kr restore backup reader actions⟩

/-- The patch a call sends, if it is a patch. -/
def Call.patchOf : Call → Option (Origin × Client × String × Json × Except String Unit)
  | .patch origin client name p r => some (origin, client, name, p, r)
  | _ => none

/-- A ServiceAccount `sa-1` in `ns-1` with the secret `token-1`. -/
def serviceAccountDoc : Json :=
  .obj [("apiVersion", .str "v1"), ("kind", .str "ServiceAccount"),
    ("metadata", .obj [("name", .str "sa-1"), ("namespace", .str "ns-1")]),
    ("secrets", .arr [.obj [("name", .str "token-1")]])]

/-- A cluster where every object already exists, live as a ServiceAccount with no secret. -/
def serviceAccountCluster : Cluster :=
  { grantingCluster fun _ => .alreadyExists "serviceaccounts \"sa-1\" already exists" with
    get := fun _ _ _ => .ok ⟨[("apiVersion", .str "v1"), ("kind", .str "ServiceAccount"),
      ("metadata", .obj [("name", .str "sa-1"), ("namespace", .str "ns-1")])]⟩ }

/-- The restore of `sa-1` into a cluster that holds it without its secret. -/
def serviceAccountRun : EStateM.Result String State (RestoreResult × RestoreResult) :=
  (restorerOf ["serviceaccounts"] serviceAccountCluster none).restore plainRequest {}
    (archiveOf [(⟨"serviceaccounts", "ns-1", "sa-1.json"⟩, serviceAccountDoc)]) [] {}

/-- The run patches the live ServiceAccount, right after its create and its get. -/
theorem restore_patches_existing_serviceAccount :
    ∃ cs₁ cs₂ origin client name p r,
      serviceAccountRun.state.calls = cs₁ ++ .patch origin client name p r :: cs₂ ∧
      parseGroupResource origin.resource = Kuberesource.serviceAccounts ∧
        ∃ cs obj e live, cs₁ = cs ++ [.create origin client obj (.alreadyExists e),
          .getLive origin client name (.ok live)] := by
  have hp : serviceAccountRun.state.calls.filterMap Call.patchOf ≠ [] := by decide
  obtain ⟨⟨origin, client, name, p, r⟩, hx⟩ := List.exists_mem_of_ne_nil _ hp
  obtain ⟨c, hc, hpc⟩ := List.mem_filterMap.mp hx
  obtain rfl : c = .patch origin client name p r := by
    unfold Call.patchOf at hpc
    split at hpc <;> cases hpc
    rfl
  obtain ⟨cs₁, cs₂, hsplit⟩ := List.append_of_mem hc
  exact ⟨cs₁, cs₂, origin, client, name, p, r, hsplit,
    restore_patches_only_existing_serviceAccounts.2 _ _ _ _ _ cs₁ cs₂ origin client name p r hsplit⟩

/-- A cluster where every object already exists, and the get of a live object fails. -/
def unreachableCluster : Cluster :=
  { grantingCluster fun _ => .alreadyExists "pods \"pod-1\" already exists" with
    get := fun _ _ _ => .error "connection refused" }

/-- A pod that exists already, in a cluster whose get fails: the pod is not compared, and one
warning is recorded. -/
theorem restore_warns_when_get_fails :
    ((restorerOf ["pods"] unreachableCluster none).restore plainRequest {}
      (archiveOf [(⟨"pods", "ns-1", "pod-1.json"⟩, podDoc "pod-1" "ns-1")]) [] {}).value? =
      some ({ namespaces := [("ns-1", ["connection refused"])] }, {}) := by
  decide

end Ark
