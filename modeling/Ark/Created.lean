import Ark.Conflicts

/-!
# What a restore creates, and where

Two invariants of whole restores, for every archive, request and behaviour of the cluster.
Every object a restore sends to `Create` is stamped (`restore_creates_stamped`): the metadata
reset left no status and only the four kept metadata keys, the namespace was set to the one
the item is restored into, and `addRestoreLabels` put the restore's and the backup's names on
it. And every item restored into a namespace is created only after `EnsureNamespaceExists`
succeeded for that namespace earlier in the same restore
(`restore_creates_into_ensured_namespaces`): `restoreFromArchive` restores into a namespace
only once it is in `existingNamespaces`, which holds only namespaces it ensured.
-/

namespace Ark

/-! ## Stamped objects -/

/-- An object as `restoreResource` sends it to `Create` for an item restored into `ns`. -/
structure Stamped (restore : Restore) (ns : String) (obj : Unstructured) : Prop where
  noStatus : obj.object.lookup "status" = none
  metadata : ∃ m, obj.object.lookup "metadata" = some (.obj m) ∧
    ∀ p ∈ m, p.1 ∈ ["name", "namespace", "labels", "annotations"]
  restoreName : obj.getLabels.lookup restoreNameLabel = some restore.name
  backupName : obj.getLabels.lookup backupNameLabel = some restore.spec.backupName
  restoreLabel : obj.getLabels.lookup restoreLabelKey = some restore.name
  inNamespace : ns ≠ "" → obj.getNestedString ["metadata", "namespace"] = ns

theorem mem_setKey {α : Type} {m : List (String × α)} {k : String} {v : α} {p : String × α}
    (h : p ∈ setKey m k v) : p ∈ m ∨ p = (k, v) := by
  induction m with
  | nil => simpa [setKey] using h
  | cons q m ih =>
    obtain ⟨k', v'⟩ := q
    unfold setKey at h
    split at h
    · rcases List.mem_cons.mp h with h | h
      · exact .inr h
      · exact .inl (List.mem_cons_of_mem _ (List.mem_filter.mp h).1)
    · rcases List.mem_cons.mp h with h | h
      · exact .inl (h ▸ List.mem_cons_self _ _)
      · exact (ih h).imp (List.mem_cons_of_mem _) id

/-- `SetNestedField` below a metadata map sets the key in that map. -/
theorem setNestedField_metadata {u : Unstructured} {m : List (String × Json)}
    (h : u.object.lookup "metadata" = some (.obj m)) (v : Json) (k : String) :
    (u.setNestedField v ["metadata", k]).object = setKey u.object "metadata" (.obj (setKey m k v)) := by
  simp [Unstructured.setNestedField, Ark.setNestedField, h, bind, Except.bind, pure, Except.pure]

theorem mapM_stringMapJson {f : String × Json → Option (String × String)}
    (hf : ∀ k v, f (k, .str v) = some (k, v)) (l : List (String × String)) :
    (l.map fun p => (p.1, Json.str p.2)).mapM f = some l := by
  induction l with
  | nil => rfl
  | cons p l ih => rw [List.map_cons, List.mapM_cons, ih, hf]; rfl

theorem getLabels_setLabels {u : Unstructured} {m : List (String × Json)}
    (h : u.object.lookup "metadata" = some (.obj m)) (l : List (String × String)) :
    (u.setLabels l).getLabels = l := by
  have hn : nestedField (.obj (u.setLabels l).object) ["metadata", "labels"] =
      .ok (some (stringMapJson l)) := by
    simp [Unstructured.setLabels, setNestedField_metadata h, nestedField]
  simp only [Unstructured.getLabels, nestedStringMap, hn, stringMapJson]
  rw [mapM_stringMapJson fun _ _ => rfl]

/-- What `resetMetadataAndStatus` returns: a metadata map of the kept keys and no status. -/
theorem resetMetadataAndStatus_ok {acted reset : Unstructured}
    (h : resetMetadataAndStatus acted = .ok reset) :
    ∃ kept, reset.object.lookup "metadata" = some (.obj kept) ∧ reset.object.lookup "status" = none ∧
      ∀ p ∈ kept, p.1 ∈ ["name", "namespace", "labels", "annotations"] := by
  unfold resetMetadataAndStatus at h
  split at h
  · cases h
  cases h
  exact ⟨_, by rw [lookup_deleteKey_ne _ (by decide), lookup_setKey_self], lookup_deleteKey_self _ _,
    fun p hp => by simpa using (List.mem_filter.mp hp).2⟩

/-- The object `restoreResource` creates for an item restored into `ns`, from the object the
metadata reset returned, is stamped. -/
theorem stamped_of_reset {acted reset : Unstructured} (h : resetMetadataAndStatus acted = .ok reset)
    (restore : Restore) (ns : String) :
    Stamped restore ns (addRestoreLabels (if ns ≠ "" then reset.setNamespace ns else reset)
      restore.name restore.spec.backupName) := by
  obtain ⟨kept, hm, hs, hk⟩ := resetMetadataAndStatus_ok h
  obtain ⟨m, hm₁, hs₁, hk₁, hns₁⟩ : ∃ m, (if ns ≠ "" then reset.setNamespace ns else reset).object.lookup
      "metadata" = some (.obj m) ∧ (if ns ≠ "" then reset.setNamespace ns else reset).object.lookup
      "status" = none ∧ (∀ p ∈ m, p.1 ∈ ["name", "namespace", "labels", "annotations"]) ∧
      (ns ≠ "" → m.lookup "namespace" = some (.str ns)) := by
    split
    · rw [Unstructured.setNamespace, setNestedField_metadata hm]
      refine ⟨_, lookup_setKey_self _ _ _, by rw [lookup_setKey_ne _ _ (by decide), hs],
        fun p hp => ?_, fun _ => lookup_setKey_self _ _ _⟩
      rcases mem_setKey hp with hp | rfl
      exacts [hk p hp, by simp]
    · rename_i hns
      exact ⟨kept, hm, hs, hk, fun h => absurd (not_not.mp hns) h⟩
  generalize (if ns ≠ "" then reset.setNamespace ns else reset) = obj at hm₁ hs₁
  have hobj := setNestedField_metadata hm₁ (stringMapJson (setKey (setKey (setKey obj.getLabels
    backupNameLabel restore.spec.backupName) restoreNameLabel restore.name) restoreLabelKey
      restore.name)) "labels"
  have hlabels := getLabels_setLabels hm₁ (setKey (setKey (setKey obj.getLabels
    backupNameLabel restore.spec.backupName) restoreNameLabel restore.name) restoreLabelKey
      restore.name)
  rw [← Unstructured.setLabels] at hobj
  simp only [addRestoreLabels]
  refine ⟨by rw [hobj, lookup_setKey_ne _ _ (by decide), hs₁], ⟨_, by rw [hobj, lookup_setKey_self],
    fun p hp => ?_⟩, ?_, ?_, ?_, fun hne => ?_⟩
  · rcases mem_setKey hp with hp | rfl
    exacts [hk₁ p hp, by simp]
  · rw [hlabels, lookup_setKey_ne _ _ (by decide), lookup_setKey_self]
  · rw [hlabels, lookup_setKey_ne _ _ (by decide), lookup_setKey_ne _ _ (by decide), lookup_setKey_self]
  · rw [hlabels, lookup_setKey_self]
  · simp [Unstructured.getNestedString, nestedString, nestedField, hobj,
      lookup_setKey_ne _ _ (by decide : "namespace" ≠ "labels"), hns₁ hne]

/-- Every object a restore sends to `Create`, for every archive, request, item actions and
behaviour of the cluster, is stamped for the namespace its item is restored into: no status,
only name, namespace, labels and annotations in its metadata, the restore-name,
backup-name and restore labels of the request, and, in a namespace, that namespace. -/
theorem restore_creates_stamped (kr : KubernetesRestorer) (restore : Restore) (backup : Backup)
    (reader : Reader) (actions : List ItemAction) :
    ∀ c ∈ (kr.restore restore backup reader actions {}).state.calls, ∀ origin client obj r,
      c = .create origin client obj r → Stamped restore origin.ns obj := by
  let p : Call → Prop := fun c => ∀ origin client obj r, c = .create origin client obj r →
    Stamped restore origin.ns obj
  have hp : PlainKeeps (AllCalls p) := allCalls_plainKeeps fun _ hc _ _ _ _ he => by
    subst he; exact hc.elim
  refine (restore_triple hp allCalls_readsLog hp (fun _ _ _ _ _ _ =>
    WalkKeeps.walkTriple ⟨allCalls_readsLog, hp, fun _ _ _ _ _ => ?_⟩) {}
      (fun _ h => nomatch h) (fun _ h => nomatch h)).state
  refine ⟨allCalls_readsLog, hp, fun _ _ _ h => allCalls_readsLog _ _ rfl rfl h,
    fun _ _ _ _ _ _ _ _ h => allCalls_record.mpr ⟨h, fun _ _ _ _ he => nomatch he⟩, ?_,
    fun _ _ _ _ _ _ _ _ _ _ _ _ h => allCalls_record.mpr ⟨h, fun _ _ _ _ he => nomatch he⟩⟩
  rintro s origin client obj r _ _ ⟨_, hf⟩ h
  refine allCalls_record.mpr ⟨h, fun _ _ _ _ he => ?_⟩
  cases he
  obtain ⟨reset, ⟨_, hreset⟩, rfl⟩ := hf.made
  exact stamped_of_reset hreset restore origin.ns

/-- The pod of a one-pod archive is created. -/
theorem pod_create_mem : ∃ client obj r, Call.create ⟨"pods", "ns-1", "pod-1.json"⟩ client obj r ∈
    ((restorerOf ["pods"] (grantingCluster .created) none).restore plainRequest {}
      (archiveOf [(⟨"pods", "ns-1", "pod-1.json"⟩, podDoc "pod-1" "ns-1")]) [] {}).state.calls := by
  have h : (⟨"pods", "ns-1", "pod-1.json"⟩ : Origin) ∈
      ((((restorerOf ["pods"] (grantingCluster .created) none).restore plainRequest {}
        (archiveOf [(⟨"pods", "ns-1", "pod-1.json"⟩, podDoc "pod-1" "ns-1")]) [] {}).state.calls.filterMap
          Call.created).map (·.1)) := by
    decide
  obtain ⟨⟨_, _⟩, hmem, rfl⟩ := List.mem_map.mp h
  obtain ⟨c, hc, hcr⟩ := List.mem_filterMap.mp hmem
  obtain ⟨client, sent, rfl⟩ := Call.created_eq_some hcr
  exact ⟨client, sent, _, hc⟩

theorem restore_creates_stamped_pod :
    ∃ client obj r, Call.create ⟨"pods", "ns-1", "pod-1.json"⟩ client obj r ∈
      ((restorerOf ["pods"] (grantingCluster .created) none).restore plainRequest {}
        (archiveOf [(⟨"pods", "ns-1", "pod-1.json"⟩, podDoc "pod-1" "ns-1")]) [] {}).state.calls ∧
      Stamped plainRequest "ns-1" obj :=
  let ⟨client, obj, r, h⟩ := pod_create_mem
  ⟨client, obj, r, h, restore_creates_stamped _ _ _ _ _ _ h _ _ _ _ rfl⟩

/-! ## Namespaces ensured before their items -/

/-- `EnsureNamespaceExists` returned for a namespace object named `n`. -/
def Ensured (n : String) (calls : List Call) : Prop :=
  ∃ ns b, ns.name = n ∧ Call.ensureNamespaceExists ns (.ok b) ∈ calls

theorem Ensured.append {n : String} {calls : List Call} (h : Ensured n calls) (cs : List Call) :
    Ensured n (calls ++ cs) :=
  let ⟨ns, b, hn, hm⟩ := h
  ⟨ns, b, hn, List.mem_append_left _ hm⟩

/-- Every create of an item restored into a namespace comes after an `EnsureNamespaceExists`
of that namespace that returned. -/
def CreatesIntoEnsured (s : State) : Prop :=
  ∀ cs₁ cs₂ origin client obj r, s.calls = cs₁ ++ .create origin client obj r :: cs₂ →
    origin.ns ≠ "" → Ensured origin.ns cs₁

theorem CreatesIntoEnsured.record {s : State} {c : Call} (h : CreatesIntoEnsured s)
    (hc : ∀ origin client obj r, c = .create origin client obj r → origin.ns ≠ "" →
      Ensured origin.ns s.calls) : CreatesIntoEnsured (s.record c) := by
  intro cs₁ cs₂ origin client obj r hcalls hns
  rcases append_singleton_eq_append_cons hcalls with ⟨rfl, rfl, rfl⟩ | ⟨cs₂', hcs, rfl⟩
  · exact hc _ _ _ _ rfl hns
  · exact h _ _ _ _ _ _ hcs hns

theorem createsIntoEnsured_plainKeeps : PlainKeeps CreatesIntoEnsured :=
  fun _ _ hc h => h.record fun _ _ _ _ he => by subst he; exact hc.elim

theorem createsIntoEnsured_readsLog : ReadsLog CreatesIntoEnsured :=
  fun _ _ hc _ h cs₁ cs₂ origin client obj r hcalls => h cs₁ cs₂ origin client obj r (hc.trans hcalls)

/-- A conjunct of the invariant moved to the pre- and postcondition. -/
theorem Triple.frame {α : Type} {I E P : State → Prop} {x : M α} {Q : α → State → Prop}
    (h : Triple (fun s => I s ∧ E s) P x Q) :
    Triple I (fun s => E s ∧ P s) x fun a s => E s ∧ Q a s := by
  intro s hI ⟨hE, hP⟩
  have h := h s ⟨hI, hE⟩ hP
  revert h
  rcases x s with ⟨a, s'⟩ | ⟨e, s'⟩
  exacts [fun ⟨⟨h₁, h₂⟩, h₃⟩ => ⟨h₁, h₂, h₃⟩, fun h => h.1]

section Ensured

variable {ctx : Context} {E : List Call → Prop}

/-- `CreatesIntoEnsured` with a fact of the log that every call keeps. -/
theorem plainKeeps_ensured (hE : ∀ cs c, E cs → E (cs ++ [c])) :
    PlainKeeps fun s => CreatesIntoEnsured s ∧ E s.calls :=
  fun s c hc ⟨h, he⟩ => ⟨createsIntoEnsured_plainKeeps s c hc h, hE _ _ he⟩

theorem readsLog_ensured : ReadsLog fun s => CreatesIntoEnsured s ∧ E s.calls :=
  fun s s' hc hp ⟨h, he⟩ => ⟨createsIntoEnsured_readsLog s s' hc hp h, hc ▸ he⟩

/-- The items of `ns` keep `CreatesIntoEnsured` with a fact of the log that every call keeps,
and that says `ns` was ensured when it is not empty. -/
theorem itemKeeps_ensured {resource ns : String} (hE : ∀ cs c, E cs → E (cs ++ [c]))
    (hn : ∀ cs, E cs → ns ≠ "" → Ensured ns cs) :
    ItemKeeps ctx resource ns fun s => CreatesIntoEnsured s ∧ E s.calls where
  reads := readsLog_ensured
  plain := plainKeeps_ensured hE
  provision := fun _ _ _ h => h
  snapshot := fun _ _ _ _ _ _ _ _ ⟨h, he⟩ => ⟨h.record fun _ _ _ _ hc => (nomatch hc), hE _ _ he⟩
  create := fun _ origin _ _ _ _ hns _ ⟨h, he⟩ =>
    ⟨h.record fun _ _ _ _ hc hne => by cases hc; rw [hns]; exact hn _ he (hns ▸ hne), hE _ _ he⟩
  patch := fun _ _ _ _ _ _ _ _ _ _ _ _ ⟨h, he⟩ =>
    ⟨h.record fun _ _ _ _ hc => (nomatch hc), hE _ _ he⟩

/-- The namespaces a walk knows to exist were ensured. -/
def KnownEnsured (w : Walk) (calls : List Call) : Prop := ∀ n ∈ w.existingNamespaces, Ensured n calls

theorem KnownEnsured.append {w : Walk} {calls : List Call} (h : KnownEnsured w calls) (cs : List Call) :
    KnownEnsured w (calls ++ cs) :=
  fun n hn => (h n hn).append cs

/-- `restoreResource` into `ns`, started where `ns` was ensured when it is not empty. -/
theorem restoreResource_ensured {resource ns : String} {w : Walk} :
    Triple CreatesIntoEnsured (fun s => (ns ≠ "" → Ensured ns s.calls) ∧ KnownEnsured w s.calls)
      (restoreResource ctx resource ns) fun _ s => KnownEnsured w s.calls :=
  ((restoreResource_triple fun _ => itemKeeps_ensured
      (E := fun cs => (ns ≠ "" → Ensured ns cs) ∧ KnownEnsured w cs)
      (fun _ _ ⟨h₁, h₂⟩ => ⟨fun hne => (h₁ hne).append _, h₂.append _⟩) fun _ h => h.1).frame).conseq
    (fun _ _ h => ⟨h, trivial⟩) fun _ _ _ h => h.1.2

theorem getNamespace_name {I : State → Prop} (hp : PlainKeeps I) {nsName remappedName : String} :
    Triple I (fun _ => True) (getNamespace ctx nsName remappedName) fun ns _ => ns.name = remappedName := by
  unfold getNamespace
  refine Triple.call_bind (fun s hI _ => hp s _ trivial hI) fun _ => ?_
  split
  · exact Triple.pure fun _ _ _ => rfl
  · split <;> exact Triple.pure fun _ _ _ => rfl

/-- `ensureNamespace` returns a walk that knows `mappedNsName` exists only once it was
ensured. -/
theorem ensureNamespace_ensured {nsName mappedNsName : String} {w : Walk} :
    Triple CreatesIntoEnsured (fun s => KnownEnsured w s.calls)
      (ensureNamespace ctx nsName mappedNsName w) fun r s => match r with
        | .ok w' => Ensured mappedNsName s.calls ∧ KnownEnsured w' s.calls
        | .error w' => KnownEnsured w' s.calls := by
  unfold ensureNamespace
  split
  · exact Triple.pure fun _ _ h => ⟨h _ ‹_›, h⟩
  refine Triple.bind ((getNamespace_name (plainKeeps_ensured (E := KnownEnsured w)
    fun _ _ h => h.append _)).frame.conseq (fun _ _ h => ⟨h, trivial⟩) fun _ _ _ h => h) fun ns => ?_
  refine Triple.call_bind_mem (fun s hI _ => createsIntoEnsured_plainKeeps s _ trivial hI)
    (fun _ _ ⟨h₁, h₂⟩ => ⟨h₁.append _, h₂⟩) fun cs => ?_
  split
  · exact Triple.pure fun _ _ ⟨⟨h, _⟩, _⟩ => h
  · rename_i b hb
    refine Triple.pure fun _ _ ⟨⟨h, hname⟩, hmem⟩ => ⟨⟨ns, b, hname, hb ▸ hmem⟩, fun n hn => ?_⟩
    rcases List.mem_insert_iff.mp hn with rfl | hn
    exacts [⟨ns, b, hname, hb ▸ hmem⟩, h n hn]

theorem restoreNamespaces_ensured {namespaceFilter : IncludesExcludes} {resource : GroupResource} :
    ∀ (namespaces : List String) (w : Walk),
      Triple CreatesIntoEnsured (fun s => KnownEnsured w s.calls)
        (restoreNamespaces ctx namespaceFilter resource namespaces w) fun w' s => KnownEnsured w' s.calls
  | [], _ => Triple.pure fun _ _ h => h
  | nsName :: rest, w => by
    unfold restoreNamespaces
    split
    · exact restoreNamespaces_ensured rest w
    refine Triple.bind ensureNamespace_ensured fun r => ?_
    rcases r with w' | w'
    · exact restoreNamespaces_ensured rest w'
    · exact Triple.bind (restoreResource_ensured.conseq (fun _ _ h => ⟨fun _ => h.1, h.2⟩)
        fun _ _ _ h => h) fun r => (restoreNamespaces_ensured rest (w'.merge r)).conseq
          (fun _ _ h => h) fun _ _ _ h => h

theorem restoreResources_ensured {namespaceFilter : IncludesExcludes} :
    ∀ (grs : List GroupResource) (w : Walk),
      Triple CreatesIntoEnsured (fun s => KnownEnsured w s.calls)
        (restoreResources ctx namespaceFilter grs w) fun _ _ => True
  | [], _ => Triple.pure fun _ _ _ => trivial
  | gr :: grs, w => by
    unfold restoreResources
    split
    · exact restoreResources_ensured grs w
    refine Triple.call_bind_keep (fun s hI h =>
      ⟨createsIntoEnsured_plainKeeps s _ trivial hI, h.append _⟩) fun _ => ?_
    split
    · exact Triple.pure fun _ _ _ => trivial
    · exact restoreResources_ensured grs w
    · exact Triple.bind (restoreResource_ensured.conseq (fun _ _ h => ⟨fun h => absurd rfl h, h⟩)
        fun _ _ _ h => h) fun r => (restoreResources_ensured grs (w.merge r)).conseq
          (fun _ _ h => h) fun _ _ _ h => h
    · refine Triple.call_bind_keep (fun s hI h =>
        ⟨createsIntoEnsured_plainKeeps s _ trivial hI, h.append _⟩) fun _ => ?_
      split
      · exact Triple.pure fun _ _ _ => trivial
      · refine Triple.bind (restoreNamespaces_ensured _ w) fun w' => ?_
        refine Triple.bind ((waitResourceTasks_triple (plainKeeps_ensured (E := KnownEnsured w')
          fun _ _ h => h.append _) readsLog_ensured).frame.conseq (fun _ _ h => ⟨h, trivial⟩)
            fun _ _ _ h => h) fun _ => (restoreResources_ensured grs w').conseq
              (fun _ _ h => h.1) fun _ _ _ h => h

end Ensured

/-- For every archive, request, item actions and behaviour of the cluster, every item a
restore creates in a namespace is created after an `EnsureNamespaceExists` of a namespace
object of that name returned, earlier in the same restore. -/
theorem restore_creates_into_ensured_namespaces (kr : KubernetesRestorer) (restore : Restore)
    (backup : Backup) (reader : Reader) (actions : List ItemAction) :
    ∀ cs₁ cs₂ origin client obj r,
      (kr.restore restore backup reader actions {}).state.calls =
        cs₁ ++ .create origin client obj r :: cs₂ → origin.ns ≠ "" →
      ∃ ns b, ns.name = origin.ns ∧ Call.ensureNamespaceExists ns (.ok b) ∈ cs₁ :=
  (restore_triple (J := fun _ => True) createsIntoEnsured_plainKeeps createsIntoEnsured_readsLog
    (fun _ _ _ _ => trivial) (fun _ _ _ _ _ _ _ => (restoreResources_ensured _ {}).conseq
      (fun _ _ _ _ hn => nomatch hn) fun _ _ _ h => h) {}
    (fun _ _ _ _ _ _ h => by simp at h) trivial).state

theorem restore_creates_pod_into_ensured_namespace :
    ∃ cs₁ cs₂ client obj r,
      ((restorerOf ["pods"] (grantingCluster .created) none).restore plainRequest {}
        (archiveOf [(⟨"pods", "ns-1", "pod-1.json"⟩, podDoc "pod-1" "ns-1")]) [] {}).state.calls =
          cs₁ ++ .create ⟨"pods", "ns-1", "pod-1.json"⟩ client obj r :: cs₂ ∧ "ns-1" ≠ "" ∧
      ∃ ns b, ns.name = "ns-1" ∧ Call.ensureNamespaceExists ns (.ok b) ∈ cs₁ :=
  let ⟨client, obj, r, h⟩ := pod_create_mem
  let ⟨cs₁, cs₂, hcs⟩ := List.append_of_mem h
  ⟨cs₁, cs₂, client, obj, r, hcs, by decide,
    restore_creates_into_ensured_namespaces _ _ _ _ _ _ _ _ _ _ _ hcs (by decide)⟩

end Ark
