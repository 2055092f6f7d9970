import Ark.RestoreSpec

/-!
# Claims of provisioned volumes

A PersistentVolume left to dynamic provisioning is not created: its name goes into the
provisioning set, and a claim bound to it is created unbound, so that the cluster binds the
claim to a new volume. The claim's branch reads the set as it is when the claim is restored,
so the reset is complete only for claims restored after every volume. The prioritized types
are in that order when the priorities put persistentvolumes ahead of persistentvolumeclaims;
with no priorities the sorted remainder puts the claims first.

The walk over such a list runs in two phases. Up to the last volume type no claim is
created, and the set may grow; after it the set no longer grows, and every claim created is
unbound when its volume is in the set.
-/

namespace Ark

/-- The walk over `l₁ ++ l₂` is the walk over `l₁`, then, unless it stopped, the walk over
`l₂`. -/
theorem restoreResources_append (ctx : Context) (namespaceFilter : IncludesExcludes) :
    ∀ (l₁ l₂ : List GroupResource) (w : Walk),
      restoreResources ctx namespaceFilter (l₁ ++ l₂) w =
        restoreResources ctx namespaceFilter l₁ w >>= fun (flow, w) =>
          match flow with
          | .stop => pure (.stop, w)
          | .next => restoreResources ctx namespaceFilter l₂ w
  | [], l₂, w => by simp only [List.nil_append, restoreResources, pure_bind]
  | gr :: l₁, l₂, w => by
    have ih := restoreResources_append ctx namespaceFilter l₁ l₂
    simp only [List.cons_append, restoreResources]
    split
    · exact ih w
    · simp only [bind_assoc]
      congr 1; funext r
      rcases r with _ | _ | _ | _
      · simp only [pure_bind]
      · simp only [List.append_eq, ih]
      · simp only [bind_assoc, List.append_eq, ih]
      · simp only [bind_assoc]
        congr 1; funext r
        rcases r with _ | _ <;> simp only [pure_bind, bind_assoc, List.append_eq, ih]

/-! ## The two invariants -/

/-- No create of the log is of a type restored as persistentvolumeclaims. -/
def NoClaimCreated (s : State) : Prop :=
  AllCalls (fun c => ∀ origin client obj r, c = .create origin client obj r →
    parseGroupResource origin.resource ≠ Kuberesource.persistentVolumeClaims) s

/-- If `c` creates a claim whose archive item is bound to a volume of `pvs`, it creates it
unbound, or an item action run on the item returned a bound object. -/
def CreatesUnbound (reader : Reader) (pvs : List String) (calls : List Call) (c : Call) : Prop :=
  ∀ origin client obj r, c = .create origin client obj r →
    parseGroupResource origin.resource = Kuberesource.persistentVolumeClaims →
    ∀ bytes item v, reader.get origin.resource origin.ns origin.file = .ok bytes →
      decodeItem bytes = .ok item → boundVolume item = some v → v ∈ pvs →
      Unbound obj = true ∨ Rebound origin calls

/-- Every claim of the log bound to a volume of the provisioning set was created unbound, or
rebound by an item action. -/
def ClaimsUnbound (reader : Reader) (s : State) : Prop :=
  ∀ c ∈ s.calls, CreatesUnbound reader s.pvsToProvision s.calls c

theorem Rebound.append {origin : Origin} {calls : List Call} (cs : List Call)
    (h : Rebound origin calls) : Rebound origin (calls ++ cs) :=
  let ⟨i, o, r, u, hmem, hu, hb⟩ := h
  ⟨i, o, r, u, List.mem_append_left cs hmem, hu, hb⟩

theorem CreatesUnbound.append {reader : Reader} {pvs : List String} {calls : List Call} {c : Call}
    (cs : List Call) (h : CreatesUnbound reader pvs calls c) :
    CreatesUnbound reader pvs (calls ++ cs) c :=
  fun origin client obj r he hpvc bytes item v hget hdec hv hpv =>
    (h origin client obj r he hpvc bytes item v hget hdec hv hpv).imp_right (Rebound.append cs)

theorem createsUnbound_of_plain {reader : Reader} {pvs : List String} {calls : List Call}
    {c : Call} (hc : Call.Plain c) : CreatesUnbound reader pvs calls c :=
  fun _ _ _ _ he => by subst he; exact hc.elim

theorem ClaimsUnbound.record {reader : Reader} {s : State} {c : Call}
    (hc : CreatesUnbound reader s.pvsToProvision s.calls c) (h : ClaimsUnbound reader s) :
    ClaimsUnbound reader (s.record c) := by
  intro c' hmem
  rcases List.mem_append.mp hmem with hmem | hmem
  · exact (h c' hmem).append [c]
  · exact List.mem_singleton.mp hmem ▸ hc.append [c]

theorem claimsUnbound_readsLog {reader : Reader} : ReadsLog (ClaimsUnbound reader) :=
  fun _ _ hc hp h => by unfold ClaimsUnbound; rw [← hc, ← hp]; exact h

theorem claimsUnbound_plainKeeps {reader : Reader} : PlainKeeps (ClaimsUnbound reader) :=
  fun _ _ hc h => h.record (createsUnbound_of_plain hc)

theorem noClaimCreated_plainKeeps : PlainKeeps NoClaimCreated :=
  allCalls_plainKeeps fun _ hc _ _ _ _ he => by subst he; exact hc.elim

theorem NoClaimCreated.claimsUnbound {reader : Reader} {s : State} (h : NoClaimCreated s) :
    ClaimsUnbound reader s :=
  fun c hc origin client obj r he hpvc => absurd hpvc (h c hc origin client obj r he)

/-- The archive holds one document at an origin, so an admitted item is the one read there. -/
theorem Admitted.eq_of_read {ctx : Context} {origin : Origin} {gr : GroupResource}
    {item item' : Unstructured} {bytes : Blob} (h : Admitted ctx origin gr item')
    (hget : ctx.reader.get origin.resource origin.ns origin.file = .ok bytes)
    (hdec : decodeItem bytes = .ok item) : item = item' := by
  obtain ⟨_, hget', hdec'⟩ := h.read
  rw [hget] at hget'
  cases hget'
  exact Except.ok.inj (hdec.symm.trans hdec')

/-! ## The two phases of the walk -/

section Phases

variable {ctx : Context} {grs : List GroupResource}

/-- Types none of which is restored as persistentvolumeclaims create no claim. -/
theorem walkKeeps_noClaimCreated
    (h : ∀ gr ∈ grs, parseGroupResource gr.string ≠ Kuberesource.persistentVolumeClaims) :
    WalkKeeps ctx grs NoClaimCreated := by
  refine ⟨allCalls_readsLog, noClaimCreated_plainKeeps, fun gr hgr _ _ _ =>
    ⟨allCalls_readsLog, noClaimCreated_plainKeeps, fun _ _ _ hs => hs, ?_, ?_,
      fun _ _ _ _ _ _ _ _ _ _ _ _ hs => allCalls_record.mpr ⟨hs, fun _ _ _ _ he => nomatch he⟩⟩⟩
  · exact fun _ _ _ _ _ _ _ _ hs => allCalls_record.mpr ⟨hs, fun _ _ _ _ he => nomatch he⟩
  · rintro s origin client obj r hres - - hs
    exact allCalls_record.mpr ⟨hs, fun _ _ _ _ he => by cases he; exact hres ▸ h gr hgr⟩

/-- Types none of which is restored as persistentvolumes leave the provisioning set as it is,
and create every claim bound to a volume of it unbound. -/
theorem walkKeeps_claimsUnbound
    (h : ∀ gr ∈ grs, parseGroupResource gr.string ≠ Kuberesource.persistentVolumes) :
    WalkKeeps ctx grs (ClaimsUnbound ctx.reader) := by
  refine ⟨claimsUnbound_readsLog, claimsUnbound_plainKeeps, fun gr hgr _ _ _ =>
    ⟨claimsUnbound_readsLog, claimsUnbound_plainKeeps, fun hpv => absurd hpv (h gr hgr), ?_, ?_,
      fun _ _ _ _ _ _ _ _ _ _ _ _ hs => hs.record fun _ _ _ _ he => nomatch he⟩⟩
  · exact fun _ _ _ _ _ _ _ _ hs => hs.record fun _ _ _ _ he => nomatch he
  · rintro s origin client obj r - - ⟨item', hf⟩ hs
    refine hs.record fun _ _ _ _ he hpvc _ item v hget hdec hv hpv => ?_
    cases he
    obtain rfl := hf.admitted.eq_of_read hget hdec
    exact hf.claim hpvc v hv hpv

/-- The walk over `l₁ ++ l₂`, where the types of `l₁` keep the stronger invariant `I₁`, keeps
`I` from a state satisfying `I₁`. -/
theorem restoreResources_phases {I₁ I : State → Prop} {namespaceFilter : IncludesExcludes}
    {l₁ l₂ : List GroupResource} (h : ∀ s, I₁ s → I s) (hw₁ : WalkKeeps ctx l₁ I₁)
    (hw₂ : WalkKeeps ctx l₂ I) (w : Walk) :
    Triple I I₁ (restoreResources ctx namespaceFilter (l₁ ++ l₂) w) fun _ _ => True := by
  rw [restoreResources_append]
  refine (Triple.bind_phase h (restoreResources_triple hw₁ w) fun ⟨flow, w⟩ => ?_).conseq
    (fun _ _ h₁ => ⟨h₁, trivial⟩) fun _ _ _ q => q
  cases flow with
  | next => exact (restoreResources_triple hw₂ w).weaken
  | stop => exact Triple.pure fun _ _ _ => trivial

end Phases

/-- When the prioritized types split into a part with no claim type followed by a part with
no volume type, every claim a restore creates whose archive item is bound to a volume of the
final provisioning set is created unbound, unless an item action run on it returned a bound
object. -/
theorem restore_unbinds_provisioned_claims (kr : KubernetesRestorer) (restore : Restore)
    (backup : Backup) (reader : Reader) (actions : List ItemAction)
    (hord : ∀ prioritized, prioritizeResources kr.discoveryHelper kr.resourcePriorities
        (getResourceIncludesExcludes kr.discoveryHelper restore.spec.includedResources
          restore.spec.excludedResources).shouldInclude = .ok prioritized →
      ∃ l₁ l₂, prioritized = l₁ ++ l₂ ∧
        (∀ gr ∈ l₁, parseGroupResource gr.string ≠ Kuberesource.persistentVolumeClaims) ∧
        ∀ gr ∈ l₂, parseGroupResource gr.string ≠ Kuberesource.persistentVolumes) :
    ClaimsUnbound reader (kr.restore restore backup reader actions {}).state := by
  refine (restore_triple claimsUnbound_plainKeeps claimsUnbound_readsLog noClaimCreated_plainKeeps
    (fun selector prioritized resolved restorer _ hprio _ => ?_) {} (fun _ h => nomatch h)
    (fun _ h => nomatch h)).state
  obtain ⟨l₁, l₂, rfl, h₁, h₂⟩ := hord prioritized hprio
  let ctx : Context := ⟨kr, reader, backup, restore, l₁ ++ l₂, selector, resolved, restorer⟩
  exact restoreResources_phases (fun _ => NoClaimCreated.claimsUnbound)
    (@walkKeeps_noClaimCreated ctx _ h₁) (@walkKeeps_claimsUnbound ctx _ h₂) {}

/-- An archive holding a PersistentVolume left to provisioning and a claim bound to it. -/
def provisioningArchive : Reader :=
  archiveOf [(⟨"persistentvolumes", "", "pv-1.json"⟩, persistentVolumeDoc "pv-1" "Delete"),
    (⟨"persistentvolumeclaims", "ns-1", "claim-1.json"⟩, claimDoc "claim-1" (.str "pv-1"))]

/-- A restorer of claims and volumes with the priorities `priorities`. -/
def provisioningRestorer (priorities : List String) : KubernetesRestorer :=
  { restorerOf ["persistentvolumeclaims", "persistentvolumes"] (grantingCluster .created) none with
    resourcePriorities := priorities }

/-- Priorities that put persistentvolumes ahead of persistentvolumeclaims. -/
theorem restore_unbinds_prioritized_claims :
    ClaimsUnbound provisioningArchive
      ((provisioningRestorer ["persistentvolumes", "persistentvolumeclaims"]).restore plainRequest
        {} provisioningArchive [] {}).state :=
  restore_unbinds_provisioned_claims _ _ _ _ _ fun prioritized hprio => by
    obtain rfl : prioritized = [Kuberesource.persistentVolumes, Kuberesource.persistentVolumeClaims] :=
      Except.ok.inj (hprio.symm.trans rfl)
    exact ⟨[Kuberesource.persistentVolumes], [Kuberesource.persistentVolumeClaims], rfl,
      by decide, by decide⟩

/-- With no priorities the sorted types put persistentvolumeclaims first: the claim is created
still bound to the volume that the walk then leaves to provisioning. -/
theorem restore_creates_claim_before_volume :
    let run := (provisioningRestorer []).restore plainRequest {} provisioningArchive [] {}
    run.state.pvsToProvision = ["pv-1"] ∧
      (run.state.calls.filterMap Call.created).map (fun c => (c.1, boundVolume c.2)) =
        [(⟨"persistentvolumeclaims", "ns-1", "claim-1.json"⟩, some "pv-1")] := by
  decide

end Ark
