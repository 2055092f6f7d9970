import Ark.RestoreSpec

/-!
# Validation of a restore request

`Restore` checks the request and its collaborators before it reads the archive or calls the
cluster: the label selector, the resource priorities and the discovery they are resolved
against, and the item actions. A failure there ends the restore with one Ark error and no
call. A name in the request's or an action's resource filter that discovery cannot resolve
is not such a failure: `getResourceIncludesExcludes` maps it to the empty string, which the
filter drops.
-/

namespace Ark

theorem mapM_error_of_mem {α β : Type} {f : α → Except String β} :
    ∀ {l : List α} {x : α}, x ∈ l → (∃ e, f x = .error e) → ∃ e, l.mapM f = .error e
  | a :: l, x, hx, ⟨e, he⟩ => by
    simp only [List.mapM_cons]
    rcases List.mem_cons.mp hx with rfl | hx
    · exact ⟨e, by rw [he]; rfl⟩
    · cases hfa : f a with
      | error e' => exact ⟨e', rfl⟩
      | ok b =>
        obtain ⟨e', he'⟩ := mapM_error_of_mem hx ⟨e, he⟩
        exact ⟨e', by simp only [he']; rfl⟩

/-- A label selector with a `matchLabels` key that is not a qualified name, or a value that is
not a valid label value, does not convert. -/
theorem labelSelectorAsSelector_error_of_invalid_label {ls : LabelSelector} {k v : String}
    (hm : (k, v) ∈ ls.matchLabels) (h : isQualifiedName k ≠ [] ∨ isValidLabelValue v ≠ []) :
    ∃ e, labelSelectorAsSelector (some ls) = .error e := by
  have hreq : ∃ e, newRequirement k .equals [v] = .error e := by
    rcases hk : isQualifiedName k with _ | ⟨err, errs⟩
    · rcases hv : isValidLabelValue v with _ | ⟨err, errs⟩
      · simp [hk, hv] at h
      have hkey : validateLabelKey k = .ok () := by simp [validateLabelKey, hk]
      have hval : validateLabelValue v =
          .error ("invalid label value: " ++ quote v ++ ": " ++ "; ".intercalate (err :: errs)) := by
        simp only [validateLabelValue, hv]
      exact ⟨_, by simp [newRequirement, hkey, hval]; rfl⟩
    · have hkey : validateLabelKey k =
          .error ("invalid label key " ++ quote k ++ ": " ++ "; ".intercalate (err :: errs)) := by
        simp only [validateLabelKey, hk]
      exact ⟨_, by unfold newRequirement; rw [hkey]; rfl⟩
  obtain ⟨e, he⟩ := mapM_error_of_mem (f := fun p => newRequirement p.1 .equals [p.2]) hm hreq
  have hne : ls.matchLabels.isEmpty = false := by
    cases hl : ls.matchLabels with
    | nil => rw [hl] at hm; cases hm
    | cons _ _ => rfl
  exact ⟨e, by simp only [labelSelectorAsSelector, hne, Bool.false_and, if_false, he]; rfl⟩

/-- An item action `resolveActions` rejects: its `AppliesTo` fails, or its label selector is
not empty and does not parse. -/
def ItemAction.Invalid (kr : KubernetesRestorer) (a : ItemAction) : Prop :=
  (∃ e, a.appliesTo = .error e) ∨ ∃ sel e, a.appliesTo = .ok sel ∧ sel.labelSelector ≠ "" ∧
    kr.parseSelector sel.labelSelector = .error e

theorem resolveActions_error {kr : KubernetesRestorer} :
    ∀ {actions : List ItemAction} {index : Nat}, (∃ a ∈ actions, a.Invalid kr) →
      ∃ e, resolveActions kr actions index = .error e
  | a :: as, index, ⟨b, hb, hinv⟩ => by
    simp only [resolveActions]
    cases hap : a.appliesTo with
    | error e => exact ⟨e, rfl⟩
    | ok sel =>
      have hfail : (sel.labelSelector ≠ "" ∧ ∃ e, kr.parseSelector sel.labelSelector = .error e) ∨
          ∃ e, resolveActions kr as (index + 1) = .error e := by
        rcases List.mem_cons.mp hb with rfl | hb
        · rcases hinv with ⟨e, he⟩ | ⟨sel', e, he, hne, hp⟩ <;> rw [hap] at he <;> cases he
          exact .inl ⟨hne, e, hp⟩
        · exact .inr (resolveActions_error ⟨b, hb, hinv⟩)
      by_cases hs : sel.labelSelector = ""
      · obtain ⟨e, he⟩ := hfail.resolve_left fun h => h.1 hs
        exact ⟨e, by simp [hs, he]⟩
      · cases hp : kr.parseSelector sel.labelSelector with
        | error e => exact ⟨e, by simp [hs, hp]⟩
        | ok selector =>
          obtain ⟨e, he⟩ := hfail.resolve_left fun ⟨_, e, h⟩ => by rw [hp] at h; cases h
          exact ⟨e, by simp [hs, hp, he]⟩

/-- A request with an invalid label selector, a priority discovery cannot resolve, a
discovered group version that does not parse, or an invalid item action ends `Restore` with
exactly one Ark error, no warning, and the state it started in: no call was made. -/
theorem restore_rejects_invalid_request (kr : KubernetesRestorer) (restore : Restore)
    (backup : Backup) (reader : Reader) (actions : List ItemAction) (s : State)
    (h : (∃ e, labelSelectorAsSelector (some (restore.spec.labelSelector.getD {})) = .error e) ∨
      (∃ p ∈ kr.resourcePriorities, ∃ e, resolveGroupResource kr.discoveryHelper p = .error e) ∨
      (∃ g ∈ kr.discoveryHelper.resources, ∃ e, parseGroupVersion g.groupVersion = .error e) ∨
      ∃ a ∈ actions, a.Invalid kr) :
    ∃ e, kr.restore restore backup reader actions s = .ok ({}, { ark := [e] }) s := by
  unfold KubernetesRestorer.restore
  cases hsel : labelSelectorAsSelector (some (restore.spec.labelSelector.getD {})) with
  | error e => exact ⟨e, rfl⟩
  | ok selector =>
    dsimp only
    cases hprio : prioritizeResources kr.discoveryHelper kr.resourcePriorities
      (getResourceIncludesExcludes kr.discoveryHelper restore.spec.includedResources
        restore.spec.excludedResources).shouldInclude with
    | error e => exact ⟨e, rfl⟩
    | ok prioritized =>
      have hact : ∃ a ∈ actions, a.Invalid kr := by
        rcases h with ⟨e, he⟩ | hp | hg | ha
        · rw [hsel] at he; cases he
        · obtain ⟨e, he⟩ := (prioritizeResources_error_iff _ _ _).mpr (.inl hp)
          rw [hprio] at he; cases he
        · obtain ⟨e, he⟩ := (prioritizeResources_error_iff _ _ _).mpr (.inr hg)
          rw [hprio] at he; cases he
        · exact ha
      obtain ⟨e, he⟩ := @resolveActions_error kr actions 0 hact
      exact ⟨e, by simp only [he]; rfl⟩

/-- A priority that discovery cannot resolve. -/
theorem restore_rejects_unresolvable_priority :
    (∃ e, resolveGroupResource (coreTypes ["pods"]) "podz" = .error e) ∧
      ∃ e, { restorerOf ["pods"] (grantingCluster .created) none with
          resourcePriorities := ["podz"] }.restore ⟨"restore-1", { backupName := "backup-1" }⟩ {}
          (archiveOf []) [] {} = .ok ({}, { ark := [e] }) {} :=
  ⟨⟨_, rfl⟩, restore_rejects_invalid_request _ _ _ _ _ _ (.inr (.inl ⟨"podz", by decide, _, rfl⟩))⟩

/-- A request whose only included resource discovery cannot resolve is not rejected: the
name is dropped, the filter then admits every type, and the archive's pod is created. -/
theorem restore_drops_unresolvable_include :
    (∃ e, resolveGroupResource (coreTypes ["pods"]) "podz" = .error e) ∧
      (((restorerOf ["pods"] (grantingCluster .created) none).restore
        ⟨"restore-1", { backupName := "backup-1", includedResources := ["podz"] }⟩ {}
        (archiveOf [(⟨"pods", "ns-1", "pod-1.json"⟩, podDoc "pod-1" "ns-1")]) [] {}).state.calls.filterMap
          Call.created).map (·.1) = [⟨"pods", "ns-1", "pod-1.json"⟩] :=
  ⟨⟨_, rfl⟩, by decide⟩

end Ark
