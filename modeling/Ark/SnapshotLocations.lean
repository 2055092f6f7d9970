import Ark.Controller

/-!
# Snapshot locations

`defaultAndValidateSnapshotLocations` resolves the snapshot locations a backup requests and
keeps one per provider, adds the default location of every provider none of them has, and
lists the result in the order `range` visits the providers. `collectLocations_valid` says
when its first loop reports no error, `collectLocations_kept` what it keeps, and
`defaultAndValidateSnapshotLocations_spec` puts the three loops together. A `nil` default
location is dereferenced by the last loop, and panics.
-/

namespace Ark.BackupController

theorem listerGet_ok {α : Type} {resource : String} {objects : List α} {ns name : α → String}
    {n m : String} {o : α} (h : listerGet resource objects ns name n m = .ok o) :
    o ∈ objects ∧ ns o = n ∧ name o = m := by
  unfold listerGet at h
  split at h
  next o' hf =>
    cases h
    have := List.find?_some hf
    exact ⟨List.mem_of_find?_eq_some hf, by simpa using this⟩
  next => cases h

section Collect

variable {c : Controller} {ns : String}

/-- The requested names all resolve to locations of distinct providers, but for repeats of
a name. -/
def ConflictFree (c : Controller) (ns : String) (names : List String) : Prop :=
  ∀ n₁ ∈ names, ∀ n₂ ∈ names, ∀ l₁ l₂, c.snapshotLocationLister ns n₁ = .ok l₁ →
    c.snapshotLocationLister ns n₂ = .ok l₂ → l₁.provider = l₂.provider → n₁ = n₂

/-- The locations kept per provider: each under its provider, and the one its name
resolves to. -/
def Kept (c : Controller) (ns : String) (acc : List (String × SnapshotLocation)) : Prop :=
  (acc.map (·.1)).Nodup ∧ ∀ e ∈ acc, e.2.provider = e.1 ∧ c.snapshotLocationLister ns e.2.name = .ok e.2

theorem collectLocations_errors : ∀ (names : List String) (acc : List (String × SnapshotLocation))
    (errors : List String),
    (collectLocations c ns names acc errors).2 = errors ++ (collectLocations c ns names acc []).2
  | [], _, _ => by simp [collectLocations]
  | n :: names, acc, errors => by
    simp only [collectLocations]
    split
    · rw [collectLocations_errors names acc (errors ++ _), collectLocations_errors names acc ([] ++ _)]
      simp
    · split
      · split
        · rw [collectLocations_errors names acc (errors ++ _),
            collectLocations_errors names acc ([] ++ _)]
          simp
        · exact collectLocations_errors names acc errors
      · exact collectLocations_errors names _ errors

theorem mem_of_lookup_eq_some {α β : Type} [DecidableEq α] {l : List (α × β)} {k : α} {b : β}
    (h : l.lookup k = some b) : (k, b) ∈ l := by
  obtain ⟨l₁, l₂, rfl, -⟩ := List.lookup_eq_some_iff.mp h
  simp

theorem snapshotLocationLister_name {n : String} {l : SnapshotLocation}
    (h : c.snapshotLocationLister ns n = .ok l) : l.name = n :=
  (listerGet_ok h).2.2

theorem ConflictFree.mono {S T : List String} (h : ConflictFree c ns T) (hST : ∀ x ∈ S, x ∈ T) :
    ConflictFree c ns S :=
  fun n₁ h₁ n₂ h₂ => h n₁ (hST n₁ h₁) n₂ (hST n₂ h₂)

theorem Kept.lookup {acc : List (String × SnapshotLocation)} {p : String} {pl : SnapshotLocation}
    (hk : Kept c ns acc) (h : acc.lookup p = some pl) :
    pl.provider = p ∧ c.snapshotLocationLister ns pl.name = .ok pl ∧ pl.name ∈ acc.map (·.2.name) :=
  have hm := mem_of_lookup_eq_some h
  ⟨(hk.2 _ hm).1, (hk.2 _ hm).2, List.mem_map.mpr ⟨_, hm, rfl⟩⟩

theorem Kept.append {acc : List (String × SnapshotLocation)} {l : SnapshotLocation}
    (hk : Kept c ns acc) (hnone : acc.lookup l.provider = none)
    (hl : c.snapshotLocationLister ns l.name = .ok l) : Kept c ns (acc ++ [(l.provider, l)]) := by
  have hfresh : ∀ e ∈ acc, e.1 ≠ l.provider := fun e he h => by
    simpa [h] using List.lookup_eq_none_iff.mp hnone e he
  refine ⟨?_, fun e he => (List.mem_append.mp he).elim (hk.2 e) fun h => ?_⟩
  · rw [List.map_append, List.map_singleton]
    refine List.nodup_append.mpr ⟨hk.1, List.nodup_singleton _, fun a ha hb => ?_⟩
    obtain ⟨e, he, rfl⟩ := List.mem_map.mp ha
    exact hfresh e he (List.mem_singleton.mp hb)
  · obtain rfl := List.mem_singleton.mp h
    exact ⟨rfl, hl⟩

/-- The first loop reports no error exactly when every requested name resolves, and no two
of them, nor one of them and a kept location, resolve to one provider. -/
theorem collectLocations_valid : ∀ (names : List String) (acc : List (String × SnapshotLocation)),
    Kept c ns acc → ConflictFree c ns (acc.map (·.2.name)) →
    ((collectLocations c ns names acc []).2 = [] ↔
      (∀ n ∈ names, ∃ l, c.snapshotLocationLister ns n = .ok l) ∧
        ConflictFree c ns (acc.map (·.2.name) ++ names))
  | [], acc, _, hcf => by simpa [collectLocations] using hcf
  | n :: names, acc, hk, hcf => by
    simp only [collectLocations]
    split
    next e he =>
      rw [collectLocations_errors]
      simp only [List.nil_append, List.cons_append, List.cons_ne_nil, false_iff, not_and]
      intro hres
      obtain ⟨l, hl⟩ := hres n (List.mem_cons_self _ _)
      exact absurd (he.symm.trans hl) (by simp)
    next l hl =>
    have hname := snapshotLocationLister_name hl
    split
    next pl hpl =>
      obtain ⟨hprov, hpll, hmem⟩ := hk.lookup hpl
      split
      next hne =>
        rw [collectLocations_errors]
        simp only [List.nil_append, List.cons_append, List.cons_ne_nil, false_iff, not_and]
        exact fun _ hcf' => hne (hcf' _ (List.mem_append_left _ hmem) _
          (List.mem_append_right _ (List.mem_cons_self _ _)) _ _ hpll hl (by rw [hprov]))
      next heq =>
        rw [collectLocations_valid names acc hk hcf]
        simp only [not_not] at heq
        have hsame : ∀ x, x ∈ acc.map (·.2.name) ++ n :: names ↔ x ∈ acc.map (·.2.name) ++ names :=
          fun x => by
            simp only [List.mem_append, List.mem_cons]
            exact ⟨fun h => h.elim .inl (·.elim (fun h => .inl (h ▸ heq ▸ hmem)) .inr),
              (·.imp_right .inr)⟩
        constructor
        · rintro ⟨hres, hcf'⟩
          exact ⟨fun x hx => (List.mem_cons.mp hx).elim (fun h => h ▸ ⟨l, hl⟩) (hres x),
            hcf'.mono fun x hx => (hsame x).mp hx⟩
        · rintro ⟨hres, hcf'⟩
          exact ⟨fun x hx => hres x (List.mem_cons_of_mem _ hx),
            hcf'.mono fun x hx => (hsame x).mpr hx⟩
    next hnone =>
      have hfresh : ∀ e ∈ acc, e.1 ≠ l.provider := fun e he h => by
        simpa [h] using List.lookup_eq_none_iff.mp hnone e he
      have hk' := hk.append hnone (hname ▸ hl)
      have hcf' : ConflictFree c ns ((acc ++ [(l.provider, l)]).map (·.2.name)) := by
        have hA : ∀ x ∈ acc.map (·.2.name), ∀ lx, c.snapshotLocationLister ns x = .ok lx →
            lx.provider ≠ l.provider := fun x hx lx hlx h => by
          obtain ⟨e, he, rfl⟩ := List.mem_map.mp hx
          obtain ⟨hp, hel⟩ := hk.2 e he
          exact hfresh e he (hp ▸ (Except.ok.inj (hel.symm.trans hlx)) ▸ h)
        intro x hx y hy lx ly hlx hly hp
        simp only [List.map_append, List.map_singleton, List.mem_append, List.mem_singleton,
          hname] at hx hy
        rcases hx with hx | rfl <;> rcases hy with hy | rfl
        · exact hcf x hx y hy lx ly hlx hly hp
        · exact absurd (hp.trans (Except.ok.inj (hly.symm.trans hl) ▸ rfl)) (hA x hx lx hlx)
        · exact absurd (hp.symm.trans (Except.ok.inj (hlx.symm.trans hl) ▸ rfl)) (hA y hy ly hly)
        · rfl
      rw [collectLocations_valid names _ hk' hcf']
      simp only [List.map_append, List.map_singleton, hname, List.append_assoc,
        List.singleton_append, List.mem_cons, forall_eq_or_imp]
      exact ⟨fun ⟨h₁, h₂⟩ => ⟨⟨⟨l, hl⟩, h₁⟩, h₂⟩, fun ⟨⟨_, h₁⟩, h₂⟩ => ⟨h₁, h₂⟩⟩

theorem collectLocations_kept : ∀ (names : List String) (acc : List (String × SnapshotLocation))
    (errors : List String), Kept c ns acc →
    Kept c ns (collectLocations c ns names acc errors).1 ∧
      (∀ e ∈ (collectLocations c ns names acc errors).1,
        e ∈ acc ∨ ∃ n ∈ names, c.snapshotLocationLister ns n = .ok e.2) ∧
      (∀ p ∈ acc.map (·.1), p ∈ (collectLocations c ns names acc errors).1.map (·.1)) ∧
      ∀ n ∈ names, ∀ l, c.snapshotLocationLister ns n = .ok l →
        l.provider ∈ (collectLocations c ns names acc errors).1.map (·.1)
  | [], acc, errors, hk => ⟨hk, fun e he => .inl he, fun _ h => h, fun _ h => nomatch h⟩
  | n :: names, acc, errors, hk => by
    have grow : ∀ {acc' : List (String × SnapshotLocation)} {errors' : List String},
        Kept c ns acc' → (∀ e ∈ acc', e ∈ acc ∨ c.snapshotLocationLister ns n = .ok e.2) →
        (∀ p ∈ acc.map (·.1), p ∈ acc'.map (·.1)) →
        (∀ l, c.snapshotLocationLister ns n = .ok l → l.provider ∈ acc'.map (·.1)) →
        Kept c ns (collectLocations c ns names acc' errors').1 ∧
          (∀ e ∈ (collectLocations c ns names acc' errors').1,
            e ∈ acc ∨ ∃ n' ∈ n :: names, c.snapshotLocationLister ns n' = .ok e.2) ∧
          (∀ p ∈ acc.map (·.1), p ∈ (collectLocations c ns names acc' errors').1.map (·.1)) ∧
          ∀ n' ∈ n :: names, ∀ l, c.snapshotLocationLister ns n' = .ok l →
            l.provider ∈ (collectLocations c ns names acc' errors').1.map (·.1) := by
      intro acc' errors' hk' hfrom hsub hn
      obtain ⟨h₁, h₂, h₃, h₄⟩ := collectLocations_kept names acc' errors' hk'
      refine ⟨h₁, fun e he => ?_, fun p hp => h₃ p (hsub p hp), fun n' hn' l hl => ?_⟩
      · rcases h₂ e he with h | ⟨n', hn', h⟩
        · exact (hfrom e h).imp id fun h => ⟨n, List.mem_cons_self _ _, h⟩
        · exact .inr ⟨n', List.mem_cons_of_mem _ hn', h⟩
      · rcases List.mem_cons.mp hn' with rfl | hn'
        · exact h₃ _ (hn l hl)
        · exact h₄ n' hn' l hl
    simp only [collectLocations]
    split
    next e he => exact grow hk (fun e h => .inl h) (fun _ h => h) fun l hl => by simp [he] at hl
    next l hl =>
    split
    next pl hpl =>
      have hkey : l.provider ∈ acc.map (·.1) :=
        List.mem_map.mpr ⟨_, mem_of_lookup_eq_some hpl, rfl⟩
      have hn : ∀ l', c.snapshotLocationLister ns n = .ok l' → l'.provider ∈ acc.map (·.1) :=
        fun l' hl' => Except.ok.inj (hl.symm.trans hl') ▸ hkey
      split <;> exact grow hk (fun e h => .inl h) (fun _ h => h) hn
    next hnone =>
      refine grow (hk.append hnone (snapshotLocationLister_name hl ▸ hl)) (fun e he => ?_)
        (fun p hp => by simp [hp]) fun l' hl' => by simp [Except.ok.inj (hl.symm.trans hl')]
      rcases List.mem_append.mp he with h | h
      · exact .inl h
      · exact .inr (by simp only [List.mem_singleton] at h; exact h ▸ hl)

end Collect

/-- The defaults join the kept locations under the providers they lack. -/
theorem addDefaults_spec : ∀ (defaults pl : List (String × Option SnapshotLocation)),
    (pl.map (·.1)).Nodup →
    ((addDefaults pl defaults).map (·.1)).Nodup ∧
      (∀ p, p ∈ (addDefaults pl defaults).map (·.1) ↔ p ∈ pl.map (·.1) ∨ p ∈ defaults.map (·.1)) ∧
      ∀ e ∈ addDefaults pl defaults, e ∈ pl ∨ (e ∈ defaults ∧ e.1 ∉ pl.map (·.1))
  | [], pl, hnd => ⟨hnd, fun p => by simp [addDefaults], fun e he => .inl he⟩
  | (q, d) :: defaults, pl, hnd => by
    simp only [addDefaults]
    split
    next hq =>
      have hq' : q ∈ pl.map (·.1) := by
        obtain ⟨e, he, hqe⟩ := List.lookup_isSome_iff.mp hq
        exact List.mem_map.mpr ⟨e, he, (beq_iff_eq.mp hqe).symm⟩
      obtain ⟨h₁, h₂, h₃⟩ := addDefaults_spec defaults pl hnd
      refine ⟨h₁, fun p => ?_, fun e he => (h₃ e he).imp id fun ⟨h, h'⟩ => ⟨.tail _ h, h'⟩⟩
      rw [h₂]
      simp only [List.map_cons, List.mem_cons]
      exact ⟨fun h => h.imp id .inr, fun h => h.elim .inl fun h => h.elim (fun h => .inl (h ▸ hq')) .inr⟩
    next hq =>
      have hq' : q ∉ pl.map (·.1) := fun h => hq (by
        obtain ⟨e, he, rfl⟩ := List.mem_map.mp h
        exact List.lookup_isSome_iff.mpr ⟨e, he, beq_self_eq_true _⟩)
      have hnd' : ((pl ++ [(q, d)]).map (·.1)).Nodup := by
        rw [List.map_append, List.map_singleton]
        exact List.nodup_append.mpr ⟨hnd, List.nodup_singleton _,
          fun a ha hb => hq' (by rw [List.mem_singleton.mp hb] at ha; exact ha)⟩
      obtain ⟨h₁, h₂, h₃⟩ := addDefaults_spec defaults _ hnd'
      refine ⟨h₁, fun p => ?_, fun e he => ?_⟩
      · rw [h₂]
        simp only [List.map_append, List.map_singleton, List.mem_append, List.mem_singleton,
          List.map_cons, List.mem_cons, or_assoc, List.map_nil, List.not_mem_nil, false_or]
      · rcases h₃ e he with h | ⟨h, h'⟩
        · rcases List.mem_append.mp h with h | h
          · exact .inl h
          · obtain rfl := List.mem_singleton.mp h
            exact .inr ⟨List.mem_cons_self _ _, hq'⟩
        · exact .inr ⟨.tail _ h, fun hm => h' (by simp [hm])⟩

/-- The last loop appends, in the order given, each provider's location and its name. -/
theorem appendLocations_ok (pm : List (String × Option SnapshotLocation)) (calls : List Call) :
    ∀ (ks : List String) (itm : Request), (∀ k ∈ ks, ∃ loc, pm.lookup k = some (some loc)) →
      ∃ locs, List.Forall₂ (fun k loc => pm.lookup k = some (some loc)) ks locs ∧
        appendLocations pm ks itm calls = .ok { itm with
          backup.spec.volumeSnapshotLocations :=
            itm.backup.spec.volumeSnapshotLocations ++ locs.map (·.name),
          snapshotLocations := itm.snapshotLocations ++ locs } calls
  | [], itm, _ => ⟨[], .nil, by simp [appendLocations]; rfl⟩
  | k :: ks, itm, h => by
    obtain ⟨loc, hloc⟩ := h k (List.mem_cons_self _ _)
    obtain ⟨locs, hf, hrun⟩ := appendLocations_ok pm calls ks _ fun k' hk' => h k' (.tail _ hk')
    refine ⟨loc :: locs, .cons hloc hf, ?_⟩
    simp only [appendLocations, hloc]
    rw [hrun]
    simp

section Spec

variable (c : Controller) (ns : String) (names : List String)

/-- A requested name resolves to a location of the provider `p`. -/
def Requests (p : String) : Prop :=
  ∃ n ∈ names, ∃ l, c.snapshotLocationLister ns n = .ok l ∧ l.provider = p

/-- Some requested name does not resolve, or two different ones resolve to locations of one
provider. -/
def InvalidRequest : Prop :=
  (∃ n ∈ names, ∃ e, c.snapshotLocationLister ns n = .error e) ∨
    ∃ n₁ ∈ names, ∃ n₂ ∈ names, n₁ ≠ n₂ ∧ ∃ l₁ l₂, c.snapshotLocationLister ns n₁ = .ok l₁ ∧
      c.snapshotLocationLister ns n₂ = .ok l₂ ∧ l₁.provider = l₂.provider

/-- The location a request ends up with for the provider `p`: a requested one of that
provider, or the default of a provider no requested location has. -/
def ChosenLocation (defaults : LocationMap) (p : String) (loc : SnapshotLocation) : Prop :=
  (∃ n ∈ names, c.snapshotLocationLister ns n = .ok loc ∧ loc.provider = p) ∨
    (¬Requests c ns names p ∧ (p, some loc) ∈ defaults.entries)

end Spec

theorem invalidRequest_iff {c : Controller} {ns : String} {names : List String} :
    InvalidRequest c ns names ↔
      ¬((∀ n ∈ names, ∃ l, c.snapshotLocationLister ns n = .ok l) ∧ ConflictFree c ns names) := by
  have hres : ∀ n, (∃ e, c.snapshotLocationLister ns n = .error e) ↔
      ¬∃ l, c.snapshotLocationLister ns n = .ok l := fun n => by
    cases c.snapshotLocationLister ns n <;> simp
  simp only [InvalidRequest, ConflictFree, hres, not_and_or, not_forall]
  simp only [exists_prop, ne_eq]
  constructor
  · rintro (⟨n, hn, h⟩ | ⟨n₁, h₁, n₂, h₂, hne, l₁, l₂, hl₁, hl₂, hp⟩)
    · exact .inl ⟨n, hn, h⟩
    · exact .inr ⟨n₁, h₁, n₂, h₂, l₁, l₂, hl₁, hl₂, hp, hne⟩
  · rintro (⟨n, hn, h⟩ | ⟨n₁, h₁, n₂, h₂, l₁, l₂, hl₁, hl₂, hp, hne⟩)
    · exact .inl ⟨n, hn, h⟩
    · exact .inr ⟨n₁, h₁, n₂, h₂, hne, l₁, l₂, hl₁, hl₂, hp⟩

/-- With non-`nil` defaults, `defaultAndValidateSnapshotLocations` reports errors exactly for
an invalid request, which it then leaves as it is; otherwise it appends one location per
provider requested or defaulted, the requested one where there is one, and puts their names
in the same order in the spec. -/
theorem defaultAndValidateSnapshotLocations_ok (c : Controller) (itm : Request)
    (defaults : LocationMap) (calls : List Call) (hnil : ∀ e ∈ defaults.entries, e.2.isSome) :
    ∃ itm' errors, defaultAndValidateSnapshotLocations c itm defaults calls = .ok (itm', errors) calls ∧
      (errors ≠ [] ↔ InvalidRequest c itm.backup.ns itm.backup.spec.volumeSnapshotLocations) ∧
      (errors ≠ [] → itm' = itm) ∧
      (errors = [] → ∃ providers locs, providers.Nodup ∧
        (∀ p, p ∈ providers ↔ Requests c itm.backup.ns itm.backup.spec.volumeSnapshotLocations p ∨
          p ∈ defaults.entries.map (·.1)) ∧
        List.Forall₂ (ChosenLocation c itm.backup.ns itm.backup.spec.volumeSnapshotLocations defaults)
          providers locs ∧
        itm' = { itm with
          backup.spec.volumeSnapshotLocations := locs.map (·.name)
          snapshotLocations := itm.snapshotLocations ++ locs }) := by
  have hkept : Kept c itm.backup.ns [] := ⟨List.nodup_nil, fun _ h => nomatch h⟩
  have hvalid := collectLocations_valid itm.backup.spec.volumeSnapshotLocations [] hkept
    (fun _ h => nomatch h)
  obtain ⟨hk, hfrom, -, hcover⟩ :=
    collectLocations_kept itm.backup.spec.volumeSnapshotLocations [] [] hkept
  simp only [List.map_nil, List.nil_append] at hvalid
  unfold defaultAndValidateSnapshotLocations
  generalize collectLocations c itm.backup.ns itm.backup.spec.volumeSnapshotLocations [] [] = r
    at hvalid hk hfrom hcover ⊢
  obtain ⟨pl, errors⟩ := r
  by_cases herr : errors = []
  swap
  · refine ⟨itm, errors, by simp [herr]; rfl, ?_, fun _ => rfl, fun h => absurd h herr⟩
    exact ⟨fun _ => invalidRequest_iff.mpr fun h => herr (hvalid.mpr h), fun _ => herr⟩
  subst herr
  simp only [ne_eq, not_true_eq_false, if_false]
  generalize hpl : List.map _ pl = pl'
  have hkeys : pl'.map (·.1) = pl.map (·.1) := by
    rw [← hpl, List.map_map]
    exact congrArg (List.map · pl) (funext fun ⟨_, _⟩ => rfl)
  have hpl' : ∀ e ∈ pl', ∃ e' ∈ pl, e = (e'.1, some e'.2) := by
    rw [← hpl]
    intro e he
    obtain ⟨⟨p, l⟩, h, rfl⟩ := List.mem_map.mp he
    exact ⟨_, h, rfl⟩
  obtain ⟨hnd, hmem, hent⟩ := addDefaults_spec defaults.entries pl' (hkeys ▸ hk.1)
  rw [hkeys] at hmem hent
  generalize addDefaults pl' defaults.entries = pm at hnd hmem hent ⊢
  have hperm := c.rangeOrder_perm (pm.map (·.1))
  have hrequested : ∀ p, p ∈ pl.map (·.1) ↔ Requests c itm.backup.ns itm.backup.spec.volumeSnapshotLocations p :=
    fun p => ⟨fun h => by
      obtain ⟨e, he, rfl⟩ := List.mem_map.mp h
      obtain ⟨n, hn, hl⟩ := (hfrom e he).resolve_left (fun h => nomatch h)
      exact ⟨n, hn, e.2, hl, (hk.2 e he).1⟩,
    fun ⟨n, hn, l, hl, hp⟩ => hp ▸ hcover n hn l hl⟩
  have hchosen : ∀ k loc, pm.lookup k = some (some loc) →
      ChosenLocation c itm.backup.ns itm.backup.spec.volumeSnapshotLocations defaults k loc := by
    intro k loc h
    rcases hent _ (mem_of_lookup_eq_some h) with h | ⟨h, hk'⟩
    · obtain ⟨e, he, heq⟩ := hpl' _ h
      simp only [Prod.mk.injEq, Option.some.injEq] at heq
      obtain ⟨rfl, rfl⟩ := heq
      obtain ⟨n, hn, hl⟩ := (hfrom e he).resolve_left (fun h => nomatch h)
      exact .inl ⟨n, hn, hl, (hk.2 e he).1⟩
    · exact .inr ⟨fun hr => hk' ((hrequested k).mpr hr), h⟩
  have hall : ∀ k ∈ c.rangeOrder (pm.map (·.1)), ∃ loc, pm.lookup k = some (some loc) := by
    intro k hk'
    obtain ⟨e, he, rfl⟩ := List.mem_map.mp (hperm.mem_iff.mp hk')
    obtain ⟨v, hv⟩ := Option.isSome_iff_exists.mp
      (List.lookup_isSome_iff.mpr ⟨e, he, beq_self_eq_true _⟩)
    rcases hent _ (mem_of_lookup_eq_some hv) with h | ⟨h, -⟩
    · obtain ⟨e', -, heq⟩ := hpl' _ h
      simp only [Prod.mk.injEq] at heq
      exact ⟨e'.2, hv.trans (congrArg some heq.2)⟩
    · obtain ⟨loc, hloc⟩ := Option.isSome_iff_exists.mp (hnil _ h)
      exact ⟨loc, hv.trans (congrArg some hloc)⟩
  obtain ⟨locs, hf, hrun⟩ := appendLocations_ok pm calls _
    { itm with backup.spec.volumeSnapshotLocations := [] } hall
  refine ⟨_, [], ?_,
    ⟨fun h => absurd rfl h, fun h => absurd (hvalid.mp rfl) (invalidRequest_iff.mp h)⟩,
    fun h => absurd rfl h, fun _ => ⟨_, locs, hperm.nodup_iff.mpr hnd,
    fun p => by rw [hperm.mem_iff, hmem, hrequested], hf.imp fun {k loc} => hchosen k loc, rfl⟩⟩
  simp only [bind, EStateM.bind, hrun, List.nil_append]
  rfl

/-- With non-`nil` defaults and no snapshot locations yet, `defaultAndValidateSnapshotLocations`
reports errors exactly for an invalid request, which it then leaves as it is; otherwise it
gives the request one location per provider requested or defaulted, the requested one where
there is one, and their names in the same order. -/
theorem defaultAndValidateSnapshotLocations_spec (c : Controller) (itm : Request)
    (defaults : LocationMap) (calls : List Call) (hnil : ∀ e ∈ defaults.entries, e.2.isSome)
    (hempty : itm.snapshotLocations = []) :
    ∃ itm' errors, defaultAndValidateSnapshotLocations c itm defaults calls = .ok (itm', errors) calls ∧
      (errors ≠ [] ↔ InvalidRequest c itm.backup.ns itm.backup.spec.volumeSnapshotLocations) ∧
      (errors ≠ [] → itm' = itm) ∧
      (errors = [] → ∃ providers : List String, providers.Nodup ∧
        (∀ p, p ∈ providers ↔ Requests c itm.backup.ns itm.backup.spec.volumeSnapshotLocations p ∨
          p ∈ defaults.entries.map (·.1)) ∧
        List.Forall₂ (ChosenLocation c itm.backup.ns itm.backup.spec.volumeSnapshotLocations defaults)
          providers itm'.snapshotLocations ∧
        itm' = { itm with
          backup.spec.volumeSnapshotLocations := itm'.snapshotLocations.map (·.name)
          snapshotLocations := itm'.snapshotLocations }) := by
  obtain ⟨itm', errors, hrun, hiff, hinvalid, hvalid⟩ :=
    defaultAndValidateSnapshotLocations_ok c itm defaults calls hnil
  refine ⟨itm', errors, hrun, hiff, hinvalid, fun h => ?_⟩
  obtain ⟨providers, locs, hnd, hmem, hf, rfl⟩ := hvalid h
  rw [hempty, List.nil_append]
  exact ⟨providers, hnd, hmem, hf, rfl⟩
/-! ## Fixed controllers -/

/-- A new backup `backup-1` in namespace `heptio-ark`. -/
def newBackup : Backup := { ns := "heptio-ark", name := "backup-1", status := { phase := .new } }

/-- A controller whose cache holds `cached`, whose API server stores `cached` and accepts
every patch, and whose other collaborators succeed, but for the tarball's `Stat`, which
answers `stat`. Its one storage location is the default, and it has no snapshot
locations. -/
def fixedController (cached : Backup) (stat : Except String Unit) : Controller where
  backups := [cached]
  validateIncludesExcludes _ _ := []
  backupLocations := [⟨"heptio-ark", "default"⟩]
  defaultBackupLocation := "default"
  snapshotLocations := []
  defaultSnapshotLocations := ⟨[], List.nodup_nil⟩
  rangeOrder := id
  rangeOrder_perm _ := List.Perm.refl _
  stored _ _ _ := .ok cached
  tempFile _ := .ok ()
  getBackupItemActions _ := .ok ()
  newBackupStore _ _ := .ok ()
  backup _ _ := .ok ()
  encode _ _ := .ok ()
  stat _ := stat
  putBackup _ _ _ _ := .ok ()

/-- `fixedController` with the snapshot location `aws-1` of provider `aws` cached. -/
def awsController : Controller :=
  { fixedController newBackup (.ok ()) with snapshotLocations := [⟨"heptio-ark", "aws-1", "aws"⟩] }

/-- A default map whose one location, for `gcp`, is `gcp-default`. -/
def gcpDefaults : LocationMap := ⟨[("gcp", some ⟨"heptio-ark", "gcp-default", "gcp"⟩)], by decide⟩

/-- A request for the snapshot location `aws-1`. -/
def awsRequest : Request :=
  { backup := { newBackup with spec.volumeSnapshotLocations := ["aws-1"] } }

/-- Requesting `aws-1` with a default for `gcp`: the theorem's hypotheses hold, and the run
returns. -/
theorem awsRequest_snapshotLocations :
    ∃ itm' errors, defaultAndValidateSnapshotLocations awsController awsRequest gcpDefaults [] =
        .ok (itm', errors) [] ∧
      (errors ≠ [] ↔ InvalidRequest awsController "heptio-ark" ["aws-1"]) :=
  let ⟨itm', errors, hrun, hiff, _⟩ := defaultAndValidateSnapshotLocations_spec awsController
    awsRequest gcpDefaults [] (by decide) rfl
  ⟨itm', errors, hrun, hiff⟩

/-- A default map whose one location, for `aws`, is `nil`. -/
def nilDefaults : LocationMap := ⟨[("aws", none)], by decide⟩

/-- A `nil` default location panics, on a request with no snapshot locations at all. -/
theorem defaultAndValidateSnapshotLocations_nil_default :
    (defaultAndValidateSnapshotLocations awsController { backup := newBackup } nilDefaults []).panic? =
      some "runtime error: invalid memory address or nil pointer dereference" := by
  decide

end Ark.BackupController
