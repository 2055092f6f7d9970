import Ark.Api
import Mathlib.Data.List.Sort
import Mathlib.Data.String.Basic

/-!
# Resource prioritization

`prioritizeResources` turns the configured priority list and everything discovery
reports into the order the restore walks resource types in: the resolved priorities the
filter admits, in configured order, then every other admitted discovered resource
sorted by name. Its two loops and the seen-set are kept as in the Go code; the closed
form `prioritizeResources_eq` is what the results about the order are read from.
-/

namespace Ark

/-- An entry of `helper.Resources()`: a group version and the names of its resources. -/
structure APIResourceList where
  groupVersion : String
  apiResources : List String
  deriving DecidableEq, Repr

/-- The `discovery.Helper` the restorer resolves resource names through. -/
structure Helper where
  resourceFor : GroupVersionResource → Except String GroupVersionResource
  resources : List APIResourceList

/-- The order `sort.Slice` sorts the remainder by, `byName[i].String() < byName[j].String()`.
Go compares strings bytewise, which on UTF-8 is the order of their characters. -/
def GroupResource.nameLE (a b : GroupResource) : Prop := a.string.data ≤ b.string.data

instance : DecidableRel GroupResource.nameLE := fun a b =>
  inferInstanceAs (Decidable (a.string.data ≤ b.string.data))

instance : IsTotal GroupResource GroupResource.nameLE := ⟨fun a b => le_total a.string.data b.string.data⟩

instance : IsTrans GroupResource GroupResource.nameLE := ⟨fun _ _ _ => le_trans⟩

/-- `helper.ResourceFor(schema.ParseGroupResource(r).WithVersion("")).GroupResource()`. -/
def resolveGroupResource (helper : Helper) (r : String) : Except String GroupResource :=
  (helper.resourceFor ((parseGroupResource r).withVersion "")).map (·.groupResource)

/-- The first loop: each priority is resolved and, when the filter admits it, appended to
`ret` and its name inserted in `set`. -/
def resolvePriorities (helper : Helper) (includes : String → Bool) :
    List String → List GroupResource → List String →
    Except String (List GroupResource × List String)
  | [], ret, set => .ok (ret, set)
  | r :: rs, ret, set => do
    let gr ← resolveGroupResource helper r
    if !includes gr.string then resolvePriorities helper includes rs ret set
    else resolvePriorities helper includes rs (ret ++ [gr]) (set ++ [gr.string])

/-- The inner loop over the resources of one API group. -/
def collectGroup (includes : String → Bool) (set : List String) (gv : GroupVersion) :
    List String → List GroupResource → List GroupResource
  | [], byName => byName
  | name :: names, byName =>
    let gr := (gv.withResource name).groupResource
    if !includes gr.string then collectGroup includes set gv names byName
    else if !set.contains gr.string then collectGroup includes set gv names (byName ++ [gr])
    else collectGroup includes set gv names byName

/-- The second loop, over every API group discovery reported. -/
def collectDiscovered (includes : String → Bool) (set : List String) :
    List APIResourceList → List GroupResource → Except String (List GroupResource)
  | [], byName => .ok byName
  | rg :: rgs, byName => do
    let gv ← parseGroupVersion rg.groupVersion
    collectDiscovered includes set rgs (collectGroup includes set gv rg.apiResources byName)

/-- `prioritizeResources`. The filter is used only through its `ShouldInclude`. -/
def prioritizeResources (helper : Helper) (priorities : List String)
    (includedResources : String → Bool) : Except String (List GroupResource) := do
  let (ret, set) ← resolvePriorities helper includedResources priorities [] []
  let byName ← collectDiscovered includedResources set helper.resources []
  pure (ret ++ byName.insertionSort GroupResource.nameLE)

/-- Every resource discovery reports, with its multiplicity, in discovery order. -/
def discoveredResources : List APIResourceList → Except String (List GroupResource)
  | [] => .ok []
  | rg :: rgs => do
    let gv ← parseGroupVersion rg.groupVersion
    let rest ← discoveredResources rgs
    pure (rg.apiResources.map (fun name => (gv.withResource name).groupResource) ++ rest)

/-! ## The closed form -/

@[simp] theorem except_ok_bind {ε α β : Type} (a : α) (f : α → Except ε β) :
    (Except.ok a >>= f) = f a := rfl

@[simp] theorem except_error_bind {ε α β : Type} (e : ε) (f : α → Except ε β) :
    (Except.error e >>= f) = Except.error e := rfl

theorem resolvePriorities_eq (helper : Helper) (includes : String → Bool) (rs : List String)
    (ret : List GroupResource) (set : List String) :
    resolvePriorities helper includes rs ret set =
      (rs.mapM (resolveGroupResource helper)).map fun grs =>
        (ret ++ grs.filter (includes ·.string),
          set ++ (grs.filter (includes ·.string)).map (·.string)) := by
  induction rs generalizing ret set with
  | nil => rw [List.mapM_nil]; simp [resolvePriorities, Except.map, pure, Except.pure]
  | cons r rs ih =>
    rw [resolvePriorities, List.mapM_cons]
    cases resolveGroupResource helper r with
    | error e => rfl
    | ok gr =>
      simp only [except_ok_bind]
      by_cases hi : includes gr.string
      · rw [if_neg (by simpa using hi), ih]
        cases rs.mapM (resolveGroupResource helper) <;> simp [Except.map, hi]
      · rw [if_pos (by simpa using hi), ih]
        cases rs.mapM (resolveGroupResource helper) <;> simp [Except.map, hi]

theorem collectGroup_eq (includes : String → Bool) (set : List String) (gv : GroupVersion)
    (names : List String) (byName : List GroupResource) :
    collectGroup includes set gv names byName =
      byName ++ (names.map fun name => (gv.withResource name).groupResource).filter
        fun gr => includes gr.string && !set.contains gr.string := by
  induction names generalizing byName with
  | nil => simp [collectGroup]
  | cons name names ih =>
    simp only [collectGroup, ih]
    by_cases hi : includes ((gv.withResource name).groupResource).string <;>
      by_cases hs : ((gv.withResource name).groupResource).string ∈ set <;> simp [hi, hs]

theorem collectDiscovered_eq (includes : String → Bool) (set : List String)
    (rgs : List APIResourceList) (byName : List GroupResource) :
    collectDiscovered includes set rgs byName =
      (discoveredResources rgs).map fun found =>
        byName ++ found.filter fun gr => includes gr.string && !set.contains gr.string := by
  induction rgs generalizing byName with
  | nil => simp [collectDiscovered, discoveredResources, Except.map]
  | cons rg rgs ih =>
    simp only [collectDiscovered, discoveredResources]
    cases parseGroupVersion rg.groupVersion with
    | error e => rfl
    | ok gv =>
      simp only [except_ok_bind, ih, collectGroup_eq]
      cases discoveredResources rgs <;> simp [Except.map]

/-- `prioritizeResources` in closed form: the admitted resolved priorities, then the sorted
admitted discovered resources whose names are not among them. -/
theorem prioritizeResources_eq (helper : Helper) (priorities : List String)
    (includes : String → Bool) :
    prioritizeResources helper priorities includes =
      (priorities.mapM (resolveGroupResource helper)).bind fun grs =>
        (discoveredResources helper.resources).map fun found =>
          grs.filter (includes ·.string) ++
            (found.filter fun gr => includes gr.string &&
              !((grs.filter (includes ·.string)).map (·.string)).contains gr.string).insertionSort
              GroupResource.nameLE := by
  simp only [prioritizeResources, resolvePriorities_eq, collectDiscovered_eq]
  cases priorities.mapM (resolveGroupResource helper) with
  | error e => rfl
  | ok grs =>
    cases discoveredResources helper.resources with
    | error e => rfl
    | ok found => simp [Except.map, Except.bind]

theorem mapM_error_iff {α β : Type} (f : α → Except String β) (l : List α) :
    (∃ e, l.mapM f = .error e) ↔ ∃ x ∈ l, ∃ e, f x = .error e := by
  induction l with
  | nil => rw [List.mapM_nil]; simp [pure, Except.pure]
  | cons x l ih =>
    rw [List.mapM_cons]
    cases hx : f x with
    | error e => simp [hx]
    | ok y =>
      cases hl : l.mapM f <;> simp_all [Except.map, pure, Except.pure]

theorem discoveredResources_error_iff (rgs : List APIResourceList) :
    (∃ e, discoveredResources rgs = .error e) ↔
      ∃ rg ∈ rgs, ∃ e, parseGroupVersion rg.groupVersion = .error e := by
  induction rgs with
  | nil => simp [discoveredResources]
  | cons rg rgs ih =>
    simp only [discoveredResources]
    cases hg : parseGroupVersion rg.groupVersion with
    | error e => simp [hg]
    | ok gv => cases hr : discoveredResources rgs <;> simp_all [pure, Except.pure]

/-- The order the restore walks resource types in. `prioritizeResources` fails exactly when
a priority does not resolve or a discovered group version does not parse; otherwise it
returns the resolved priorities the filter admits, in configured order, followed by a
sorted permutation of the admitted discovered resources whose names none of them has. -/
theorem prioritizeResources_error_iff (helper : Helper) (priorities : List String)
    (includes : String → Bool) :
    (∃ e, prioritizeResources helper priorities includes = .error e) ↔
      (∃ r ∈ priorities, ∃ e, resolveGroupResource helper r = .error e) ∨
        ∃ rg ∈ helper.resources, ∃ e, parseGroupVersion rg.groupVersion = .error e := by
  rw [prioritizeResources_eq, ← mapM_error_iff, ← discoveredResources_error_iff]
  cases priorities.mapM (resolveGroupResource helper) with
  | error e => simp [Except.bind]
  | ok grs => cases discoveredResources helper.resources <;> simp [Except.bind, Except.map]

theorem prioritizeResources_spec (helper : Helper) (priorities : List String)
    (includes : String → Bool) :
    ((∃ e, prioritizeResources helper priorities includes = .error e) ↔
      (∃ r ∈ priorities, ∃ e, resolveGroupResource helper r = .error e) ∨
        ∃ rg ∈ helper.resources, ∃ e, parseGroupVersion rg.groupVersion = .error e) ∧
    ∀ L, prioritizeResources helper priorities includes = .ok L →
      ∃ grs found, priorities.mapM (resolveGroupResource helper) = .ok grs ∧
        discoveredResources helper.resources = .ok found ∧
        ∃ rest, L = grs.filter (includes ·.string) ++ rest ∧
          rest.Perm (found.filter fun gr => includes gr.string &&
            !((grs.filter (includes ·.string)).map (·.string)).contains gr.string) ∧
          rest.Sorted GroupResource.nameLE := by
  refine ⟨prioritizeResources_error_iff helper priorities includes, fun L hL => ?_⟩
  rw [prioritizeResources_eq] at hL
  cases hg : priorities.mapM (resolveGroupResource helper) with
  | error e => rw [hg] at hL; cases hL
  | ok grs =>
    cases hf : discoveredResources helper.resources with
    | error e => rw [hg, hf] at hL; cases hL
    | ok found =>
      rw [hg, hf] at hL
      cases hL
      exact ⟨grs, found, rfl, rfl, _, rfl, List.perm_insertionSort _ _,
        List.sorted_insertionSort _ _⟩

/-- A discovery that resolves every name to itself and reports the core pods and
namespaces. -/
def coreDiscovery : Helper where
  resourceFor gvr := .ok gvr
  resources := [⟨"v1", ["pods", "namespaces"]⟩]

/-- Two priorities naming one resource put it in the order twice, although discovery
reports it once. -/
example : ∃ L, prioritizeResources coreDiscovery ["pods", "pods"] (fun _ => true) = .ok L ∧
    ¬ L.Nodup :=
  ⟨_, rfl, by decide⟩

end Ark
