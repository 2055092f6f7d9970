import Ark.Item

/-!
# A whole restore

`KubernetesRestorer.restore` validates the request (label selector, resource filter,
prioritized resources, actions), makes the restic restorer, and runs `execute`:
extract the archive, walk the prioritized resource types with `restoreFromArchive`,
and close the archive. The walk creates each target namespace before restoring into
it, waits for a resource type's readiness tasks after its namespaces, and for the
pod-volume tasks at the end.
-/

namespace Ark

/-- `restoreFromArchive`'s locals: its two results and the namespaces known to exist. -/
structure Walk where
  warnings : RestoreResult := {}
  errs : RestoreResult := {}
  existingNamespaces : List String := []

def Walk.merge (w : Walk) (r : RestoreResult × RestoreResult) : Walk :=
  { w with warnings := Ark.merge w.warnings r.1, errs := Ark.merge w.errs r.2 }

/-- A JSON map of strings as `json.Unmarshal` fills a `map[string]string` field: a `null`
value is the empty string. -/
def typedStringMap : Option Json → Except String (List (String × String))
  | none | some .null => .ok []
  | some (.obj m) =>
    match m.mapM (fun p => match p.2 with
        | .str s => some (p.1, s)
        | .null => some (p.1, "")
        | _ => none) with
    | some sm => .ok sm
    | none => .error "cannot unmarshal into Go value of type string"
  | some _ => .error "cannot unmarshal into Go value of type map[string]string"

/-- A JSON list of strings as `json.Unmarshal` fills a `[]string` field: a `null` element is
the empty string. -/
def typedStringList : Option Json → Except String (List String)
  | none | some .null => .ok []
  | some (.arr xs) =>
    match xs.mapM (fun x => match x with | .str s => some s | .null => some "" | _ => none) with
    | some l => .ok l
    | none => .error "cannot unmarshal into Go value of type string"
  | some _ => .error "cannot unmarshal into Go value of type []string"

/-- `json.Unmarshal` into a `v1.Namespace`, for the fields `getNamespace` keeps: `null`
leaves the zero value, a value of another JSON type is an error. -/
def decodeNamespace : Blob → Except String Namespace
  | .json .null => .ok { name := "" }
  | .json (.obj m) => do
    let metadata ← match m.lookup "metadata" with
      | none | some .null => pure []
      | some (.obj mm) => pure mm
      | some _ => .error "cannot unmarshal into Go value of type v1.ObjectMeta"
    let spec ← match m.lookup "spec" with
      | none | some .null => pure []
      | some (.obj sm) => pure sm
      | some _ => .error "cannot unmarshal into Go value of type v1.NamespaceSpec"
    pure { name := "", labels := ← typedStringMap (metadata.lookup "labels"),
           annotations := ← typedStringMap (metadata.lookup "annotations"),
           finalizers := ← typedStringList (spec.lookup "finalizers") }
  | .json _ => .error "cannot unmarshal into Go value of type v1.Namespace"
  | .malformed => .error "invalid character looking for beginning of value"

/-- `getNamespace`: the backed-up namespace's labels, annotations and spec under the target
name, or a bare namespace when it is missing from the archive or does not decode. -/
def getNamespace (ctx : Context) (nsName remappedName : String) : M Namespace := do
  let origin : Origin := ⟨"namespaces", "", nsName ++ ".json"⟩
  match ← call (fun _ => ctx.reader.get origin.resource origin.ns origin.file)
      (fun _ => .get origin) with
  | .error _ => pure { name := remappedName }
  | .ok nsBytes =>
    match decodeNamespace nsBytes with
    | .error _ => pure { name := remappedName }
    | .ok backupNS => pure { backupNS with name := remappedName }

/-- The namespace branch of the walk: a target namespace not yet known to exist is
fetched from the archive and ensured; on failure the archive namespace is skipped. -/
def ensureNamespace (ctx : Context) (nsName mappedNsName : String) (w : Walk) :
    M (Except Walk Walk) :=
  if mappedNsName ∈ w.existingNamespaces then pure (.ok w) else do
    let ns ← getNamespace ctx nsName mappedNsName
    match ← call (ctx.kr.cluster.ensureNamespaceExists · ns) (.ensureNamespaceExists ns) with
    | .error e => pure (.error { w with errs := addArkError w.errs e })
    | .ok _ => pure (.ok { w with existingNamespaces := w.existingNamespaces.insert mappedNsName })

/-- The loop over the archive namespaces of a namespace-scoped resource type. The items are
restored with the mapped namespace as `restoreResource`'s namespace. -/
def restoreNamespaces (ctx : Context) (namespaceFilter : IncludesExcludes)
    (resource : GroupResource) : List String → Walk → M Walk
  | [], w => pure w
  | nsName :: rest, w =>
    if !namespaceFilter.shouldInclude nsName then restoreNamespaces ctx namespaceFilter resource rest w
    else do
      let mappedNsName := (ctx.restore.spec.namespaceMapping.lookup nsName).getD nsName
      match ← ensureNamespace ctx nsName mappedNsName w with
      | .error w => restoreNamespaces ctx namespaceFilter resource rest w
      | .ok w => do
        let r ← restoreResource ctx resource.string mappedNsName
        restoreNamespaces ctx namespaceFilter resource rest (w.merge r)

/-- The readiness tasks run to their end. A task's timeout warning is added to the
`warnings` of the `restoreResource` call that spawned it, which has returned by now. -/
def runReadinessTasks (ctx : Context) : List String → M Unit
  | [] => pure ()
  | name :: names => do
    let _ ← call (ctx.kr.cluster.waitForReady · name) (.waitForReady name)
    runReadinessTasks ctx names

/-- `ctx.resourceWaitGroup.Wait()`. -/
def waitResourceTasks (ctx : Context) : M Unit := do
  let s ← get
  set { s with resourceTasks := [] }
  runReadinessTasks ctx s.resourceTasks

/-- `ctx.globalWaitGroup.Wait()`: the errors of the pod-volume tasks started since the last
wait. -/
def waitGlobalTasks : M (List String) := do
  let s ← get
  set { s with globalTasks := [] }
  pure s.globalTasks.flatten

/-- The loop over the prioritized resource types. `Flow.stop` is an early `return` of
`restoreFromArchive`, which skips the waits. A cluster-scoped type goes straight to the
next type, without waiting for its readiness tasks. -/
def restoreResources (ctx : Context) (namespaceFilter : IncludesExcludes) :
    List GroupResource → Walk → M (Flow × Walk)
  | [], w => pure (.next, w)
  | resource :: rest, w =>
    if resource = Kuberesource.namespaces then restoreResources ctx namespaceFilter rest w
    else do
      match ← call (fun _ => ctx.reader.getResourceScope resource.string)
          (fun _ => .getResourceScope resource.string) with
      | .error e => pure (.stop, { w with errs := addArkError w.errs e })
      | .ok none => restoreResources ctx namespaceFilter rest w
      | .ok (some .cluster) => do
        let r ← restoreResource ctx resource.string ""
        restoreResources ctx namespaceFilter rest (w.merge r)
      | .ok (some .namespaced) => do
        match ← call (fun _ => ctx.reader.listNamespaces resource.string)
            (fun _ => .listNamespaces resource.string) with
        | .error e => pure (.stop, { w with errs := addArkError w.errs e })
        | .ok namespaces => do
          let w ← restoreNamespaces ctx namespaceFilter resource namespaces w
          waitResourceTasks ctx
          restoreResources ctx namespaceFilter rest w

def stopWatches : List Client → M Unit
  | [] => pure ()
  | watch :: watches => do
    let _ ← call (fun _ => ()) (fun _ => .stopWatch watch)
    stopWatches watches

/-- `restoreFromArchive`; its deferred function stops the watches on both exits. -/
def restoreFromArchive (ctx : Context) : M (RestoreResult × RestoreResult) := do
  let namespaceFilter : IncludesExcludes :=
    ⟨ctx.restore.spec.includedNamespaces, ctx.restore.spec.excludedNamespaces⟩
  let (flow, w) ← restoreResources ctx namespaceFilter ctx.prioritizedResources {}
  let errs ← match flow with
    | .stop => pure w.errs
    | .next => do
      let waitErrs ← waitGlobalTasks
      pure { w.errs with ark := w.errs.ark ++ waitErrs }
  stopWatches (← get).resourceWatches
  pure (w.warnings, errs)

/-- `context.execute`: the archive is extracted, restored from and closed. -/
def execute (ctx : Context) : M (RestoreResult × RestoreResult) := do
  match ← call (fun _ => ctx.reader.extract) .extract with
  | .error e => pure ({}, { ark := [e] })
  | .ok () => do
    let r ← restoreFromArchive ctx
    let _ ← call (fun _ => ()) (fun _ => .close)
    pure r

/-- `getResourceIncludesExcludes`: a name discovery cannot resolve maps to the empty
string. -/
def getResourceIncludesExcludes (helper : Helper) (includes excludes : List String) :
    IncludesExcludes :=
  generateIncludesExcludes includes excludes fun item =>
    match resolveGroupResource helper item with
    | .error _ => ""
    | .ok gr => gr.string

/-- `resolveActions`; `index` numbers the actions in the order given. -/
def resolveActions (kr : KubernetesRestorer) : List ItemAction → Nat →
    Except String (List ResolvedAction)
  | [], _ => .ok []
  | action :: actions, index => do
    let resourceSelector ← action.appliesTo
    let resources := getResourceIncludesExcludes kr.discoveryHelper
      resourceSelector.includedResources resourceSelector.excludedResources
    let namespaces : IncludesExcludes :=
      ⟨resourceSelector.includedNamespaces, resourceSelector.excludedNamespaces⟩
    let selector ← if resourceSelector.labelSelector = "" then pure Selector.everything
      else kr.parseSelector resourceSelector.labelSelector
    let rest ← resolveActions kr actions (index + 1)
    pure (⟨index, action, resources, namespaces, selector⟩ :: rest)

/-- The restic restorer of a restore, when a factory is configured. -/
def newResticRestorer (kr : KubernetesRestorer) (restore : Restore) :
    M (Except String (Option ResticRestorerFactory)) :=
  match kr.resticRestorerFactory with
  | none => pure (.ok none)
  | some factory => do
    match ← call (factory.newRestorer · restore) .newRestorer with
    | .error e => pure (.error e)
    | .ok () => pure (.ok (some factory))

/-- `kubernetesRestorer.Restore`. The pod-volume timeout only bounds the restic
restorer's tasks and is left out. -/
def KubernetesRestorer.restore (kr : KubernetesRestorer) (restore : Restore) (backup : Backup)
    (backupReader : Reader) (actions : List ItemAction) : M (RestoreResult × RestoreResult) :=
  match labelSelectorAsSelector (some (restore.spec.labelSelector.getD {})) with
  | .error e => pure ({}, { ark := [e] })
  | .ok selector =>
    let resourceIncludesExcludes := getResourceIncludesExcludes kr.discoveryHelper
      restore.spec.includedResources restore.spec.excludedResources
    match prioritizeResources kr.discoveryHelper kr.resourcePriorities
        resourceIncludesExcludes.shouldInclude with
    | .error e => pure ({}, { ark := [e] })
    | .ok prioritizedResources =>
      match resolveActions kr actions 0 with
      | .error e => pure ({}, { ark := [e] })
      | .ok resolvedActions => do
        match ← newResticRestorer kr restore with
        | .error e => pure ({}, { ark := [e] })
        | .ok resticRestorer =>
          execute ⟨kr, backupReader, backup, restore, prioritizedResources, selector,
            resolvedActions, resticRestorer⟩

end Ark
