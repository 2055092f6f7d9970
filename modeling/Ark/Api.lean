import Ark.Json

/-!
# API types

The Kubernetes and Ark API types the restore engine reads: resource-type identities and
their string forms, label selectors, include/exclude filters, the restore request, the
backup's volume-snapshot records, and the `RestoreResult` warnings and errors are
accumulated in.
-/

namespace Ark

/-- `schema.GroupResource`. -/
structure GroupResource where
  group : String
  resource : String
  deriving DecidableEq, Repr, Inhabited

structure GroupVersion where
  group : String
  version : String
  deriving DecidableEq, Repr, Inhabited

structure GroupVersionResource where
  group : String
  version : String
  resource : String
  deriving DecidableEq, Repr, Inhabited

/-- `GroupResource.String()`. -/
def GroupResource.string (gr : GroupResource) : String :=
  if gr.group = "" then gr.resource else gr.resource ++ "." ++ gr.group

def GroupResource.withVersion (gr : GroupResource) (version : String) : GroupVersionResource :=
  ⟨gr.group, version, gr.resource⟩

def GroupVersion.withResource (gv : GroupVersion) (resource : String) : GroupVersionResource :=
  ⟨gv.group, gv.version, resource⟩

def GroupVersionResource.groupResource (gvr : GroupVersionResource) : GroupResource :=
  ⟨gvr.group, gvr.resource⟩

/-- `schema.ParseGroupResource`: the resource is what precedes the first dot. -/
def parseGroupResource (s : String) : GroupResource :=
  match s.data.span (· != '.') with
  | (_, []) => ⟨"", s⟩
  | (r, _ :: g) => ⟨String.mk g, String.mk r⟩

/-- `schema.ParseGroupVersion`: a string with two slashes or more does not parse. -/
def parseGroupVersion (gv : String) : Except String GroupVersion :=
  if gv = "" then .ok ⟨"", ""⟩ else
  match gv.data.span (· != '/') with
  | (_, []) => .ok ⟨"", gv⟩
  | (g, _ :: v) =>
    if v.contains '/' then .error s!"unexpected GroupVersion string: {gv}"
    else .ok ⟨String.mk g, String.mk v⟩

/-- Modelled from the spec: the `kuberesource` constants are not under src/; they are the
resource types the spec has the engine treat specially. -/
def Kuberesource.namespaces : GroupResource := ⟨"", "namespaces"⟩
/-- Modelled from the spec, see `Kuberesource.namespaces`. -/
def Kuberesource.pods : GroupResource := ⟨"", "pods"⟩
/-- Modelled from the spec, see `Kuberesource.namespaces`. -/
def Kuberesource.jobs : GroupResource := ⟨"batch", "jobs"⟩
/-- Modelled from the spec, see `Kuberesource.namespaces`. -/
def Kuberesource.persistentVolumes : GroupResource := ⟨"", "persistentvolumes"⟩
/-- Modelled from the spec, see `Kuberesource.namespaces`. -/
def Kuberesource.persistentVolumeClaims : GroupResource := ⟨"", "persistentvolumeclaims"⟩
/-- Modelled from the spec, see `Kuberesource.namespaces`. -/
def Kuberesource.serviceAccounts : GroupResource := ⟨"", "serviceaccounts"⟩

/-- Only the namespaces type prints as `namespaces`: any other name with that string would
need a dot in it. -/
theorem GroupResource.string_ne_namespaces {gr : GroupResource}
    (h : gr ≠ Kuberesource.namespaces) : gr.string ≠ Kuberesource.namespaces.string := by
  unfold GroupResource.string
  split
  next =>
    intro he
    exact h (by cases gr; simp_all [Kuberesource.namespaces, GroupResource.string])
  next =>
    intro he
    have hdot : '.' ∈ (gr.resource ++ "." ++ gr.group).data := by simp
    rw [he] at hdot
    exact absurd hdot (by decide)

/-- `Unstructured.GroupVersionKind().GroupVersion()`: an `apiVersion` that does not parse
gives the empty group version. -/
def Unstructured.groupVersion (u : Unstructured) : GroupVersion :=
  match parseGroupVersion u.getAPIVersion with
  | .ok gv => gv
  | .error _ => ⟨"", ""⟩

/-! ## Label selectors -/

/-- The operators `metav1.LabelSelectorAsSelector` builds requirements with. -/
inductive Operator where
  | equals
  | inValues
  | notIn
  | keyExists
  | doesNotExist
  deriving DecidableEq, Repr

structure Requirement where
  key : String
  operator : Operator
  values : List String
  deriving DecidableEq, Repr

/-- `Requirement.Matches`. -/
def Requirement.matchesLabels (r : Requirement) (ls : List (String × String)) : Bool :=
  match r.operator, ls.lookup r.key with
  | .equals, some v | .inValues, some v => r.values.contains v
  | .equals, none | .inValues, none => false
  | .notIn, some v => !r.values.contains v
  | .notIn, none => true
  | .keyExists, v => v.isSome
  | .doesNotExist, v => v.isNone

/-- A `labels.Selector`, through its `Matches` method. -/
structure Selector where
  matchesLabels : List (String × String) → Bool

/-- `labels.Everything()`. -/
def Selector.everything : Selector := ⟨fun _ => true⟩

/-- `labels.Nothing()`. -/
def Selector.nothing : Selector := ⟨fun _ => false⟩

/-- The selector of a conjunction of requirements. -/
def Selector.ofRequirements (rs : List Requirement) : Selector :=
  ⟨fun ls => rs.all (·.matchesLabels ls)⟩

structure LabelSelectorRequirement where
  key : String
  operator : String
  values : List String
  deriving DecidableEq, Repr

/-- `metav1.LabelSelector`. -/
structure LabelSelector where
  matchLabels : List (String × String) := []
  matchExpressions : List LabelSelectorRequirement := []
  deriving DecidableEq, Repr

/-! ## Label keys and values

Modelled from `k8s.io/apimachinery`'s `util/validation` and `labels` packages, which are not
under src/. Each regular expression is matched by a check on the characters. -/

/-- One character as Go's `%q` writes it: the double quote and the backslash escaped, and the
ASCII control characters as `\a`, `\b`, `\f`, `\n`, `\r`, `\t`, `\v` or `\x` and two hex
digits. Other characters are kept, where Go also escapes the non-ASCII ones that are not
printable. -/
def quoteChar (c : Char) : String :=
  match c.toNat with
  | 34 => "\\\""
  | 92 => "\\\\"
  | 7 => "\\a"
  | 8 => "\\b"
  | 12 => "\\f"
  | 10 => "\\n"
  | 13 => "\\r"
  | 9 => "\\t"
  | 11 => "\\v"
  | n => if n < 32 ∨ n = 127 then
      String.mk ('\\' :: 'x' :: Nat.toDigits 16 (n / 16) ++ Nat.toDigits 16 (n % 16))
    else c.toString

/-- Go's `%q`. -/
def quote (s : String) : String := "\"" ++ String.join (s.toList.map quoteChar) ++ "\""

/-- `validation.EmptyError`. -/
def emptyError : String := "must be non-empty"

/-- `validation.MaxLenError`. -/
def maxLenError (length : Nat) : String := s!"must be no more than {length} characters"

/-- `validation.RegexError`. -/
def regexError (msg fmt : String) : List String → String
  | [] => msg ++ " (regex used for validation is \x27" ++ fmt ++ "\x27)"
  | examples => msg ++ " (e.g. " ++ " or ".intercalate (examples.map fun e => "\x27" ++ e ++ "\x27, ") ++
      "regex used for validation is \x27" ++ fmt ++ "\x27)"

def qualifiedNameFmt : String := "([A-Za-z0-9][-A-Za-z0-9_.]*)?[A-Za-z0-9]"

def qualifiedNameErrMsg : String :=
  "must consist of alphanumeric characters, \x27-\x27, \x27_\x27 or \x27.\x27, and must start and end with an alphanumeric character"

def labelValueFmt : String := "(" ++ qualifiedNameFmt ++ ")?"

def labelValueErrMsg : String :=
  "a valid label must be an empty string or consist of alphanumeric characters, \x27-\x27, \x27_\x27 or \x27.\x27, and must start and end with an alphanumeric character"

def dns1123LabelFmt : String := "[a-z0-9]([-a-z0-9]*[a-z0-9])?"

def dns1123SubdomainFmt : String := dns1123LabelFmt ++ "(\\." ++ dns1123LabelFmt ++ ")*"

def dns1123SubdomainErrorMsg : String :=
  "a DNS-1123 subdomain must consist of lower case alphanumeric characters, \x27-\x27 or \x27.\x27, and must start and end with an alphanumeric character"

/-- A word of `first` characters at both ends and `inner` characters between: the shape of
`qualifiedNameFmt` and of `dns1123LabelFmt`. -/
def matchesWord (first inner : Char → Bool) : List Char → Bool
  | [] => false
  | c :: cs => first c && first (cs.getLastD c) && cs.all inner

/-- `qualifiedNameFmt`. -/
def isQualifiedNameWord (s : String) : Bool :=
  matchesWord Char.isAlphanum (fun c => c.isAlphanum || c = '-' || c = '_' || c = '.') s.toList

/-- `dns1123SubdomainFmt`: labels of `dns1123LabelFmt` between dots. -/
def isDNS1123SubdomainWord (s : String) : Bool :=
  (s.toList.splitOn '.').all
    (matchesWord (fun c => c.isLower || c.isDigit) fun c => c.isLower || c.isDigit || c = '-')

/-- `validation.IsDNS1123Subdomain`. -/
def isDNS1123Subdomain (value : String) : List String :=
  (if value.utf8ByteSize > 253 then [maxLenError 253] else []) ++
    if isDNS1123SubdomainWord value then []
    else [regexError dns1123SubdomainErrorMsg dns1123SubdomainFmt ["example.com"]]

/-- The name part of `validation.IsQualifiedName`. -/
def qualifiedNamePart (name : String) : List String :=
  (if name.isEmpty then ["name part " ++ emptyError]
    else if name.utf8ByteSize > 63 then ["name part " ++ maxLenError 63] else []) ++
    if isQualifiedNameWord name then []
    else ["name part " ++ regexError qualifiedNameErrMsg qualifiedNameFmt ["MyName", "my.name", "123-abc"]]

/-- `validation.IsQualifiedName`: a name with an optional DNS subdomain and a slash before it. -/
def isQualifiedName (value : String) : List String :=
  match value.toList.splitOn '/' with
  | [name] => qualifiedNamePart ⟨name⟩
  | [domain, name] =>
    (if domain.isEmpty then ["prefix part " ++ emptyError]
      else (isDNS1123Subdomain ⟨domain⟩).map ("prefix part " ++ ·)) ++ qualifiedNamePart ⟨name⟩
  | _ => ["a qualified name " ++
      regexError qualifiedNameErrMsg qualifiedNameFmt ["MyName", "my.name", "123-abc"] ++
      " with an optional DNS subdomain prefix and \x27/\x27 (e.g. \x27example.com/MyName\x27)"]

/-- `validation.IsValidLabelValue`. -/
def isValidLabelValue (value : String) : List String :=
  (if value.utf8ByteSize > 63 then [maxLenError 63] else []) ++
    if value.isEmpty || isQualifiedNameWord value then []
    else [regexError labelValueErrMsg labelValueFmt ["MyValue", "my_value", "12345"]]

/-- `labels.validateLabelKey`. -/
def validateLabelKey (k : String) : Except String Unit :=
  match isQualifiedName k with
  | [] => .ok ()
  | errs => .error ("invalid label key " ++ quote k ++ ": " ++ "; ".intercalate errs)

/-- `labels.validateLabelValue`. -/
def validateLabelValue (v : String) : Except String Unit :=
  match isValidLabelValue v with
  | [] => .ok ()
  | errs => .error ("invalid label value: " ++ quote v ++ ": " ++ "; ".intercalate errs)

/-- `labels.NewRequirement`: the key, the number of values for the operator, and each value,
in that order. The values are not sorted: a requirement only tests their membership. -/
def newRequirement (key : String) (op : Operator) (values : List String) :
    Except String Requirement := do
  validateLabelKey key
  match op with
  | .inValues | .notIn =>
    if values.isEmpty then throw "for in, notin operators, values set can not be empty"
  | .equals =>
    if values.length ≠ 1 then throw "exact-match compatibility requires one single value"
  | .keyExists | .doesNotExist =>
    if !values.isEmpty then throw "values set must be empty for exists and does not exist"
  values.forM validateLabelValue
  pure ⟨key, op, values⟩

example : (newRequirement "example.com/app" .equals ["web-1"]).toOption =
      some ⟨"example.com/app", .equals, ["web-1"]⟩ ∧
    (newRequirement "Example.com/app" .equals ["web"]).toBool = false ∧
    (newRequirement "app" .equals ["-web"]).toBool = false := by
  decide

def selectorOperator : String → Except String Operator
  | "In" => .ok .inValues
  | "NotIn" => .ok .notIn
  | "Exists" => .ok .keyExists
  | "DoesNotExist" => .ok .doesNotExist
  | op => .error s!"{op} is not a valid pod selector operator"

/-- `metav1.LabelSelectorAsSelector`: `nil` selects nothing, the empty selector
everything. -/
def labelSelectorAsSelector : Option LabelSelector → Except String Selector
  | none => .ok .nothing
  | some ls =>
    if ls.matchLabels.isEmpty && ls.matchExpressions.isEmpty then .ok .everything
    else do
      let fromLabels ← ls.matchLabels.mapM fun p => newRequirement p.1 .equals [p.2]
      let fromExpressions ← ls.matchExpressions.mapM fun e => do
        newRequirement e.key (← selectorOperator e.operator) e.values
      pure (Selector.ofRequirements (fromLabels ++ fromExpressions))

/-! ## Include/exclude filters -/

/-- Modelled from the spec: `collections.IncludesExcludes` is not under src/. The spec's
include/exclude filter: an excluded item is dropped; otherwise an item is kept when
nothing is included, when `*` is included, or when it is itself included. -/
structure IncludesExcludes where
  includes : List String := []
  excludes : List String := []
  deriving DecidableEq, Repr

/-- Modelled from the spec, see `IncludesExcludes`. -/
def IncludesExcludes.shouldInclude (ie : IncludesExcludes) (s : String) : Bool :=
  !ie.excludes.contains s && (ie.includes.isEmpty || ie.includes.contains "*" || ie.includes.contains s)

/-- Modelled from the spec: `collections.GenerateIncludesExcludes` is not under src/. Each
name is resolved through `mapFunc`; a name that resolves to the empty string is left
out, and `*` is kept as an include and left out as an exclude. -/
def generateIncludesExcludes (includes excludes : List String) (mapFunc : String → String) :
    IncludesExcludes where
  includes := includes.filterMap fun item =>
    if item = "*" then some item else if mapFunc item = "" then none else some (mapFunc item)
  excludes := excludes.filterMap fun item =>
    if item = "*" then none else if mapFunc item = "" then none else some (mapFunc item)

/-! ## Backups, restores and their results -/

/-- `api.VolumeBackupInfo`: the snapshot a persistent volume is restored from. -/
structure VolumeBackupInfo where
  snapshotID : String
  type : String
  availabilityZone : String
  iops : Option Int
  deriving DecidableEq, Repr

/-- The fields of `api.Backup` a restore reads; a `VolumeBackups` entry may be a `nil`
pointer. -/
structure Backup where
  snapshotVolumes : Option Bool := none
  volumeBackups : List (String × Option VolumeBackupInfo) := []
  deriving DecidableEq, Repr

structure RestoreSpec where
  backupName : String
  includedNamespaces : List String := []
  excludedNamespaces : List String := []
  includedResources : List String := []
  excludedResources : List String := []
  namespaceMapping : List (String × String) := []
  labelSelector : Option LabelSelector := none
  restorePVs : Option Bool := none
  includeClusterResources : Option Bool := none
  deriving DecidableEq, Repr

/-- The fields of `api.Restore` a restore reads. -/
structure Restore where
  name : String
  spec : RestoreSpec
  deriving DecidableEq, Repr

/-- `boolptr.IsSetToFalse`. -/
def isSetToFalse : Option Bool → Bool
  | some false => true
  | _ => false

/-- `api.RestoreResult`: messages for Ark itself, for cluster-scoped items and per
namespace. -/
structure RestoreResult where
  ark : List String := []
  cluster : List String := []
  namespaces : List (String × List String) := []
  deriving DecidableEq, Repr, Inhabited

/-- `m[k] = append(m[k], vs...)`. -/
def appendAt (m : List (String × List String)) (k : String) (vs : List String) :
    List (String × List String) :=
  setKey m k ((m.lookup k).getD [] ++ vs)

/-- `merge`: appends the corresponding lists of `b` to those of `a`. -/
def merge (a b : RestoreResult) : RestoreResult where
  ark := a.ark ++ b.ark
  cluster := a.cluster ++ b.cluster
  namespaces := b.namespaces.foldl (fun m p => appendAt m p.1 p.2) a.namespaces

/-- `addArkError`. -/
def addArkError (r : RestoreResult) (err : String) : RestoreResult :=
  { r with ark := r.ark ++ [err] }

/-- `addToResult`: the cluster-scoped list when `ns` is empty, else the namespace's. -/
def addToResult (r : RestoreResult) (ns : String) (err : String) : RestoreResult :=
  if ns = "" then { r with cluster := r.cluster ++ [err] }
  else { r with namespaces := appendAt r.namespaces ns [err] }


/-- `r` holds `err` in the list `addToResult r ns` appends to: the cluster-scoped list when `ns`
is empty, else the namespace's. -/
def RestoreResult.Has (r : RestoreResult) (ns err : String) : Prop :=
  if ns = "" then err ∈ r.cluster else err ∈ (r.namespaces.lookup ns).getD []

theorem getD_lookup_appendAt (m : List (String × List String)) (k k' : String)
    (vs : List String) :
    ((appendAt m k' vs).lookup k).getD [] = (m.lookup k).getD [] ++ if k = k' then vs else [] := by
  by_cases h : k = k'
  · subst h
    simp [appendAt]
  · simp [appendAt, lookup_setKey_ne _ _ h, h]

/-- `merge`'s loop over the namespaces of `b` keeps what the accumulator holds. -/
theorem mem_foldl_appendAt_of_mem {k err : String} :
    ∀ (l m : List (String × List String)), err ∈ (m.lookup k).getD [] →
      err ∈ ((l.foldl (fun m p => appendAt m p.1 p.2) m).lookup k).getD []
  | [], _, h => h
  | _ :: l, _, h => mem_foldl_appendAt_of_mem l _ (by
      rw [getD_lookup_appendAt]
      exact List.mem_append_left _ h)

/-- ... and adds what `b` holds. -/
theorem mem_foldl_appendAt_of_lookup {k err : String} :
    ∀ (l m : List (String × List String)), err ∈ (l.lookup k).getD [] →
      err ∈ ((l.foldl (fun m p => appendAt m p.1 p.2) m).lookup k).getD []
  | [], _, h => absurd h (List.not_mem_nil _)
  | (k', vs) :: l, _, h => by
    rw [lookup_cons_ite] at h
    by_cases hk : k = k'
    · rw [if_pos hk] at h
      refine mem_foldl_appendAt_of_mem l _ ?_
      rw [getD_lookup_appendAt, if_pos hk]
      exact List.mem_append_right _ h
    · rw [if_neg hk] at h
      exact mem_foldl_appendAt_of_lookup l _ h

theorem addToResult_ark (r : RestoreResult) (ns err : String) : (addToResult r ns err).ark = r.ark := by
  unfold addToResult
  split <;> rfl

theorem RestoreResult.has_addToResult (r : RestoreResult) (ns err : String) :
    (addToResult r ns err).Has ns err := by
  by_cases h : ns = "" <;> simp [Has, addToResult, getD_lookup_appendAt, h]

namespace RestoreResult.Has

variable {r a : RestoreResult} {ns err : String}

theorem addToResult (h : r.Has ns err) (ns' err' : String) : (Ark.addToResult r ns' err').Has ns err := by
  by_cases hns : ns = "" <;> by_cases hns' : ns' = "" <;>
    simp_all [Has, Ark.addToResult, getD_lookup_appendAt]

theorem merge_left (h : a.Has ns err) (b : RestoreResult) : (merge a b).Has ns err := by
  unfold Has at h ⊢
  by_cases hns : ns = ""
  · rw [if_pos hns] at h ⊢
    exact List.mem_append_left _ h
  · rw [if_neg hns] at h ⊢
    exact mem_foldl_appendAt_of_mem _ _ h

theorem merge_right (a : RestoreResult) {b : RestoreResult} (h : b.Has ns err) :
    (merge a b).Has ns err := by
  unfold Has at h ⊢
  by_cases hns : ns = ""
  · rw [if_pos hns] at h ⊢
    exact List.mem_append_right _ h
  · rw [if_neg hns] at h ⊢
    exact mem_foldl_appendAt_of_lookup _ _ h

end RestoreResult.Has

end Ark
