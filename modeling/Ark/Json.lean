import Mathlib.Data.List.Basic

/-!
# Unstructured documents

The restore engine handles every backed-up item as an untyped JSON document, an
`unstructured.Unstructured` over a Go `map[string]interface{}`. A document is a `Json`
value here; a Go map is an association list whose first binding of a key is the live
one, and a Go `nil` inside a document is `Json.null`. The accessors are those of the
apimachinery `unstructured` package and of Ark's `collections` package that the engine
reads and writes items through, with their not-found and wrong-type outcomes.
-/

namespace Ark

inductive Json where
  | null
  | bool (b : Bool)
  | num (n : Int)
  | str (s : String)
  | arr (items : List Json)
  | obj (fields : List (String × Json))
  deriving Repr, Inhabited

mutual
def Json.beq : Json → Json → Bool
  | .null, .null => true
  | .bool a, .bool b => a == b
  | .num a, .num b => a == b
  | .str a, .str b => a == b
  | .arr as, .arr bs => Json.beqItems as bs
  | .obj fs, .obj gs => Json.beqFields fs gs
  | _, _ => false
def Json.beqItems : List Json → List Json → Bool
  | [], [] => true
  | [], _ :: _ | _ :: _, [] => false
  | a :: as, b :: bs => Json.beq a b && Json.beqItems as bs
def Json.beqFields : List (String × Json) → List (String × Json) → Bool
  | [], [] => true
  | [], _ :: _ | _ :: _, [] => false
  | (k, a) :: fs, (l, b) :: gs => k == l && Json.beq a b && Json.beqFields fs gs
end

mutual
theorem Json.eq_of_beq : ∀ {a b : Json}, a.beq b = true → a = b
  | .null, b, h => by cases b <;> first | rfl | cases h
  | .bool _, b, h => by cases b <;> first | cases h | exact congrArg Json.bool (LawfulBEq.eq_of_beq h)
  | .num _, b, h => by cases b <;> first | cases h | exact congrArg Json.num (LawfulBEq.eq_of_beq h)
  | .str _, b, h => by cases b <;> first | cases h | exact congrArg Json.str (LawfulBEq.eq_of_beq h)
  | .arr _, b, h => by cases b <;> first | cases h | exact congrArg Json.arr (Json.eq_of_beqItems h)
  | .obj _, b, h => by cases b <;> first | cases h | exact congrArg Json.obj (Json.eq_of_beqFields h)
theorem Json.eq_of_beqItems : ∀ {as bs : List Json}, Json.beqItems as bs = true → as = bs
  | [], [], _ => rfl
  | [], _ :: _, h | _ :: _, [], h => by cases h
  | _ :: _, _ :: _, h => by
    simp only [Json.beqItems, Bool.and_eq_true] at h
    rw [Json.eq_of_beq h.1, Json.eq_of_beqItems h.2]
theorem Json.eq_of_beqFields : ∀ {fs gs : List (String × Json)}, Json.beqFields fs gs = true → fs = gs
  | [], [], _ => rfl
  | [], _ :: _, h | _ :: _, [], h => by cases h
  | (_, _) :: _, (_, _) :: _, h => by
    simp only [Json.beqFields, Bool.and_eq_true, beq_iff_eq] at h
    rw [h.1.1, Json.eq_of_beq h.1.2, Json.eq_of_beqFields h.2]
end

mutual
theorem Json.beq_self : ∀ a : Json, a.beq a = true
  | .null => rfl
  | .bool a => beq_self_eq_true a
  | .num a => beq_self_eq_true a
  | .str a => beq_self_eq_true a
  | .arr as => Json.beqItems_self as
  | .obj fs => Json.beqFields_self fs
theorem Json.beqItems_self : ∀ as : List Json, Json.beqItems as as = true
  | [] => rfl
  | a :: as => by simp only [Json.beqItems, Json.beq_self a, Json.beqItems_self as, Bool.and_self]
theorem Json.beqFields_self : ∀ fs : List (String × Json), Json.beqFields fs fs = true
  | [] => rfl
  | (_, a) :: fs => by
    simp only [Json.beqFields, beq_self_eq_true, Json.beq_self a, Json.beqFields_self fs,
      Bool.and_self]
end

instance : DecidableEq Json := fun a b =>
  decidable_of_iff (a.beq b = true) ⟨Json.eq_of_beq, fun h => h ▸ Json.beq_self a⟩

/-! ## Go maps -/

section Maps

variable {α : Type}

/-- `delete(m, k)`. -/
def deleteKey (m : List (String × α)) (k : String) : List (String × α) :=
  m.filter (·.1 != k)

/-- `m[k] = v`: the first binding of `k` is replaced and later ones dropped, or the
binding is appended. -/
def setKey : List (String × α) → String → α → List (String × α)
  | [], k, v => [(k, v)]
  | (k', v') :: m, k, v => if k' = k then (k, v) :: deleteKey m k else (k', v') :: setKey m k v

theorem lookup_cons_ite (m : List (String × α)) (k k0 : String) (v0 : α) :
    ((k0, v0) :: m).lookup k = if k = k0 then some v0 else m.lookup k := by
  simp only [List.lookup_cons]
  split <;> simp_all

@[simp] theorem lookup_deleteKey_self (m : List (String × α)) (k : String) :
    (deleteKey m k).lookup k = none := by
  induction m with
  | nil => rfl
  | cons p m ih =>
    obtain ⟨k0, v0⟩ := p
    by_cases h : k0 = k
    · simpa [deleteKey, h] using ih
    · simpa [deleteKey, h, lookup_cons_ite, Ne.symm h] using ih

theorem lookup_deleteKey_ne (m : List (String × α)) {k k' : String} (h : k' ≠ k) :
    (deleteKey m k).lookup k' = m.lookup k' := by
  induction m with
  | nil => rfl
  | cons p m ih =>
    obtain ⟨k0, v0⟩ := p
    by_cases hp : k0 = k
    · simpa [deleteKey, lookup_cons_ite, hp, h] using ih
    · simp only [deleteKey] at ih ⊢
      simp [hp, lookup_cons_ite, ih]

@[simp] theorem lookup_setKey_self (m : List (String × α)) (k : String) (v : α) :
    (setKey m k v).lookup k = some v := by
  induction m with
  | nil => simp [setKey]
  | cons p m ih =>
    obtain ⟨k0, v0⟩ := p
    by_cases h : k0 = k
    · simp [setKey, h]
    · simp [setKey, h, lookup_cons_ite, Ne.symm h, ih]

theorem lookup_setKey_ne (m : List (String × α)) {k k' : String} (v : α) (h : k' ≠ k) :
    (setKey m k v).lookup k' = m.lookup k' := by
  induction m with
  | nil => simp [setKey, lookup_cons_ite, h]
  | cons p m ih =>
    obtain ⟨k0, v0⟩ := p
    by_cases hp : k0 = k
    · subst hp
      simp [setKey, lookup_cons_ite, h, lookup_deleteKey_ne m h]
    · simp [setKey, hp, lookup_cons_ite, ih]

@[simp] theorem deleteKey_deleteKey_self (m : List (String × α)) (k : String) :
    deleteKey (deleteKey m k) k = deleteKey m k := by
  simp [deleteKey, List.filter_filter]

/-- Setting one key and deleting another commute. -/
theorem setKey_deleteKey_ne (m : List (String × α)) {k k' : String} (v : α) (h : k ≠ k') :
    setKey (deleteKey m k') k v = deleteKey (setKey m k v) k' := by
  induction m with
  | nil => simp [setKey, deleteKey, h]
  | cons p m ih =>
    obtain ⟨k0, v0⟩ := p
    by_cases h0 : k0 = k' <;> by_cases hk : k0 = k <;>
      simp_all [deleteKey, setKey, List.filter_filter, Bool.and_comm]

@[simp] theorem setKey_setKey_self (m : List (String × α)) (k : String) (v w : α) :
    setKey (setKey m k v) k w = setKey m k w := by
  induction m with
  | nil => simp [setKey, deleteKey]
  | cons p m ih =>
    obtain ⟨k0, v0⟩ := p
    by_cases hk : k0 = k
    · simp [setKey, hk]
    · simp [setKey, hk, ih]

end Maps

/-- An `unstructured.Unstructured`: the item's top-level map. -/
structure Unstructured where
  object : List (String × Json)
  deriving DecidableEq, Repr, Inhabited

/-! ## The `unstructured` accessors -/

/-- `NestedFieldNoCopy`: follows `fields` through nested maps. `none` is "not found" (a
missing key, or a `nil` on the way); a value on the way that is not a map is an error. -/
def nestedField (v : Json) : List String → Except String (Option Json)
  | [] => .ok (some v)
  | f :: fs =>
    match v with
    | .null => .ok none
    | .obj m =>
      match m.lookup f with
      | some w => nestedField w fs
      | none => .ok none
    | _ => .error s!"{f} accessor error: value is not a map"

/-- `NestedString`: a found value that is not a string is an error. -/
def nestedString (v : Json) (fields : List String) : Except String (Option String) :=
  match nestedField v fields with
  | .error e => .error e
  | .ok none => .ok none
  | .ok (some (.str s)) => .ok (some s)
  | .ok (some _) => .error "accessor error: value is not a string"

/-- `NestedStringMap`: a found map must hold only strings. -/
def nestedStringMap (v : Json) (fields : List String) :
    Except String (Option (List (String × String))) :=
  match nestedField v fields with
  | .error e => .error e
  | .ok none => .ok none
  | .ok (some (.obj m)) =>
    match m.mapM (fun p => match p.2 with | .str s => some (p.1, s) | _ => none) with
    | some sm => .ok (some sm)
    | none => .error "accessor error: contains non-string key in the map"
  | .ok (some _) => .error "accessor error: value is not a map"

/-- `setNestedFieldNoCopy`: missing maps and `nil`s on the way are created as empty maps;
a value on the way that is not a map is an error, and then nothing was changed. -/
def setNestedField (m : List (String × Json)) (value : Json) : List String →
    Except String (List (String × Json))
  | [] => .ok m
  | [f] => .ok (setKey m f value)
  | f :: g :: fs =>
    match m.lookup f with
    | some (.obj inner) => do
      let inner' ← setNestedField inner value (g :: fs)
      pure (setKey m f (.obj inner'))
    | some .null | none => do
      let inner' ← setNestedField [] value (g :: fs)
      pure (setKey m f (.obj inner'))
    | some _ => .error s!"value cannot be set because {f} is not a map"

/-- A `map[string]string` as the JSON map `SetNestedStringMap` stores. -/
def stringMapJson (sm : List (String × String)) : Json :=
  .obj (sm.map fun p => (p.1, .str p.2))

namespace Unstructured

/-- `getNestedString`: the empty string when not found or not a string. -/
def getNestedString (u : Unstructured) (fields : List String) : String :=
  match nestedString (.obj u.object) fields with
  | .ok (some s) => s
  | _ => ""

def getName (u : Unstructured) : String := u.getNestedString ["metadata", "name"]

def getAPIVersion (u : Unstructured) : String := u.getNestedString ["apiVersion"]

def getKind (u : Unstructured) : String := u.getNestedString ["kind"]

/-- `GetLabels`: `nil`, the empty map, unless `metadata.labels` is a map of strings. -/
def getLabels (u : Unstructured) : List (String × String) :=
  match nestedStringMap (.obj u.object) ["metadata", "labels"] with
  | .ok (some sm) => sm
  | _ => []

def getAnnotations (u : Unstructured) : List (String × String) :=
  match nestedStringMap (.obj u.object) ["metadata", "annotations"] with
  | .ok (some sm) => sm
  | _ => []

/-- `setNestedField`: the error of `SetNestedField` is dropped, leaving the item as it was. -/
def setNestedField (u : Unstructured) (value : Json) (fields : List String) : Unstructured :=
  match Ark.setNestedField u.object value fields with
  | .ok m => ⟨m⟩
  | .error _ => u

def setNamespace (u : Unstructured) (ns : String) : Unstructured :=
  u.setNestedField (.str ns) ["metadata", "namespace"]

def setLabels (u : Unstructured) (labels : List (String × String)) : Unstructured :=
  u.setNestedField (stringMapJson labels) ["metadata", "labels"]

def setAnnotations (u : Unstructured) (annotations : List (String × String)) : Unstructured :=
  u.setNestedField (stringMapJson annotations) ["metadata", "annotations"]

end Unstructured

/-! ## Ark's `collections` accessors -/

/-- Modelled from the spec: `collections.GetValue` is not under src/. The spec asks for
typed-path accessors that return explicit not-found and wrong-type results; the dotted
path of the Go call is given split at its dots. -/
def getValue (root : List (String × Json)) : List String → Except String Json
  | [] => .error "empty path"
  | [k] =>
    match root.lookup k with
    | some v => .ok v
    | none => .error s!"key {k} not found"
  | k :: k' :: ks =>
    match root.lookup k with
    | some (.obj m) => getValue m (k' :: ks)
    | some _ => .error s!"value at key {k} is not a map"
    | none => .error s!"key {k} not found"

/-- Modelled from the spec: `collections.GetString`, see `getValue`. -/
def getString (root : List (String × Json)) (path : List String) : Except String String :=
  match getValue root path with
  | .ok (.str s) => .ok s
  | .ok _ => .error "value at path is not a string"
  | .error e => .error e

/-- Modelled from the spec: `collections.GetMap`, see `getValue`. -/
def getMap (root : List (String × Json)) (path : List String) :
    Except String (List (String × Json)) :=
  match getValue root path with
  | .ok (.obj m) => .ok m
  | .ok _ => .error "value at path is not a map"
  | .error e => .error e

@[simp] theorem getValue_single (root : List (String × Json)) (k : String) :
    getValue root [k] = match root.lookup k with
      | some v => .ok v
      | none => .error s!"key {k} not found" := rfl

end Ark
