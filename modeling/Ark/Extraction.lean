import Ark.Archive
import Mathlib.Data.List.Dedup

/-!
# Extracting what the writer wrote

`Write` puts each item at a path built from its type, namespace and name; `Extract` makes
a fresh temporary directory and, for each entry of the stream, the directories above the
entry's path and then the file. The invariant `Extracted dir files fs` says what the file
system holds below `dir` once `files` are extracted: each file, a directory on the way to
one, and nothing else. `extract_file` is its step and `extractEntries_items` its run; with
`writeItems_eq` they give `extract_written`, the extraction of any sequence of writes
whose paths are single components and whose items are distinct.
-/

namespace Ark


/-- A component of the layout: non-empty, without a separator, and neither `.` nor `..`. -/
def PathComponent (s : String) : Prop := s ≠ "" ∧ '/' ∉ s.data ∧ s ≠ "." ∧ s ≠ ".."

instance : DecidablePred PathComponent := fun _ => inferInstanceAs (Decidable (_ ∧ _))

theorem splitOnP_sep (a : String) (as : List String) (h : ∀ x ∈ a :: as, '/' ∉ x.data) :
    List.splitOnP (· == '/') (a.data ++ as.flatMap ('/' :: ·.data)) =
      (a :: as).map String.data := by
  induction as generalizing a with
  | nil =>
    simp only [List.flatMap_nil, List.append_nil, List.map_singleton]
    exact List.splitOnP_eq_single _ _ fun c hc hsep => h a (List.mem_singleton_self a) (by
      rwa [beq_iff_eq.mp hsep] at hc)
  | cons b bs ih =>
    have ha : ∀ c ∈ a.data, ¬(c == '/') = true := fun c hc hsep =>
      h a (List.mem_cons_self a _) (by rwa [beq_iff_eq.mp hsep] at hc)
    rw [List.flatMap_cons, List.cons_append, List.splitOnP_first _ _ ha '/' rfl,
      ih b fun x hx => h x (List.mem_cons_of_mem a hx)]
    rfl

theorem intercalate_go_data (acc : String) (as : List String) :
    (String.intercalate.go acc "/" as).data = acc.data ++ as.flatMap ('/' :: ·.data) := by
  induction as generalizing acc with
  | nil => simp [String.intercalate.go]
  | cons a as ih => simp [String.intercalate.go, ih]

theorem splitPath_intercalate {parts : List String} (hne : parts ≠ [])
    (h : ∀ x ∈ parts, '/' ∉ x.data) : splitPath (String.intercalate "/" parts) = parts := by
  obtain ⟨a, as, rfl⟩ := List.exists_cons_of_ne_nil hne
  rw [splitPath, String.intercalate, intercalate_go_data, splitOnP_sep a as h, List.map_map]
  exact List.map_id'' (fun _ => rfl) _

theorem splitPath_single {s : String} (h : '/' ∉ s.data) : splitPath s = [s] :=
  splitPath_intercalate (List.cons_ne_nil s []) (by simpa using h)

theorem flatMap_splitPath {elems : List String} (h : ∀ e ∈ elems, PathComponent e) :
    elems.flatMap splitPath = elems := by
  induction elems with
  | nil => rfl
  | cons e es ih =>
    rw [List.flatMap_cons, splitPath_single (h e (List.mem_cons_self e es)).2.1,
      ih fun x hx => h x (List.mem_cons_of_mem e hx)]
    rfl

theorem joinPath_components (dir : Path) {elems : List String}
    (h : ∀ e ∈ elems, PathComponent e) :
    joinPath dir elems = dir ++ elems := by
  rw [joinPath, flatMap_splitPath h]
  induction elems generalizing dir with
  | nil => simp
  | cons e es ih =>
    obtain ⟨hne, -, hdot, hdotdot⟩ := h e (List.mem_cons_self e es)
    simp only [List.foldl_cons, cleanStep, hne, hdot, hdotdot, or_self, if_false]
    rw [ih _ fun x hx => h x (List.mem_cons_of_mem e hx)]
    simp

theorem joinRelative_components {elems : List String} (hne : elems ≠ [])
    (h : ∀ e ∈ elems, PathComponent e) : joinRelative elems = String.intercalate "/" elems := by
  have hfold : ∀ acc, elems.foldl cleanRelativeStep acc = acc ++ elems := by
    clear hne
    induction elems with
    | nil => simp
    | cons e es ih =>
      intro acc
      obtain ⟨hne, -, hdot, hdotdot⟩ := h e (List.mem_cons_self e es)
      simp only [List.foldl_cons, cleanRelativeStep, hne, hdot, hdotdot, or_self, if_false]
      rw [ih (fun x hx => h x (List.mem_cons_of_mem e hx))]
      simp
  obtain ⟨e, es, rfl⟩ := List.exists_cons_of_ne_nil hne
  have he : ¬ (e :: es).all (· = "") := by
    simp [(h e (List.mem_cons_self e es)).1]
  simp only [joinRelative, he, Bool.false_eq_true, if_false, flatMap_splitPath h, hfold,
    List.nil_append]

/-! ## Writing -/

/-- The file an item is written to, under the archive's root. -/
def entryPath {α : Type} (x : ArchiveItem α) : Path :=
  if x.ns ≠ "" then [resourcesDir, x.groupResource, namespaceScopedDir, x.ns, x.name ++ ".json"]
  else [resourcesDir, x.groupResource, clusterScopedDir, x.name ++ ".json"]

/-- The tar entry of an item whose value marshals to `bytes`. -/
def itemEntry {α : Type} (x : ArchiveItem α) (bytes : String) : Entry :=
  ⟨{ name := String.intercalate "/" (entryPath x), size := bytes.utf8ByteSize, typeflag := .reg,
     mode := 0o755 }, bytes⟩

/-- The components of an item's path are single path components. -/
def ArchiveItem.Components {α : Type} (x : ArchiveItem α) : Prop :=
  PathComponent x.groupResource ∧ (x.ns ≠ "" → PathComponent x.ns) ∧
    PathComponent (x.name ++ ".json")

theorem entryPath_components {α : Type} {x : ArchiveItem α} (h : x.Components) :
    ∀ e ∈ entryPath x, PathComponent e := by
  obtain ⟨hg, hns, hn⟩ := h
  unfold entryPath
  split
  next hne =>
    simp only [List.forall_mem_cons, List.not_mem_nil, false_imp_iff, implies_true, and_true]
    exact ⟨by decide, hg, by decide, hns hne, hn⟩
  next =>
    simp only [List.forall_mem_cons, List.not_mem_nil, false_imp_iff, implies_true, and_true]
    exact ⟨by decide, hg, by decide, hn⟩

theorem write_eq {α : Type} {marshal : α → Except String String} {w : GzipTarWriter}
    {x : ArchiveItem α} (h : x.Components) :
    w.write marshal x.groupResource x.ns x.name x.item =
      (marshal x.item).map fun bytes => { entries := w.entries ++ [itemEntry x bytes] } := by
  have hpath : (if x.ns ≠ "" then
      joinRelative [resourcesDir, x.groupResource, namespaceScopedDir, x.ns, x.name ++ ".json"]
    else joinRelative [resourcesDir, x.groupResource, clusterScopedDir, x.name ++ ".json"]) =
      String.intercalate "/" (entryPath x) := by
    have hc := entryPath_components h
    unfold entryPath at hc ⊢
    by_cases hne : x.ns ≠ ""
    · rw [if_pos hne] at hc; rw [if_pos hne, if_pos hne]
      exact joinRelative_components (List.cons_ne_nil _ _) hc
    · rw [if_neg hne] at hc; rw [if_neg hne, if_neg hne]
      exact joinRelative_components (List.cons_ne_nil _ _) hc
  simp only [GzipTarWriter.write, hpath]
  cases marshal x.item <;> rfl

theorem writeItems_eq {α : Type} {marshal : α → Except String String} :
    ∀ {items : List (ArchiveItem α)} {w w' : GzipTarWriter}, (∀ x ∈ items, x.Components) →
      w.writeItems marshal items = .ok w' →
      ∃ bs : List String, List.Forall₂ (fun x b => marshal x.item = .ok b) items bs ∧
        w'.entries = w.entries ++ List.zipWith itemEntry items bs
  | [], _, _, _, h => ⟨[], .nil, by cases h; simp⟩
  | x :: xs, w, w', hc, h => by
    rw [GzipTarWriter.writeItems, write_eq (hc x (List.mem_cons_self x xs))] at h
    cases hm : marshal x.item with
    | error e => rw [hm] at h; cases h
    | ok b =>
      rw [hm] at h
      obtain ⟨bs, hbs, hw⟩ := writeItems_eq (fun y hy => hc y (List.mem_cons_of_mem x hy)) h
      exact ⟨b :: bs, .cons hm hbs, by simp [hw]⟩

/-! ## The file system -/

namespace FileSystem

@[simp] theorem node?_put (fs : FileSystem) (p q : Path) (n : Node) :
    (fs.put p n).node? q = if q = p then some n else fs.node? q := by
  simp only [node?, put, List.lookup_cons]
  by_cases h : q = p
  · simp [h]
  · simp [h, beq_eq_false_iff_ne.mpr h]

@[simp] theorem put_tmp (fs : FileSystem) (p : Path) (n : Node) : (fs.put p n).tmp = fs.tmp := rfl

theorem isDir_iff {fs : FileSystem} {p : Path} (hp : p ≠ []) :
    fs.isDir p ↔ fs.node? p = some .dir := by
  simp [isDir, hp]

theorem mem_paths {fs : FileSystem} {p : Path} : p ∈ fs.paths ↔ (fs.node? p).isSome := by
  simp only [paths, node?, List.mem_dedup, List.mem_map, List.lookup_isSome_iff, beq_iff_eq]
  exact ⟨fun ⟨x, hx, he⟩ => ⟨x, hx, he.symm⟩,
    fun ⟨x, hx, he⟩ => ⟨x, hx, he.symm⟩⟩

theorem mem_childNames {fs : FileSystem} {d : Path} {n : String} :
    n ∈ fs.childNames d ↔ (fs.node? (d ++ [n])).isSome := by
  simp only [childNames, List.mem_filterMap, ← mem_paths]
  constructor
  · rintro ⟨p, hp, he⟩
    split at he
    next hd =>
      rw [← hd, List.dropLast_append_getLast? n he]
      exact hp
    next => cases he
  · intro h
    exact ⟨d ++ [n], h, by simp⟩

theorem nodup_childNames (fs : FileSystem) (d : Path) : (fs.childNames d).Nodup := by
  refine (List.nodup_dedup _).filterMap fun p p' n hp hp' => ?_
  split at hp <;> split at hp' <;> simp_all only [Option.mem_def, reduceCtorEq]
  rw [← List.dropLast_append_getLast? n hp, ← List.dropLast_append_getLast? n hp']
  simp_all

end FileSystem

theorem mkdirAll_go_cons (done : Path) (c : String) (cs : List String) (fs : FileSystem) :
    mkdirAll.go done (c :: cs) fs =
      match fs.node? (done ++ [c]) with
      | some .dir => mkdirAll.go (done ++ [c]) cs fs
      | some (.file _) => .error s!"mkdir {showPath (done ++ [c])}: not a directory" fs
      | none => mkdirAll.go (done ++ [c]) cs (fs.put (done ++ [c]) .dir) := by
  rcases h : fs.node? (done ++ [c]) with _ | _ | _ <;>
    simp only [mkdirAll.go, bind, EStateM.bind, get, getThe, MonadStateOf.get, EStateM.get, h] <;>
    rfl

theorem mkdirAll_go_ok : ∀ (cs : List String) (done : Path) (fs : FileSystem),
    (∀ r, r ≠ [] → r <+: cs → ∀ d, fs.node? (done ++ r) ≠ some (.file d)) →
    ∃ fs', mkdirAll.go done cs fs = .ok () fs' ∧
      (∀ r, r ≠ [] → r <+: cs → fs'.node? (done ++ r) = some .dir) ∧
      ∀ q, (∀ r, r ≠ [] → r <+: cs → q ≠ done ++ r) → fs'.node? q = fs.node? q
  | [], _, fs, _ => ⟨fs, rfl, fun r hr hp => absurd (List.prefix_nil.mp hp) hr, fun _ _ => rfl⟩
  | c :: cs, done, fs, h => by
    have hnext : ∀ fs₁ : FileSystem,
        (∀ r, r ≠ [] → fs₁.node? (done ++ [c] ++ r) = fs.node? (done ++ c :: r)) →
        ∃ fs', mkdirAll.go (done ++ [c]) cs fs₁ = .ok () fs' ∧
          (∀ r, r ≠ [] → r <+: cs → fs'.node? (done ++ [c] ++ r) = some .dir) ∧
          ∀ q, (∀ r, r ≠ [] → r <+: cs → q ≠ done ++ [c] ++ r) →
            fs'.node? q = fs₁.node? q :=
      fun fs₁ he => mkdirAll_go_ok cs (done ++ [c]) fs₁ fun r hr hp d => by
        rw [he r hr]
        exact h (c :: r) (List.cons_ne_nil c r) (List.cons_prefix_cons.mpr ⟨rfl, hp⟩) d
    have hlong : ∀ r, r ≠ [] → done ++ [c] ++ r ≠ done ++ [c] := fun r hr he => hr (by
      simpa using congrArg List.length he)
    have hrest : ∀ fs₁ fs' : FileSystem, fs₁.node? (done ++ [c]) = some .dir →
        (∀ r, r ≠ [] → r <+: cs → fs'.node? (done ++ [c] ++ r) = some .dir) →
        (∀ q, (∀ r, r ≠ [] → r <+: cs → q ≠ done ++ [c] ++ r) →
          fs'.node? q = fs₁.node? q) →
        (∀ r, r ≠ [] → r <+: c :: cs → fs'.node? (done ++ r) = some .dir) := by
      intro fs₁ fs' hc ha hb r hr hp
      obtain ⟨t, rfl, ht⟩ := (List.prefix_cons_iff.mp hp).resolve_left hr
      rcases t with _ | ⟨a, t⟩
      · rw [hb _ fun r' hr' _ he => hlong r' hr' he.symm]; exact hc
      · simpa using ha (a :: t) (List.cons_ne_nil a t) ht
    have hsub : ∀ q, (∀ r, r ≠ [] → r <+: c :: cs → q ≠ done ++ r) →
        ∀ r, r ≠ [] → r <+: cs → q ≠ done ++ [c] ++ r := fun q hq r hr hp => by
      simpa using hq (c :: r) (List.cons_ne_nil c r) (List.cons_prefix_cons.mpr ⟨rfl, hp⟩)
    have hhead : [c] <+: c :: cs := List.cons_prefix_cons.mpr ⟨rfl, List.nil_prefix⟩
    rw [mkdirAll_go_cons]
    rcases hc : fs.node? (done ++ [c]) with _ | _ | d
    · obtain ⟨fs', hrun, ha, hb⟩ := hnext (fs.put (done ++ [c]) .dir) fun r hr => by simp [hr]
      refine ⟨fs', hrun, hrest _ _ (by simp) ha hb, fun q hq => ?_⟩
      rw [hb q (hsub q hq)]
      simp [hq [c] (List.cons_ne_nil c []) hhead]
    · obtain ⟨fs', hrun, ha, hb⟩ := hnext fs fun r _ => by simp
      exact ⟨fs', hrun, hrest _ _ hc ha hb, fun q hq => hb q (hsub q hq)⟩
    · exact absurd hc (h [c] (List.cons_ne_nil c []) hhead d)

theorem mkdirAll_ok (p : Path) (fs : FileSystem)
    (h : ∀ r, r ≠ [] → r <+: p → ∀ d, fs.node? r ≠ some (.file d)) :
    ∃ fs', mkdirAll p fs = .ok () fs' ∧
      (∀ r, r ≠ [] → r <+: p → fs'.node? r = some .dir) ∧
      ∀ q, (∀ r, r ≠ [] → r <+: p → q ≠ r) → fs'.node? q = fs.node? q :=
  mkdirAll_go_ok p [] fs h

theorem create_ok {p : Path} {fs : FileSystem} (hd : fs.isDir p.dropLast = true)
    (hp : fs.node? p ≠ some .dir) : create p fs = .ok () (fs.put p (.file "")) := by
  simp [create, hd, hp, bind, EStateM.bind, get, getThe, MonadStateOf.get, EStateM.get, set,
    MonadStateOf.set, EStateM.set]

theorem copy_file {p : Path} {fs : FileSystem} (old data : String)
    (h : fs.node? p = some (.file old)) :
    copy p data fs = .ok () (fs.put p (.file (old ++ data))) := by
  simp [copy, h, modify, modifyGet, MonadStateOf.modifyGet, EStateM.modifyGet]

theorem wrapf_ok {α : Type} {msg : String} {x : FsM α} {fs fs' : FileSystem} {a : α}
    (h : x fs = .ok a fs') : wrapf msg x fs = .ok a fs' := by
  simp [wrapf, tryCatch, tryCatchThe, MonadExceptOf.tryCatch, EStateM.tryCatch, h]

theorem le_foldr_max {names : List String} {n : String} (h : n ∈ names) :
    n.length ≤ names.foldr (fun n m => max n.length m) 0 := by
  induction names with
  | nil => cases h
  | cons a as ih =>
    rcases List.mem_cons.mp h with rfl | h
    · exact le_max_left _ _
    · exact (ih h).trans (le_max_right _ _)

/-- Nothing lies under a fresh name. -/
theorem FileSystem.node?_fresh (fs : FileSystem) (d q : Path) :
    fs.node? (d ++ fs.freshName d :: q) = none := by
  apply Option.eq_none_iff_forall_not_mem.mpr
  intro n hn
  have hmem : fs.freshName d ∈ fs.paths.filterMap fun p => (p.drop d.length).head? :=
    List.mem_filterMap.mpr ⟨d ++ fs.freshName d :: q,
      FileSystem.mem_paths.mpr (by rw [Option.mem_def.mp hn]; rfl), by simp⟩
  have h := le_foldr_max hmem
  change (List.replicate _ 'x').length ≤ _ at h
  rw [List.length_replicate] at h
  omega

theorem tempDir_ok {fs : FileSystem} (h : fs.isDir fs.tmp = true) :
    tempDir fs = .ok (fs.tmp ++ [fs.freshName fs.tmp])
      (fs.put (fs.tmp ++ [fs.freshName fs.tmp]) .dir) := by
  simp [tempDir, h, bind, EStateM.bind, get, getThe, MonadStateOf.get, EStateM.get, set,
    MonadStateOf.set, EStateM.set, pure, EStateM.pure]

/-! ## Extraction -/

/-- Two paths neither of which is a prefix of the other. -/
def Apart (p q : Path) : Prop := ¬p <+: q ∧ ¬q <+: p

theorem Apart.symm {p q : Path} (h : Apart p q) : Apart q p := ⟨h.2, h.1⟩

theorem prefix_append_cases {r a b : Path} (h : r <+: a ++ b) :
    r <+: a ∨ ∃ t, r = a ++ t ∧ t <+: b := by
  rcases List.prefix_or_prefix_of_prefix h (List.prefix_append a b) with h' | ⟨t, rfl⟩
  · exact .inl h'
  · exact .inr ⟨t, rfl, (List.prefix_append_right_inj a).mp h⟩

theorem prefix_dropLast_of_ne {r q : Path} (h : r <+: q) (hne : r ≠ q) : r <+: q.dropLast := by
  rcases q.eq_nil_or_concat with rfl | ⟨l, a, rfl⟩
  · exact absurd (List.prefix_nil.mp h) hne
  · rw [List.concat_eq_append] at h hne ⊢
    rw [List.dropLast_concat]
    exact (List.prefix_concat_iff.mp h).resolve_left hne

/-- The node `Extract` leaves at `q` under its directory once it has extracted `files`: the
file, a directory on the way to one, or nothing. -/
def layoutNode (files : List (Path × String)) (q : Path) : Option Node :=
  match files.lookup q with
  | some data => some (.file data)
  | none => if files.any fun f => q.isPrefixOf f.1 then some .dir else none

/-- The file system under `dir` once `files` are extracted into it. -/
structure Extracted (dir : Path) (files : List (Path × String)) (fs : FileSystem) : Prop where
  ancestors : ∀ r, r <+: dir → fs.isDir r = true
  under : ∀ q, q ≠ [] → fs.node? (dir ++ q) = layoutNode files q

theorem lookup_eq_none_of_apart {files : List (Path × String)} {q : Path}
    (h : ∀ f ∈ files, ¬f.1 <+: q) : files.lookup q = none := by
  simp only [List.lookup_eq_none_iff, bne_iff_ne, ne_eq]
  exact fun f hf he => h f hf (he ▸ List.prefix_refl q)

theorem layoutNode_ne_file {files : List (Path × String)} {q t : Path} {d : String}
    (hap : ∀ f ∈ files, Apart q f.1) (ht : t <+: q.dropLast) :
    layoutNode files t ≠ some (.file d) := by
  rw [layoutNode, lookup_eq_none_of_apart fun f hf hft =>
    (hap f hf).2 (hft.trans (ht.trans (List.dropLast_prefix q)))]
  dsimp only
  split <;> simp

theorem ne_of_prefix_dropLast {r p : Path} (hp : p ≠ []) (h : r <+: p.dropLast) : r ≠ p :=
    fun he => by
  have hlen := h.length_le
  rw [he, List.length_dropLast] at hlen
  have := List.length_pos.mpr hp
  omega

theorem Extracted.congr {dir : Path} {files : List (Path × String)} {fs fs' : FileSystem}
    (h : Extracted dir files fs) (he : ∀ p, fs'.node? p = fs.node? p) : Extracted dir files fs' :=
  ⟨fun r hr => by simpa [FileSystem.isDir, he] using h.ancestors r hr,
    fun q hq => (he _).trans (h.under q hq)⟩

section Step

variable {dir : Path} {files : List (Path × String)} {fs : FileSystem} {q : Path}

/-- `MkdirAll` of the directory above a new entry meets no file on its way. -/
theorem mkdirAll_parent_ok (h : Extracted dir files fs) (hap : ∀ f ∈ files, Apart q f.1) :
    ∃ fs₁, mkdirAll (dir ++ q.dropLast) fs = .ok () fs₁ ∧
      (∀ r, r ≠ [] → r <+: dir ++ q.dropLast → fs₁.node? r = some .dir) ∧
      ∀ p, (∀ r, r ≠ [] → r <+: dir ++ q.dropLast → p ≠ r) →
        fs₁.node? p = fs.node? p :=
  mkdirAll_ok _ fs fun r hr hp d => by
    rcases prefix_append_cases hp with hp | ⟨t, rfl, ht⟩
    · rw [(FileSystem.isDir_iff hr).mp (h.ancestors r hp)]; simp
    · by_cases htne : t = []
      · subst htne
        rw [List.append_nil] at hr ⊢
        rw [(FileSystem.isDir_iff hr).mp (h.ancestors dir (List.prefix_refl _))]; simp
      · rw [h.under t htne]
        exact layoutNode_ne_file hap ht

/-- The file system once the directories above a new entry exist and its file is written. -/
theorem extracted_put_file {fs₁ : FileSystem} (data : String) (h : Extracted dir files fs)
    (hq : q ≠ []) (hap : ∀ f ∈ files, Apart q f.1)
    (hdirs : ∀ r, r ≠ [] → r <+: dir ++ q.dropLast → fs₁.node? r = some .dir)
    (hsame : ∀ p, (∀ r, r ≠ [] → r <+: dir ++ q.dropLast → p ≠ r) →
      fs₁.node? p = fs.node? p) :
    Extracted dir (files ++ [(q, data)]) (fs₁.put (dir ++ q) (.file data)) := by
  have hlong : ∀ r, r <+: dir ++ q.dropLast → r ≠ dir ++ q := fun r hr =>
    ne_of_prefix_dropLast (by simp [hq]) (by rwa [List.dropLast_append_of_ne_nil _ hq])
  refine ⟨fun r hr => ?_, fun q' hq' => ?_⟩
  · by_cases h0 : r = []
    · simp [FileSystem.isDir, h0]
    · have hr' := hr.trans (List.prefix_append dir q.dropLast)
      simp [FileSystem.isDir, h0, hlong r hr', hdirs r h0 hr']
  by_cases hqq : q' = q
  · subst hqq
    simp [layoutNode, List.lookup_append, lookup_eq_none_of_apart fun f hf => (hap f hf).2]
  have hne : dir ++ q' ≠ dir ++ q := fun he => hqq (List.append_cancel_left he)
  simp only [FileSystem.node?_put, hne, if_false]
  by_cases hpre : q' <+: q.dropLast
  · -- a directory on the way to the new file
    rw [hdirs _ (by simp [hq']) ((List.prefix_append_right_inj dir).mpr hpre), layoutNode,
      List.lookup_append, lookup_eq_none_of_apart fun f hf hp =>
        (hap f hf).2 ((hp.trans hpre).trans (List.dropLast_prefix q))]
    simp [List.lookup_cons, beq_eq_false_iff_ne.mpr hqq, List.isPrefixOf_iff_prefix.mpr
      (hpre.trans (List.dropLast_prefix q))]
  · -- a path the new entry leaves as it was
    have hnq : ¬q' <+: q := fun hp => hpre (prefix_dropLast_of_ne hp hqq)
    rw [hsame _ fun r _ hp he =>
        hpre ((List.prefix_append_right_inj dir).mp (by rw [he]; exact hp)),
      h.under q' hq']
    have hany : ((files ++ [(q, data)]).any fun f => q'.isPrefixOf f.1) =
        files.any fun f => q'.isPrefixOf f.1 := by
      simp [List.any_append, List.isPrefixOf_iff_prefix, hnq]
    simp only [layoutNode, List.lookup_append, List.lookup_cons, beq_eq_false_iff_ne.mpr hqq,
      List.lookup_nil, Option.or_none]
    rw [hany]

/-- One file entry of the stream: `MkdirAll` of its directory, `Create` and the copy of its
data all succeed, and the file system then holds one more file. -/
theorem extract_file (data : String) (h : Extracted dir files fs) (hq : q ≠ [])
    (hap : ∀ f ∈ files, Apart q f.1) :
    ∃ fs₁ fs₃, mkdirAll (dir ++ q).dropLast fs = .ok () fs₁ ∧
      create (dir ++ q) fs₁ = .ok () (fs₁.put (dir ++ q) (.file "")) ∧
      copy (dir ++ q) data (fs₁.put (dir ++ q) (.file "")) = .ok () fs₃ ∧
      Extracted dir (files ++ [(q, data)]) fs₃ := by
  rw [List.dropLast_append_of_ne_nil _ hq]
  obtain ⟨fs₁, hmk, hdirs, hsame⟩ := mkdirAll_parent_ok h hap
  have hfresh : fs₁.node? (dir ++ q) = none := by
    rw [hsame _ fun r _ hp he => ne_of_prefix_dropLast (p := dir ++ q) (by simp [hq])
        (by rwa [List.dropLast_append_of_ne_nil _ hq]) he.symm,
      h.under q hq, layoutNode, lookup_eq_none_of_apart fun f hf => (hap f hf).2]
    simp only [List.any_eq_true, List.isPrefixOf_iff_prefix, ite_eq_right_iff]
    exact fun ⟨f, hf, hp⟩ => absurd hp (hap f hf).1
  have hparent : fs₁.isDir (dir ++ q.dropLast) = true := by
    by_cases h0 : dir ++ q.dropLast = []
    · simp [FileSystem.isDir, h0]
    · exact (FileSystem.isDir_iff h0).mpr (hdirs _ h0 (List.prefix_refl _))
  refine ⟨fs₁, _, hmk,
    create_ok (by rwa [List.dropLast_append_of_ne_nil _ hq]) (by simp [hfresh]),
    copy_file "" data (by simp), (extracted_put_file data h hq hap hdirs hsame).congr fun p => ?_⟩
  by_cases hp : p = dir ++ q <;> simp [hp]

end Step

theorem joinPath_intercalate (dir : Path) {parts : List String} (hne : parts ≠ [])
    (h : ∀ p ∈ parts, PathComponent p) :
    joinPath dir [String.intercalate "/" parts] = dir ++ parts := by
  have hsplit := splitPath_intercalate hne fun p hp => (h p hp).2.1
  have := joinPath_components dir h
  rw [joinPath, flatMap_splitPath h] at this
  rw [joinPath, List.flatMap_cons, List.flatMap_nil, List.append_nil, hsplit, this]

theorem entryPath_ne_nil {α : Type} (x : ArchiveItem α) : entryPath x ≠ [] := by
  unfold entryPath; split <;> simp

theorem extractEntries_items {α : Type} {dir : Path} :
    ∀ {items : List (ArchiveItem α)} {bs : List String} {files : List (Path × String)}
      {fs : FileSystem}, Extracted dir files fs → (∀ x ∈ items, x.Components) →
      ((files.map (·.1)) ++ items.map entryPath).Pairwise Apart → bs.length = items.length →
      ∃ fs', extractEntries dir (List.zipWith itemEntry items bs) fs = .ok () fs' ∧
        Extracted dir (files ++ (items.map entryPath).zip bs) fs'
  | [], _, files, fs, h, _, _, _ => ⟨fs, rfl, by simpa using h⟩
  | _ :: _, [], _, _, _, _, _, hlen => by simp at hlen
  | x :: xs, b :: bs, files, fs, h, hc, hap, hlen => by
    have hx := hc x (List.mem_cons_self x xs)
    have hapx : ∀ f ∈ files, Apart (entryPath x) f.1 := fun f hf => by
      have := List.pairwise_append.mp hap
      exact (this.2.2 f.1 (List.mem_map_of_mem _ hf) _
        (List.mem_map_of_mem _ (List.mem_cons_self x xs))).symm
    obtain ⟨fs₁, fs₃, hmk, hcr, hcp, hext⟩ := extract_file b h (entryPath_ne_nil x) hapx
    obtain ⟨fs', hrun, hext'⟩ :=
      extractEntries_items hext (fun y hy => hc y (List.mem_cons_of_mem x hy))
      (by simpa using hap) (by simpa using hlen)
    refine ⟨fs', ?_, by simpa using hext'⟩
    rw [List.zipWith_cons_cons]
    unfold extractEntries
    dsimp only [itemEntry]
    rw [joinPath_intercalate dir (entryPath_ne_nil x) (entryPath_components hx)]
    simp only [bind, EStateM.bind, wrapf_ok hmk, wrapf_ok hcr, wrapf_ok hcp, hrun]

/-! ## The layout of a sequence of writes -/

/-- The writes under which the archive reads back as written: every type, non-empty
namespace and file name is one path component, and no item is written twice. -/
structure Layout {α : Type} (items : List (ArchiveItem α)) : Prop where
  components : ∀ x ∈ items, x.Components
  nodup : (items.map fun x => (x.groupResource, x.ns, x.name)).Nodup

instance ArchiveItem.decComponents {α : Type} (x : ArchiveItem α) : Decidable x.Components :=
  inferInstanceAs (Decidable (_ ∧ _ ∧ _))

theorem json_inj {a b : String} : a ++ ".json" = b ++ ".json" ↔ a = b :=
  ⟨fun h => String.ext (List.append_cancel_right (congrArg String.data h)),
    congrArg (· ++ ".json")⟩

/-- An item's path runs through another's only when the two are the same item. -/
theorem key_eq_of_prefix_entryPath {α : Type} {x y : ArchiveItem α}
    (h : entryPath x <+: entryPath y) :
    (x.groupResource, x.ns, x.name) = (y.groupResource, y.ns, y.name) := by
  unfold entryPath at h
  split at h <;> split at h <;>
    simp_all [List.cons_prefix_cons, namespaceScopedDir, clusterScopedDir, json_inj]

theorem entryPath_apart {α : Type} {x y : ArchiveItem α}
    (hk : (x.groupResource, x.ns, x.name) ≠ (y.groupResource, y.ns, y.name)) :
    Apart (entryPath x) (entryPath y) :=
  ⟨fun h => hk (key_eq_of_prefix_entryPath h), fun h => hk (key_eq_of_prefix_entryPath h).symm⟩

theorem Layout.pairwise_apart {α : Type} {items : List (ArchiveItem α)} (h : Layout items) :
    (items.map entryPath).Pairwise Apart :=
  List.pairwise_map.mpr ((List.pairwise_map.mp h.nodup).imp entryPath_apart)

/-- The temporary directory, and every directory above it, exists. -/
def FileSystem.TmpExists (fs : FileSystem) : Prop := ∀ r, r <+: fs.tmp → fs.isDir r = true

theorem extracted_tempDir {fs : FileSystem} (h : fs.TmpExists) :
    Extracted (fs.tmp ++ [fs.freshName fs.tmp]) []
      (fs.put (fs.tmp ++ [fs.freshName fs.tmp]) .dir) := by
  refine ⟨fun r hr => ?_, fun q hq => ?_⟩
  · rcases List.prefix_concat_iff.mp hr with rfl | hr
    · simp [FileSystem.isDir]
    · have hne : r ≠ fs.tmp ++ [fs.freshName fs.tmp] := fun he => by
        have := congrArg List.length he ▸ hr.length_le
        simp at this
      simpa [FileSystem.isDir, hne] using h r hr
  · simp [hq, layoutNode, fs.node?_fresh fs.tmp q]

/-- `Extract` of a stream the writer produced succeeds, and leaves the items' files under the
new temporary directory. -/
theorem extract_written {α : Type} {marshal : α → Except String String}
    {items : List (ArchiveItem α)} {w : GzipTarWriter} {fs : FileSystem} (hl : Layout items)
    (hw : ({} : GzipTarWriter).writeItems marshal items = .ok w) (htmp : fs.TmpExists) :
    ∃ bs dir fs', List.Forall₂ (fun x b => marshal x.item = .ok b) items bs ∧
      GzipTarReader.extract ⟨w.close, none, fs⟩ = .ok () ⟨w.close, some dir, fs'⟩ ∧
      Extracted dir ((items.map entryPath).zip bs) fs' := by
  obtain ⟨bs, hbs, hentries⟩ := writeItems_eq hl.components hw
  obtain ⟨fs', hrun, hext⟩ := extractEntries_items (extracted_tempDir htmp) hl.components
    (by simpa using hl.pairwise_apart) hbs.length_eq.symm
  refine ⟨bs, _, fs', hbs, ?_, by simpa using hext⟩
  simp only [GzipTarReader.extract, GzipTarWriter.close, hentries, List.nil_append, bind,
    EStateM.bind, wrapf_ok (tempDir_ok (htmp fs.tmp (List.prefix_refl _))), hrun]
  rfl

end Ark
