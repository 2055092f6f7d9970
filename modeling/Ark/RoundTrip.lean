import Ark.Extraction

/-!
# Reading back what the writer wrote

The reader's queries over an extracted archive, from `Extracted`: `GetResourceScope`,
`ListNamespaces`, `ListContents` and `Get` answer from the writes alone, and
`archive_round_trip` puts them together for any sequence of writes `Layout` admits. The
directories the writer makes tell the queries apart: below `resources/<type>` a
`cluster` directory holds the files of the items written without a namespace and a
`namespaces` directory one directory per namespace.
-/

namespace Ark

/-- The scope the writes give a type: cluster-scoped when one of its items was written with
no namespace, namespaced when all were written with one. -/
def writtenScope {α : Type} (items : List (ArchiveItem α)) (g : String) : Option ResourceScope :=
  if items.any fun x => x.groupResource = g ∧ x.ns = "" then some .cluster
  else if items.any fun x => x.groupResource = g then some .namespaced else none

/-- The namespaces the writes used for a type, sorted. -/
def writtenNamespaces {α : Type} (items : List (ArchiveItem α)) (g : String) : List String :=
  (((items.filter fun x => x.groupResource = g ∧ x.ns ≠ "").map (·.ns)).dedup).insertionSort
    fileNameLE

/-- The files the writes made for a type and namespace, sorted. -/
def writtenFiles {α : Type} (items : List (ArchiveItem α)) (g ns : String) : List String :=
  ((items.filter fun x => x.groupResource = g ∧ x.ns = ns).map (·.name ++ ".json")).insertionSort
    fileNameLE

instance : IsTotal String fileNameLE := ⟨fun a b => le_total a.data b.data⟩

instance : IsTrans String fileNameLE := ⟨fun _ _ _ => le_trans⟩

instance : IsAntisymm String fileNameLE :=
  ⟨fun _ _ h₁ h₂ => String.ext (le_antisymm h₁ h₂)⟩

theorem insertionSort_eq_of_mem_iff {l₁ l₂ : List String} (h₁ : l₁.Nodup) (h₂ : l₂.Nodup)
    (h : ∀ a, a ∈ l₁ ↔ a ∈ l₂) :
    l₁.insertionSort fileNameLE = l₂.insertionSort fileNameLE :=
  List.eq_of_perm_of_sorted (((List.perm_insertionSort _ _).trans
    ((List.perm_ext_iff_of_nodup h₁ h₂).mpr h)).trans (List.perm_insertionSort _ _).symm)
    (List.sorted_insertionSort _ _) (List.sorted_insertionSort _ _)

section Prefixes

variable {α : Type} {x : ArchiveItem α} {g ns n : String}

theorem type_prefix_entryPath : [resourcesDir, g] <+: entryPath x ↔ x.groupResource = g := by
  unfold entryPath; split <;> simp [eq_comm]

theorem cluster_prefix_entryPath :
    [resourcesDir, g, clusterScopedDir] <+: entryPath x ↔ x.groupResource = g ∧ x.ns = "" := by
  unfold entryPath; split <;> simp_all [eq_comm, namespaceScopedDir, clusterScopedDir]

theorem namespaces_prefix_entryPath :
    [resourcesDir, g, namespaceScopedDir] <+: entryPath x ↔
      x.groupResource = g ∧ x.ns ≠ "" := by
  unfold entryPath; split <;> simp_all [eq_comm, namespaceScopedDir, clusterScopedDir]

theorem namespace_prefix_entryPath :
    [resourcesDir, g, namespaceScopedDir, n] <+: entryPath x ↔
      x.groupResource = g ∧ x.ns = n ∧ x.ns ≠ "" := by
  unfold entryPath; split <;> simp_all [eq_comm, namespaceScopedDir, clusterScopedDir]

theorem clusterFile_prefix_entryPath :
    [resourcesDir, g, clusterScopedDir, n] <+: entryPath x ↔
      x.groupResource = g ∧ x.ns = "" ∧ x.name ++ ".json" = n := by
  unfold entryPath; split <;> simp_all [eq_comm, namespaceScopedDir, clusterScopedDir]

theorem namespaceFile_prefix_entryPath (hns : ns ≠ "") :
    [resourcesDir, g, namespaceScopedDir, ns, n] <+: entryPath x ↔
      x.groupResource = g ∧ x.ns = ns ∧ x.name ++ ".json" = n := by
  unfold entryPath; split <;> simp_all [eq_comm, namespaceScopedDir, clusterScopedDir]

end Prefixes

theorem entryPath_length {α : Type} (x : ArchiveItem α) : 4 ≤ (entryPath x).length := by
  unfold entryPath; split <;> simp

theorem isSome_layoutNode (files : List (Path × String)) (q : Path) :
    (layoutNode files q).isSome = files.any fun f => q.isPrefixOf f.1 := by
  unfold layoutNode
  split
  next d hd =>
    obtain ⟨l₁, l₂, he, -⟩ := List.lookup_eq_some_iff.mp hd
    refine (List.any_eq_true.mpr
      ⟨(q, d), he ▸ List.mem_append_right _ (List.mem_cons_self _ _), ?_⟩).symm
    simp [List.isPrefixOf_iff_prefix]
  next => by_cases hc : (files.any fun f => q.isPrefixOf f.1) = true <;> simp [hc]

section Written

variable {α : Type} {items : List (ArchiveItem α)} {bs : List String} {dir : Path}
  {fs : FileSystem}

theorem exists_files (hlen : bs.length = items.length) {P : Path → Prop} :
    (∃ f ∈ (items.map entryPath).zip bs, P f.1) ↔ ∃ x ∈ items, P (entryPath x) := by
  have hfst : ((items.map entryPath).zip bs).map Prod.fst = items.map entryPath :=
    List.map_fst_zip _ _ (by simp [hlen])
  constructor
  · rintro ⟨f, hf, hp⟩
    obtain ⟨x, hx, hfx⟩ := List.mem_map.mp (hfst ▸ List.mem_map_of_mem Prod.fst hf)
    exact ⟨x, hx, hfx ▸ hp⟩
  · rintro ⟨x, hx, hp⟩
    obtain ⟨f, hf, hfx⟩ := List.mem_map.mp (hfst.symm ▸ List.mem_map_of_mem entryPath hx)
    exact ⟨f, hf, hfx ▸ hp⟩

theorem any_files (hlen : bs.length = items.length) (q : Path) :
    (((items.map entryPath).zip bs).any fun f => q.isPrefixOf f.1) = true ↔
      ∃ x ∈ items, q <+: entryPath x := by
  rw [List.any_eq_true]
  simpa [List.isPrefixOf_iff_prefix] using exists_files hlen (P := fun p => q <+: p)

theorem lookup_files_none (hlen : bs.length = items.length) {q : Path}
    (hq : ∀ x ∈ items, entryPath x ≠ q) : ((items.map entryPath).zip bs).lookup q = none := by
  simp only [List.lookup_eq_none_iff, bne_iff_ne, ne_eq]
  intro f hf he
  obtain ⟨x, hx, hfx⟩ := (exists_files hlen (P := fun p => q = p)).mp ⟨f, hf, he⟩
  exact hq x hx hfx.symm

theorem isSome_written (h : Extracted dir ((items.map entryPath).zip bs) fs)
    (hlen : bs.length = items.length) {q : Path} (hq : q ≠ []) :
    (fs.node? (dir ++ q)).isSome = true ↔ ∃ x ∈ items, q <+: entryPath x := by
  rw [h.under q hq, isSome_layoutNode, any_files hlen]

theorem isDir_written (h : Extracted dir ((items.map entryPath).zip bs) fs)
    (hlen : bs.length = items.length) {q : Path} (hq : q ≠ [])
    (hfile : ∀ x ∈ items, entryPath x ≠ q) :
    fs.isDir (dir ++ q) = true ↔ ∃ x ∈ items, q <+: entryPath x := by
  have hnone := lookup_files_none hlen hfile
  rw [FileSystem.isDir_iff (by simp [hq]), h.under q hq, layoutNode, hnone, ← any_files hlen]
  split <;> simp_all

end Written

theorem not_short_entryPath {α : Type} {x : ArchiveItem α} {q : Path} (hq : q.length < 4) :
    entryPath x ≠ q := fun he => by have := entryPath_length x; rw [he] at this; omega

theorem namespaceDir_ne_entryPath {α : Type} {x : ArchiveItem α} {g n : String} :
    entryPath x ≠ [resourcesDir, g, namespaceScopedDir, n] := by
  unfold entryPath; split <;> simp [namespaceScopedDir, clusterScopedDir]

theorem lookup_of_mem {l : List (Path × String)} {k : Path} {v : String}
    (hnd : (l.map Prod.fst).Nodup) (h : (k, v) ∈ l) : l.lookup k = some v := by
  induction l with
  | nil => cases h
  | cons e l ih =>
    obtain ⟨k', v'⟩ := e
    obtain ⟨hk, hnd⟩ := List.nodup_cons.mp hnd
    rcases List.mem_cons.mp h with he | hl
    · obtain ⟨rfl, rfl⟩ := Prod.mk.inj he
      simp [List.lookup_cons]
    · have hne : k ≠ k' := fun he =>
        hk (he ▸ (List.mem_map_of_mem Prod.fst hl : k ∈ l.map Prod.fst))
      rw [List.lookup_cons, beq_eq_false_iff_ne.mpr hne]
      exact ih hnd hl

section Queries

variable {α : Type} {items : List (ArchiveItem α)} {bs : List String} {dir : Path}
  {fs : FileSystem} (s : TarStream)

theorem getResourceScope_written (h : Extracted dir ((items.map entryPath).zip bs) fs)
    (hlen : bs.length = items.length) {g : String} (hg : PathComponent g) :
    (⟨s, some dir, fs⟩ : GzipTarReader).getResourceScope g = .ok (writtenScope items g) := by
  have h1 := isDir_written h hlen (q := [resourcesDir, g]) (by simp)
    fun _ _ => not_short_entryPath (by simp)
  have h2 := isDir_written h hlen (q := [resourcesDir, g, clusterScopedDir]) (by simp)
    fun _ _ => not_short_entryPath (by simp)
  simp only [type_prefix_entryPath, cluster_prefix_entryPath] at h1 h2
  simp only [GzipTarReader.getResourceScope, FileSystem.dirExists]
  rw [joinPath_components dir (by simp [hg]; decide), joinPath_components _ (by simp; decide),
    List.append_assoc, List.cons_append, List.cons_append, List.nil_append]
  unfold writtenScope
  by_cases hgr : ∃ x ∈ items, x.groupResource = g
  · by_cases hc : ∃ x ∈ items, x.groupResource = g ∧ x.ns = ""
    · simp [h1.mpr hgr, h2.mpr hc, List.any_eq_true, hc]
    · simp [h1.mpr hgr, (not_congr h2).mpr hc, List.any_eq_true, hc, hgr]
  · have hc : ¬∃ x ∈ items, x.groupResource = g ∧ x.ns = "" := fun ⟨x, hx, hxg, _⟩ =>
      hgr ⟨x, hx, hxg⟩
    simp [(not_congr h1).mpr hgr, List.any_eq_true, hgr, hc]

theorem childNames_written (h : Extracted dir ((items.map entryPath).zip bs) fs)
    (hlen : bs.length = items.length) (q : Path) (n : String) :
    n ∈ fs.childNames (dir ++ q) ↔ ∃ x ∈ items, q ++ [n] <+: entryPath x := by
  rw [FileSystem.mem_childNames, List.append_assoc, isSome_written h hlen (by simp)]

/-- A directory the writes made lists, sorted, the names one level below it that some entry
path runs through. -/
theorem readDir_written (h : Extracted dir ((items.map entryPath).zip bs) fs)
    (hlen : bs.length = items.length) {q : Path} (hq : q ≠ [])
    (hfile : ∀ x ∈ items, entryPath x ≠ q)
    (hex : ∃ x ∈ items, q <+: entryPath x) {l : List String} (hnd : l.Nodup)
    (hmem : ∀ n, n ∈ l ↔ ∃ x ∈ items, q ++ [n] <+: entryPath x) :
    fs.readDir (dir ++ q) =
      .ok ((l.insertionSort fileNameLE).map fun n => (n, fs.isDir (dir ++ q ++ [n]))) := by
  rw [FileSystem.readDir, if_pos ((isDir_written h hlen hq hfile).mpr hex),
    insertionSort_eq_of_mem_iff (fs.nodup_childNames _) hnd
      fun n => (childNames_written h hlen q n).trans (hmem n).symm]

theorem map_fst_filter_snd {l : List String} {f : String → Bool} (h : ∀ n ∈ l, f n = true) :
    ((l.map fun n => (n, f n)).filter (·.2)).map (·.1) = l := by
  induction l with
  | nil => rfl
  | cons n l ih => simp [List.filter_cons, h n (.head _), ih fun m hm => h m (.tail _ hm)]

theorem writtenScope_namespaced {g : String} (hw : writtenScope items g = some .namespaced) :
    ∃ x ∈ items, x.groupResource = g ∧ x.ns ≠ "" := by
  unfold writtenScope at hw
  by_cases h₁ : ∃ x ∈ items, x.groupResource = g ∧ x.ns = ""
  · simp [List.any_eq_true, h₁] at hw
  · by_cases h₂ : ∃ x ∈ items, x.groupResource = g
    · obtain ⟨x, hx, hxg⟩ := h₂
      exact ⟨x, hx, hxg, fun hn => h₁ ⟨x, hx, hxg, hn⟩⟩
    · simp [List.any_eq_true, h₁, h₂] at hw

theorem listNamespaces_written (h : Extracted dir ((items.map entryPath).zip bs) fs)
    (hlen : bs.length = items.length) {g : String} (hg : PathComponent g) :
    (⟨s, some dir, fs⟩ : GzipTarReader).listNamespaces g = match writtenScope items g with
      | none => .error s!"resource {g} not found in archive"
      | some .cluster => .error s!"resource {g} is not namespace-scoped"
      | some .namespaced => .ok (writtenNamespaces items g) := by
  simp only [GzipTarReader.listNamespaces, getResourceScope_written s h hlen hg]
  rcases hw : writtenScope items g with _ | _ | _
  · rfl
  · rfl
  have hnames : ∀ n,
      n ∈ ((items.filter fun x => x.groupResource = g ∧ x.ns ≠ "").map (·.ns)).dedup ↔
      ∃ x ∈ items, [resourcesDir, g, namespaceScopedDir] ++ [n] <+: entryPath x := fun n => by
    simp only [List.mem_dedup, List.mem_map, List.mem_filter, decide_eq_true_eq, List.cons_append,
      List.nil_append, namespace_prefix_entryPath]
    exact ⟨fun ⟨x, ⟨hx, hxg, hne⟩, hxn⟩ => ⟨x, hx, hxg, hxn, hne⟩,
      fun ⟨x, hx, hxg, hxn, hne⟩ => ⟨x, ⟨hx, hxg, hne⟩, hxn⟩⟩
  have hdir : ∀ n ∈ writtenNamespaces items g,
      fs.isDir (dir ++ [resourcesDir, g, namespaceScopedDir] ++ [n]) = true := fun n hn => by
    rw [List.append_assoc, isDir_written h hlen (by simp)
      fun _ _ => by simpa using namespaceDir_ne_entryPath]
    exact (hnames n).mp ((List.perm_insertionSort _ _).mem_iff.mp hn)
  rw [joinPath_components dir (by simp [hg]; decide), readDir_written h hlen (by simp)
    (fun _ _ => not_short_entryPath (by simp))
    (by simpa only [namespaces_prefix_entryPath] using writtenScope_namespaced hw)
    (List.nodup_dedup _) hnames]
  exact congrArg Except.ok (map_fst_filter_snd hdir)

theorem writtenFiles_nodup (hl : Layout items) (g ns : String) :
    ((items.filter fun x => x.groupResource = g ∧ x.ns = ns).map (·.name ++ ".json")).Nodup := by
  refine List.Nodup.map_on (fun x hx y hy he => ?_) ((List.Nodup.of_map _ hl.nodup).filter _)
  rw [List.mem_filter, decide_eq_true_eq] at hx hy
  exact List.inj_on_of_nodup_map hl.nodup hx.1 hy.1
    (by rw [hx.2.1, hx.2.2, hy.2.1, hy.2.2, json_inj.mp he])

theorem map_fst_pair {l : List String} {f : String → Bool} :
    (l.map fun n => (n, f n)).map (·.1) = l := by
  induction l <;> simp [*]

/-- The directory `ListContents` reads, below the extraction directory. -/
theorem contentsDir_written (α : Type) (dir : Path) {g ns : String} (hg : PathComponent g)
    (hns : ns ≠ "" → PathComponent ns) :
    ∃ q, (if ns = "" then joinPath dir [resourcesDir, g, clusterScopedDir]
        else joinPath dir [resourcesDir, g, namespaceScopedDir, ns]) = dir ++ q ∧ q ≠ [] ∧
      (∀ x : ArchiveItem α, entryPath x ≠ q) ∧
      (∀ x : ArchiveItem α, q <+: entryPath x ↔ x.groupResource = g ∧ x.ns = ns) ∧
      ∀ n (x : ArchiveItem α), q ++ [n] <+: entryPath x ↔
        x.groupResource = g ∧ x.ns = ns ∧ x.name ++ ".json" = n := by
  by_cases h0 : ns = ""
  · subst h0
    refine ⟨_, by rw [if_pos rfl, joinPath_components dir (by simp [hg]; decide)], by simp,
      fun _ => not_short_entryPath (by simp), fun _ => cluster_prefix_entryPath, fun n _ => ?_⟩
    simpa using clusterFile_prefix_entryPath
  · refine ⟨_, by rw [if_neg h0, joinPath_components dir (by simp [hg, hns h0]; decide)],
      by simp,
      fun _ => namespaceDir_ne_entryPath, fun _ => ?_, fun n _ => ?_⟩
    · rw [namespace_prefix_entryPath]
      exact ⟨fun ⟨hg, hn, _⟩ => ⟨hg, hn⟩, fun ⟨hg, hn⟩ => ⟨hg, hn, hn ▸ h0⟩⟩
    · simpa using namespaceFile_prefix_entryPath h0

theorem listContents_written (h : Extracted dir ((items.map entryPath).zip bs) fs)
    (hlen : bs.length = items.length) (hl : Layout items) {g ns : String} (hg : PathComponent g)
    (hns : ns ≠ "" → PathComponent ns)
    (hex : ∃ x ∈ items, x.groupResource = g ∧ x.ns = ns) :
    (⟨s, some dir, fs⟩ : GzipTarReader).listContents g ns = .ok (writtenFiles items g ns) := by
  obtain ⟨q, hd, hq, hfile, hpre, hsub⟩ := contentsDir_written α dir hg hns
  have hnames : ∀ n,
      n ∈ (items.filter fun x => x.groupResource = g ∧ x.ns = ns).map (·.name ++ ".json") ↔
      ∃ x ∈ items, q ++ [n] <+: entryPath x := fun n => by
    simp only [List.mem_map, List.mem_filter, decide_eq_true_eq, hsub]
    exact ⟨fun ⟨x, ⟨hx, hxg, hxn⟩, he⟩ => ⟨x, hx, hxg, hxn, he⟩,
      fun ⟨x, hx, hxg, hxn, he⟩ => ⟨x, ⟨hx, hxg, hxn⟩, he⟩⟩
  obtain ⟨x, hx, hxq⟩ := hex
  simp only [GzipTarReader.listContents]
  rw [hd, readDir_written h hlen hq (fun x _ => hfile x) ⟨x, hx, (hpre x).mpr hxq⟩
    (writtenFiles_nodup hl g ns) hnames]
  exact congrArg Except.ok map_fst_pair

theorem listContents_unwritten (h : Extracted dir ((items.map entryPath).zip bs) fs)
    (hlen : bs.length = items.length) {g ns : String} (hg : PathComponent g)
    (hns : ns ≠ "" → PathComponent ns)
    (hnone : ¬∃ x ∈ items, x.groupResource = g ∧ x.ns = ns) :
    ∃ e, (⟨s, some dir, fs⟩ : GzipTarReader).listContents g ns = .error e := by
  obtain ⟨q, hd, hq, hfile, hpre, -⟩ := contentsDir_written α dir hg hns
  have hdir : fs.isDir (dir ++ q) = false := by
    rw [Bool.eq_false_iff, ne_eq, isDir_written h hlen hq fun x _ => hfile x]
    exact fun ⟨x, hx, hxq⟩ => hnone ⟨x, hx, (hpre x).mp hxq⟩
  simp only [GzipTarReader.listContents, hd, FileSystem.readDir, hdir]
  exact ⟨_, rfl⟩

theorem mem_zip_of_forall₂ {marshal : α → Except String String} :
    ∀ {items : List (ArchiveItem α)} {bs : List String},
      List.Forall₂ (fun x b => marshal x.item = .ok b) items bs → ∀ {x}, x ∈ items →
        ∃ b, marshal x.item = .ok b ∧ (entryPath x, b) ∈ (items.map entryPath).zip bs
  | _, _, .nil, _, hx => nomatch hx
  | y :: _, b :: _, .cons hb hbs, x, hx => by
    rcases List.mem_cons.mp hx with rfl | hx
    · exact ⟨b, hb, by simp⟩
    · obtain ⟨b', hb', hm⟩ := mem_zip_of_forall₂ hbs hx
      exact ⟨b', hb', List.mem_cons_of_mem _ hm⟩

theorem get_written {marshal : α → Except String String}
    (h : Extracted dir ((items.map entryPath).zip bs) fs)
    (hl : Layout items) (hbs : List.Forall₂ (fun x b => marshal x.item = .ok b) items bs)
    {x : ArchiveItem α} (hx : x ∈ items) {b : String} (hb : marshal x.item = .ok b) :
    (⟨s, some dir, fs⟩ : GzipTarReader).get x.groupResource x.ns (x.name ++ ".json") = .ok b := by
  obtain ⟨b', hb', hm⟩ := mem_zip_of_forall₂ hbs hx
  obtain rfl : b' = b := Except.ok.inj (hb'.symm.trans hb)
  have hkeys : (((items.map entryPath).zip bs).map Prod.fst).Nodup := by
    rw [List.map_fst_zip _ _ (by simp [hbs.length_eq])]
    exact hl.pairwise_apart.imp fun {p q} (hap : Apart p q) (he : p = q) =>
      hap.1 (he ▸ List.prefix_refl p)
  have hfile : (if x.ns = "" then
        joinPath dir [resourcesDir, x.groupResource, clusterScopedDir, x.name ++ ".json"]
      else joinPath dir [resourcesDir, x.groupResource, namespaceScopedDir, x.ns, x.name ++ ".json"]) =
      dir ++ entryPath x := by
    rw [← joinPath_components dir (entryPath_components (hl.components x hx)), entryPath]
    by_cases h0 : x.ns = "" <;> simp [h0]
  simp only [GzipTarReader.get, hfile, FileSystem.readFile, h.under _ (entryPath_ne_nil x),
    layoutNode,
    lookup_of_mem hkeys hm]

end Queries

/-- Reading back what the writer wrote. After `Extract` of the stream that successful `Write`
calls and `Close` produced, every query of the reader answers from the writes alone: the
scope of each type, its namespaces when it is namespaced, the files of each type and
namespace written to, and each item's marshalled bytes. `ListNamespaces` of a cluster-scoped
or missing type, and `ListContents` of a type and namespace nothing was written to, fail. -/
theorem archive_round_trip {α : Type} {marshal : α → Except String String}
    {items : List (ArchiveItem α)} {w : GzipTarWriter} {fs : FileSystem} (hl : Layout items)
    (hw : ({} : GzipTarWriter).writeItems marshal items = .ok w) (htmp : fs.TmpExists) :
    ∃ r, GzipTarReader.extract ⟨w.close, none, fs⟩ = .ok () r ∧
      (∀ g, PathComponent g → r.getResourceScope g = .ok (writtenScope items g) ∧
        r.listNamespaces g = match writtenScope items g with
          | none => .error s!"resource {g} not found in archive"
          | some .cluster => .error s!"resource {g} is not namespace-scoped"
          | some .namespaced => .ok (writtenNamespaces items g)) ∧
      (∀ g ns, PathComponent g → (ns ≠ "" → PathComponent ns) →
        ((∃ x ∈ items, x.groupResource = g ∧ x.ns = ns) →
          r.listContents g ns = .ok (writtenFiles items g ns)) ∧
        ((¬∃ x ∈ items, x.groupResource = g ∧ x.ns = ns) → ∃ e, r.listContents g ns = .error e)) ∧
      ∀ x ∈ items, ∃ b, marshal x.item = .ok b ∧
        r.get x.groupResource x.ns (x.name ++ ".json") = .ok b := by
  obtain ⟨bs, dir, fs', hbs, hext, h⟩ := extract_written hl hw htmp
  have hlen := hbs.length_eq.symm
  refine ⟨_, hext,
    fun g hg => ⟨getResourceScope_written _ h hlen hg, listNamespaces_written _ h hlen hg⟩,
    fun g ns hg hns =>
      ⟨listContents_written _ h hlen hl hg hns, listContents_unwritten _ h hlen hg hns⟩,
    fun x hx => ?_⟩
  obtain ⟨b, hb, -⟩ := mem_zip_of_forall₂ hbs hx
  exact ⟨b, hb, get_written _ h hl hbs hx hb⟩

/-- The marshalling of a string: JSON quotes it. -/
def quoteJson (s : String) : Except String String := .ok ("\"" ++ s ++ "\"")

/-- A file system whose temporary directory is /tmp. -/
def tmpFs : FileSystem := ⟨[(["tmp"], .dir)], ["tmp"]⟩

theorem tmpFs_tmpExists : tmpFs.TmpExists := fun r hr => by
  rcases List.prefix_cons_iff.mp hr with rfl | ⟨t, rfl, ht⟩
  · rfl
  · obtain rfl := List.prefix_nil.mp ht
    rfl

/-- Items as the package's reading and writing test writes them: a namespaced type in two
namespaces, and a cluster-scoped one. -/
def sampleItems : List (ArchiveItem String) :=
  [⟨"pods", "ns-1", "bar", "pods-ns-1-bar-content"⟩,
   ⟨"pods", "ns-2", "foo", "pods-ns-2-foo-content"⟩,
   ⟨"persistentvolumes", "", "bar", "persistentvolumes-bar-content"⟩]

theorem archive_round_trip_sample :
    ∃ w r, ({} : GzipTarWriter).writeItems quoteJson sampleItems = .ok w ∧
      GzipTarReader.extract ⟨w.close, none, tmpFs⟩ = .ok () r ∧
      r.listNamespaces "pods" = .ok ["ns-1", "ns-2"] := by
  obtain ⟨r, hr, hq, -⟩ := archive_round_trip ⟨by decide, by decide⟩
    (show ({} : GzipTarWriter).writeItems quoteJson sampleItems = .ok _ from rfl) tmpFs_tmpExists
  exact ⟨_, r, rfl, hr, (hq "pods" (by decide)).2.trans (by decide)⟩

/-- `ListNamespaces` of a cluster-scoped type fails, where the namespaces written for it are
none. -/
theorem listNamespaces_fails_on_cluster_type :
    ((sampleItems.filter fun x => x.groupResource = "persistentvolumes" ∧ x.ns ≠ "").map (·.ns)) = [] ∧
      ∃ w r, ({} : GzipTarWriter).writeItems quoteJson sampleItems = .ok w ∧
        GzipTarReader.extract ⟨w.close, none, tmpFs⟩ = .ok () r ∧
        r.listNamespaces "persistentvolumes" = .error "resource persistentvolumes is not namespace-scoped" :=
  ⟨by decide, _, _, rfl, rfl, by decide⟩

end Ark
