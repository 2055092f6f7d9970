import Ark.Engine

/-!
# The backup archive

`gzipTarWriter` writes each item as a tar entry `resources/<type>/cluster/<name>.json` or
`resources/<type>/namespaces/<namespace>/<name>.json`; `gzipTarReader` extracts such a
stream into a temporary directory and answers the restore's queries from the files there.
Paths are the components `filepath.Clean` leaves of a rooted path; a Go string path is
split at its separators. The gzip and tar layers are modelled by the list of entries they
carry, and the file system by a map from paths to directories and files.
-/

namespace Ark

/-! ## Paths -/

/-- A rooted path, as the components of its cleaned form. -/
abbrev Path := List String

/-- `strings.Split(s, "/")`, on the string's characters. -/
def splitPath (s : String) : List String := (s.data.splitOnP (· == '/')).map String.mk

/-- A path as Go prints it. -/
def showPath (p : Path) : String := "/" ++ String.intercalate "/" p

/-- One component of `filepath.Clean` on a rooted path: empty and `.` components go, and
`..` removes the component before it, or nothing at the root. -/
def cleanStep (acc : Path) (part : String) : Path :=
  if part = "" ∨ part = "." then acc else if part = ".." then acc.dropLast else acc ++ [part]

/-- `filepath.Join(dir, elems...)` for a rooted, clean `dir`. -/
def joinPath (dir : Path) (elems : List String) : Path :=
  (elems.flatMap splitPath).foldl cleanStep dir

/-- One component of `filepath.Clean` on a relative path: a `..` with nothing before it to
remove is kept. -/
def cleanRelativeStep (acc : List String) (part : String) : List String :=
  if part = "" ∨ part = "." then acc
  else if part = ".." then
    if acc = [] ∨ acc.getLast? = some ".." then acc ++ [".."] else acc.dropLast
  else acc ++ [part]

/-- `filepath.Join(elems...)` of relative elements. -/
def joinRelative (elems : List String) : String :=
  if elems.all (· = "") then "" else
    match (elems.flatMap splitPath).foldl cleanRelativeStep [] with
    | [] => "."
    | parts => String.intercalate "/" parts

/-- Modelled from the spec: `ResourcesDir`, the root directory of the layout. -/
def resourcesDir : String := "resources"

/-- Modelled from the spec: `NamespaceScopedDir`, the directory of a type's namespaces. -/
def namespaceScopedDir : String := "namespaces"

/-- Modelled from the spec: `ClusterScopedDir`, the directory of a type's cluster-scoped
items. -/
def clusterScopedDir : String := "cluster"

/-! ## The tar stream -/

inductive TypeFlag where
  | reg
  | dir
  | other
  deriving DecidableEq, Repr

/-- A tar header, with the fields the archive code sets or reads; `ModTime` is left out. -/
structure Header where
  name : String
  size : Nat
  typeflag : TypeFlag
  mode : Nat
  deriving DecidableEq, Repr

/-- A tar entry: its header and the bytes after it. -/
structure Entry where
  header : Header
  data : String
  deriving DecidableEq, Repr

/-- A gzipped tar stream as `Extract` reads it: the error `gzip.NewReader` returns on a bad
gzip header, the entries `Next` returns, and the error `Next` returns after them when the
stream does not end cleanly. -/
structure TarStream where
  gzipError : Option String := none
  entries : List Entry
  nextError : Option String := none
  deriving DecidableEq, Repr

/-! ## The writer -/

/-- `gzipTarWriter`: the entries its tar writer has been given. -/
structure GzipTarWriter where
  entries : List Entry := []
  deriving DecidableEq, Repr

/-- `gzipTarWriter.Write`, with `json.Marshal` given as `marshal`. -/
def GzipTarWriter.write {α : Type} (w : GzipTarWriter) (marshal : α → Except String String)
    (groupResource ns name : String) (item : α) : Except String GzipTarWriter := do
  let filePath := if ns ≠ "" then
      joinRelative [resourcesDir, groupResource, namespaceScopedDir, ns, name ++ ".json"]
    else joinRelative [resourcesDir, groupResource, clusterScopedDir, name ++ ".json"]
  let itemBytes ← marshal item
  let hdr : Header := { name := filePath, size := itemBytes.utf8ByteSize, typeflag := .reg,
                        mode := 0o755 }
  pure { entries := w.entries ++ [⟨hdr, itemBytes⟩] }

/-- `gzipTarWriter.Close`: the stream written. -/
def GzipTarWriter.close (w : GzipTarWriter) : TarStream := { entries := w.entries }

/-- An item written to the archive: its type, namespace (empty for a cluster-scoped item),
name and value. -/
structure ArchiveItem (α : Type) where
  groupResource : String
  ns : String
  name : String
  item : α

/-- `Write` called on each item in turn, up to the first error. -/
def GzipTarWriter.writeItems {α : Type} (marshal : α → Except String String) :
    GzipTarWriter → List (ArchiveItem α) → Except String GzipTarWriter
  | w, [] => .ok w
  | w, x :: xs => do
    let w ← w.write marshal x.groupResource x.ns x.name x.item
    writeItems marshal w xs

/-! ## The file system -/

inductive Node where
  | dir
  | file (data : String)
  deriving DecidableEq, Repr

/-- Modelled from the spec: the file system the reader extracts into, a map from rooted
paths to nodes in which the latest entry of a path wins, and the directory in which
`TempDir` makes its directories. -/
structure FileSystem where
  nodes : List (Path × Node)
  tmp : Path
  deriving DecidableEq, Repr

abbrev FsM := EStateM String FileSystem

/-- The order `ReadDir` sorts names in: Go compares bytes, and on UTF-8 that is the order
of the code points. -/
def fileNameLE (a b : String) : Prop := a.data ≤ b.data

instance : DecidableRel fileNameLE := fun a b => inferInstanceAs (Decidable (a.data ≤ b.data))

namespace FileSystem

def node? (fs : FileSystem) (p : Path) : Option Node := fs.nodes.lookup p

/-- The root is a directory. -/
def isDir (fs : FileSystem) (p : Path) : Bool := p = [] || fs.node? p = some .dir

def put (fs : FileSystem) (p : Path) (n : Node) : FileSystem :=
  { fs with nodes := (p, n) :: fs.nodes }

def paths (fs : FileSystem) : List Path := (fs.nodes.map (·.1)).dedup

/-- The names of the entries of `d`. -/
def childNames (fs : FileSystem) (d : Path) : List String :=
  fs.paths.filterMap fun p => if p.dropLast = d then p.getLast? else none

/-- Modelled from the spec: `ReadDir`, the entries of a directory sorted by name, each with
whether it is a directory. -/
def readDir (fs : FileSystem) (d : Path) : Except String (List (String × Bool)) :=
  if fs.isDir d then
    .ok (((fs.childNames d).insertionSort fileNameLE).map fun n => (n, fs.isDir (d ++ [n])))
  else .error s!"open {showPath d}: no such file or directory"

/-- Modelled from the spec: `ReadFile`. -/
def readFile (fs : FileSystem) (p : Path) : Except String String :=
  match fs.node? p with
  | some (.file data) => .ok data
  | some .dir => .error s!"read {showPath p}: is a directory"
  | none => .error s!"open {showPath p}: no such file or directory"

/-- Modelled from the spec: `DirExists`. -/
def dirExists (fs : FileSystem) (p : Path) : Bool := fs.isDir p

/-- A name longer than every component at depth `d.length`, so that nothing lies under
`d ++ [name]`. -/
def freshName (fs : FileSystem) (d : Path) : String :=
  String.mk (List.replicate
    ((fs.paths.filterMap fun p => (p.drop d.length).head?).foldr (fun n m => max n.length m) 0 + 1)
    'x')

end FileSystem

/-- Modelled from the spec: `MkdirAll`, which makes the missing directories of a path,
parents first, and fails at a file on the way. -/
def mkdirAll (p : Path) : FsM Unit := go [] p
where
  go (done : Path) : List String → FsM Unit
    | [] => pure ()
    | c :: cs => do
      let q := done ++ [c]
      match (← get).node? q with
      | some .dir => pure ()
      | some (.file _) => throw s!"mkdir {showPath q}: not a directory"
      | none => modify (·.put q .dir)
      go q cs

/-- Modelled from the spec: `Create`, an empty file in an existing directory. -/
def create (p : Path) : FsM Unit := do
  let fs ← get
  if !fs.isDir p.dropLast then throw s!"open {showPath p}: no such file or directory"
  else if fs.node? p = some .dir then throw s!"open {showPath p}: is a directory"
  else set (fs.put p (.file ""))

/-- Modelled from the spec: `io.Copy` into the file at `p`. -/
def copy (p : Path) (data : String) : FsM Unit :=
  modify fun fs => match fs.node? p with
    | some (.file old) => fs.put p (.file (old ++ data))
    | _ => fs

/-- Modelled from the spec: `TempDir`, a new directory in the temporary directory. -/
def tempDir : FsM Path := do
  let fs ← get
  if !fs.isDir fs.tmp then throw s!"stat {showPath fs.tmp}: no such file or directory"
  else
    let dir := fs.tmp ++ [fs.freshName fs.tmp]
    set (fs.put dir .dir)
    pure dir

/-- Modelled from the spec: `RemoveAll`. -/
def removeAll (p : Path) : FsM Unit :=
  modify fun fs => { fs with nodes := fs.nodes.filter fun e => !p.isPrefixOf e.1 }

/-- `errors.Wrapf(err, msg)`. -/
def wrapf {α : Type} (msg : String) (x : FsM α) : FsM α :=
  tryCatch x fun e => throw s!"{msg}: {e}"

/-! ## The reader -/

/-- `gzipTarReader`: the archive stream, the directory it was extracted to (`tempDir`,
empty before `Extract`), and the file system. -/
structure GzipTarReader where
  archive : TarStream
  tempDir : Option Path := none
  fs : FileSystem
  deriving DecidableEq, Repr

def errNotExtracted : String := "archive has not been extracted"

/-- The loop of `Extract` over the entries of the stream, into `dir`. -/
def extractEntries (dir : Path) : List Entry → FsM Unit
  | [] => pure ()
  | entry :: entries => do
    let target := joinPath dir [entry.header.name]
    match entry.header.typeflag with
    | .dir => wrapf s!"error running MkdirAll for {showPath target}" (mkdirAll target)
    | .reg => do
      wrapf s!"error running MkdirAll for {showPath target}" (mkdirAll target.dropLast)
      wrapf s!"error creating file {showPath target}" (create target)
      wrapf s!"error copying data to file {showPath target}" (copy target entry.data)
    | .other => pure ()
    extractEntries dir entries

namespace GzipTarReader

/-- `Extract`. The temporary directory is recorded only when every entry was extracted. -/
def extract : EStateM String GzipTarReader Unit := fun r =>
  match r.archive.gzipError with
  | some e => .error s!"error creating gzip reader: {e}" r
  | none =>
    let run : FsM Path := do
      let dir ← wrapf "error creating temp dir" Ark.tempDir
      extractEntries dir r.archive.entries
      match r.archive.nextError with
      | some e => throw s!"error getting next tar header: {e}"
      | none => pure dir
    match run r.fs with
    | .ok dir fs => .ok () { r with tempDir := some dir, fs }
    | .error e fs => .error e { r with fs }

/-- `GetResourceScope`: `none` when the type's directory is missing. -/
def getResourceScope (r : GzipTarReader) (groupResource : String) :
    Except String (Option ResourceScope) :=
  match r.tempDir with
  | none => .error errNotExtracted
  | some tempDir =>
    let dir := joinPath tempDir [resourcesDir, groupResource]
    if !r.fs.dirExists dir then .ok none
    else if r.fs.dirExists (joinPath dir [clusterScopedDir]) then .ok (some .cluster)
    else .ok (some .namespaced)

def listNamespaces (r : GzipTarReader) (groupResource : String) : Except String (List String) :=
  match r.tempDir with
  | none => .error errNotExtracted
  | some tempDir =>
    match r.getResourceScope groupResource with
    | .error e => .error e
    | .ok none => .error s!"resource {groupResource} not found in archive"
    | .ok (some .cluster) => .error s!"resource {groupResource} is not namespace-scoped"
    | .ok (some .namespaced) =>
      let dir := joinPath tempDir [resourcesDir, groupResource, namespaceScopedDir]
      match r.fs.readDir dir with
      | .error e => .error s!"error reading contents of directory {showPath dir}: {e}"
      | .ok contents => .ok ((contents.filter (·.2)).map (·.1))

def listContents (r : GzipTarReader) (groupResource ns : String) : Except String (List String) :=
  match r.tempDir with
  | none => .error errNotExtracted
  | some tempDir =>
    let dir := if ns = "" then joinPath tempDir [resourcesDir, groupResource, clusterScopedDir]
      else joinPath tempDir [resourcesDir, groupResource, namespaceScopedDir, ns]
    match r.fs.readDir dir with
    | .error e => .error s!"error reading directory {showPath dir}: {e}"
    | .ok files => .ok (files.map (·.1))

def get (r : GzipTarReader) (groupResource ns name : String) : Except String String :=
  match r.tempDir with
  | none => .error errNotExtracted
  | some tempDir =>
    let filename := if ns = "" then
        joinPath tempDir [resourcesDir, groupResource, clusterScopedDir, name]
      else joinPath tempDir [resourcesDir, groupResource, namespaceScopedDir, ns, name]
    match r.fs.readFile filename with
    | .error e => .error s!"error reading file {showPath filename}: {e}"
    | .ok bytes => .ok bytes

/-- `Close`: the temporary directory is removed. -/
def close : EStateM String GzipTarReader Unit := fun r =>
  match r.tempDir with
  | none => .ok () r
  | some tempDir => match removeAll tempDir r.fs with
    | .ok () fs => .ok () { r with fs }
    | .error e fs => .error s!"error removing temp dir {showPath tempDir}: {e}" { r with fs }

end GzipTarReader

end Ark
