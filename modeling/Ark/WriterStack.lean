import Ark.RoundTrip

/-!
# The writers under `gzipTarWriter`

`gzipTarWriter` stacks a `tar.Writer` on a `gzip.Writer` on the base writer it is given,
and its `Close` drops the errors of both closes. The layers are modelled as Go's
`archive/tar`, `compress/gzip` and `compress/flate` run them: each keeps the first error it
meets and answers every later call with it; `tar` pads an entry at the next header or at
`Close`; `gzip` writes its header before the first bytes and its trailer at `Close`; the
compressor holds bytes back until it cuts a block. A write is kept by what it carries (a
header block, an item's bytes, zero bytes; the gzip header, a block of compressed pieces,
the final block, the trailer), not as bytes. Where the compressor cuts its blocks is left
free (`cut`), and every result holds for each choice. The base writer answers a write from
the chunks it accepted before (`Base`), so each behaviour of it is one `Base`.

With closes that report their errors, every run whose calls all return nil leaves the
whole gzip stream of the archive with the base writer (`complete_of_closes_ok`); `Close`
returns nil even when the base refuses the end of the stream.
-/

namespace Ark

/-- The tar block size. -/
def blockSize : Nat := 512

/-- `blockPadding`: the zero bytes that fill an entry of `size` bytes to whole blocks. -/
def blockPadding (size : Nat) : Nat := (blockSize - size % blockSize) % blockSize

/-- The header `gzipTarWriter.Write` gives an item whose JSON is `itemBytes`: its path in
the layout, its size, a regular file of mode 0755. -/
def itemHeader (groupResource ns name itemBytes : String) : Header :=
  { name := if ns ≠ "" then
        joinRelative [resourcesDir, groupResource, namespaceScopedDir, ns, name ++ ".json"]
      else joinRelative [resourcesDir, groupResource, clusterScopedDir, name ++ ".json"],
    size := itemBytes.utf8ByteSize, typeflag := .reg, mode := 0o755 }

theorem GzipTarWriter.write_itemHeader {α : Type} (w : GzipTarWriter)
    (marshal : α → Except String String) (groupResource ns name : String) (item : α) :
    w.write marshal groupResource ns name item = (marshal item).map fun b =>
      { entries := w.entries ++ [⟨itemHeader groupResource ns name b, b⟩] } := by
  simp only [GzipTarWriter.write]
  cases marshal item <;> rfl

namespace WriterStack

/-- What one `Write` call hands the writer below, by what its bytes are: a tar header block,
an item's bytes, or `n` zero bytes (an entry's padding, an end-of-archive block, or none, as
`Flush` writes when nothing is owed). -/
inductive Piece where
  | header (hdr : Header)
  | data (bytes : String)
  | zeros (n : Nat)
  deriving DecidableEq, Repr

/-- The number of bytes. -/
def Piece.size : Piece → Nat
  | .header _ => blockSize
  | .data bytes => bytes.utf8ByteSize
  | .zeros n => n

/-- What a digest or a compressor takes from the piece: nothing when it has no bytes. -/
def Piece.content (p : Piece) : List Piece := if p.size = 0 then [] else [p]

/-- What one write to the base writer carries, by the part of the gzip stream it is: the
gzip header, a deflate block of the pieces `data`, the final empty block that ends the
deflate stream, or the trailer, the CRC-32 and size of `data`. -/
inductive Chunk where
  | header
  | block (data : List Piece)
  | final
  | trailer (data : List Piece)
  deriving DecidableEq, Repr

/-- The gzip header and the blocks of data, the chunks a `Write` can send. -/
def Chunk.isData : Chunk → Bool
  | .header | .block _ => true
  | .final | .trailer _ => false

/-- A base writer: its answer to a write of a chunk, from the chunks it accepted before. -/
abbrev Base := List Chunk → Chunk → Except String Unit

/-- A `gzip.Writer` with its compressor, over the base writer: `wroteHeader`, `err`,
`closed`, the pieces its digest and size are of, the pieces the compressor holds that no
block carries yet, and what the base writer accepted. The compressor's own sticky error is
left out: `gzip.Writer` keeps it as its `err`, and calls the compressor only while that is
nil. -/
structure GzipWriter where
  wroteHeader : Bool := false
  err : Option String := none
  closed : Bool := false
  digest : List Piece := []
  held : List Piece := []
  accepted : List Chunk := []
  deriving DecidableEq, Repr

/-- The sticky error of a `tar.Writer`: an error of the writer below, or
`ErrWriteAfterClose` once it is closed. -/
inductive TarError where
  | io (msg : String)
  | writeAfterClose
  deriving DecidableEq, Repr

def TarError.msg : TarError → String
  | .io msg => msg
  | .writeAfterClose => "archive/tar: write after close"

/-- A `tar.Writer` over its gzip writer: `err`, `pad`, and the bytes of the current entry
that `curr` still owes. -/
structure TarWriter where
  err : Option TarError := none
  pad : Nat := 0
  remaining : Nat := 0
  gzip : GzipWriter := {}
  deriving DecidableEq, Repr

abbrev GzipM := EStateM String GzipWriter

abbrev TarM := EStateM String TarWriter

section Layers

variable (cut : List Piece → Nat) (base : Base)

/-- A write to the base writer. -/
def baseWrite (c : Chunk) : GzipM Unit := fun g =>
  match base g.accepted c with
  | .ok () => .ok () { g with accepted := g.accepted ++ [c] }
  | .error e => .error e g

/-- `compressor.Write`: a piece with bytes joins those held, and when `cut` says so the first
held pieces go to the base writer as a block. -/
def flateWrite (p : Piece) : GzipM Unit := fun g =>
  if p.size = 0 then .ok () g else
  let held := g.held ++ [p]
  if cut held = 0 then .ok () { g with held }
  else baseWrite base (.block (held.take (cut held))) { g with held := held.drop (cut held) }

/-- The held pieces go out as a block, if there are any. -/
def flushHeld : GzipM Unit := fun g =>
  if g.held = [] then .ok () g else baseWrite base (.block g.held) { g with held := [] }

/-- `compressor.Close`: the held pieces go out as a last block, then the final block. -/
def flateClose : GzipM Unit := do
  flushHeld base
  baseWrite base .final

/-- Runs `x` and keeps its error as the gzip writer's `err`. -/
def keepGzipErr (x : GzipM Unit) : GzipM Unit := fun g =>
  match x g with
  | .ok () g' => .ok () g'
  | .error e g' => .error e { g' with err := some e }

/-- The gzip header, before the first bytes; `wroteHeader` is set before the write. -/
def gzipHeader : GzipM Unit := fun g =>
  if g.wroteHeader then .ok () g else baseWrite base .header { g with wroteHeader := true }

/-- `gzip.Writer.Write`: the header, then the piece goes into the digest and to the
compressor. -/
def gzipWrite (p : Piece) : GzipM Unit := fun g =>
  match g.err with
  | some e => .error e g
  | none => keepGzipErr (do
      gzipHeader base
      modify fun g => { g with digest := g.digest ++ p.content }
      flateWrite cut base p) g

/-- `gzip.Writer.Close`: a header if nothing was written (`z.Write(nil)`), the compressor's
close, then the trailer of the digest. -/
def gzipClose : GzipM Unit := fun g =>
  match g.err with
  | some e => .error e g
  | none =>
    if g.closed then .ok () g else
    (do
      if !g.wroteHeader then gzipWrite cut base (.zeros 0)
      keepGzipErr (do
        flateClose base
        let g ← get
        baseWrite base (.trailer g.digest))) { g with closed := true }

/-- A step of the tar writer's gzip writer. -/
def onGzip (x : GzipM Unit) : TarM Unit := fun t =>
  match x t.gzip with
  | .ok () g => .ok () { t with gzip := g }
  | .error e g => .error e { t with gzip := g }

/-- Runs `x` and keeps its error as the tar writer's `err`. -/
def keepTarErr (x : TarM Unit) : TarM Unit := fun t =>
  match x t with
  | .ok () t' => .ok () t'
  | .error e t' => .error e { t' with err := some (.io e) }

/-- `tar.Writer.Flush`: the padding owed after the entry goes out, also when it is none. -/
def tarFlush : TarM Unit := fun t =>
  match t.err with
  | some e => .error e.msg t
  | none =>
    if 0 < t.remaining then .error s!"archive/tar: missed writing {t.remaining} bytes" t
    else (do
      keepTarErr (onGzip (gzipWrite cut base (.zeros t.pad)))
      modify fun (t : TarWriter) => { t with pad := 0 }) t

/-- `writeRawHeader` of a USTAR header: after a flush, the header block; then the entry owes
its size and its padding. -/
def tarWriteRawHeader (hdr : Header) : TarM Unit := do
  tarFlush cut base
  onGzip (gzipWrite cut base (.header hdr))
  modify fun t => { t with remaining := hdr.size, pad := blockPadding hdr.size }

/-- `tar.Writer.WriteHeader`: after a flush, the header, whose error is kept. -/
def tarWriteHeader (hdr : Header) : TarM Unit := do
  tarFlush cut base
  keepTarErr (tarWriteRawHeader cut base hdr)

/-- `tar.Writer.Write` of an entry's bytes. `gzipTarWriter` writes exactly the size its
header gave; a longer write, which Go cuts to the size and answers `ErrWriteTooLong`, is
refused whole here. -/
def tarWrite (b : String) : TarM Unit := fun t =>
  match t.err with
  | some e => .error e.msg t
  | none =>
    if t.remaining < b.utf8ByteSize then .error "archive/tar: write too long" t
    else if b.utf8ByteSize = 0 then .ok () t
    else (do
      keepTarErr (onGzip (gzipWrite cut base (.data b)))
      modify fun (t : TarWriter) => { t with remaining := t.remaining - b.utf8ByteSize }) t

/-- Runs `x`, then marks the tar writer closed (`tw.err = ErrWriteAfterClose`). -/
def thenClosed (x : TarM Unit) : TarM Unit := fun t =>
  match x t with
  | .ok () t' => .ok () { t' with err := some .writeAfterClose }
  | .error e t' => .error e { t' with err := some .writeAfterClose }

/-- `tar.Writer.Close`: after a flush, the two zero blocks that end the archive, up to the
first error, which is returned; the writer is closed whatever happened. -/
def tarClose : TarM Unit := fun t =>
  match t.err with
  | some .writeAfterClose => .ok () t
  | some e => .error e.msg t
  | none => thenClosed (do
      tarFlush cut base
      onGzip (do gzipWrite cut base (.zeros blockSize); gzipWrite cut base (.zeros blockSize))) t

/-- `gzipTarWriter.Write`. -/
def write {α : Type} (marshal : α → Except String String) (groupResource ns name : String)
    (item : α) : TarM Unit := fun t =>
  match marshal item with
  | .error e => .error e t
  | .ok itemBytes => (do
      tarWriteHeader cut base (itemHeader groupResource ns name itemBytes)
      tarWrite cut base itemBytes) t

/-- `gzipTarWriter.Close`: both closes run, and their errors are dropped. -/
def close : TarM Unit := fun t =>
  let t := (tarClose cut base t).state
  .ok () { t with gzip := (gzipClose cut base t.gzip).state }

/-- `Write` on each item in turn, up to the first error. -/
def writeItems {α : Type} (marshal : α → Except String String) : List (ArchiveItem α) → TarM Unit
  | [] => pure ()
  | x :: xs => do
    write cut base marshal x.groupResource x.ns x.name x.item
    writeItems marshal xs

end Layers

/-! ## The stream an archive should leave -/

/-- The pieces of an entry in a tar archive: its header block, its bytes, its padding. -/
def Entry.pieces (e : Entry) : List Piece :=
  [.header e.header, .data e.data, .zeros (blockPadding e.header.size)]

/-- The bytes of `entries` in a tar archive, as the pieces that have any. -/
def entryBytes (entries : List Entry) : List Piece :=
  (entries.flatMap Entry.pieces).flatMap Piece.content

/-- The tar archive of `entries`: their bytes, then two zero blocks. -/
def tarArchive (entries : List Entry) : List Piece :=
  entryBytes entries ++ [.zeros blockSize, .zeros blockSize]

/-- The base writer holds the whole gzip stream of `data`: the gzip header, blocks whose
pieces make up `data`, the final block and the trailer of `data`. -/
def CompleteStream (data : List Piece) (log : List Chunk) : Prop :=
  ∃ blocks : List (List Piece), blocks.flatten = data ∧
    log = .header :: blocks.map .block ++ [.final, .trailer data]

/-- A base writer that runs out of room at the end of the stream: it accepts the gzip header
and every block, and refuses the final block and the trailer. -/
def fullAtFinal : Base := fun _ c => if c.isData then .ok () else .error "no space left on device"

/-! ## Steps that meet no error of their own -/

/-- How a step ended: it returned in a state `post` allows, or failed with the error the
base writer gave a data chunk. -/
def Outcome (base : Base) {σ : Type} (post : σ → Prop) : EStateM.Result String σ Unit → Prop
  | .ok () s => post s
  | .error e _ => ∃ acc c, c.isData ∧ base acc c = .error e

/-- The base writer accepts the gzip header and every block. -/
def AcceptsData (base : Base) : Prop := ∀ acc c, c.isData → base acc c = .ok ()

theorem fullAtFinal_acceptsData : AcceptsData fullAtFinal := fun _ _ hc => if_pos hc

section Outcome

variable {base : Base} {σ : Type} {P Q : σ → Prop}

theorem Outcome.mono {r : EStateM.Result String σ Unit} (h : Outcome base P r)
    (hq : ∀ s, P s → Q s) : Outcome base Q r := by
  rcases r with ⟨⟨⟩, s⟩ | ⟨e, s⟩
  exacts [hq s h, h]

theorem Outcome.bind {x : EStateM String σ Unit} {f : Unit → EStateM String σ Unit} {s : σ}
    (hx : Outcome base P (x s)) (hf : ∀ s', P s' → Outcome base Q (f () s')) :
    Outcome base Q ((x >>= f) s) := by
  show Outcome base Q (EStateM.bind x f s)
  unfold EStateM.bind
  revert hx
  rcases x s with ⟨⟨⟩, s'⟩ | ⟨e, s'⟩
  exacts [hf s', id]

theorem Outcome.of_ok {r : EStateM.Result String σ Unit} {s : σ} (h : Outcome base P r)
    (hr : r = .ok () s) : P s := by
  subst hr; exact h

theorem Outcome.ok_of_accepts (hb : AcceptsData base) :
    ∀ {r : EStateM.Result String σ Unit}, Outcome base P r → ∃ s, r = .ok () s ∧ P s
  | .ok () s, h => ⟨s, rfl, h⟩
  | .error _ _, ⟨acc, c, hc, he⟩ => nomatch (hb acc c hc).symm.trans he

theorem Outcome.keepGzipErr {x : GzipM Unit} {g : GzipWriter} {P : GzipWriter → Prop}
    (h : Outcome base P (x g)) : Outcome base P (keepGzipErr x g) := by
  unfold WriterStack.keepGzipErr
  revert h
  rcases x g with ⟨⟨⟩, g'⟩ | ⟨e, g'⟩ <;> exact id

theorem Outcome.keepTarErr {x : TarM Unit} {t : TarWriter} {P : TarWriter → Prop}
    (h : Outcome base P (x t)) : Outcome base P (keepTarErr x t) := by
  unfold WriterStack.keepTarErr
  revert h
  rcases x t with ⟨⟨⟩, t'⟩ | ⟨e, t'⟩ <;> exact id

theorem Outcome.onGzip {x : GzipM Unit} {t : TarWriter} {P : GzipWriter → Prop}
    (h : Outcome base P (x t.gzip)) :
    Outcome base (fun t' => ∃ g, t' = { t with gzip := g } ∧ P g) (onGzip x t) := by
  unfold WriterStack.onGzip
  revert h
  rcases x t.gzip with ⟨⟨⟩, g⟩ | ⟨e, g⟩
  exacts [fun h => ⟨g, rfl, h⟩, id]

theorem Outcome.thenClosed {x : TarM Unit} {t : TarWriter} {P : TarWriter → Prop}
    (h : Outcome base P (x t)) (hP : ∀ t', P t' → P { t' with err := some .writeAfterClose }) :
    Outcome base P (thenClosed x t) := by
  unfold WriterStack.thenClosed
  revert h
  rcases x t with ⟨⟨⟩, t'⟩ | ⟨e, t'⟩
  exacts [hP t', id]

end Outcome

/-! ## The gzip writer -/

/-- A gzip writer past its first write, with no error and open: the base writer holds the
gzip header and blocks of all the pieces given but those the compressor holds. -/
structure Open (g : GzipWriter) : Prop where
  noErr : g.err = none
  notClosed : g.closed = false
  wroteHeader : g.wroteHeader = true
  flushed : ∃ blocks : List (List Piece), blocks.flatten ++ g.held = g.digest ∧
    g.accepted = .header :: blocks.map .block

/-- A gzip writer not written to yet, or open. -/
def Streaming (g : GzipWriter) : Prop := g = {} ∨ Open g

section Gzip

variable {cut : List Piece → Nat} {base : Base} {g : GzipWriter}

theorem baseWrite_outcome {c : Chunk} (hc : c.isData) (g : GzipWriter) :
    Outcome base (· = { g with accepted := g.accepted ++ [c] }) (baseWrite base c g) := by
  unfold baseWrite
  cases h : base g.accepted c
  exacts [⟨_, _, hc, h⟩, rfl]

theorem gzipHeader_outcome (hs : Streaming g) :
    Outcome base (fun g' => Open g' ∧ g'.digest = g.digest) (gzipHeader base g) := by
  rcases hs with rfl | ho
  · exact (baseWrite_outcome (c := .header) rfl _).mono fun _ h =>
      h ▸ ⟨⟨rfl, rfl, rfl, [], rfl, rfl⟩, rfl⟩
  · unfold gzipHeader
    rw [if_pos ho.wroteHeader]
    exact ⟨ho, rfl⟩

theorem flateWrite_outcome (p : Piece) (g : GzipWriter) :
    Outcome base (fun g' => ∃ new : List (List Piece), new.flatten ++ g'.held = g.held ++ p.content ∧
      g' = { g with held := g'.held, accepted := g.accepted ++ new.map .block })
      (flateWrite cut base p g) := by
  unfold flateWrite
  by_cases hp : p.size = 0
  · rw [if_pos hp]
    exact ⟨[], by simp [Piece.content, hp], by simp⟩
  rw [if_neg hp]
  dsimp only
  split
  · exact ⟨[], by simp [Piece.content, hp], by simp⟩
  · exact (baseWrite_outcome (c := .block _) rfl _).mono fun g' h => h ▸
      ⟨[_], by simp [Piece.content, hp, List.take_append_drop], rfl⟩

theorem gzipWrite_outcome (p : Piece) (hs : Streaming g) :
    Outcome base (fun g' => Open g' ∧ g'.digest = g.digest ++ p.content) (gzipWrite cut base p g) := by
  have hnoErr : g.err = none := hs.elim (fun h => h ▸ rfl) Open.noErr
  unfold gzipWrite
  rw [hnoErr]
  refine Outcome.keepGzipErr (Outcome.bind (gzipHeader_outcome hs) fun g₁ ⟨ho, hd⟩ => ?_)
  refine (flateWrite_outcome p _).mono fun g' ⟨new, hnew, hg'⟩ => ?_
  obtain ⟨blocks, hb, ha⟩ := ho.flushed
  rw [hg']
  refine ⟨⟨ho.noErr, ho.notClosed, ho.wroteHeader, blocks ++ new, ?_, by simp [ha]⟩,
    by simp [hd]⟩
  simp only [List.flatten_append, List.append_assoc, hnew, ← hb]

theorem flushHeld_outcome (g : GzipWriter) :
    Outcome base (· = { g with held := [], accepted := g.accepted ++
      (if g.held = [] then [] else [.block g.held]) }) (flushHeld base g) := by
  unfold flushHeld
  split
  · rename_i h
    show g = _
    cases g
    simp_all
  · exact (baseWrite_outcome (c := .block _) rfl _).mono fun _ h => h

theorem bind_ok {ε σ α β : Type} {x : EStateM ε σ α} {f : α → EStateM ε σ β} {s s' : σ}
    {b : β} (h : (x >>= f) s = .ok b s') : ∃ a s₁, x s = .ok a s₁ ∧ f a s₁ = .ok b s' := by
  revert h
  show EStateM.bind x f s = _ → _
  unfold EStateM.bind
  rcases x s with ⟨a, s₁⟩ | ⟨e, s₁⟩
  exacts [fun h => ⟨a, s₁, rfl, h⟩, nofun]

theorem baseWrite_ok {c : Chunk} {g' : GzipWriter} (h : baseWrite base c g = .ok () g') :
    g' = { g with accepted := g.accepted ++ [c] } := by
  unfold baseWrite at h
  split at h <;> cases h
  rfl

theorem keepGzipErr_ok {x : GzipM Unit} {g' : GzipWriter} (h : keepGzipErr x g = .ok () g') :
    x g = .ok () g' := by
  unfold keepGzipErr at h
  split at h <;> cases h
  assumption

/-- A close from an open gzip writer that returns nil leaves the whole stream of its digest
with the base writer. -/
theorem gzipClose_ok {g' : GzipWriter} (ho : Open g) (h : gzipClose cut base g = .ok () g') :
    CompleteStream g.digest g'.accepted := by
  simp only [gzipClose, ho.noErr, ho.notClosed, ho.wroteHeader, Bool.false_eq_true, if_false,
    Bool.not_true] at h
  obtain ⟨_, _, ⟨⟩, h⟩ := bind_ok h
  obtain ⟨_, g₁, h₁, h⟩ := bind_ok (keepGzipErr_ok h)
  obtain ⟨_, g₂, h₂, h₁⟩ := bind_ok h₁
  have h₂ := (flushHeld_outcome _).of_ok h₂
  rw [baseWrite_ok h, baseWrite_ok h₁, h₂]
  obtain ⟨blocks, hb, ha⟩ := ho.flushed
  refine ⟨blocks ++ if g.held = [] then [] else [g.held], ?_, ?_⟩
  · split <;> simp_all
  · split <;> simp [ha]

/-- A close from an open gzip writer, over the base writer that refuses the final block,
sends the held pieces and stops there. -/
theorem gzipClose_fullAtFinal (ho : Open g) :
    (gzipClose cut fullAtFinal g).state.accepted =
      g.accepted ++ if g.held = [] then [] else [.block g.held] := by
  obtain ⟨wroteHeader, err, closed, digest, held, accepted⟩ := g
  obtain ⟨rfl, rfl, rfl, -⟩ := ho
  by_cases h : held = [] <;>
    simp [h, gzipClose, flateClose, flushHeld, keepGzipErr, baseWrite, fullAtFinal, Chunk.isData,
      bind, EStateM.bind, pure, EStateM.pure, EStateM.Result.state]

end Gzip

/-! ## The tar writer -/

/-- A tar writer between entries, with no error: its gzip writer streams, and what it
handed on, with the padding it owes, is the bytes of `entries`. -/
structure Writing (entries : List Entry) (t : TarWriter) : Prop where
  noErr : t.err = none
  done : t.remaining = 0
  handed : t.gzip.digest ++ (Piece.zeros t.pad).content = entryBytes entries
  streaming : Streaming t.gzip

theorem writing_init : Writing [] {} := ⟨rfl, rfl, rfl, .inl rfl⟩

section Tar

variable {cut : List Piece → Nat} {base : Base} {t : TarWriter} {es : List Entry}

theorem tarFlush_outcome (he : t.err = none) (hr : t.remaining = 0) (hs : Streaming t.gzip) :
    Outcome base (fun t' => t'.err = none ∧ t'.remaining = 0 ∧ t'.pad = 0 ∧ Open t'.gzip ∧
      t'.gzip.digest = t.gzip.digest ++ (Piece.zeros t.pad).content) (tarFlush cut base t) := by
  unfold tarFlush
  rw [he, hr]
  dsimp only
  rw [if_neg (Nat.lt_irrefl 0)]
  refine Outcome.bind (Outcome.keepTarErr (Outcome.onGzip (gzipWrite_outcome _ hs))) ?_
  rintro _ ⟨g, rfl, ho, hd⟩
  exact ⟨he, hr, rfl, ho, hd⟩

theorem tarWriteHeader_outcome (hw : Writing es t) (h : Header) :
    Outcome base (fun t' => t'.err = none ∧ t'.remaining = h.size ∧ t'.pad = blockPadding h.size ∧
      Open t'.gzip ∧ t'.gzip.digest = entryBytes es ++ [.header h]) (tarWriteHeader cut base h t) := by
  unfold tarWriteHeader tarWriteRawHeader
  refine Outcome.bind (tarFlush_outcome hw.noErr hw.done hw.streaming)
    fun t₁ ⟨he₁, hr₁, hp₁, ho₁, hd₁⟩ => Outcome.keepTarErr <|
      Outcome.bind (tarFlush_outcome he₁ hr₁ (.inr ho₁)) fun t₂ ⟨he₂, _, _, ho₂, hd₂⟩ =>
        Outcome.bind (Outcome.onGzip (gzipWrite_outcome _ (.inr ho₂))) ?_
  rintro _ ⟨g, rfl, ho₃, hd₃⟩
  refine ⟨he₂, rfl, rfl, ho₃, ?_⟩
  rw [hd₃, hd₂, hp₁, hd₁, hw.handed]
  simp [Piece.content, Piece.size, blockSize]

theorem tarWrite_outcome {b : String} (he : t.err = none) (hr : t.remaining = b.utf8ByteSize)
    (ho : Open t.gzip) :
    Outcome base (fun t' => t'.err = none ∧ t'.remaining = 0 ∧ t'.pad = t.pad ∧ Open t'.gzip ∧
      t'.gzip.digest = t.gzip.digest ++ (Piece.data b).content) (tarWrite cut base b t) := by
  unfold tarWrite
  rw [he]
  dsimp only
  rw [if_neg (by omega)]
  by_cases h0 : b.utf8ByteSize = 0
  · rw [if_pos h0]
    exact ⟨he, by omega, rfl, ho, by simp [Piece.content, Piece.size, h0]⟩
  rw [if_neg h0]
  refine Outcome.bind (Outcome.keepTarErr (Outcome.onGzip (gzipWrite_outcome _ (.inr ho)))) ?_
  rintro _ ⟨g, rfl, ho₁, hd₁⟩
  exact ⟨he, by simp [hr], rfl, ho₁, hd₁⟩

theorem write_outcome {α : Type} {marshal : α → Except String String}
    {groupResource ns name : String} {item : α} {b : String} (hw : Writing es t) (hm : marshal item = .ok b) :
    Outcome base (Writing (es ++ [⟨itemHeader groupResource ns name b, b⟩]))
      (write cut base marshal groupResource ns name item t) := by
  unfold write
  rw [hm]
  refine Outcome.bind (tarWriteHeader_outcome hw _) fun t₁ ⟨he, hr, hp, ho, hd⟩ =>
    (tarWrite_outcome he hr ho).mono fun t₂ ⟨he₂, hr₂, hp₂, ho₂, hd₂⟩ =>
      ⟨he₂, hr₂, ?_, .inr ho₂⟩
  rw [hd₂, hd, hp₂, hp]
  simp [entryBytes, Entry.pieces, Piece.content, Piece.size, blockSize, itemHeader]

theorem writeItems_outcome {α : Type} {marshal : α → Except String String} :
    ∀ {items : List (ArchiveItem α)} {es : List Entry} {t : TarWriter} {w : GzipTarWriter},
      Writing es t → GzipTarWriter.writeItems marshal ⟨es⟩ items = .ok w →
      Outcome base (Writing w.entries) (writeItems cut base marshal items t)
  | [], _, _, _, hw, h => by cases h; exact hw
  | x :: xs, es, t, w, hw, h => by
    rw [GzipTarWriter.writeItems, GzipTarWriter.write_itemHeader] at h
    cases hm : marshal x.item with
    | error e => rw [hm] at h; cases h
    | ok b =>
      rw [hm] at h
      exact Outcome.bind (write_outcome hw hm) fun _ hw₁ => writeItems_outcome hw₁ h

/-- `Write`s that all return nil wrote items that all marshal. -/
theorem writeItems_marshals {α : Type} {marshal : α → Except String String} (es : List Entry) :
    ∀ {items : List (ArchiveItem α)} {t t' : TarWriter},
      writeItems cut base marshal items t = .ok () t' →
      ∃ w, GzipTarWriter.writeItems marshal ⟨es⟩ items = .ok w
  | [], _, _, _ => ⟨⟨es⟩, rfl⟩
  | x :: xs, t, t', h => by
    obtain ⟨_, t₁, h₁, h⟩ := bind_ok h
    cases hm : marshal x.item with
    | error e => simp [write, hm] at h₁
    | ok b =>
      obtain ⟨w, hw⟩ :=
        writeItems_marshals (es ++ [⟨itemHeader x.groupResource x.ns x.name b, b⟩]) h
      exact ⟨w, by rw [GzipTarWriter.writeItems, GzipTarWriter.write_itemHeader, hm]; exact hw⟩

/-- The two zero blocks that end a tar archive. -/
theorem zeroBlocks_outcome {g : GzipWriter} (hs : Streaming g) :
    Outcome base (fun g' => Open g' ∧ g'.digest = g.digest ++ [.zeros blockSize, .zeros blockSize])
      ((do gzipWrite cut base (.zeros blockSize); gzipWrite cut base (.zeros blockSize)) g) :=
  Outcome.bind (gzipWrite_outcome _ hs) fun _ ⟨ho₁, hd₁⟩ =>
    (gzipWrite_outcome _ (.inr ho₁)).mono fun _ ⟨ho₂, hd₂⟩ =>
      ⟨ho₂, by simp [hd₂, hd₁, Piece.content, Piece.size, blockSize]⟩

theorem tarClose_outcome (hw : Writing es t) :
    Outcome base (fun t' => Open t'.gzip ∧ t'.gzip.digest = tarArchive es) (tarClose cut base t) := by
  unfold tarClose
  rw [hw.noErr]
  refine Outcome.thenClosed (Outcome.bind (tarFlush_outcome hw.noErr hw.done hw.streaming)
    fun t₁ ⟨_, _, _, ho₁, hd₁⟩ => (Outcome.onGzip (zeroBlocks_outcome (.inr ho₁))).mono ?_)
      fun _ h => h
  rintro _ ⟨g, rfl, ho, hd⟩
  exact ⟨ho, by simp [hd, hd₁, hw.handed, tarArchive]⟩

end Tar

/-! ## Runs -/

/-- With closes that report their errors the law holds: a run whose `Write`s and both closes
return nil leaves with the base writer the whole gzip stream of the tar archive the entry
model writes, and `Close` returns nil over the same writers. -/
theorem complete_of_closes_ok {α : Type} (cut : List Piece → Nat) (base : Base)
    (marshal : α → Except String String) (items : List (ArchiveItem α)) {t₁ t₂ : TarWriter}
    {g₃ : GzipWriter} (h₁ : writeItems cut base marshal items {} = .ok () t₁)
    (h₂ : tarClose cut base t₁ = .ok () t₂) (h₃ : gzipClose cut base t₂.gzip = .ok () g₃) :
    ∃ w, GzipTarWriter.writeItems marshal {} items = .ok w ∧
      CompleteStream (tarArchive w.close.entries) g₃.accepted ∧
      close cut base t₁ = .ok () { t₂ with gzip := g₃ } := by
  obtain ⟨w, hw⟩ := writeItems_marshals [] h₁
  have ⟨ho, hd⟩ := (tarClose_outcome ((writeItems_outcome writing_init hw).of_ok h₁)).of_ok h₂
  refine ⟨w, hw, hd ▸ gzipClose_ok ho h₃, ?_⟩
  simp only [close, h₂, h₃, EStateM.Result.state]

theorem CompleteStream.final_mem {data : List Piece} {log : List Chunk}
    (h : CompleteStream data log) : Chunk.final ∈ log := by
  obtain ⟨_, _, rfl⟩ := h
  simp

/-- `Close` returns nil whatever the base writer answers. Over a base that accepts the gzip
header and every block and refuses the final block, for every compressor and all items
that marshal, every `Write` and the `Close` return nil, and the base holds the archive's
bytes in blocks but neither the final block nor the trailer: not the whole stream. -/
theorem close_hides_refused_final {α : Type} (cut : List Piece → Nat)
    (marshal : α → Except String String) (items : List (ArchiveItem α)) (w : GzipTarWriter)
    (hw : GzipTarWriter.writeItems marshal {} items = .ok w) :
    ∃ t t', writeItems cut fullAtFinal marshal items {} = .ok () t ∧
      close cut fullAtFinal t = .ok () t' ∧
      (∃ blocks : List (List Piece), blocks.flatten = tarArchive w.close.entries ∧
        t'.gzip.accepted = .header :: blocks.map .block) ∧
      ¬CompleteStream (tarArchive w.close.entries) t'.gzip.accepted := by
  obtain ⟨t, ht, hW⟩ := (writeItems_outcome writing_init hw).ok_of_accepts fullAtFinal_acceptsData
  obtain ⟨t₂, ht₂, ho, hd⟩ :=
    (tarClose_outcome hW : Outcome _ _ (tarClose cut _ t)).ok_of_accepts fullAtFinal_acceptsData
  obtain ⟨blocks, hb, ha⟩ := ho.flushed
  let held : List (List Piece) := if t₂.gzip.held = [] then [] else [t₂.gzip.held]
  have hacc : (gzipClose cut fullAtFinal t₂.gzip).state.accepted =
      .header :: (blocks ++ held).map .block := by
    rw [gzipClose_fullAtFinal ho, ha]
    split <;> simp [held, *]
  refine ⟨t, { t₂ with gzip := (gzipClose cut fullAtFinal t₂.gzip).state }, ht,
    by simp only [close, ht₂, EStateM.Result.state], ⟨blocks ++ held, ?_, hacc⟩,
    fun hc => by simpa [hacc] using hc.final_mem⟩
  show _ = tarArchive w.entries
  rw [← hd, ← hb]
  by_cases h : t₂.gzip.held = [] <;> simp [held, h]

/-- The sample items over the base writer that refuses the final block, with a compressor
that holds every piece until its close. -/
theorem sample_close_hides_refused_final :
    ∃ w, GzipTarWriter.writeItems quoteJson {} sampleItems = .ok w ∧
      ∃ t t', writeItems (fun _ => 0) fullAtFinal quoteJson sampleItems {} = .ok () t ∧
        close (fun _ => 0) fullAtFinal t = .ok () t' ∧
        (∃ blocks : List (List Piece), blocks.flatten = tarArchive w.close.entries ∧
          t'.gzip.accepted = .header :: blocks.map .block) ∧
        ¬CompleteStream (tarArchive w.close.entries) t'.gzip.accepted :=
  ⟨_, rfl, close_hides_refused_final _ _ _ _ rfl⟩

end WriterStack

end Ark
