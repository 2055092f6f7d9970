import Ark.WriterStack

/-!
# Runs of the writer stack

`tar.Writer` and `gzip.Writer` keep the first error they meet and answer every later call
with it, and `tar.Writer.Close` leaves the writer closed whatever happened. So every state
`gzipTarWriter` reaches by `Write`s and `Close`s, over every base writer and compressor, is
one of two kinds (`reachable_writing_or_stuck`): writing, with no error and between entries,
the base writer holding the gzip header and blocks of the bytes of the entries written so
far; or stuck, when every later `Write` fails and changes nothing, and `Close` changes
nothing, so the base writer is never written to again. A `Write` whose item does not
marshal leaves the writer as it was.

Over a base writer that accepts every write, the stack refines the entry-level writer of the
round trip (`writeItems_refines`): it fails with the same error, or leaves with the base
writer the whole gzip stream of the same archive.
-/

namespace Ark.WriterStack

/-- A gzip writer that holds an error or is closed: its `Write` and `Close` change nothing. -/
def GzipDone (g : GzipWriter) : Prop := g.err ≠ none ∨ g.closed = true

/-- A writer both of whose layers failed or closed. -/
structure Stuck (t : TarWriter) : Prop where
  tarErr : t.err ≠ none
  gzipDone : GzipDone t.gzip

/-- How a step ended on an error: in a state `P` allows. A return is not constrained. -/
def OnError {σ : Type} (P : σ → Prop) : EStateM.Result String σ Unit → Prop
  | .ok _ _ => True
  | .error _ s => P s

section OnError

variable {σ : Type} {P Q : σ → Prop}

theorem OnError.mono {r : EStateM.Result String σ Unit} (h : OnError P r) (hq : ∀ s, P s → Q s) :
    OnError Q r := by
  rcases r with ⟨⟨⟩, s⟩ | ⟨e, s⟩
  exacts [trivial, hq s h]

theorem OnError.bind {x : EStateM String σ Unit} {f : Unit → EStateM String σ Unit} {s : σ}
    (hx : OnError P (x s)) (hf : ∀ s', x s = .ok () s' → OnError P (f () s')) :
    OnError P ((x >>= f) s) := by
  show OnError P (EStateM.bind x f s)
  unfold EStateM.bind
  revert hx hf
  rcases x s with ⟨⟨⟩, s'⟩ | ⟨e, s'⟩
  exacts [fun _ hf => hf s' rfl, fun hx _ => hx]

/-- A step's state on either exit: a return `P` allows, or an error `Q` allows. -/
theorem state_of_outcome {base : Base} {r : EStateM.Result String σ Unit}
    (ho : Outcome base P r) (he : OnError Q r) : P r.state ∨ Q r.state := by
  rcases r with ⟨⟨⟩, s⟩ | ⟨e, s⟩
  exacts [.inl ho, .inr he]

end OnError

/-! ## Errors are kept -/

section Errors

variable {cut : List Piece → Nat} {base : Base}

theorem keepGzipErr_onError (x : GzipM Unit) (g : GzipWriter) :
    OnError (fun g' : GzipWriter => g'.err ≠ none) (keepGzipErr x g) := by
  unfold keepGzipErr
  split <;> simp [OnError]

/-- A failed gzip `Write` leaves its error with the gzip writer. -/
theorem gzipWrite_onError (p : Piece) (g : GzipWriter) :
    OnError (fun g' : GzipWriter => g'.err ≠ none) (gzipWrite cut base p g) := by
  unfold gzipWrite
  split
  · simp_all [OnError]
  · exact keepGzipErr_onError _ _

theorem onGzip_onError {x : GzipM Unit} {t : TarWriter} {P : GzipWriter → Prop}
    (h : OnError P (x t.gzip)) : OnError (fun t' : TarWriter => P t'.gzip) (onGzip x t) := by
  unfold onGzip
  revert h
  rcases x t.gzip with ⟨⟨⟩, g⟩ | ⟨e, g⟩ <;> exact id

theorem keepTarErr_stuck {x : TarM Unit} {t : TarWriter}
    (h : OnError (fun t' : TarWriter => GzipDone t'.gzip) (x t)) : OnError Stuck (keepTarErr x t) := by
  unfold keepTarErr
  revert h
  rcases x t with ⟨⟨⟩, t'⟩ | ⟨e, t'⟩
  exacts [fun _ => trivial, fun h => ⟨by simp, h⟩]

/-- A gzip write through the tar writer whose error the tar writer keeps. -/
theorem keptGzipWrite_stuck (p : Piece) (t : TarWriter) :
    OnError Stuck (keepTarErr (onGzip (gzipWrite cut base p)) t) :=
  keepTarErr_stuck ((onGzip_onError (gzipWrite_onError p t.gzip)).mono fun _ => .inl)

theorem tarFlush_stuck {t : TarWriter} (he : t.err = none) (hr : t.remaining = 0) :
    OnError Stuck (tarFlush cut base t) := by
  unfold tarFlush
  rw [he, hr]
  dsimp only
  rw [if_neg (Nat.lt_irrefl 0)]
  exact OnError.bind (keptGzipWrite_stuck _ t) fun _ _ => trivial

theorem tarWriteHeader_stuck {t : TarWriter} (he : t.err = none) (hr : t.remaining = 0)
    (hs : Streaming t.gzip) (hdr : Header) : OnError Stuck (tarWriteHeader cut base hdr t) := by
  unfold tarWriteHeader tarWriteRawHeader
  refine OnError.bind (tarFlush_stuck he hr) fun t₁ h₁ => keepTarErr_stuck ?_
  obtain ⟨he₁, hr₁, -, -, -⟩ := (tarFlush_outcome he hr hs).of_ok h₁
  refine OnError.bind ((tarFlush_stuck he₁ hr₁).mono fun _ h => h.gzipDone) fun _ _ =>
    OnError.bind ((onGzip_onError (gzipWrite_onError _ _)).mono fun _ => .inl) fun _ _ => trivial

theorem tarWrite_stuck {t : TarWriter} {b : String} (he : t.err = none)
    (hr : t.remaining = b.utf8ByteSize) : OnError Stuck (tarWrite cut base b t) := by
  unfold tarWrite
  rw [he]
  dsimp only
  rw [if_neg (by omega)]
  split
  · trivial
  · exact OnError.bind (keptGzipWrite_stuck _ t) fun _ _ => trivial

/-- A failed `Write` from a writing state either did not marshal its item, and left the
writer as it was, or left it stuck. -/
theorem write_onError {α : Type} {marshal : α → Except String String} {es : List Entry}
    {t : TarWriter} (hw : Writing es t) (groupResource ns name : String) (item : α) :
    OnError (fun t' => Stuck t' ∨ Writing es t') (write cut base marshal groupResource ns name item t) := by
  unfold write
  split
  · exact .inr hw
  refine OnError.bind ((tarWriteHeader_stuck hw.noErr hw.done hw.streaming _).mono fun _ => .inl)
    fun t₁ h₁ => ?_
  obtain ⟨he₁, hr₁, -, -, -⟩ := (tarWriteHeader_outcome hw _).of_ok h₁
  exact (tarWrite_stuck he₁ hr₁).mono fun _ => .inl

end Errors

/-! ## Stuck writers -/

section Stuck

variable {cut : List Piece → Nat} {base : Base}

theorem gzipClose_of_done {g : GzipWriter} (h : GzipDone g) : (gzipClose cut base g).state = g := by
  unfold gzipClose
  rcases h with h | h
  · obtain ⟨e, he⟩ := Option.ne_none_iff_exists'.mp h
    simp [he, EStateM.Result.state]
  · cases he : g.err <;> simp [h, EStateM.Result.state]

/-- A close from an open gzip writer leaves it closed, or holding the error of its last
writes. -/
theorem gzipClose_done {g : GzipWriter} (ho : Open g) : GzipDone (gzipClose cut base g).state := by
  have he : OnError (fun g' : GzipWriter => g'.err ≠ none) (gzipClose cut base g) := by
    simp only [gzipClose, ho.noErr, ho.notClosed, ho.wroteHeader, Bool.false_eq_true, if_false,
      Bool.not_true]
    exact OnError.bind trivial fun _ _ => keepGzipErr_onError _ _
  rcases hr : gzipClose cut base g with ⟨⟨⟩, g'⟩ | ⟨e, g'⟩
  · simp only [gzipClose, ho.noErr, ho.notClosed, ho.wroteHeader, Bool.false_eq_true, if_false,
      Bool.not_true] at hr
    obtain ⟨_, _, ⟨⟩, h⟩ := bind_ok hr
    obtain ⟨_, g₁, h₁, h⟩ := bind_ok (keepGzipErr_ok h)
    obtain ⟨_, g₂, h₂, h₁⟩ := bind_ok h₁
    rw [baseWrite_ok h, baseWrite_ok h₁, (flushHeld_outcome _).of_ok h₂]
    exact .inr rfl
  · rw [hr] at he
    exact .inl he

theorem tarClose_err (t : TarWriter) : (tarClose cut base t).state.err ≠ none := by
  unfold tarClose
  rcases he : t.err with _ | ⟨_ | _⟩
  · dsimp only
    unfold thenClosed
    split <;> simp [EStateM.Result.state]
  all_goals simp [he, EStateM.Result.state]

/-- `Close` leaves a writing writer stuck. -/
theorem close_stuck {es : List Entry} {t : TarWriter} (hw : Writing es t) :
    Stuck (close cut base t).state := by
  refine ⟨tarClose_err t, ?_⟩
  show GzipDone (gzipClose cut base (tarClose cut base t).state.gzip).state
  have ho : Outcome base _ (tarClose cut base t) := tarClose_outcome hw
  have hx : OnError (fun t' : TarWriter => GzipDone t'.gzip) ((do
      tarFlush cut base
      onGzip (do gzipWrite cut base (.zeros blockSize); gzipWrite cut base (.zeros blockSize))) t) :=
    OnError.bind ((tarFlush_stuck hw.noErr hw.done).mono fun _ h => h.gzipDone) fun _ _ =>
      onGzip_onError (OnError.bind ((gzipWrite_onError _ _).mono fun _ => .inl)
        fun _ _ => (gzipWrite_onError _ _).mono fun _ => .inl)
  have he : OnError (fun t' : TarWriter => GzipDone t'.gzip) (tarClose cut base t) := by
    unfold tarClose
    rw [hw.noErr]
    dsimp only
    unfold thenClosed
    split <;> rename_i h <;> rw [h] at hx
    exacts [trivial, hx]
  rcases state_of_outcome ho he with ⟨hopen, -⟩ | hd
  · exact gzipClose_done hopen
  · rw [gzipClose_of_done hd]
    exact hd

/-- A stuck writer fails every `Write` and changes nothing. -/
theorem stuck_write {α : Type} {marshal : α → Except String String} {t : TarWriter} (h : Stuck t)
    (groupResource ns name : String) (item : α) :
    ∃ e, write cut base marshal groupResource ns name item t = .error e t := by
  obtain ⟨e, he⟩ := Option.ne_none_iff_exists'.mp h.tarErr
  unfold write
  split
  · exact ⟨_, rfl⟩
  · exact ⟨e.msg, by simp [tarWriteHeader, tarFlush, he, bind, EStateM.bind]⟩

/-- `Close` of a stuck writer changes nothing. -/
theorem stuck_close {t : TarWriter} (h : Stuck t) : close cut base t = .ok () t := by
  have ht : (tarClose cut base t).state = t := by
    obtain ⟨e, he⟩ := Option.ne_none_iff_exists'.mp h.tarErr
    unfold tarClose
    cases e <;> simp [he, EStateM.Result.state]
  simp only [close, ht, gzipClose_of_done h.gzipDone]

end Stuck

/-! ## Reachable states -/

/-- The states of `gzipTarWriter` from `NewGzipTarWriter`, by `Write`s of any items and
`Close`s, whatever each returned. -/
inductive Reachable {α : Type} (cut : List Piece → Nat) (base : Base)
    (marshal : α → Except String String) : TarWriter → Prop
  | init : Reachable cut base marshal {}
  | write {t : TarWriter} (groupResource ns name : String) (item : α) :
      Reachable cut base marshal t →
      Reachable cut base marshal (write cut base marshal groupResource ns name item t).state
  | close {t : TarWriter} : Reachable cut base marshal t →
      Reachable cut base marshal (close cut base t).state

section Reachable

variable {α : Type} {cut : List Piece → Nat} {base : Base} {marshal : α → Except String String}

theorem write_step {es : List Entry} {t : TarWriter} (hw : Writing es t)
    (groupResource ns name : String) (item : α) :
    (∃ es', Writing es' (write cut base marshal groupResource ns name item t).state) ∨
      Stuck (write cut base marshal groupResource ns name item t).state := by
  cases hm : marshal item with
  | error e =>
    left
    refine ⟨es, ?_⟩
    simpa [write, hm, EStateM.Result.state] using hw
  | ok b =>
    have ho : Outcome base _ (write cut base marshal groupResource ns name item t) := write_outcome hw hm
    rcases state_of_outcome ho (write_onError hw groupResource ns name item) with h | h | h
    exacts [.inl ⟨_, h⟩, .inr h, .inl ⟨es, h⟩]

/-- Every reachable state is writing some entries, or stuck. -/
theorem reachable_inv {t : TarWriter} (h : Reachable cut base marshal t) :
    (∃ es, Writing es t) ∨ Stuck t := by
  induction h with
  | init => exact .inl ⟨[], writing_init⟩
  | write groupResource ns name item _ ih =>
    rcases ih with ⟨es, hw⟩ | hs
    · exact write_step hw groupResource ns name item
    · obtain ⟨e, he⟩ := (stuck_write hs groupResource ns name item :
        ∃ e, write cut base marshal groupResource ns name item _ = _)
      rw [he]
      exact .inr hs
  | close _ ih =>
    rcases ih with ⟨es, hw⟩ | hs
    · exact .inr (close_stuck hw)
    · rw [stuck_close hs]
      exact .inr hs

/-- Every state `gzipTarWriter` reaches, over every base writer and compressor, is writing
some entries (`Writing`: no error, between entries, the base writer holding the gzip header
and blocks of their bytes but those the compressor holds), or stuck: every later `Write`
returns an error and changes nothing, and `Close` changes nothing. -/
theorem reachable_writing_or_stuck {t : TarWriter} (h : Reachable cut base marshal t) :
    (∃ es, Writing es t) ∨
      ((∀ groupResource ns name item, ∃ e,
        write cut base marshal groupResource ns name item t = .error e t) ∧ close cut base t = .ok () t) :=
  (reachable_inv h).imp id fun hs => ⟨stuck_write hs, stuck_close hs⟩

end Reachable

/-- The writer after one `Write` and a `Close` over the base writer that refuses the final
block. -/
def sampleWriter : TarWriter :=
  (close (fun _ => 0) fullAtFinal (write (fun _ => 0) fullAtFinal quoteJson "pods" "ns-1" "pod-1"
    "pod-1" {}).state).state

theorem sampleWriter_writing_or_stuck :
    Reachable (fun _ => 0) fullAtFinal quoteJson sampleWriter ∧
      ((∃ es, Writing es sampleWriter) ∨
        ((∀ groupResource ns name item, ∃ e, write (fun _ => 0) fullAtFinal quoteJson groupResource ns
          name item sampleWriter = .error e sampleWriter) ∧
          close (fun _ => 0) fullAtFinal sampleWriter = .ok () sampleWriter)) :=
  have h : Reachable (fun _ => 0) fullAtFinal quoteJson sampleWriter :=
    .close (.write "pods" "ns-1" "pod-1" "pod-1" .init)
  ⟨h, reachable_writing_or_stuck h⟩

/-! ## Refinement of the entry-level writer -/

section Refinement

variable {α : Type} {cut : List Piece → Nat} {base : Base} {marshal : α → Except String String}

/-- A base writer that accepts every write. -/
def Reliable (base : Base) : Prop := ∀ acc c, base acc c = .ok ()

theorem Reliable.acceptsData (hb : Reliable base) : AcceptsData base := fun acc c _ => hb acc c

/-- Over a reliable base the close of an open gzip writer returns nil. -/
theorem gzipClose_reliable {g : GzipWriter} (hb : Reliable base) (ho : Open g) :
    ∃ g', gzipClose cut base g = .ok () g' := by
  obtain ⟨wroteHeader, err, closed, digest, held, accepted⟩ := g
  obtain ⟨rfl, rfl, rfl, -⟩ := ho
  by_cases h : held = [] <;>
    simp [h, gzipClose, flateClose, flushHeld, keepGzipErr, baseWrite, hb _ _, bind, EStateM.bind,
      pure, EStateM.pure, get, getThe, MonadStateOf.get, EStateM.get]

/-- Over a reliable base the stack fails exactly where the entry-level writer does, with its
error: the first item that does not marshal. -/
theorem writeItems_error (hb : Reliable base) :
    ∀ {items : List (ArchiveItem α)} {es : List Entry} {t : TarWriter} {e : String},
      Writing es t → GzipTarWriter.writeItems marshal ⟨es⟩ items = .error e →
      ∃ t', writeItems cut base marshal items t = .error e t'
  | [], _, _, _, _, h => nomatch h
  | x :: xs, es, t, e, hw, h => by
    rw [GzipTarWriter.writeItems, GzipTarWriter.write_itemHeader] at h
    cases hm : marshal x.item with
    | error e' =>
      rw [hm] at h
      cases h
      exact ⟨t, by simp [writeItems, write, hm, bind, EStateM.bind]⟩
    | ok b =>
      rw [hm] at h
      have ho : Outcome base _ (write cut base marshal x.groupResource x.ns x.name x.item t) :=
        write_outcome hw hm
      obtain ⟨t₁, h₁, hw₁⟩ := ho.ok_of_accepts hb.acceptsData
      obtain ⟨t', ht'⟩ := writeItems_error hb hw₁ h
      exact ⟨t', by simp only [writeItems, bind, EStateM.bind, h₁]; exact ht'⟩

/-- Over a base writer that accepts every write, for every compressor, the writer stack
refines the entry-level writer: when that writer fails on an item that does not marshal, the
`Write`s fail with the same error; when it succeeds, every `Write` and both closes inside
`Close` return nil, and the base writer holds the whole gzip stream of the tar archive of the
entries it wrote. -/
theorem writeItems_refines (cut : List Piece → Nat) (base : Base) (hb : Reliable base)
    (marshal : α → Except String String) (items : List (ArchiveItem α)) :
    (∀ e, GzipTarWriter.writeItems marshal {} items = .error e →
      ∃ t, writeItems cut base marshal items {} = .error e t) ∧
    (∀ w, GzipTarWriter.writeItems marshal {} items = .ok w →
      ∃ t t', writeItems cut base marshal items {} = .ok () t ∧ close cut base t = .ok () t' ∧
        CompleteStream (tarArchive w.close.entries) t'.gzip.accepted) := by
  refine ⟨fun e h => writeItems_error hb writing_init h, fun w h => ?_⟩
  have h₁ : Outcome base _ (writeItems cut base marshal items {}) := writeItems_outcome writing_init h
  obtain ⟨t, ht, hw⟩ := h₁.ok_of_accepts hb.acceptsData
  have h₂ : Outcome base _ (tarClose cut base t) := tarClose_outcome hw
  obtain ⟨t₂, ht₂, ho, -⟩ := h₂.ok_of_accepts hb.acceptsData
  obtain ⟨g₃, hg₃⟩ := (gzipClose_reliable hb ho : ∃ g', gzipClose cut base _ = .ok () g')
  obtain ⟨w', hw', hc, hclose⟩ := complete_of_closes_ok cut base marshal items ht ht₂ hg₃
  obtain rfl : w' = w := Except.ok.inj (hw'.symm.trans h)
  exact ⟨t, _, ht, hclose, hc⟩

end Refinement

theorem sample_writeItems_refines :
    Reliable (fun _ _ => .ok ()) ∧
      (∀ e, GzipTarWriter.writeItems quoteJson {} sampleItems = .error e →
        ∃ t, writeItems (fun _ => 0) (fun _ _ => .ok ()) quoteJson sampleItems {} = .error e t) ∧
      (∀ w, GzipTarWriter.writeItems quoteJson {} sampleItems = .ok w →
        ∃ t t', writeItems (fun _ => 0) (fun _ _ => .ok ()) quoteJson sampleItems {} = .ok () t ∧
          close (fun _ => 0) (fun _ _ => .ok ()) t = .ok () t' ∧
          CompleteStream (tarArchive w.close.entries) t'.gzip.accepted) :=
  have hb : Reliable (fun _ _ => .ok ()) := fun _ _ => rfl
  ⟨hb, writeItems_refines (fun _ => 0) _ hb quoteJson sampleItems⟩

end Ark.WriterStack
