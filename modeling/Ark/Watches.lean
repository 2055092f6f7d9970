import Ark.Created

/-!
# Watches, readiness tasks, namespaces and errors over a whole restore

`restoreResource` opens a watch, and spawns the readiness task that waits on it, only while
`resourceWatch == nil`: for the first volume whose `executePVAction` returned. It records the
watch in `ctx.resourceWatches`, and `restoreFromArchive`'s deferred function stops every watch
there; the walk keeps `existingNamespaces` so that it does not ensure a namespace twice. Errors
are kept per frame: `createItem` adds a failed `Create` to the frame's errors, `restoreResource`
returns them, and the walk merges them into its own, beside the errors of the namespaces it
could not ensure.

This module says once what a step of `restoreResource`'s loop does to the log, the watch list,
the readiness tasks and the errors (`Counted`, with the frame's `watching` flag and errors),
proves it of every stage, and carries it with the walk's cache over whole restores (`Known`).
For every archive, request and behaviour of the cluster: a call of `restoreResource` opens at
most one watch and spawns at most one readiness task, however many volumes it restores
(`restoreResource_spawns_at_most_one_readiness_task`); a restore that returns has stopped every
watch it opened (`restore_stops_opened_watches`) and reports every failed `Create`
(`restore_reports_failed_creates`) and every failed `EnsureNamespaceExists`
(`restore_reports_namespace_errors`); and no run of a restore, on either exit, ensures a
namespace name twice (`restore_ensures_each_namespace_once`).
-/

namespace Ark

/-- The namespace a call ensured: the target name of an `EnsureNamespaceExists` that
returned. -/
def Call.ensured : Call → Option String
  | .ensureNamespaceExists ns (.ok _) => some ns.name
  | _ => none

/-- The watch a call opened: the client of a `Watch` that returned. -/
def Call.opened : Call → Option Client
  | .watch client (.ok ()) => some client
  | _ => none

def ensuredNames (calls : List Call) : List String := calls.filterMap Call.ensured

def openedWatches (calls : List Call) : List Client := calls.filterMap Call.opened

@[simp] theorem ensuredNames_nil : ensuredNames [] = [] := rfl

@[simp] theorem openedWatches_nil : openedWatches [] = [] := rfl

@[simp] theorem ensuredNames_cons (c : Call) (cs : List Call) :
    ensuredNames (c :: cs) = c.ensured.toList ++ ensuredNames cs := by
  cases h : c.ensured <;> simp [ensuredNames, List.filterMap_cons, h]

@[simp] theorem openedWatches_cons (c : Call) (cs : List Call) :
    openedWatches (c :: cs) = c.opened.toList ++ openedWatches cs := by
  cases h : c.opened <;> simp [openedWatches, List.filterMap_cons, h]

@[simp] theorem ensuredNames_append (cs cs' : List Call) :
    ensuredNames (cs ++ cs') = ensuredNames cs ++ ensuredNames cs' :=
  List.filterMap_append _ _ _

@[simp] theorem openedWatches_append (cs cs' : List Call) :
    openedWatches (cs ++ cs') = openedWatches cs ++ openedWatches cs' :=
  List.filterMap_append _ _ _

/-- Whether a call is an `EnsureNamespaceExists`, returned or failed. -/
def Call.ensures : Call → Bool
  | .ensureNamespaceExists .. => true
  | _ => false

/-- The scope and message under which `createItem` reports a failed `Create`. -/
def Call.failedCreate : Call → Option (String × String)
  | .create origin _ _ (.failed e) => some (origin.ns, s!"error restoring {origin.describe}: {e}")
  | _ => none

/-- The error of a failed `EnsureNamespaceExists`. -/
def Call.ensureError : Call → Option String
  | .ensureNamespaceExists _ (.error e) => some e
  | _ => none

/-- The errors a `RestorePodVolumes` call returned. -/
def Call.podVolumeErrors : Call → List String
  | .restorePodVolumes _ errs => errs
  | _ => []

/-- A call that neither ensures a namespace, opens a watch, creates an item nor restores a pod's
volumes. -/
def Call.quiet : Call → Bool
  | .ensureNamespaceExists .. | .watch .. | .create .. | .restorePodVolumes .. => false
  | _ => true

theorem Call.ensured_eq_none {c : Call} (h : c.ensures = false) : c.ensured = none := by
  cases c <;> first | rfl | cases h

theorem Call.quiet_ensures {c : Call} (h : c.quiet) : c.ensures = false := by
  cases c <;> first | rfl | cases h

theorem Call.quiet_opened {c : Call} (h : c.quiet) : c.opened = none := by
  cases c <;> first | rfl | cases h

theorem ensuredNames_eq_nil {cs : List Call} (h : ∀ c ∈ cs, c.ensures = false) :
    ensuredNames cs = [] :=
  List.filterMap_eq_nil_iff.mpr fun c hc => Call.ensured_eq_none (h c hc)

/-- What the log's errors report: every failed `Create`, under the item's namespace, and the
error of every failed `EnsureNamespaceExists` among the Ark errors; every error of a
`RestorePodVolumes` is among them or `pending`, in the global wait group. -/
structure Reported (errs : RestoreResult) (pending : List String) (calls : List Call) : Prop where
  creates : ∀ c ∈ calls, ∀ ns err, c.failedCreate = some (ns, err) → errs.Has ns err
  namespaces : ∀ c ∈ calls, ∀ err, c.ensureError = some err → err ∈ errs.ark
  podVolumes : ∀ c ∈ calls, ∀ err ∈ c.podVolumeErrors, err ∈ errs.ark ∨ err ∈ pending

section Reported

variable {errs errs' : RestoreResult} {pending pending' : List String} {calls cs : List Call}
  {c : Call}

theorem Reported.nil : Reported errs pending [] :=
  ⟨fun _ h => absurd h (List.not_mem_nil _), fun _ h => absurd h (List.not_mem_nil _),
    fun _ h => absurd h (List.not_mem_nil _)⟩

theorem Reported.append (h : Reported errs pending calls) (h' : Reported errs pending cs) :
    Reported errs pending (calls ++ cs) := by
  constructor <;> intro c hc <;> rcases List.mem_append.mp hc with hc | hc
  · exact h.creates c hc
  · exact h'.creates c hc
  · exact h.namespaces c hc
  · exact h'.namespaces c hc
  · exact h.podVolumes c hc
  · exact h'.podVolumes c hc

theorem Reported.single (hf : ∀ ns err, c.failedCreate = some (ns, err) → errs.Has ns err)
    (he : ∀ err, c.ensureError = some err → err ∈ errs.ark)
    (hp : ∀ err ∈ c.podVolumeErrors, err ∈ errs.ark ∨ err ∈ pending) : Reported errs pending [c] :=
  ⟨fun _ h => List.mem_singleton.mp h ▸ hf, fun _ h => List.mem_singleton.mp h ▸ he,
    fun _ h => List.mem_singleton.mp h ▸ hp⟩

/-- A call with nothing to report. -/
theorem Reported.silent (hf : c.failedCreate = none) (he : c.ensureError = none)
    (hp : c.podVolumeErrors = []) : Reported errs pending [c] :=
  .single (fun _ _ h => by rw [hf] at h; cases h) (fun _ h => by rw [he] at h; cases h)
    fun _ h => by rw [hp] at h; cases h

theorem Reported.quiet (h : c.quiet) : Reported errs pending [c] := by
  cases c <;> first | exact .silent rfl rfl rfl | cases h

theorem Reported.of_quiet (h : ∀ c ∈ cs, c.quiet) : Reported errs pending cs :=
  have hq : ∀ c ∈ cs, Reported errs pending [c] := fun c hc => .quiet (h c hc)
  ⟨fun c hc => (hq c hc).creates c (List.mem_singleton_self c),
    fun c hc => (hq c hc).namespaces c (List.mem_singleton_self c),
    fun c hc => (hq c hc).podVolumes c (List.mem_singleton_self c)⟩

theorem Reported.grow (h : Reported errs pending calls)
    (hh : ∀ ns err, errs.Has ns err → errs'.Has ns err) (ha : errs.ark ⊆ errs'.ark)
    (hp : pending ⊆ pending') : Reported errs' pending' calls :=
  ⟨fun c hc ns err hf => hh ns err (h.creates c hc ns err hf),
    fun c hc err he => ha (h.namespaces c hc err he),
    fun c hc err he => (h.podVolumes c hc err he).imp (@ha err) (@hp err)⟩

/-- What the walk merges in: its own errors and those of a `restoreResource` call. -/
theorem Reported.merge {r : RestoreResult} (h : Reported errs pending calls)
    (h' : Reported r pending cs) : Reported (merge errs r) pending (calls ++ cs) :=
  (h.grow (fun _ _ h => h.merge_left r) (List.subset_append_left _ _) (List.Subset.refl _)).append
    (h'.grow (fun _ _ h => h.merge_right errs) (List.subset_append_right _ _) (List.Subset.refl _))

/-- The global wait: the pending errors join the Ark errors. -/
theorem Reported.settle (h : Reported errs pending calls) :
    Reported { errs with ark := errs.ark ++ pending } [] calls :=
  ⟨h.creates, fun c hc err he => List.mem_append_left _ (h.namespaces c hc err he),
    fun c hc err he => .inl ((h.podVolumes c hc err he).elim (List.mem_append_left _)
      (List.mem_append_right _))⟩

/-- More pod-volume tasks started: what the earlier ones left pending still is. -/
theorem Reported.start {tasks tasks' : List (List String)} (h : Reported errs tasks.flatten calls)
    (ht : tasks <+: tasks') : Reported errs tasks'.flatten calls := by
  obtain ⟨t, rfl⟩ := ht
  refine h.grow (fun _ _ h => h) (List.Subset.refl _) ?_
  rw [List.flatten_append]
  exact List.subset_append_left _ _

end Reported

/-- Every watch the log opened is stopped later in it. -/
def Stopped (calls : List Call) : Prop :=
  ∀ cs₁ cs₂ client, calls = cs₁ ++ .watch client (.ok ()) :: cs₂ → .stopWatch client ∈ cs₂

theorem stopped_of_openedWatches_nil {calls : List Call} (h : openedWatches calls = []) :
    Stopped calls := by
  rintro cs₁ cs₂ client rfl
  simp [Call.opened] at h

/-- A log followed by a stop of each watch it opened. -/
theorem stopped_append_stops (calls : List Call) :
    Stopped (calls ++ (openedWatches calls).map .stopWatch) := by
  intro cs₁ cs₂ client h
  have hstop : ∀ l : List Client, Call.watch client (.ok ()) ∉ l.map Call.stopWatch := by simp
  rcases List.append_eq_append_iff.mp h with ⟨a, -, ha⟩ | ⟨c, hc, hcs⟩
  · exact absurd (ha ▸ List.mem_append_right a (List.mem_cons_self _ _)) (hstop _)
  rcases c with _ | ⟨x, c⟩
  · exact absurd (hcs ▸ List.mem_cons_self _ _) (hstop _)
  rw [List.cons_append, List.cons_eq_cons] at hcs
  obtain ⟨rfl, rfl⟩ := hcs
  subst hc
  simp [Call.opened]

theorem Stopped.append {calls cs : List Call} (h : Stopped calls) (hcs : openedWatches cs = []) :
    Stopped (calls ++ cs) := by
  intro cs₁ cs₂ client hsplit
  have hnot : ∀ l, cs ≠ l ++ Call.watch client (.ok ()) :: cs₂ := by
    rintro l rfl
    simp [Call.opened] at hcs
  rcases List.append_eq_append_iff.mp hsplit with ⟨a, -, ha⟩ | ⟨c, hc, hcs'⟩
  · exact absurd ha (hnot a)
  rcases c with _ | ⟨x, c⟩
  · exact absurd hcs'.symm (hnot [])
  rw [List.cons_append, List.cons_eq_cons] at hcs'
  obtain ⟨rfl, rfl⟩ := hcs'
  exact List.mem_append_left _ (h _ _ _ hc)

/-! ## A step of the item loop -/

/-- The frame a stage ends with. -/
def Stage.frame : Stage → Frame
  | .go _ fr | .exit _ fr => fr

/-- The frame `resourceClientFor` hands on, with or without a client. -/
def clientFrame : Except Frame (Client × Frame) → Frame
  | .error fr | .ok (_, fr) => fr

section Item

variable (base : State)

/-- Since `base`, at a step of `restoreResource`'s loop, with `new` the calls logged since:
none ensures a namespace, the watch list grew by the watches they opened, one watch was opened
and one readiness task spawned if the frame is watching, none otherwise, and pod-volume tasks
were only added. -/
structure Grown (watching : Bool) (s : State) (new : List Call) : Prop where
  calls : s.calls = base.calls ++ new
  ensures : ∀ c ∈ new, c.ensures = false
  watches : s.resourceWatches = base.resourceWatches ++ openedWatches new
  opened : (openedWatches new).length = if watching then 1 else 0
  tasks : s.resourceTasks.length = base.resourceTasks.length + if watching then 1 else 0
  pending : base.globalTasks <+: s.globalTasks

/-- A step of the loop whose frame is `watching` and holds the errors `errs`: the calls since
`base` are `Grown`, and `errs` and the pod-volume tasks report them. -/
def Counted (watching : Bool) (errs : RestoreResult) (s : State) : Prop :=
  ∃ new, Grown base watching s new ∧ Reported errs s.globalTasks.flatten new

/-- Since `base`, on every exit of `restoreResource`: no namespace ensured, at most one watch
opened and at most one readiness task spawned. -/
structure Bounded (s : State) : Prop where
  ensured : ensuredNames s.calls = ensuredNames base.calls
  watches : (openedWatches s.calls).length ≤ (openedWatches base.calls).length + 1
  tasks : s.resourceTasks.length ≤ base.resourceTasks.length + 1

variable {base} {w : Bool} {errs : RestoreResult} {s : State} {new : List Call} {c : Call}

theorem Counted.init : Counted base false {} base :=
  ⟨[], ⟨by simp, by simp, by simp, rfl, rfl, List.prefix_refl _⟩, .nil⟩

theorem Grown.bounded (h : Grown base w s new) : Bounded base s := by
  refine ⟨by rw [h.calls, ensuredNames_append, ensuredNames_eq_nil h.ensures, List.append_nil],
    ?_, by rw [h.tasks]; split <;> omega⟩
  rw [h.calls, openedWatches_append, List.length_append, h.opened]
  split <;> omega

theorem Grown.record (h : Grown base w s new) (he : c.ensures = false) (ho : c.opened = none) :
    Grown base w (s.record c) (new ++ [c]) :=
  ⟨by simp [h.calls], List.forall_mem_append.mpr ⟨h.ensures, by simpa using he⟩,
    by simp [State.record, h.watches, ho], by simp [h.opened, ho], h.tasks, h.pending⟩

theorem Counted.bounded (h : Counted base w errs s) : Bounded base s :=
  let ⟨_, hg, _⟩ := h
  hg.bounded

theorem Counted.bound (h : Counted base w errs s) : Bounded base s ∧ Counted base w errs s :=
  ⟨h.bounded, h⟩

/-- A call that ensures no namespace and opens no watch, which the frame's errors report. -/
theorem Counted.record_with (h : Counted base w errs s) (he : c.ensures = false)
    (ho : c.opened = none) (hr : Reported errs s.globalTasks.flatten [c]) :
    Counted base w errs (s.record c) :=
  let ⟨new, hg, hn⟩ := h
  ⟨new ++ [c], hg.record he ho, hn.append hr⟩

theorem Counted.record (h : Counted base w errs s) (hq : c.quiet) : Counted base w errs (s.record c) :=
  h.record_with (Call.quiet_ensures hq) (Call.quiet_opened hq) (.quiet hq)

theorem Counted.record_bounded (h : Counted base w errs s) (he : c.ensures = false)
    (ho : c.opened = none) : Bounded base (s.record c) :=
  let ⟨_, hg, _⟩ := h
  (hg.record he ho).bounded

/-- A pod-volume task: its `RestorePodVolumes` call, whose errors join the pending ones. -/
theorem Counted.record_task {pod : Unstructured} {es : List String} (h : Counted base w errs s) :
    Counted base w errs { s.record (.restorePodVolumes pod es) with
      globalTasks := s.globalTasks ++ [es] } :=
  let ⟨new, hg, hr⟩ := h
  have hg' := hg.record (c := .restorePodVolumes pod es) rfl rfl
  ⟨new ++ [.restorePodVolumes pod es], ⟨hg'.1, hg'.2, hg'.3, hg'.4, hg'.5,
      hg.pending.trans (List.prefix_append _ _)⟩,
    (hr.start (List.prefix_append _ _)).append
      (.single (fun _ _ h => by cases h) (fun _ h => by cases h) fun _ h => .inr (by simpa using .inr h))⟩

/-- A change of the state that keeps the log, the watch list and both kinds of tasks. -/
theorem Counted.frame {s' : State} (h : Counted base w errs s) (hc : s'.calls = s.calls)
    (hw : s'.resourceWatches = s.resourceWatches) (ht : s'.resourceTasks = s.resourceTasks)
    (hg : s'.globalTasks = s.globalTasks) : Bounded base s' ∧ Counted base w errs s' :=
  let ⟨new, hn, hr⟩ := h
  have hn' : Grown base w s' new :=
    ⟨hc.trans hn.calls, hn.ensures, hw.trans hn.watches, hn.opened, ht ▸ hn.tasks, hg ▸ hn.pending⟩
  ⟨hn'.bounded, new, hn', hg ▸ hr⟩

theorem Counted.grow {errs' : RestoreResult} (h : Counted base w errs s)
    (hh : ∀ ns err, errs.Has ns err → errs'.Has ns err) (ha : errs.ark ⊆ errs'.ark) :
    Counted base w errs' s :=
  let ⟨new, hg, hr⟩ := h
  ⟨new, hg, hr.grow hh ha (List.Subset.refl _)⟩

theorem Counted.addErr {ns err : String} (h : Counted base w errs s) :
    Counted base w (addToResult errs ns err) s :=
  h.grow (fun _ _ h => h.addToResult _ _) (addToResult_ark errs ns err ▸ List.Subset.refl _)

theorem Counted.addArkError {err : String} (h : Counted base w errs s) :
    Counted base w (addArkError errs err) s :=
  h.grow (fun _ _ h => h) (List.subset_append_left _ _)

variable {ctx : Context} {origin : Origin} {gr : GroupResource} {fr : Frame}

theorem admitItem_counted :
    Triple (Bounded base) (Counted base fr.watching fr.errs) (admitItem ctx origin gr fr)
      fun st => Counted base st.frame.watching st.frame.errs := by
  refine Triple.call_bind_keep (fun _ _ h => (h.record (by rfl)).bound) fun _ => ?_
  split
  · exact Triple.pure fun _ _ h => h.addErr
  split
  · exact Triple.pure fun _ _ h => h.addErr
  split
  · exact Triple.pure fun _ _ h => h
  split
  · exact Triple.pure fun _ _ h => h.addErr
  · exact Triple.pure fun _ _ h => h
  · exact Triple.pure fun _ _ h => h

theorem resourceClientFor_counted {ns : String} {obj : Unstructured} :
    Triple (Bounded base) (Counted base fr.watching fr.errs) (resourceClientFor ctx gr ns obj fr)
      fun r => Counted base (clientFrame r).watching (clientFrame r).errs := by
  unfold resourceClientFor
  split
  · exact Triple.pure fun _ _ h => h
  · refine Triple.call_bind_keep (fun _ _ h => (h.record (by rfl)).bound) fun _ => ?_
    split
    · exact Triple.pure fun _ _ h => h.addArkError
    · exact Triple.pure fun _ _ h => h

theorem executePVAction_counted {obj : Unstructured} :
    Triple (Bounded base) (Counted base w errs) (executePVAction ctx origin obj)
      fun _ => Counted base w errs := by
  unfold executePVAction
  dsimp only
  split
  · exact Triple.pure fun _ _ h => h
  split
  · exact Triple.pure fun _ _ h => h
  split
  · exact Triple.pure fun _ _ h => h
  split
  · exact Triple.pure fun _ _ h => h
  split
  · exact Triple.pure fun _ _ h => h
  split
  · exact Triple.pure fun _ _ h => h
  split
  · exact Triple.throw
  refine Triple.call_bind_keep (fun _ _ h => (h.record (by rfl)).bound) fun _ => ?_
  split
  · exact Triple.pure fun _ _ h => h
  refine Triple.call_bind_keep (fun _ _ h => (h.record (by rfl)).bound) fun _ => ?_
  split <;> exact Triple.pure fun _ _ h => h

/-- The volume branch: a frame not yet watching whose `Watch` call returns records the watch,
spawns the one readiness task, and is watching from then on. -/
theorem restorePV_counted {client : Client} {name : String} {obj : Unstructured} :
    Triple (Bounded base) (Counted base fr.watching fr.errs)
      (restorePV ctx origin gr client name obj fr)
      fun st => Counted base st.frame.watching st.frame.errs := by
  unfold restorePV
  split
  · exact Triple.pure fun _ _ h => h
  split
  · exact Triple.modify_bind (fun _ _ h => h.frame rfl rfl rfl rfl) (Triple.pure fun _ _ h => h)
  refine Triple.bind executePVAction_counted fun _ => ?_
  split
  · exact Triple.pure fun _ _ h => h.addErr
  split
  · exact Triple.pure fun _ _ h => h
  rename_i hw
  have hw : fr.watching = false := by simpa using hw
  refine Triple.call_bind_after (fun s _ h => ?_) fun cs => ?_
  · rcases ctx.kr.cluster.watch s.calls client with e | ⟨⟨⟩⟩
    · exact h.record_bounded rfl rfl
    · obtain ⟨new, hg, -⟩ := h
      refine ⟨by simp [hg.calls, ensuredNames_eq_nil hg.ensures, Call.ensured], ?_,
        by simp [State.record, hg.tasks, hw]⟩
      simp [hg.calls, hg.opened, hw, Call.opened]
  split
  · exact Triple.pure fun _ _ ⟨s, h, _, hs⟩ => by
      rw [hs]
      exact (h.record_with (by rfl) (by simp [Call.opened, *]) (.silent (by rfl) (by rfl) (by rfl))).addErr
  · rename_i hok
    refine Triple.bind (Triple.update (Q := fun _ => Counted base true fr.errs)
      fun _ _ ⟨s, h, hcs, hs⟩ => Counted.bound ?_) fun _ => Triple.pure fun _ _ h => h
    obtain ⟨new, hg, hr⟩ := h
    subst hcs
    rw [hok] at hs
    subst hs
    refine ⟨new ++ [.watch client (.ok ())], ⟨by simp [State.record, hg.calls],
      List.forall_mem_append.mpr ⟨hg.ensures, by simp [Call.ensures]⟩,
      by simp [State.record, hg.watches, Call.opened], by simp [hg.opened, hw, Call.opened],
      by simp [State.record, hg.tasks, hw], hg.pending⟩, hr.append (.silent (by rfl) (by rfl) (by rfl))⟩

theorem resetPVC_counted {ns : String} {obj : Unstructured} :
    Triple (Bounded base) (Counted base fr.watching fr.errs) (resetPVC gr ns obj fr)
      fun st => Counted base st.frame.watching st.frame.errs := by
  unfold resetPVC
  split
  · exact Triple.pure fun _ _ h => h
  split
  · exact Triple.pure fun _ _ h => h.addErr
  split
  · exact Triple.pure fun _ _ h => h
  · exact Triple.get_bind fun _ => by split <;> exact Triple.pure fun _ _ h => h.1
  · exact Triple.throw

theorem runActions_counted :
    ∀ (actions : List ResolvedAction) (obj : Unstructured) (fr : Frame),
      Triple (Bounded base) (Counted base fr.watching fr.errs)
        (runActions ctx origin actions obj fr) fun r => Counted base r.2.watching r.2.errs
  | [], _, _ => Triple.pure fun _ _ h => h
  | a :: as, obj, fr => by
    unfold runActions
    split
    · exact runActions_counted as obj fr
    refine Triple.call_bind_keep (fun _ _ h => (h.record (by rfl)).bound) fun cs => ?_
    dsimp only
    generalize a.action.execute cs obj ctx.restore = r
    have next : ∀ fr' : Frame,
        Triple (Bounded base) (Counted base fr'.watching fr'.errs) (match r.err with
          | some e => runActions ctx origin as obj
              (fr'.addErr origin.ns s!"error preparing {origin.describe}: {e}")
          | none =>
            match r.updated with
            | none => runActions ctx origin as obj
                (fr'.addErr origin.ns s!"unexpected type for {origin.describe}")
            | some updated => runActions ctx origin as updated fr')
          fun r => Counted base r.2.watching r.2.errs := fun _ => by
      split
      · exact (runActions_counted as _ _).conseq (fun _ _ h => h.addErr) fun _ _ _ h => h
      split
      · exact (runActions_counted as _ _).conseq (fun _ _ h => h.addErr) fun _ _ _ h => h
      · exact (runActions_counted as _ _).conseq (fun _ _ h => h) fun _ _ _ h => h
    split
    · exact Triple.pure_bind (next fr)
    · exact Triple.throw_bind
    · exact Triple.pure_bind ((next _).conseq (fun _ _ h => h) fun _ _ _ h => h)

theorem restoreExisting_counted {client : Client} {name : String} {obj : Unstructured}
    {restoreErr : String} :
    Triple (Bounded base) (Counted base fr.watching fr.errs)
      (restoreExisting ctx origin gr client name obj restoreErr fr)
      fun fr' => Counted base fr'.watching fr'.errs := by
  unfold restoreExisting
  dsimp only
  refine Triple.call_bind_keep (fun _ _ h => (h.record (by rfl)).bound) fun _ => ?_
  split
  · exact Triple.pure fun _ _ h => h
  split
  · exact Triple.pure fun _ _ h => h
  split
  · exact Triple.pure fun _ _ h => h
  split
  · split
    · exact Triple.pure fun _ _ h => h
    split
    · exact Triple.pure fun _ _ h => h
    · exact Triple.pure fun _ _ h => h
    · refine Triple.call_bind_keep (fun _ _ h => (h.record (by rfl)).bound) fun _ => ?_
      split <;> exact Triple.pure fun _ _ h => h
  · exact Triple.pure fun _ _ h => h

/-- The create: a failed one is reported in the frame's errors under the item's namespace, as
the "error restoring" error. -/
theorem createItem_counted {client : Client} {name : String} {obj : Unstructured} :
    Triple (Bounded base) (Counted base fr.watching fr.errs)
      (createItem ctx origin gr client name obj fr) fun fr' => Counted base fr'.watching fr'.errs := by
  refine Triple.call_bind_after (fun _ _ h => h.record_bounded rfl rfl) fun cs => ?_
  split
  · rename_i hok
    exact restoreExisting_counted.conseq (fun _ _ ⟨s, h, _, hs⟩ => by
      rw [hs, hok]
      exact h.record_with rfl rfl (.silent rfl rfl rfl)) fun _ _ _ h => h
  · rename_i hok
    exact Triple.pure fun _ _ ⟨s, h, _, hs⟩ => by
      rw [hs, hok]
      refine h.addErr.record_with rfl rfl (.single (fun _ _ hf => ?_) (fun _ h => by cases h)
        fun _ h => by cases h)
      cases hf
      exact RestoreResult.has_addToResult _ _ _
  · rename_i hok
    refine Triple.conseq ?_ (fun _ _ ⟨s, h, _, hs⟩ => by
      rw [hs, hok]
      exact h.record_with rfl rfl (.silent rfl rfl rfl)) fun _ _ _ h => h
    split
    · split
      · exact Triple.pure fun _ _ h => h
      · refine Triple.call_bind_after (fun _ _ h => h.record_bounded rfl rfl) fun _ => ?_
        refine Triple.bind (Triple.update (Q := fun _ => Counted base fr.watching fr.errs)
          fun _ _ ⟨s, h, _, hs⟩ => by subst hs; exact h.record_task.bound) fun _ => ?_
        exact Triple.pure fun _ _ h => h
    · exact Triple.pure fun _ _ h => h

theorem restoreItem_counted {resource ns : String} {applicable : List ResolvedAction}
    {file : String} :
    Triple (Bounded base) (Counted base fr.watching fr.errs)
      (restoreItem ctx resource ns applicable fr file) fun r => Counted base r.2.watching r.2.errs := by
  unfold restoreItem
  dsimp only
  refine Triple.bind admitItem_counted fun _ => ?_
  split
  · exact Triple.pure fun _ _ h => h
  refine Triple.bind resourceClientFor_counted fun _ => ?_
  split
  · exact Triple.pure fun _ _ h => h
  split
  · exact Triple.pure fun _ _ h => h
  refine Triple.bind restorePV_counted fun _ => ?_
  split
  · exact Triple.pure fun _ _ h => h
  refine Triple.bind resetPVC_counted fun _ => ?_
  split
  · exact Triple.pure fun _ _ h => h
  refine Triple.bind (runActions_counted _ _ _) fun _ => ?_
  split
  · exact Triple.pure fun _ _ h => h.addErr
  · exact Triple.bind createItem_counted fun _ => Triple.pure fun _ _ h => h

theorem restoreItems_counted {resource ns : String} {applicable : List ResolvedAction} :
    ∀ (files : List String) (fr : Frame),
      Triple (Bounded base) (Counted base fr.watching fr.errs)
        (restoreItems ctx resource ns applicable files fr) fun fr' => Counted base fr'.watching fr'.errs
  | [], _ => Triple.pure fun _ _ h => h
  | _ :: files, _ => Triple.bind restoreItem_counted fun _ => by
    split
    · exact restoreItems_counted files _
    · exact Triple.pure fun _ _ h => h

theorem restoreResource_counted {resource ns : String} :
    Triple (Bounded base) (Counted base false {}) (restoreResource ctx resource ns)
      fun r s => ∃ w, Counted base w r.2 s := by
  unfold restoreResource
  split
  · exact Triple.pure fun _ _ h => ⟨_, h⟩
  refine Triple.call_bind_keep (fun _ _ h => (h.record (by rfl)).bound) fun _ => ?_
  split
  · exact Triple.pure fun _ _ h => ⟨_, h.addErr⟩
  · exact Triple.pure fun _ _ h => ⟨_, h⟩
  · exact Triple.bind (restoreItems_counted _ {}) fun _ => Triple.pure fun _ _ h => ⟨_, h⟩

end Item

/-- For every context, resource type, namespace, starting state and behaviour of the cluster
and block store, a run of `restoreResource`, on either exit, opens at most one watch and spawns
at most one readiness task, however many volumes it restores: both are made only while the
resource's watch is `nil`, for the first volume whose `executePVAction` returned. -/
theorem restoreResource_spawns_at_most_one_readiness_task (ctx : Context) (resource ns : String)
    (s : State) :
    (openedWatches (restoreResource ctx resource ns s).state.calls).length ≤
        (openedWatches s.calls).length + 1 ∧
      (restoreResource ctx resource ns s).state.resourceTasks.length ≤ s.resourceTasks.length + 1 :=
  have h : Bounded s (restoreResource ctx resource ns s).state :=
    (restoreResource_counted s Counted.init.bounded Counted.init).state
  ⟨h.watches, h.tasks⟩

/-- A restore of two volumes, each with a snapshot record. -/
def twoVolumeContext : Context :=
  ⟨restorerOf ["persistentvolumes"] (grantingCluster .created) (some (fixedBlockStore "vol-1")),
    archiveOf [(⟨"persistentvolumes", "", "pv-1.json"⟩, persistentVolumeDoc "pv-1" "Retain"),
      (⟨"persistentvolumes", "", "pv-2.json"⟩, persistentVolumeDoc "pv-2" "Retain")],
    { volumeBackups := [("pv-1", some ⟨"snap-1", "gp2", "zone-a", none⟩),
      ("pv-2", some ⟨"snap-2", "gp2", "zone-a", none⟩)] },
    plainRequest, [], .everything, [], none⟩

/-- Both volumes are restored from their snapshots, and only the first is waited for. -/
example :
    ((restoreResource twoVolumeContext "persistentvolumes" "" {}).state.calls.filter fun c =>
        match c with | .setVolumeID .. => true | _ => false).length = 2 ∧
      (restoreResource twoVolumeContext "persistentvolumes" "" {}).state.resourceTasks = ["pv-1"] := by
  decide

/-! ## The walk -/

/-- The walk's invariant, on every exit: no namespace name was ensured twice. -/
def EnsuredOnce (s : State) : Prop := (ensuredNames s.calls).Nodup

/-- What the walk knows between its steps: its cache holds every namespace the log ensured,
the watch list holds exactly the watches the log opened, in order, and its errors, with those
of the pod-volume tasks not yet waited for, report the log. -/
structure Known (cache : List String) (errs : RestoreResult) (s : State) : Prop where
  cached : ∀ n ∈ ensuredNames s.calls, n ∈ cache
  watches : openedWatches s.calls = s.resourceWatches
  reported : Reported errs s.globalTasks.flatten s.calls

/-- The walk stopped early, skipping the waits: a `GetResourceScope` or a `ListNamespaces` call
of the log failed. -/
def WalkStopped (reader : Reader) (calls : List Call) : Prop :=
  ∃ res, Call.getResourceScope res ∈ calls ∧ (reader.getResourceScope res).isOk = false ∨
    Call.listNamespaces res ∈ calls ∧ (reader.listNamespaces res).isOk = false

theorem WalkStopped.append {reader : Reader} {calls : List Call} (h : WalkStopped reader calls)
    (cs : List Call) : WalkStopped reader (calls ++ cs) :=
  let ⟨res, h⟩ := h
  ⟨res, h.imp (And.imp_left (List.mem_append_left cs)) (And.imp_left (List.mem_append_left cs))⟩

section Walk

variable {ctx : Context} {cache : List String} {errs : RestoreResult} {s : State} {c : Call}

theorem EnsuredOnce.record (h : EnsuredOnce s) (he : c.ensured = none) :
    EnsuredOnce (s.record c) := by
  simpa [EnsuredOnce, he] using h

/-- An `EnsureNamespaceExists` call for a name not ensured before. -/
theorem EnsuredOnce.record_ensureNamespaceExists {ns : Namespace} {r : Except String Bool}
    (h : EnsuredOnce s) (hn : ns.name ∉ ensuredNames s.calls) :
    EnsuredOnce (s.record (.ensureNamespaceExists ns r)) := by
  rcases r with _ | _
  · exact h.record rfl
  · simpa [EnsuredOnce, Call.ensured, List.nodup_append, hn] using h

theorem EnsuredOnce.of_bounded {s' : State} (h : EnsuredOnce s) (hb : Bounded s s') :
    EnsuredOnce s' := by
  unfold EnsuredOnce
  rw [hb.ensured]
  exact h

theorem Known.record (h : Known cache errs s) (he : c.ensured = none) (ho : c.opened = none)
    (hr : Reported errs s.globalTasks.flatten [c]) : Known cache errs (s.record c) :=
  ⟨by simpa [he] using h.cached, by simp [State.record, ho, h.watches], h.reported.append hr⟩

/-- A quiet call keeps what the walk knows. -/
theorem Known.keep (hq : c.quiet) (hI : EnsuredOnce s) (h : Known cache errs s) :
    EnsuredOnce (s.record c) ∧ Known cache errs (s.record c) :=
  have he := Call.ensured_eq_none (Call.quiet_ensures hq)
  ⟨hI.record he, h.record he (Call.quiet_opened hq) (.quiet hq)⟩

theorem Known.grow {errs' : RestoreResult} (h : Known cache errs s)
    (hh : ∀ ns err, errs.Has ns err → errs'.Has ns err) (ha : errs.ark ⊆ errs'.ark) :
    Known cache errs' s :=
  ⟨h.cached, h.watches, h.reported.grow hh ha (List.Subset.refl _)⟩

theorem Known.addArkError {err : String} (h : Known cache errs s) :
    Known cache (addArkError errs err) s :=
  h.grow (fun _ _ h => h) (List.subset_append_left _ _)

/-- `restoreResource` ensures no namespace, records each watch it opens, and returns errors
that report each `Create` it made and that failed. -/
theorem restoreResource_known {resource ns : String} :
    Triple EnsuredOnce (Known cache errs) (restoreResource ctx resource ns)
      fun r => Known cache (merge errs r.2) := by
  intro s hI hK
  have h : Ends (Bounded s) (fun r s' => ∃ v, Counted s v r.2 s')
      (restoreResource ctx resource ns s) :=
    restoreResource_counted s Counted.init.bounded Counted.init
  revert h
  rcases restoreResource ctx resource ns s with ⟨_, s'⟩ | ⟨_, s'⟩
  · rintro ⟨hb, _, new, hg, hr⟩
    refine ⟨hI.of_bounded hb, by simpa [hg.calls, ensuredNames_eq_nil hg.ensures] using hK.cached,
      ?_, ?_⟩
    · rw [hg.calls, hg.watches, openedWatches_append, hK.watches]
    · rw [hg.calls]
      exact (hK.reported.start hg.pending).merge hr
  · exact hI.of_bounded

theorem getNamespace_known {nsName remappedName : String} :
    Triple EnsuredOnce (Known cache errs) (getNamespace ctx nsName remappedName)
      fun ns s => Known cache errs s ∧ ns.name = remappedName := by
  refine Triple.call_bind_keep (fun _ hI h => Known.keep rfl hI h) fun _ => ?_
  split
  · exact Triple.pure fun _ _ h => ⟨h, rfl⟩
  · split <;> exact Triple.pure fun _ _ h => ⟨h, rfl⟩

/-- `EnsureNamespaceExists` is called only for a name not in the cache; a name enters the cache
when its call returns, and the error of a failed call goes to the Ark errors. -/
theorem ensureNamespace_known {nsName mappedNsName : String} {w : Walk} :
    Triple EnsuredOnce (Known w.existingNamespaces w.errs)
      (ensureNamespace ctx nsName mappedNsName w)
      fun r s => match r with
        | .ok w' | .error w' => Known w'.existingNamespaces w'.errs s := by
  unfold ensureNamespace
  split
  · exact Triple.pure fun _ _ h => h
  rename_i hnew
  refine Triple.bind getNamespace_known fun ns => ?_
  refine Triple.call_bind_after (fun s hI ⟨hK, hname⟩ => ?_) fun cs => ?_
  · exact hI.record_ensureNamespaceExists (by simpa [hname] using fun h => hnew (hK.cached _ h))
  split
  · rename_i e hok
    refine Triple.pure fun _ _ ⟨s, ⟨hK, _⟩, _, hs⟩ => ?_
    rw [hs, hok]
    refine hK.addArkError.record (by rfl) (by rfl)
      (.single (fun _ _ h => by cases h) (fun _ h => ?_) fun _ h => by cases h)
    cases h
    exact List.mem_append_right _ (List.mem_singleton_self _)
  · refine Triple.pure fun _ _ ⟨s, ⟨hK, hname⟩, _, hs⟩ => ⟨fun n hn => ?_, ?_, ?_⟩
    · rw [hs, State.record_calls, ensuredNames_append] at hn
      rcases List.mem_append.mp hn with hn | hn
      · exact List.mem_insert_of_mem (hK.cached n hn)
      · simp_all [Call.ensured]
    · rw [hs]
      simp [State.record, Call.opened, hK.watches]
    · rw [hs]
      exact hK.reported.append (.silent rfl (by simp [Call.ensureError, *]) rfl)

theorem restoreNamespaces_known {namespaceFilter : IncludesExcludes} {resource : GroupResource} :
    ∀ (namespaces : List String) (w : Walk),
      Triple EnsuredOnce (Known w.existingNamespaces w.errs)
        (restoreNamespaces ctx namespaceFilter resource namespaces w)
        fun w' => Known w'.existingNamespaces w'.errs
  | [], _ => Triple.pure fun _ _ h => h
  | nsName :: rest, w => by
    unfold restoreNamespaces
    split
    · exact restoreNamespaces_known rest w
    refine Triple.bind ensureNamespace_known fun r => ?_
    rcases r with w' | w'
    · exact restoreNamespaces_known rest w'
    · exact Triple.bind restoreResource_known fun r => restoreNamespaces_known rest (w'.merge r)

theorem runReadinessTasks_known : ∀ names : List String,
    Triple EnsuredOnce (Known cache errs) (runReadinessTasks ctx names) fun _ => Known cache errs
  | [] => Triple.pure fun _ _ h => h
  | _ :: names => Triple.call_bind_keep (fun _ hI h => Known.keep rfl hI h) fun _ =>
      runReadinessTasks_known names

theorem waitResourceTasks_known :
    Triple EnsuredOnce (Known cache errs) (waitResourceTasks ctx) fun _ => Known cache errs :=
  Triple.get_bind fun _ => Triple.bind (Triple.set (Q := fun _ => Known cache errs)
    fun _ hI ⟨h, hs⟩ => by
      subst hs
      exact ⟨hI, h.1, h.2, h.3⟩) fun _ => runReadinessTasks_known _

/-- The global wait: the errors of the pod-volume tasks join the Ark errors, and none is left
pending. -/
theorem waitGlobalTasks_known :
    Triple EnsuredOnce (Known cache errs) waitGlobalTasks
      fun waitErrs s => Known cache { errs with ark := errs.ark ++ waitErrs } s ∧ s.globalTasks = [] :=
  Triple.get_bind fun s => Triple.bind (Triple.set (Q := fun _ s' =>
      Known cache { errs with ark := errs.ark ++ s.globalTasks.flatten } s' ∧ s'.globalTasks = [])
    fun _ hI ⟨h, hs⟩ => by
      subst hs
      exact ⟨hI, ⟨h.1, h.2, h.3.settle⟩, rfl⟩) fun _ => Triple.pure fun _ _ h => h

/-- The walk keeps what it knows, and returns `Flow.stop` only after a failed
`GetResourceScope` or `ListNamespaces` call. -/
theorem restoreResources_known {namespaceFilter : IncludesExcludes} :
    ∀ (grs : List GroupResource) (w : Walk),
      Triple EnsuredOnce (Known w.existingNamespaces w.errs)
        (restoreResources ctx namespaceFilter grs w)
        fun r s => Known r.2.existingNamespaces r.2.errs s ∧
          (r.1 = .next ∨ WalkStopped ctx.reader s.calls)
  | [], _ => Triple.pure fun _ _ h => ⟨h, .inl rfl⟩
  | gr :: grs, w => by
    unfold restoreResources
    split
    · exact restoreResources_known grs w
    refine Triple.call_bind_keep_mem (fun _ hI h => Known.keep rfl hI h) fun _ => ?_
    split
    · rename_i he
      exact Triple.pure fun _ _ ⟨h, hc⟩ => ⟨h.addArkError, .inr ⟨_, .inl ⟨hc, by rw [he]; rfl⟩⟩⟩
    · exact (restoreResources_known grs w).of_left
    · exact (Triple.bind restoreResource_known fun r => restoreResources_known grs (w.merge r)).of_left
    · refine Triple.of_left (Triple.call_bind_keep_mem (fun _ hI h => Known.keep rfl hI h) fun _ => ?_)
      split
      · rename_i he
        exact Triple.pure fun _ _ ⟨h, hc⟩ => ⟨h.addArkError, .inr ⟨_, .inr ⟨hc, by rw [he]; rfl⟩⟩⟩
      · exact (Triple.bind (restoreNamespaces_known _ w) fun w' =>
          Triple.bind waitResourceTasks_known fun _ => restoreResources_known grs w').of_left

theorem stopWatches_apply : ∀ (watches : List Client) (s : State),
    stopWatches watches s = .ok () { s with calls := s.calls ++ watches.map .stopWatch }
  | [], s => by simp [stopWatches, pure, EStateM.pure]
  | c :: watches, s => by
    simp only [stopWatches, bind, EStateM.bind, call_apply, stopWatches_apply watches]
    simp [State.record]

/-- What a restore that returns leaves: every watch it opened stopped, and its errors, with
those of the pod-volume tasks it did not wait for, reporting its log; tasks are left unwaited
for only when the walk stopped early. -/
structure Accounted (reader : Reader) (errs : RestoreResult) (s : State) : Prop where
  stopped : Stopped s.calls
  reported : Reported errs s.globalTasks.flatten s.calls
  waited : s.globalTasks = [] ∨ WalkStopped reader s.calls

/-- The deferred function stops the watches of the list, which are those the log opened. -/
theorem stopWatches_stopped {reader : Reader} {watches : List Client} :
    Triple EnsuredOnce (fun s => Known cache errs s ∧ s.resourceWatches = watches ∧
        (s.globalTasks = [] ∨ WalkStopped reader s.calls))
      (stopWatches watches) fun _ => Accounted reader errs := by
  intro s hI ⟨hK, hws, hw⟩
  rw [stopWatches_apply]
  have hquiet : ∀ c ∈ watches.map Call.stopWatch, c.quiet := by simp [Call.quiet]
  refine ⟨by simpa [EnsuredOnce, ensuredNames_eq_nil fun c hc => Call.quiet_ensures (hquiet c hc)]
    using hI, ?_, hK.reported.append (.of_quiet hquiet), hw.imp_right (·.append _)⟩
  show Stopped (s.calls ++ watches.map .stopWatch)
  rw [← hws, ← hK.watches]
  exact stopped_append_stops s.calls

theorem restoreFromArchive_accounted :
    Triple EnsuredOnce (Known [] {}) (restoreFromArchive ctx) fun r => Accounted ctx.reader r.2 := by
  unfold restoreFromArchive
  refine Triple.bind (restoreResources_known _ {}) fun ⟨flow, w⟩ => ?_
  dsimp only
  have tail : ∀ errs : RestoreResult, Triple EnsuredOnce
      (fun s => Known w.existingNamespaces errs s ∧
        (s.globalTasks = [] ∨ WalkStopped ctx.reader s.calls))
      (do stopWatches (← get).resourceWatches; pure (w.warnings, errs))
      fun r => Accounted ctx.reader r.2 :=
    fun _ => Triple.get_bind fun _ => Triple.bind (stopWatches_stopped.conseq
      (fun _ _ ⟨⟨hK, hw⟩, hs⟩ => ⟨hK, by rw [hs], hw⟩) fun _ _ _ h => h) fun _ =>
        Triple.pure fun _ _ h => h
  split
  · exact Triple.pure_bind ((tail _).conseq (fun _ _ ⟨hK, hw⟩ => ⟨hK, .inr (hw.resolve_left nofun)⟩)
      fun _ _ _ h => h)
  · exact Triple.of_left (Triple.bind waitGlobalTasks_known fun _ => Triple.pure_bind
      ((tail _).conseq (fun _ _ ⟨hK, hw⟩ => ⟨hK, .inl hw⟩) fun _ _ _ h => h))

/-- Before the walk: the log holds only quiet calls, and no watch or pod-volume task is
recorded. -/
structure Untouched (s : State) : Prop where
  quiet : ∀ c ∈ s.calls, c.quiet
  watches : s.resourceWatches = []
  tasks : s.globalTasks = []

theorem Untouched.init : Untouched {} :=
  ⟨fun _ h => absurd h (List.not_mem_nil _), rfl, rfl⟩

theorem Untouched.record (h : Untouched s) (hq : c.quiet) : Untouched (s.record c) :=
  ⟨List.forall_mem_append.mpr ⟨h.quiet, by simpa using hq⟩, h.watches, h.tasks⟩

theorem Untouched.known (h : Untouched s) : Known [] errs s := by
  refine ⟨by simp [ensuredNames_eq_nil fun c hc => Call.quiet_ensures (h.quiet c hc)], ?_,
    .of_quiet h.quiet⟩
  rw [h.watches]
  exact List.filterMap_eq_nil_iff.mpr fun c hc => Call.quiet_opened (h.quiet c hc)

theorem Untouched.accounted {reader : Reader} (h : Untouched s) : Accounted reader errs s := by
  have hK : Known [] errs s := h.known
  refine ⟨stopped_of_openedWatches_nil ?_, hK.reported, .inl h.tasks⟩
  rw [hK.watches, h.watches]

theorem Accounted.record {reader : Reader} (h : Accounted reader errs s) (hq : c.quiet) :
    Accounted reader errs (s.record c) :=
  ⟨h.stopped.append (by simp [Call.quiet_opened hq]), h.reported.append (.quiet hq),
    h.waited.imp_right (·.append _)⟩

theorem execute_accounted :
    Triple EnsuredOnce Untouched (execute ctx) fun r => Accounted ctx.reader r.2 := by
  unfold execute
  refine Triple.call_bind_keep (fun _ hI h => ⟨hI.record rfl, h.record rfl⟩) fun _ => ?_
  split
  · exact Triple.pure fun _ _ h => h.accounted
  · refine Triple.bind (restoreFromArchive_accounted.conseq (fun _ _ h => h.known)
      fun _ _ _ h => h) fun _ => ?_
    refine Triple.call_bind_keep (fun _ hI h => ⟨hI.record rfl, h.record rfl⟩) fun _ => ?_
    exact Triple.pure fun _ _ h => h

end Walk

theorem restore_accounted (kr : KubernetesRestorer) (restore : Restore) (backup : Backup)
    (reader : Reader) (actions : List ItemAction) :
    Triple EnsuredOnce Untouched (kr.restore restore backup reader actions)
      fun r => Accounted reader r.2 := by
  unfold KubernetesRestorer.restore
  have early : ∀ r : RestoreResult × RestoreResult,
      Triple EnsuredOnce Untouched (Pure.pure r) fun r => Accounted reader r.2 :=
    fun _ => Triple.pure fun _ _ h => h.accounted
  split
  · exact early _
  dsimp only
  split
  · exact early _
  split
  · exact early _
  refine Triple.bind (Q := fun _ => Untouched) ?_ fun r => ?_
  · unfold newResticRestorer
    split
    · exact Triple.pure fun _ _ h => h
    · refine Triple.call_bind_keep (fun _ hI h => ⟨hI.record rfl, h.record rfl⟩) fun _ => ?_
      split <;> exact Triple.pure fun _ _ h => h
  rcases r with _ | _
  · exact early _
  · exact execute_accounted

/-- For every archive, request, item actions and behaviour of the cluster, a restore that
returns has stopped, before it returned, every watch it opened: `restoreFromArchive`'s
deferred function stops the watches of `ctx.resourceWatches`, and the volume branch of
`restoreResource` puts each watch it opens there. -/
theorem Accounted.of_restore {kr : KubernetesRestorer} {restore : Restore} {backup : Backup}
    {reader : Reader} {actions : List ItemAction} {r : RestoreResult × RestoreResult} {s : State}
    (h : kr.restore restore backup reader actions {} = .ok r s) : Accounted reader r.2 s := by
  have := restore_accounted kr restore backup reader actions {} List.nodup_nil Untouched.init
  rw [h] at this
  exact this.2

theorem restore_stops_opened_watches (kr : KubernetesRestorer) (restore : Restore)
    (backup : Backup) (reader : Reader) (actions : List ItemAction) :
    ∀ r s, kr.restore restore backup reader actions {} = .ok r s → Stopped s.calls :=
  fun _ _ h => (Accounted.of_restore h).stopped

theorem restore_stops_pv_watch :
    ∃ r s, (restorerOf ["persistentvolumes"] (grantingCluster .created)
        (some (fixedBlockStore "vol-1"))).restore plainRequest
        { volumeBackups := [("pv-1", some ⟨"snap-1", "gp2", "zone-a", none⟩)] }
        (archiveOf [(⟨"persistentvolumes", "", "pv-1.json"⟩, persistentVolumeDoc "pv-1" "Retain")])
        [] {} = .ok r s ∧ openedWatches s.calls ≠ [] ∧ Stopped s.calls := by
  have hw : openedWatches ((restorerOf ["persistentvolumes"] (grantingCluster .created)
      (some (fixedBlockStore "vol-1"))).restore plainRequest
      { volumeBackups := [("pv-1", some ⟨"snap-1", "gp2", "zone-a", none⟩)] }
      (archiveOf [(⟨"persistentvolumes", "", "pv-1.json"⟩, persistentVolumeDoc "pv-1" "Retain")])
      [] {}).state.calls ≠ [] := by decide
  rcases h : (restorerOf ["persistentvolumes"] (grantingCluster .created)
      (some (fixedBlockStore "vol-1"))).restore plainRequest
      { volumeBackups := [("pv-1", some ⟨"snap-1", "gp2", "zone-a", none⟩)] }
      (archiveOf [(⟨"persistentvolumes", "", "pv-1.json"⟩, persistentVolumeDoc "pv-1" "Retain")])
      [] {} with ⟨r, s⟩ | ⟨e, s⟩
  · rw [h] at hw
    exact ⟨r, s, rfl, hw, restore_stops_opened_watches _ _ _ _ _ r s h⟩
  · have hp : ((restorerOf ["persistentvolumes"] (grantingCluster .created)
        (some (fixedBlockStore "vol-1"))).restore plainRequest
        { volumeBackups := [("pv-1", some ⟨"snap-1", "gp2", "zone-a", none⟩)] }
        (archiveOf [(⟨"persistentvolumes", "", "pv-1.json"⟩, persistentVolumeDoc "pv-1" "Retain")])
        [] {}).panic? = none := by decide
    rw [h] at hp
    cases hp

/-- For every archive, request, item actions and behaviour of the cluster, no run of a
restore, on either exit, has two `EnsureNamespaceExists` calls that returned for the same
namespace name: the walk calls it only for a name not in `existingNamespaces`, adds the name
when the call returns, and nothing else ensures a namespace. -/
theorem restore_ensures_each_namespace_once (kr : KubernetesRestorer) (restore : Restore)
    (backup : Backup) (reader : Reader) (actions : List ItemAction) :
    (ensuredNames (kr.restore restore backup reader actions {}).state.calls).Nodup :=
  (restore_accounted kr restore backup reader actions {} List.nodup_nil Untouched.init).state

/-! ## Errors -/

theorem Call.failedCreate_eq_some {c : Call} {p : String × String} (h : c.failedCreate = some p) :
    ∃ origin client obj err, c = .create origin client obj (.failed err) := by
  unfold Call.failedCreate at h
  split at h
  · exact ⟨_, _, _, _, rfl⟩
  · cases h

/-- For every archive, request, item actions and behaviour of the cluster, a restore that
returns reports every `Create` of its run that failed with an error other than
`AlreadyExists`: its errors hold `createItem`'s "error restoring" message with the cluster's
error, in the list of the item's namespace, or in the cluster list for a cluster-scoped item.
The walk merges each `restoreResource` call's errors into its own, and `restoreFromArchive`
returns them on both of its exits. -/
theorem restore_reports_failed_creates (kr : KubernetesRestorer) (restore : Restore)
    (backup : Backup) (reader : Reader) (actions : List ItemAction) :
    ∀ r s, kr.restore restore backup reader actions {} = .ok r s →
      ∀ origin client obj err, Call.create origin client obj (.failed err) ∈ s.calls →
        r.2.Has origin.ns s!"error restoring {origin.describe}: {err}" :=
  fun _ _ h _ _ _ _ hc => (Accounted.of_restore h).reported.creates _ hc _ _ rfl

theorem restore_reports_failed_pod_create :
    ∃ r s, (restorerOf ["pods"] (grantingCluster fun _ => .failed "quota exceeded") none).restore
        plainRequest {} (archiveOf [(⟨"pods", "ns-1", "pod-1.json"⟩, podDoc "pod-1" "ns-1")]) []
        {} = .ok r s ∧
      ∃ origin client obj err, Call.create origin client obj (.failed err) ∈ s.calls ∧
        r.2.Has origin.ns s!"error restoring {origin.describe}: {err}" := by
  have hf : ((restorerOf ["pods"] (grantingCluster fun _ => .failed "quota exceeded") none).restore
      plainRequest {} (archiveOf [(⟨"pods", "ns-1", "pod-1.json"⟩, podDoc "pod-1" "ns-1")]) []
      {}).state.calls.filterMap Call.failedCreate ≠ [] := by decide
  rcases h : (restorerOf ["pods"] (grantingCluster fun _ => .failed "quota exceeded") none).restore
      plainRequest {} (archiveOf [(⟨"pods", "ns-1", "pod-1.json"⟩, podDoc "pod-1" "ns-1")]) []
      {} with ⟨r, s⟩ | ⟨e, s⟩
  · rw [h] at hf
    obtain ⟨_, hp⟩ := List.exists_mem_of_ne_nil _ hf
    obtain ⟨c, hc, hcf⟩ := List.mem_filterMap.mp hp
    obtain ⟨origin, client, obj, err, rfl⟩ := Call.failedCreate_eq_some hcf
    exact ⟨r, s, rfl, origin, client, obj, err, hc,
      restore_reports_failed_creates _ _ _ _ _ r s h _ _ _ _ hc⟩
  · have hp : ((restorerOf ["pods"] (grantingCluster fun _ => .failed "quota exceeded") none).restore
        plainRequest {} (archiveOf [(⟨"pods", "ns-1", "pod-1.json"⟩, podDoc "pod-1" "ns-1")]) []
        {}).panic? = none := by decide
    rw [h] at hp
    cases hp

/-- For every archive, request, item actions and behaviour of the cluster, a restore that
returns reports the error of every `EnsureNamespaceExists` call of its run that failed among
its Ark errors: the walk adds it with `addArkError` when it skips the namespace. -/
theorem restore_reports_namespace_errors (kr : KubernetesRestorer) (restore : Restore)
    (backup : Backup) (reader : Reader) (actions : List ItemAction) :
    ∀ r s, kr.restore restore backup reader actions {} = .ok r s →
      ∀ ns err, Call.ensureNamespaceExists ns (.error err) ∈ s.calls → err ∈ r.2.ark :=
  fun _ _ h _ _ hc => (Accounted.of_restore h).reported.namespaces _ hc _ rfl

/-- A cluster that refuses to create namespaces. -/
def refusingCluster : Cluster :=
  { grantingCluster .created with ensureNamespaceExists := fun _ _ => .error "forbidden" }

theorem restore_reports_refused_namespace :
    ∃ r s, (restorerOf ["pods"] refusingCluster none).restore plainRequest {}
        (archiveOf [(⟨"pods", "ns-1", "pod-1.json"⟩, podDoc "pod-1" "ns-1")]) [] {} = .ok r s ∧
      Call.ensureNamespaceExists { name := "ns-1" } (.error "forbidden") ∈ s.calls ∧
      "forbidden" ∈ r.2.ark := by
  have hc : Call.ensureNamespaceExists { name := "ns-1" } (.error "forbidden") ∈
      ((restorerOf ["pods"] refusingCluster none).restore plainRequest {}
        (archiveOf [(⟨"pods", "ns-1", "pod-1.json"⟩, podDoc "pod-1" "ns-1")]) [] {}).state.calls := by
    decide
  rcases h : (restorerOf ["pods"] refusingCluster none).restore plainRequest {}
      (archiveOf [(⟨"pods", "ns-1", "pod-1.json"⟩, podDoc "pod-1" "ns-1")]) [] {} with
    ⟨r, s⟩ | ⟨e, s⟩
  · rw [h] at hc
    exact ⟨r, s, rfl, hc, restore_reports_namespace_errors _ _ _ _ _ r s h _ _ hc⟩
  · have hp : ((restorerOf ["pods"] refusingCluster none).restore plainRequest {}
        (archiveOf [(⟨"pods", "ns-1", "pod-1.json"⟩, podDoc "pod-1" "ns-1")]) [] {}).panic? =
        none := by decide
    rw [h] at hp
    cases hp

theorem Call.mem_podVolumeErrors {c : Call} {err : String} (h : err ∈ c.podVolumeErrors) :
    ∃ pod errs, c = .restorePodVolumes pod errs ∧ err ∈ errs := by
  unfold Call.podVolumeErrors at h
  split at h
  · exact ⟨_, _, rfl, h⟩
  · cases h

/-- For every archive, request, item actions and behaviour of the cluster and the restic
restorer, a restore that returns, and whose walk did not stop early (every `GetResourceScope` and
`ListNamespaces` answer of its run is a success), has every error that a `RestorePodVolumes` call
of its run returned among its Ark errors: `restoreFromArchive` then waits on the global wait
group and appends the errors of every task started. On an early return it skips the wait, and
the errors of the tasks already started are lost. -/
theorem restore_reports_pod_volume_errors (kr : KubernetesRestorer) (restore : Restore)
    (backup : Backup) (reader : Reader) (actions : List ItemAction) :
    ∀ r s, kr.restore restore backup reader actions {} = .ok r s →
      (∀ res, Call.getResourceScope res ∈ s.calls → (reader.getResourceScope res).isOk) →
      (∀ res, Call.listNamespaces res ∈ s.calls → (reader.listNamespaces res).isOk) →
      ∀ pod errs, Call.restorePodVolumes pod errs ∈ s.calls → ∀ err ∈ errs, err ∈ r.2.ark := by
  intro _ s h hs hn _ _ hc err he
  have ha := Accounted.of_restore h
  have hw : s.globalTasks = [] := ha.waited.resolve_right fun ⟨res, h⟩ => by
    rcases h with ⟨hc, hf⟩ | ⟨hc, hf⟩
    · simp [hs res hc] at hf
    · simp [hn res hc] at hf
  simpa [hw] using ha.reported.podVolumes _ hc err he

/-- A restorer of pods whose restic restorer's pod-volume restores fail. -/
def failingResticRestorer : KubernetesRestorer :=
  { restorerOf ["pods"] (grantingCluster .created) none with
    resticRestorerFactory := some ⟨fun _ _ => .ok (), fun _ _ => ["volume restore failed"]⟩ }

/-- A pod `pod-1` in `ns-1` with a pod-volume snapshot annotation. -/
def annotatedPodDoc : Json :=
  .obj [("apiVersion", .str "v1"), ("kind", .str "Pod"),
    ("metadata", .obj [("name", .str "pod-1"), ("namespace", .str "ns-1"),
      ("annotations", .obj [("snapshot.ark.heptio.com/data", .str "snap-1")])])]

/-- The walk's answers of a log: true when every `GetResourceScope` and `ListNamespaces` call of
it succeeds against `reader`. -/
def walkAnswered (reader : Reader) (calls : List Call) : Bool :=
  calls.all fun c => match c with
    | .getResourceScope res => (reader.getResourceScope res).isOk
    | .listNamespaces res => (reader.listNamespaces res).isOk
    | _ => true

theorem restore_reports_failed_pod_volumes :
    ∃ r s, failingResticRestorer.restore plainRequest {}
        (archiveOf [(⟨"pods", "ns-1", "pod-1.json"⟩, annotatedPodDoc)]) [] {} = .ok r s ∧
      ∃ pod errs, Call.restorePodVolumes pod errs ∈ s.calls ∧ ∀ err ∈ errs, err ∈ r.2.ark := by
  have hp : (failingResticRestorer.restore plainRequest {}
      (archiveOf [(⟨"pods", "ns-1", "pod-1.json"⟩, annotatedPodDoc)]) [] {}).panic? = none ∧
      "volume restore failed" ∈ (failingResticRestorer.restore plainRequest {}
        (archiveOf [(⟨"pods", "ns-1", "pod-1.json"⟩, annotatedPodDoc)]) [] {}).state.calls.flatMap
          Call.podVolumeErrors ∧
      walkAnswered (archiveOf [(⟨"pods", "ns-1", "pod-1.json"⟩, annotatedPodDoc)])
        (failingResticRestorer.restore plainRequest {}
          (archiveOf [(⟨"pods", "ns-1", "pod-1.json"⟩, annotatedPodDoc)]) [] {}).state.calls := by
    decide
  rcases h : failingResticRestorer.restore plainRequest {}
      (archiveOf [(⟨"pods", "ns-1", "pod-1.json"⟩, annotatedPodDoc)]) [] {} with ⟨r, s⟩ | ⟨e, s⟩
  · rw [h] at hp
    obtain ⟨-, hp, ha⟩ := hp
    obtain ⟨c, hc, he⟩ := List.mem_flatMap.mp hp
    obtain ⟨pod, errs, rfl, -⟩ := Call.mem_podVolumeErrors he
    have ha := List.all_eq_true.mp ha
    exact ⟨r, s, rfl, pod, errs, hc, restore_reports_pod_volume_errors _ _ _ _ _ r s h
      (fun res hc => by simpa using ha _ hc) (fun res hc => by simpa using ha _ hc) _ _ hc⟩
  · rw [h] at hp
    cases hp.1

end Ark
