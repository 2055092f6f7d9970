import Ark.RestoreSpec

/-!
# Item actions

`restoreResource` runs every applicable item action on an item in turn. An action's error
is recorded, and the loop goes on to the next action: the `continue` that follows it is the
action loop's, not the item loop's, so the item is still created. A warning is recorded as
`errors.Wrapf(err, ...)` of the action's error: with an error it carries the error's text,
and without one it is `nil`, and recording it dereferences `nil`.
-/

namespace Ark

/-- The answer an `Execute` call was given. -/
def Call.executed : Call → Option ExecuteResult
  | .execute _ _ _ r => some r
  | _ => none

/-- An answer with a warning and no error: recording its warning wraps the `nil` error. -/
def ExecuteResult.bare (r : ExecuteResult) : Bool := r.warning.isSome && r.err.isNone

/-- What one answered `Execute` leaves in the item's frame when it does not panic: a
warning with the action's error text, and an item error for a failure or for an object of
another type. -/
def Frame.afterExecute (origin : Origin) (fr : Frame) (r : ExecuteResult) : Frame :=
  match r.err with
  | some e =>
    let fr := if r.warning.isSome then
      fr.addWarning origin.ns s!"warning preparing {origin.describe}: {e}" else fr
    fr.addErr origin.ns s!"error preparing {origin.describe}: {e}"
  | none => if r.updated.isSome then fr else
    fr.addErr origin.ns s!"unexpected type for {origin.describe}"

section Loop

variable {ctx : Context} {origin : Origin} {cs₀ : List Call} {fr₀ : Frame}

/-- `fr` is what the answers logged since `cs₀` leave in the frame `fr₀`, in turn. -/
def FoldedFrame (origin : Origin) (cs₀ : List Call) (fr₀ fr : Frame) (s : State) : Prop :=
  ∃ new, s.calls = cs₀ ++ new ∧
    fr = (new.filterMap Call.executed).foldl (Frame.afterExecute origin) fr₀

theorem FoldedFrame.execute {fr : Frame} {s : State} {i : Nat} {o : Origin} {obj : Unstructured}
    {r : ExecuteResult} (h : FoldedFrame origin cs₀ fr₀ fr s) :
    FoldedFrame origin cs₀ fr₀ (fr.afterExecute origin r) (s.record (.execute i o obj r)) :=
  let ⟨new, hs, hfr⟩ := h
  ⟨new ++ [.execute i o obj r], by simp [hs], by simp [hfr, Call.executed]⟩

/-- The action loop never leaves the item early: the frame it returns is each logged
answer's effect in turn, whatever the answers before it were. -/
theorem runActions_frame :
    ∀ (as : List ResolvedAction) (obj : Unstructured) (fr : Frame),
      Triple (fun _ => True) (FoldedFrame origin cs₀ fr₀ fr) (runActions ctx origin as obj fr)
        fun r => FoldedFrame origin cs₀ fr₀ r.2
  | [], obj, fr => Triple.pure fun _ _ h => h
  | a :: as, obj, fr => by
    unfold runActions
    split
    next => exact runActions_frame as obj fr
    next =>
    refine Triple.call_bind_after (fun _ _ _ => trivial) fun cs => ?_
    generalize a.action.execute cs obj ctx.restore = r
    have step : ∀ obj', Triple (fun _ => True)
        (fun s' => ∃ s, FoldedFrame origin cs₀ fr₀ fr s ∧ s.calls = cs ∧
          s' = s.record (.execute a.index origin obj r))
        (runActions ctx origin as obj' (fr.afterExecute origin r)) fun r => FoldedFrame origin cs₀ fr₀ r.2 :=
      fun obj' => (runActions_frame as obj' _).conseq
        (fun _ _ ⟨_, h, _, hs'⟩ => hs' ▸ h.execute) fun _ _ _ h => h
    obtain ⟨u, w, e⟩ := r
    cases w <;> cases e <;> cases u
    all_goals first | exact Triple.throw_bind | exact Triple.pure_bind (step _)

/-- The action loop returns normally when no action answers a warning without an error. -/
theorem runActions_returns :
    ∀ (as : List ResolvedAction), (∀ a ∈ as, ∀ cs obj, (a.action.execute cs obj ctx.restore).bare = false) →
      ∀ obj fr s, ∃ v s', runActions ctx origin as obj fr s = .ok v s'
  | [], _, _, _, _ => ⟨_, _, rfl⟩
  | a :: as, h, obj, fr, s => by
    have ih := runActions_returns as fun a' ha' => h a' (.tail _ ha')
    unfold runActions
    split
    next => exact ih obj fr s
    next =>
    have hbare := h a (.head _) s.calls obj
    simp only [bind, EStateM.bind, call_apply]
    generalize a.action.execute s.calls obj ctx.restore = r at hbare ⊢
    obtain ⟨u, w, e⟩ := r
    cases w <;> cases e <;> cases u
    all_goals first | exact ih _ _ _ | simp [ExecuteResult.bare] at hbare

end Loop

/-- An item action for every item, whose `Execute` answers `result`. -/
def answeringAction (result : ExecuteResult) : ItemAction := ⟨.ok {}, fun _ _ _ => result⟩

/-- A restore of one pod with one item action, which answers `result`. -/
def actionRun (result : ExecuteResult) :
    EStateM.Result String State (RestoreResult × RestoreResult) :=
  (restorerOf ["pods"] (grantingCluster .created) none).restore plainRequest {}
    (archiveOf [(⟨"pods", "ns-1", "pod-1.json"⟩, podDoc "pod-1" "ns-1")])
    [answeringAction result] {}

/-- An action that fails on the pod: its error is recorded, and the pod is created. -/
theorem restore_creates_item_after_action_error :
    ((actionRun ⟨none, none, some "boom"⟩).state.calls.filterMap Call.created).map (·.1) =
        [⟨"pods", "ns-1", "pod-1.json"⟩] ∧
      (actionRun ⟨none, none, some "boom"⟩).value?.map (·.2) = some { namespaces := [("ns-1",
        ["error preparing item \"pod-1.json\" for resource \"pods\" in namespace \"ns-1\": boom"])] } := by
  decide

/-- An action that warns without failing makes `Restore` panic; one that warns and fails
leaves a warning with the error's text, not the warning's. -/
theorem restore_mishandles_action_warning :
    (actionRun ⟨none, some "careful", none⟩).panic? =
        some "runtime error: invalid memory address or nil pointer dereference" ∧
      (actionRun ⟨none, some "careful", some "boom"⟩).value?.map (·.1) = some { namespaces := [("ns-1",
        ["warning preparing item \"pod-1.json\" for resource \"pods\" in namespace \"ns-1\": boom"])] } := by
  decide

end Ark
