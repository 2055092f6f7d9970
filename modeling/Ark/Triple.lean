import Ark.Engine

/-!
# Triples over the engine's runs

`Triple I P x Q`: started in a state satisfying the invariant `I` and the precondition `P`,
the run `x` returns `a` in a state satisfying `I` and `Q a`, or panics in a state
satisfying `I`. The invariant is what a theorem carries over a whole restore, on every
exit; `P` and `Q` carry what is known of the values at hand. The rules below build triples
along the monad's operations, and each function of the engine gets one triple, proved
from the rules and the triples of the functions it calls.
-/

namespace Ark

/-- How a run ended: in a state satisfying `I`, and with `Q` of the value on a return. -/
def Ends {α : Type} (I : State → Prop) (Q : α → State → Prop) : EStateM.Result String State α → Prop
  | .ok a s => I s ∧ Q a s
  | .error _ s => I s

theorem Ends.state {α : Type} {I : State → Prop} {Q : α → State → Prop} :
    ∀ {r : EStateM.Result String State α}, Ends I Q r → I r.state
  | .ok _ _, h => h.1
  | .error _ _, h => h

def Triple {α : Type} (I P : State → Prop) (x : M α) (Q : α → State → Prop) : Prop :=
  ∀ s, I s → P s → Ends I Q (x s)

/-- Every call of the log satisfies `p`. -/
def AllCalls (p : Call → Prop) (s : State) : Prop := ∀ c ∈ s.calls, p c

@[simp] theorem allCalls_record {p : Call → Prop} {s : State} {c : Call} :
    AllCalls p (s.record c) ↔ AllCalls p s ∧ p c := by
  simp [AllCalls, or_imp, forall_and]

namespace Triple

variable {α β γ : Type} {I P P' : State → Prop} {Q Q' : α → State → Prop}

theorem conseq {x : M α} (h : Triple I P x Q) (hp : ∀ s, I s → P' s → P s)
    (hq : ∀ a s, I s → Q a s → Q' a s) : Triple I P' x Q' := by
  intro s hI hP
  have h := h s hI (hp s hI hP)
  revert h
  rcases x s with ⟨a, s'⟩ | ⟨e, s'⟩
  · exact fun ⟨h1, h2⟩ => ⟨h1, hq a s' h1 h2⟩
  · exact id

/-- A triple from every state satisfying the invariant holds under any precondition. -/
theorem weaken {x : M α} (h : Triple I (fun _ => True) x Q) : Triple I P x Q :=
  fun s hI _ => h s hI trivial

theorem pure {a : α} (h : ∀ s, I s → P s → Q a s) : Triple I P (Pure.pure a) Q :=
  fun s hI hP => ⟨hI, h s hI hP⟩

theorem throw {e : String} : Triple I P (throw e : M α) Q :=
  fun _ hI _ => hI

theorem bind {x : M α} {f : α → M β} {R : β → State → Prop} (hx : Triple I P x Q)
    (hf : ∀ a, Triple I (Q a) (f a) R) : Triple I P (x >>= f) R := by
  intro s hI hP
  have h := hx s hI hP
  show Ends I R (EStateM.bind x f s)
  revert h
  unfold EStateM.bind
  rcases x s with ⟨a, s'⟩ | ⟨e, s'⟩
  · exact fun ⟨h1, h2⟩ => hf a s' h1 h2
  · exact id

theorem call {answer : List Call → γ} {log : γ → Call} {Q : γ → State → Prop}
    (h : ∀ s, I s → P s →
      I (s.record (log (answer s.calls))) ∧ Q (answer s.calls) (s.record (log (answer s.calls)))) :
    Triple I P (call answer log) Q :=
  fun s hI hP => h s hI hP

theorem get {Q : State → State → Prop} (h : ∀ s, I s → P s → Q s s) :
    Triple I P (MonadState.get : M State) Q :=
  fun s hI hP => ⟨hI, h s hI hP⟩

theorem set {s' : State} {Q : PUnit → State → Prop} (h : ∀ s, I s → P s → I s' ∧ Q ⟨⟩ s') :
    Triple I P (MonadStateOf.set s' : M PUnit) Q :=
  fun s hI hP => h s hI hP

theorem update {f : State → State} {Q : PUnit → State → Prop}
    (h : ∀ s, I s → P s → I (f s) ∧ Q ⟨⟩ (f s)) :
    Triple I P (modify f : M PUnit) Q :=
  fun s hI hP => h s hI hP

theorem pure_bind {a : α} {f : α → M β} {R : β → State → Prop} (h : Triple I P (f a) R) :
    Triple I P (Pure.pure a >>= f) R := h

theorem throw_bind {e : String} {f : α → M β} {R : β → State → Prop} :
    Triple I P (MonadExcept.throw e >>= f) R :=
  fun _ hI _ => hI

/-- A call, and the run that continues with its answer; the precondition is dropped. -/
theorem call_bind {answer : List Call → γ} {log : γ → Call} {f : γ → M β} {R : β → State → Prop}
    (h : ∀ s, I s → P s → I (s.record (log (answer s.calls))))
    (hf : ∀ cs, Triple I (fun _ => True) (f (answer cs)) R) : Triple I P (Ark.call answer log >>= f) R :=
  fun s hI hP => hf s.calls _ (h s hI hP) trivial

/-- A call, and the run that continues with its answer, knowing that the call was logged. -/
theorem call_bind_mem {answer : List Call → γ} {log : γ → Call} {f : γ → M β}
    {R : β → State → Prop} (h : ∀ s, I s → P s → I (s.record (log (answer s.calls))))
    (hP : ∀ s c, P s → P (s.record c))
    (hf : ∀ cs, Triple I (fun s => P s ∧ log (answer cs) ∈ s.calls) (f (answer cs)) R) :
    Triple I P (Ark.call answer log >>= f) R :=
  fun s hI hP' => hf s.calls _ (h s hI hP') ⟨hP s _ hP', by simp⟩

/-- A call, and the run that continues with its answer, under a precondition the call keeps. -/
theorem call_bind_keep {answer : List Call → γ} {log : γ → Call} {f : γ → M β}
    {R : β → State → Prop} (h : ∀ s, I s → P s →
      I (s.record (log (answer s.calls))) ∧ P (s.record (log (answer s.calls))))
    (hf : ∀ cs, Triple I P (f (answer cs)) R) : Triple I P (Ark.call answer log >>= f) R :=
  fun s hI hP => hf s.calls _ (h s hI hP).1 (h s hI hP).2

/-- A call under a precondition the call keeps, and the run that continues knowing that the
call was logged. -/
theorem call_bind_keep_mem {answer : List Call → γ} {log : γ → Call} {f : γ → M β}
    {R : β → State → Prop} (h : ∀ s, I s → P s →
      I (s.record (log (answer s.calls))) ∧ P (s.record (log (answer s.calls))))
    (hf : ∀ cs, Triple I (fun s => P s ∧ log (answer cs) ∈ s.calls) (f (answer cs)) R) :
    Triple I P (Ark.call answer log >>= f) R :=
  fun s hI hP => hf s.calls _ (h s hI hP).1 ⟨(h s hI hP).2, by simp⟩

/-- A call, and the run that continues with its answer from the state the call left. -/
theorem call_bind_after {answer : List Call → γ} {log : γ → Call} {f : γ → M β}
    {R : β → State → Prop} (h : ∀ s, I s → P s → I (s.record (log (answer s.calls))))
    (hf : ∀ cs, Triple I (fun s' => ∃ s, P s ∧ s.calls = cs ∧ s' = s.record (log (answer cs)))
      (f (answer cs)) R) :
    Triple I P (Ark.call answer log >>= f) R :=
  fun s hI hP => hf s.calls _ (h s hI hP) ⟨s, hP, rfl, rfl⟩

theorem get_bind {f : State → M β} {R : β → State → Prop}
    (hf : ∀ s, Triple I (fun s' => P s' ∧ s' = s) (f s) R) : Triple I P (MonadState.get >>= f) R :=
  fun s hI hP => hf s s hI ⟨hP, rfl⟩

theorem modify_bind {g : State → State} {f : PUnit → M β} {R : β → State → Prop}
    (h : ∀ s, I s → P s → I (g s) ∧ P (g s)) (hf : Triple I P (f ⟨⟩) R) :
    Triple I P (modify g >>= f) R :=
  fun s hI hP => hf _ (h s hI hP).1 (h s hI hP).2

/-- A run in two phases: the first keeps the stronger invariant `I₁`, and the second starts
from a state satisfying it. -/
theorem bind_phase {I₁ : State → Prop} {x : M α} {f : α → M β} {R : β → State → Prop}
    (h : ∀ s, I₁ s → I s) (hx : Triple I₁ P x Q)
    (hf : ∀ a, Triple I (fun s => I₁ s ∧ Q a s) (f a) R) :
    Triple I (fun s => I₁ s ∧ P s) (x >>= f) R := by
  intro s _ ⟨hI₁, hP⟩
  have hx := hx s hI₁ hP
  show Ends I R (EStateM.bind x f s)
  revert hx
  unfold EStateM.bind
  rcases x s with ⟨a, s'⟩ | ⟨e, s'⟩
  · exact fun ⟨h1, h2⟩ => hf a s' (h s' h1) ⟨h1, h2⟩
  · exact h s'

/-- A triple under a stronger precondition. -/
theorem of_left {x : M α} (h : Triple I P x Q) : Triple I (fun s => P s ∧ P' s) x Q :=
  h.conseq (fun _ _ h => h.1) fun _ _ _ h => h

/-- A precondition that does not read the state is a hypothesis. -/
theorem of_fact {φ : Prop} {x : M α} (h : φ → Triple I (fun _ => True) x Q) :
    Triple I (fun _ => φ) x Q :=
  fun s hI hφ => h hφ s hI trivial

theorem of_and_fact {φ : Prop} {x : M α} (h : φ → Triple I P x Q) :
    Triple I (fun s => P s ∧ φ) x Q :=
  fun s hI hP => h hP.2 s hI hP.1

/-- A value of the state, fixed for the proof of a run. -/
theorem ghost {δ : Type} {x : M α} (g : State → δ) (h : ∀ d, Triple I (fun s => P s ∧ g s = d) x Q) :
    Triple I P x Q :=
  fun s hI hP => h (g s) s hI ⟨hP, rfl⟩

end Triple

end Ark
