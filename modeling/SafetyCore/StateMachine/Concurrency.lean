import Mathlib.Data.Fintype.Basic
import SafetyCore.StateMachine.Atomic

/-!
# Races between the operations of the mode state machine

`transition_to` loads `mode_` in `allowed(target)` and loads it again into
`prev`, which its compare-exchange then expects. Another thread can change the
mode between the two loads, so the value exchanged need not be the value
validated. Two consequences are settled here over every schedule of any number
of threads.

* A thread can move the machine along an edge the table forbids. It cannot if
  every value loaded into `prev` is one the table permits to leave.
* A fault can stay latched while the mode has left the safe stop. It cannot if
  no compare-exchange takes the mode out of the safe stop under a latched fault.
-/

namespace SafetyCore

namespace StateMachine

open Transition

variable {ι : Type*} [DecidableEq ι]

/-! ## Edges taken by `transition_to` -/

/-- If the step is a successful compare-exchange inside `transition_to`, the
table permits the edge from the mode it replaces to the mode it stores. -/
def edgePermitted (s : Threads ι) (e : ι × Action) : Bool :=
  match e.2, s.loc e.1 with
  | .access spurious, .transitionCas target prev =>
      !exchanges spurious s.shared prev || s.shared.mode.allowed target
  | _, _ => true

/-- If the step fixes the value a compare-exchange of `transition_to` will
expect, the table permits to leave that value for the target. The value is
fixed by the load into `prev` and, after a failed exchange, by the validation
that lets the loop go on. -/
def validatesPrev (s : Threads ι) (e : ι × Action) : Bool :=
  match e.2, s.loc e.1 with
  | .access _, .transitionPrev target => s.shared.mode.allowed target
  | .access _, .transitionRecheck target prev =>
      !s.shared.mode.allowed target || prev.allowed target
  | _, _ => true

/-- A thread about to exchange expects a mode that it may leave. -/
def Pc.ExpectsPermitted : Pc → Prop
  | .transitionCas target prev => prev.allowed target = true
  | _ => True

theorem Pc.expectsPermitted_entry (op : Op) : (Pc.entry op).ExpectsPermitted := by
  cases op <;> trivial

omit [DecidableEq ι] in
theorem expectsPermitted_threadStep {s : Threads ι} {i : ι} {a : Action}
    (hv : validatesPrev s (i, a) = true) (h : (s.loc i).ExpectsPermitted) :
    (threadStep a s.shared (s.loc i)).2.ExpectsPermitted := by
  cases a with
  | start op =>
      cases hpc : s.loc i with
      | idle ret => exact Pc.expectsPermitted_entry op
      | transitionCas target prev => simpa [hpc, threadStep] using h
      | _ => trivial
  | access spurious =>
      cases hpc : s.loc i with
      | transitionPrev target =>
          have hp : s.shared.mode.allowed target = true := by
            simpa [validatesPrev, hpc] using hv
          exact hp
      | transitionRecheck target prev =>
          simp only [validatesPrev, hpc, Bool.or_eq_true, Bool.not_eq_true'] at hv
          simp only [threadStep, access]
          by_cases ha : s.shared.mode.allowed target = true
          · have hp : prev.allowed target = true := by simpa [ha] using hv
            by_cases ht : prev = target <;> simp [ha, ht, Pc.ExpectsPermitted, hp]
          · simp [ha, Pc.ExpectsPermitted]
      | idle ret => trivial
      | latchFlag faultCode | latchMode faultCode | clearFlag | clearPrev => trivial
      | _ =>
          simp only [threadStep, access]
          split <;> first | trivial | (split <;> trivial)

omit [DecidableEq ι] in
theorem edgePermitted_of_expectsPermitted {s : Threads ι} (e : ι × Action)
    (h : (s.loc e.1).ExpectsPermitted) : edgePermitted s e = true := by
  obtain ⟨i, a⟩ := e
  cases a with
  | start op => rfl
  | access spurious =>
      cases hpc : s.loc i with
      | transitionCas target prev =>
          simp only [hpc, Pc.ExpectsPermitted] at h
          by_cases hm : s.shared.mode = prev
          · simp [edgePermitted, hpc, hm, h]
          · simp [edgePermitted, hpc, exchanges, hm]
      | _ => simp [edgePermitted, hpc]

/-- In a schedule in which `prev` is only ever given a value that the table
permits to leave for the target, no thread moves the machine along a forbidden
edge. -/
theorem transition_edges_permitted (es : List (ι × Action))
    (h : (threads ι).Along (fun s e => validatesPrev s e = true)
      (Threads.initial ι) es) :
    (threads ι).Along (fun s e => edgePermitted s e = true)
      (Threads.initial ι) es := by
  refine h.imp (I := fun s => ∀ i, (s.loc i).ExpectsPermitted) ?_ ?_ ?_
  · rintro s ⟨i, a⟩ hv hs
    exact forall_loc_next threadStep hs (expectsPermitted_threadStep hv (hs i))
  · intro s e _ hs
    exact edgePermitted_of_expectsPermitted e (hs e.1)
  · intro i
    trivial

/-- One thread docks from `Idle`; nothing else runs. -/
theorem transition_edges_permitted_docking :
    (threads (Fin 2)).Along (fun s e => edgePermitted s e = true)
      (Threads.initial (Fin 2))
      ((0, .start (.transitionTo .idle)) ::
        List.replicate 4 (0, .access false) ++
        (1, .start (.transitionTo .docking)) ::
        List.replicate 4 (1, .access false)) :=
  transition_edges_permitted _ (by decide)

/-- The machine is idle. Thread 0 validates `Idle → Moving`, thread 1 docks,
and thread 0 goes on to load `Docking` and to replace it by `Moving`. -/
def dockingRace : List (Fin 2 × Action) :=
  (0, .start (.transitionTo .idle)) :: List.replicate 4 (0, .access false) ++
    (0, .start (.transitionTo .moving)) :: List.replicate 2 (0, .access false) ++
    (1, .start (.transitionTo .docking)) :: List.replicate 4 (1, .access false) ++
    List.replicate 2 (0, .access false)

theorem transition_edges_not_always_permitted :
    ¬ ∀ es : List (Fin 2 × Action),
      (threads (Fin 2)).Along (fun s e => edgePermitted s e = true)
        (Threads.initial (Fin 2)) es := by
  intro h
  exact absurd (h dockingRace) (by decide)

/-- The condition cannot be dropped for a single load: if a thread loads a
value it may not leave into `prev` and exchanges next, it takes the forbidden
edge. -/
theorem forbidden_edge_of_prev {s : Threads ι} {i : ι} {target : Mode}
    (hpc : s.loc i = .transitionPrev target)
    (ha : s.shared.mode.allowed target = false) (spurious : Bool) :
    edgePermitted ((threads ι).next s (i, .access spurious)) (i, .access false) =
      false := by
  simp [edgePermitted, exchanges, threadStep, access, hpc, ha]

/-! ## The fault latch -/

/-- When no operation is in progress, a latched fault means the safe stop. -/
def LatchConsistent (s : Threads ι) : Prop :=
  s.Quiescent → s.shared.latchedFault = true → s.shared.mode = .safeStop

/-- `latch_fault` has set the flag and not yet stored the mode. -/
def Pc.isLatching : Pc → Bool
  | .latchMode _ => true
  | _ => false

/-- The step is a compare-exchange of `transition_to` or `clear_fault` that
takes the mode out of the safe stop. -/
def leavesSafeStop (s : Threads ι) (e : ι × Action) : Bool :=
  s.shared.mode = .safeStop &&
    match e.2, s.loc e.1 with
    | .access spurious, .transitionCas target prev =>
        exchanges spurious s.shared prev && target ≠ .safeStop
    | .access spurious, .clearCas prev => exchanges spurious s.shared prev
    | _, _ => false

/-- The step takes the mode out of the safe stop under a latched fault, and no
`latch_fault` in progress is about to store the safe stop again. -/
def EscapesLatch (s : Threads ι) (e : ι × Action) : Prop :=
  leavesSafeStop s e = true ∧ s.shared.latchedFault = true ∧
    ∀ j, (s.loc j).isLatching = false

instance [Fintype ι] (s : Threads ι) (e : ι × Action) :
    Decidable (EscapesLatch s e) :=
  inferInstanceAs (Decidable (_ ∧ _ ∧ _))

instance [Fintype ι] (s : Threads ι) : Decidable (LatchConsistent s) :=
  inferInstanceAs (Decidable ((∀ _, _) → _ → _))

/-- A latched fault means the safe stop unless `latch_fault` has still to store
it, and only a lost localization is ever recovered from. -/
structure LatchInvariant (s : Threads ι) : Prop where
  latched : s.shared.latchedFault = true →
    s.shared.mode = .safeStop ∨ ∃ j, (s.loc j).isLatching = true
  recovering : ∀ i prev, s.loc i = .recoverCas prev → prev = .localizationLost

/-- A recovering thread expects `LocalizationLost`. -/
def Pc.ExpectsLost : Pc → Prop
  | .recoverCas prev => prev = .localizationLost
  | _ => True

omit [DecidableEq ι] in
theorem LatchInvariant.expectsLost {s : Threads ι} (h : LatchInvariant s) (i : ι) :
    (s.loc i).ExpectsLost := by
  cases hpc : s.loc i with
  | recoverCas prev => exact h.recovering i prev hpc
  | _ => trivial

theorem expectsLost_threadStep (a : Action) (m : Shared) {pc : Pc}
    (h : pc.ExpectsLost) : (threadStep a m pc).2.ExpectsLost := by
  cases a with
  | start op =>
      cases pc with
      | idle ret => cases op <;> trivial
      | _ => exact h
  | access spurious =>
      cases pc with
      | idle ret | transitionPrev target | clearFlag | clearPrev => trivial
      | latchFlag faultCode | latchMode faultCode => trivial
      | recoverLoad =>
          by_cases hm : m.mode = .localizationLost <;>
            simp [threadStep, access, hm, Pc.ExpectsLost]
      | recoverCas prev =>
          simp only [threadStep, access]
          by_cases hm : m.mode = .localizationLost <;>
            split <;> simp [hm, Pc.ExpectsLost]
      | _ =>
          simp only [threadStep, access]
          split <;> first | trivial | (split <;> trivial)

/-- What one step can do to the flag and to the safe stop: it announces a store
of the safe stop, it stores it, it clears the flag, or it keeps the flag and
then leaves the safe stop only as `leavesSafeStop` says. -/
inductive LatchStep (s : Threads ι) (e : ι × Action) (m' : Shared) (pc' : Pc) :
    Prop
  | announces (h : pc'.isLatching = true)
  | stops (h : m'.mode = .safeStop)
  | clears (h : m'.latchedFault = false)
  | keeps (hpc : (s.loc e.1).isLatching = false)
      (hflag : m'.latchedFault = s.shared.latchedFault)
      (hleave : s.shared.mode = .safeStop → leavesSafeStop s e = true)

omit [DecidableEq ι] in
/-- A step that leaves the memory alone. -/
theorem LatchStep.of_shared_eq {s : Threads ι} {e : ι × Action} {m' : Shared}
    {pc' : Pc} (hpc : (s.loc e.1).isLatching = false) (hm : m' = s.shared) :
    LatchStep s e m' pc' := by
  subst hm
  by_cases h : s.shared.mode = .safeStop
  · exact .stops h
  · exact .keeps hpc rfl fun h' => absurd h' h

omit [DecidableEq ι] in
theorem latchStep_threadStep (s : Threads ι) (i : ι) (a : Action)
    (hlost : (s.loc i).ExpectsLost) :
    LatchStep s (i, a) (threadStep a s.shared (s.loc i)).1
      (threadStep a s.shared (s.loc i)).2 := by
  cases a with
  | start op =>
      cases hpc : s.loc i with
      | latchMode faultCode => exact .announces rfl
      | _ => exact .of_shared_eq (by simp [hpc, Pc.isLatching]) rfl
  | access spurious =>
      cases hpc : s.loc i with
      | latchFlag faultCode => exact .announces rfl
      | latchMode faultCode => exact .stops rfl
      | clearFlag => exact .clears rfl
      | transitionCas target prev =>
          have hi : (s.loc i).isLatching = false := by simp [hpc, Pc.isLatching]
          by_cases hx : exchanges spurious s.shared prev = true
          · by_cases ht : target = .safeStop
            · exact .stops (by simp [threadStep, access, hx, ht])
            · refine .keeps hi (by simp [threadStep, access, hx]) ?_
              intro hm
              simp [leavesSafeStop, hpc, hm, hx, ht]
          · exact .of_shared_eq hi (by simp [threadStep, access, hx])
      | clearCas prev =>
          have hi : (s.loc i).isLatching = false := by simp [hpc, Pc.isLatching]
          by_cases hx : exchanges spurious s.shared prev = true
          · refine .keeps hi (by simp [threadStep, access, hx]) ?_
            intro hm
            simp [leavesSafeStop, hpc, hm, hx]
          · exact .of_shared_eq hi (by simp [threadStep, access, hx])
      | recoverCas prev =>
          have hi : (s.loc i).isLatching = false := by simp [hpc, Pc.isLatching]
          by_cases hx : exchanges spurious s.shared prev = true
          · refine .keeps hi (by simp [threadStep, access, hx]) ?_
            intro hm
            -- the exchange expects `LocalizationLost`, so it cannot meet the safe stop
            simp only [hpc, Pc.ExpectsLost] at hlost
            simp [exchanges, hm, hlost] at hx
          · refine .of_shared_eq hi ?_
            by_cases hm : s.shared.mode = .localizationLost <;>
              simp [threadStep, access, hx, hm]
      | idle ret | transitionPrev target | clearPrev =>
          exact .of_shared_eq (by simp [hpc, Pc.isLatching]) rfl
      | _ =>
          refine .of_shared_eq (by simp [hpc, Pc.isLatching]) ?_
          simp only [threadStep, access]
          split <;> first | rfl | (split <;> rfl)

theorem latchInvariant_next {s : Threads ι} (e : ι × Action)
    (he : ¬ EscapesLatch s e) (hs : LatchInvariant s) :
    LatchInvariant ((threads ι).next s e) := by
  obtain ⟨i, a⟩ := e
  have hlost := hs.expectsLost i
  constructor
  · intro hl
    rw [interleave_shared] at hl ⊢
    have hkeep : ∀ j, (s.loc j).isLatching = true → (s.loc i).isLatching = false →
        ∃ j, (((threads ι).next s (i, a)).loc j).isLatching = true := by
      intro j hj hi
      have hne : j ≠ i := by
        rintro rfl
        simp [hj] at hi
      exact ⟨j, by rw [interleave_loc_of_ne threadStep s a hne]; exact hj⟩
    cases latchStep_threadStep s i a hlost with
    | announces h => exact .inr ⟨i, by rw [interleave_loc_self]; exact h⟩
    | stops h => exact .inl h
    | clears h => simp [h] at hl
    | keeps hi hflag hleave =>
        rw [hflag] at hl
        rcases hs.latched hl with hm | ⟨j, hj⟩
        · have hpending : ¬ ∀ j, (s.loc j).isLatching = false :=
            fun hnone => he ⟨hleave hm, hl, hnone⟩
          obtain ⟨j, hj⟩ := not_forall.1 hpending
          exact .inr (hkeep j (by simpa using hj) hi)
        · exact .inr (hkeep j hj hi)
  · intro j prev hj
    have h : ∀ j, (((threads ι).next s (i, a)).loc j).ExpectsLost :=
      forall_loc_next threadStep hs.expectsLost
        (expectsLost_threadStep a s.shared hlost)
    have hj' := h j
    rw [hj] at hj'
    exact hj'

omit [DecidableEq ι] in
theorem latchInvariant_initial : LatchInvariant (Threads.initial ι) where
  latched h := by simp [Threads.initial] at h
  recovering i prev h := by simp [Threads.initial] at h

omit [DecidableEq ι] in
theorem LatchInvariant.latchConsistent {s : Threads ι} (h : LatchInvariant s) :
    LatchConsistent s := by
  intro hq hl
  rcases h.latched hl with hm | ⟨j, hj⟩
  · exact hm
  · have hidle := hq j
    cases hpc : s.loc j <;> simp_all [Pc.isLatching, Pc.isIdle]

/-- In a schedule in which no compare-exchange takes the mode out of the safe
stop under a latched fault, every state reached is consistent. -/
theorem quiescent_latch_consistent (es : List (ι × Action))
    (h : (threads ι).Along (fun s e => ¬ EscapesLatch s e) (Threads.initial ι) es)
    (pre : List (ι × Action)) (hpre : pre <+: es) :
    LatchConsistent ((threads ι).run (Threads.initial ι) pre) := by
  obtain ⟨post, rfl⟩ := hpre
  have hpre := (((threads ι).along_append _ _ pre post).1 h).1
  exact (Component.Along.run (fun s e he hs => latchInvariant_next e he hs)
    latchInvariant_initial hpre).latchConsistent

/-- The machine is idle. Thread 0 validates `Idle → Moving`, thread 1 latches a
fault and returns, and thread 0 goes on to replace the safe stop by `Moving`. -/
def latchRace : List (Fin 2 × Action) :=
  (0, .start (.transitionTo .idle)) :: List.replicate 4 (0, .access false) ++
    (0, .start (.transitionTo .moving)) :: List.replicate 2 (0, .access false) ++
    (1, .start (.latchFault 42)) :: List.replicate 2 (1, .access false) ++
    List.replicate 2 (0, .access false)

theorem latch_not_always_consistent :
    ¬ ∀ es : List (Fin 2 × Action),
      LatchConsistent ((threads (Fin 2)).run (Threads.initial (Fin 2)) es) := by
  intro h
  exact absurd (h latchRace) (by decide)

/-- The two threads of `latchRace`, the second of them only after the first has
returned. -/
theorem quiescent_latch_consistent_in_turn :
    LatchConsistent ((threads (Fin 2)).run (Threads.initial (Fin 2))
      ((0, .start (.transitionTo .idle)) :: List.replicate 4 (0, .access false) ++
        (1, .start (.latchFault 42)) :: List.replicate 2 (1, .access false))) :=
  quiescent_latch_consistent _ (by decide) _ (List.prefix_refl _)

/-- The condition cannot be dropped for a single step: if the escaping thread
is the only one inside an operation, the state it leaves is inconsistent. -/
theorem escape_breaks_latch {s : Threads ι} {i : ι} {a : Action}
    (he : EscapesLatch s (i, a)) (hothers : ∀ j, j ≠ i → (s.loc j).isIdle = true) :
    ¬ LatchConsistent ((threads ι).next s (i, a)) := by
  obtain ⟨hleave, hl, -⟩ := he
  simp only [leavesSafeStop, Bool.and_eq_true, decide_eq_true_eq] at hleave
  obtain ⟨hm, hx⟩ := hleave
  have hdone : (threadStep a s.shared (s.loc i)).2.isIdle = true ∧
      (threadStep a s.shared (s.loc i)).1.latchedFault = true ∧
      (threadStep a s.shared (s.loc i)).1.mode ≠ .safeStop := by
    cases a with
    | start op => simp at hx
    | access spurious =>
        cases hpc : s.loc i with
        | transitionCas target prev =>
            simp only [hpc, Bool.and_eq_true, decide_eq_true_eq] at hx
            simp [threadStep, access, hx, Pc.isIdle, hl]
        | clearCas prev =>
            simp only [hpc] at hx
            simp [threadStep, access, hx, Pc.isIdle, hl]
        | _ => simp [hpc] at hx
  intro hc
  refine hdone.2.2 (hc ?_ hdone.2.1)
  intro j
  by_cases hj : j = i
  · subst j
    rw [interleave_loc_self]
    exact hdone.1
  · rw [interleave_loc_of_ne threadStep s a hj]
    exact hothers j hj

end StateMachine

end SafetyCore
