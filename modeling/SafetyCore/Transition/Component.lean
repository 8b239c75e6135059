import Mathlib.Data.List.Chain
import Mathlib.Data.List.Induction
import Mathlib.Tactic.Common

/-!
# Components driven by events

A component reads one event at a time: `next` is the state after the event and
`output` is what it emits on the way. A run is the list of the events it has
read, so that every order and every content of the events is one list.

`Along P s es` says that every step of the run `es` from `s` satisfies `P`,
where a step is the state it starts in and the event it reads. Safety claims
about steps and conditions on runs are both written with it, and
`along_congr` is the rule that compares two of them under an invariant.
-/

namespace Transition

/-- A deterministic component with states `σ`, events `ε` and outputs `ω`. -/
structure Component (σ ε ω : Type*) where
  next : σ → ε → σ
  output : σ → ε → ω

namespace Component

variable {σ ε ω : Type*} (C : Component σ ε ω)

/-- The state after the events `es`, read from the state `s`. -/
def run (s : σ) (es : List ε) : σ := es.foldl C.next s

@[simp] theorem run_nil (s : σ) : C.run s [] = s := rfl

@[simp] theorem run_cons (s : σ) (e : ε) (es : List ε) :
    C.run s (e :: es) = C.run (C.next s e) es := rfl

theorem run_append (s : σ) (es fs : List ε) :
    C.run s (es ++ fs) = C.run (C.run s es) fs :=
  List.foldl_append

theorem run_concat (s : σ) (es : List ε) (e : ε) :
    C.run s (es ++ [e]) = C.next (C.run s es) e := by
  simp [run_append]

/-- The outputs of the steps of a run, in order. -/
def outputs : σ → List ε → List ω
  | _, [] => []
  | s, e :: es => C.output s e :: outputs (C.next s e) es

@[simp] theorem outputs_nil (s : σ) : C.outputs s [] = [] := rfl

@[simp] theorem outputs_cons (s : σ) (e : ε) (es : List ε) :
    C.outputs s (e :: es) = C.output s e :: C.outputs (C.next s e) es := rfl

theorem outputs_concat (s : σ) (es : List ε) (e : ε) :
    C.outputs s (es ++ [e]) = C.outputs s es ++ [C.output (C.run s es) e] := by
  induction es generalizing s with
  | nil => rfl
  | cons e' es ih => simp [ih]

theorem outputs_append (s : σ) (es fs : List ε) :
    C.outputs s (es ++ fs) = C.outputs s es ++ C.outputs (C.run s es) fs := by
  induction es generalizing s with
  | nil => rfl
  | cons e es ih => simp [ih]

/-- Every step of the run satisfies `P`. -/
def Along (P : σ → ε → Prop) : σ → List ε → Prop
  | _, [] => True
  | s, e :: es => P s e ∧ Along P (C.next s e) es

@[simp] theorem along_nil (P : σ → ε → Prop) (s : σ) : C.Along P s [] := trivial

@[simp] theorem along_cons (P : σ → ε → Prop) (s : σ) (e : ε) (es : List ε) :
    C.Along P s (e :: es) ↔ P s e ∧ C.Along P (C.next s e) es :=
  Iff.rfl

instance decidableAlong (P : σ → ε → Prop) [∀ s e, Decidable (P s e)] :
    ∀ (s : σ) (es : List ε), Decidable (C.Along P s es)
  | _, [] => inferInstanceAs (Decidable True)
  | s, e :: es =>
      have := decidableAlong P (C.next s e) es
      inferInstanceAs (Decidable (P s e ∧ C.Along P (C.next s e) es))

theorem along_append (P : σ → ε → Prop) (s : σ) (es fs : List ε) :
    C.Along P s (es ++ fs) ↔ C.Along P s es ∧ C.Along P (C.run s es) fs := by
  induction es generalizing s with
  | nil => simp
  | cons e es ih => simp [ih, and_assoc]

/-- Some step of the run satisfies `P`. -/
def Eventually (P : σ → ε → Prop) : σ → List ε → Prop
  | _, [] => False
  | s, e :: es => P s e ∨ Eventually P (C.next s e) es

@[simp] theorem eventually_nil (P : σ → ε → Prop) (s : σ) :
    ¬ C.Eventually P s [] := id

@[simp] theorem eventually_cons (P : σ → ε → Prop) (s : σ) (e : ε) (es : List ε) :
    C.Eventually P s (e :: es) ↔ P s e ∨ C.Eventually P (C.next s e) es :=
  Iff.rfl

/-- Some step of the run satisfies `P`, and some later step satisfies `Q`. -/
def Precedes (P Q : σ → ε → Prop) : σ → List ε → Prop
  | _, [] => False
  | s, e :: es =>
      P s e ∧ C.Eventually Q (C.next s e) es ∨ Precedes P Q (C.next s e) es

@[simp] theorem precedes_nil (P Q : σ → ε → Prop) (s : σ) :
    ¬ C.Precedes P Q s [] := id

@[simp] theorem precedes_cons (P Q : σ → ε → Prop) (s : σ) (e : ε) (es : List ε) :
    C.Precedes P Q s (e :: es) ↔
      P s e ∧ C.Eventually Q (C.next s e) es ∨ C.Precedes P Q (C.next s e) es :=
  Iff.rfl

instance decidableEventually (P : σ → ε → Prop) [∀ s e, Decidable (P s e)] :
    ∀ (s : σ) (es : List ε), Decidable (C.Eventually P s es)
  | _, [] => inferInstanceAs (Decidable False)
  | s, e :: es =>
      have := decidableEventually P (C.next s e) es
      inferInstanceAs (Decidable (P s e ∨ C.Eventually P (C.next s e) es))

instance decidablePrecedes (P Q : σ → ε → Prop) [∀ s e, Decidable (P s e)]
    [∀ s e, Decidable (Q s e)] :
    ∀ (s : σ) (es : List ε), Decidable (C.Precedes P Q s es)
  | _, [] => inferInstanceAs (Decidable False)
  | s, e :: es =>
      have := decidablePrecedes P Q (C.next s e) es
      inferInstanceAs (Decidable (P s e ∧ C.Eventually Q (C.next s e) es ∨
        C.Precedes P Q (C.next s e) es))

/-- `I` survives every step. -/
def Preserved (I : σ → Prop) : Prop := ∀ s e, I s → I (C.next s e)

variable {C}

/-- The invariant rule: what holds at the start and survives every step holds
after every run. -/
theorem Preserved.run {I : σ → Prop} (hI : C.Preserved I) {s : σ} (hs : I s)
    (es : List ε) : I (C.run s es) := by
  induction es generalizing s with
  | nil => exact hs
  | cons e es ih => exact ih (hI s e hs)

/-- The conditional invariant rule: `I` has to survive only the steps that
satisfy `P`, if every step of the run does. -/
theorem Along.run {P : σ → ε → Prop} {I : σ → Prop}
    (hI : ∀ s e, P s e → I s → I (C.next s e)) {s : σ} (hs : I s) {es : List ε}
    (hes : C.Along P s es) : I (C.run s es) := by
  induction es generalizing s with
  | nil => exact hs
  | cons e es ih => exact ih (hI s e hes.1 hs) hes.2

/-- Under an invariant that survives the steps satisfying `P`, a run whose
steps satisfy `P` satisfies whatever follows from `P` and the invariant. -/
theorem Along.imp {P Q : σ → ε → Prop} {I : σ → Prop}
    (hI : ∀ s e, P s e → I s → I (C.next s e))
    (hPQ : ∀ s e, P s e → I s → Q s e) {s : σ} (hs : I s) {es : List ε}
    (hes : C.Along P s es) : C.Along Q s es := by
  induction es generalizing s with
  | nil => trivial
  | cons e es ih => exact ⟨hPQ s e hes.1 hs, ih (hI s e hes.1 hs) hes.2⟩

/-- Where not every step emits, everything that a run emits has what `P` and the invariant
give the emissions of its steps. -/
theorem Along.outputs {C : Component σ ε (Option ω)} {P : σ → ε → Prop} {I : σ → Prop}
    {Q : ω → Prop} (hI : ∀ s e, P s e → I s → I (C.next s e))
    (hQ : ∀ s e, P s e → I s → ∀ o, C.output s e = some o → Q o) {s : σ} (hs : I s)
    {es : List ε} (hes : C.Along P s es) : ∀ o, some o ∈ C.outputs s es → Q o := by
  induction es generalizing s with
  | nil => exact nofun
  | cons e es ih =>
      intro o ho
      rcases List.mem_cons.1 ho with hhead | htail
      · exact hQ s e hes.1 hs o hhead.symm
      · exact ih (hI s e hes.1 hs) hes.2 o htail

/-- Two step properties that agree under an invariant agree along every run, if
the invariant survives the steps that have them. -/
theorem along_congr {P Q : σ → ε → Prop} {I : σ → Prop}
    (hPQ : ∀ s e, I s → (P s e ↔ Q s e))
    (hI : ∀ s e, I s → P s e → I (C.next s e)) {s : σ} (hs : I s) (es : List ε) :
    C.Along P s es ↔ C.Along Q s es := by
  induction es generalizing s with
  | nil => simp
  | cons e es ih =>
      rw [along_cons, along_cons, ← hPQ s e hs]
      exact and_congr_right fun hp => ih (hI s e hs hp)

theorem Preserved.along_congr {I : σ → Prop} (hI : C.Preserved I)
    {P Q : σ → ε → Prop} (hPQ : ∀ s e, I s → (P s e ↔ Q s e)) {s : σ} (hs : I s)
    (es : List ε) : C.Along P s es ↔ C.Along Q s es :=
  Component.along_congr hPQ (fun s e h _ => hI s e h) hs es

/-- The same, where the two agree only at the steps that satisfy `F`, and every step of the
run does. -/
theorem Along.congr {F P Q : σ → ε → Prop} {I : σ → Prop}
    (hI : ∀ s e, F s e → I s → I (C.next s e))
    (hPQ : ∀ s e, F s e → I s → (P s e ↔ Q s e)) {s : σ} (hs : I s) {es : List ε}
    (hes : C.Along F s es) : C.Along P s es ↔ C.Along Q s es := by
  induction es generalizing s with
  | nil => simp
  | cons e es ih =>
      rw [along_cons, along_cons]
      exact and_congr (hPQ s e hes.1 hs) (ih (hI s e hes.1 hs) hes.2)

/-- What follows at every event of the run from a preserved invariant holds of every step. -/
theorem Preserved.along_of_mem {I : σ → Prop} (hI : C.Preserved I) {P : σ → ε → Prop}
    {s : σ} (hs : I s) {es : List ε} (hP : ∀ s, ∀ e ∈ es, I s → P s e) : C.Along P s es := by
  induction es generalizing s with
  | nil => trivial
  | cons e es ih =>
      exact ⟨hP s e List.mem_cons_self hs,
        ih (hI s e hs) fun s e he => hP s e (List.mem_cons_of_mem _ he)⟩

/-- What follows from a preserved invariant holds of every step. -/
theorem Preserved.along {I : σ → Prop} (hI : C.Preserved I) {P : σ → ε → Prop}
    (hP : ∀ s e, I s → P s e) {s : σ} (hs : I s) (es : List ε) : C.Along P s es :=
  hI.along_of_mem hs fun s e _ => hP s e

/-- Where every step records a field of its event, the events of a chain are read one after
the other. -/
theorem along_of_isChain {β : Type*} {part : σ → β} {field : ε → β} {R : β → β → Prop}
    (hpart : ∀ s e, part (C.next s e) = field e) {s : σ} {es : List ε}
    (hhead : ∀ e ∈ es.head?, R (part s) (field e))
    (hes : es.IsChain fun e e' => R (field e) (field e')) :
    C.Along (fun s e => R (part s) (field e)) s es := by
  induction es generalizing s with
  | nil => trivial
  | cons e es ih =>
      refine ⟨hhead e rfl, ih (fun e' he' => ?_) (List.isChain_cons.1 hes).2⟩
      rw [hpart]
      exact (List.isChain_cons.1 hes).1 e' he'

/-- Induction on the length of a run, for invariants that speak about the
events read so far as well as about the state. The step may use that the run
satisfied `P` up to and including the new event. -/
theorem Along.history {P : σ → ε → Prop} {I : List ε → σ → Prop} {s : σ}
    (hnil : I [] s)
    (hstep : ∀ es e, C.Along P s es → P (C.run s es) e → I es (C.run s es) →
      I (es ++ [e]) (C.next (C.run s es) e)) {es : List ε} (hes : C.Along P s es) :
    I es (C.run s es) := by
  induction es using List.reverseRecOn with
  | nil => exact hnil
  | append_singleton es e ih =>
      obtain ⟨hpre, hlast⟩ := (C.along_append P s es [e]).1 hes
      rw [run_concat]
      exact hstep es e hpre hlast.1 (ih hpre)

/-- Induction on the length of a run, without a condition on its steps. -/
theorem run_history {I : List ε → σ → Prop} {s : σ} (hnil : I [] s)
    (hstep : ∀ es e, I es (C.run s es) → I (es ++ [e]) (C.next (C.run s es) e))
    (es : List ε) : I es (C.run s es) := by
  induction es using List.reverseRecOn with
  | nil => exact hnil
  | append_singleton es e ih =>
      rw [run_concat]
      exact hstep es e ih

/-- A latch that some steps set, and that stays set until an event clears it, is set after a run
exactly if a step of the run has set it and no later event cleared it. -/
theorem Preserved.latch_run_iff {I : σ → Prop} (hI : C.Preserved I) (L : σ → Prop)
    (Sets : σ → ε → Prop) (Clears : ε → Prop)
    (hstep : ∀ s e, I s → (L (C.next s e) ↔ Sets s e ∨ L s ∧ ¬ Clears e)) {s : σ} (hs : I s)
    (hL : ¬ L s) (es : List ε) :
    L (C.run s es) ↔ ∃ pre e post, es = pre ++ e :: post ∧ Sets (C.run s pre) e ∧
      ∀ e' ∈ post, ¬ Clears e' := by
  induction es using List.reverseRecOn with
  | nil => exact iff_of_false hL (by simp)
  | append_singleton es e ih =>
      rw [run_concat, hstep _ e (hI.run hs es), ih]
      constructor
      · rintro (hsets | ⟨⟨pre, e', post, rfl, hsets, hpost⟩, he⟩)
        · exact ⟨es, e, [], rfl, hsets, by simp⟩
        · refine ⟨pre, e', post ++ [e], by simp, hsets, ?_⟩
          intro e'' hmem
          rcases List.mem_append.1 hmem with hmem | hmem
          · exact hpost e'' hmem
          · rwa [List.mem_singleton.1 hmem]
      · rintro ⟨pre, e', post, heq, hsets, hpost⟩
        rcases List.eq_nil_or_concat' post with rfl | ⟨post, e'', rfl⟩
        · obtain ⟨rfl, hlast⟩ := List.append_inj' heq rfl
          cases hlast
          exact .inl hsets
        · rw [← List.cons_append, ← List.append_assoc] at heq
          obtain ⟨rfl, hlast⟩ := List.append_inj' heq rfl
          cases hlast
          exact .inr ⟨⟨pre, e', post, rfl, hsets, fun e' he' =>
            hpost e' (List.mem_append_left _ he')⟩, hpost e (by simp)⟩

/-- What holds after a run and not before has last become true in a step of the run, and holds in
every state since. -/
theorem exists_last_rise {P : σ → Prop} {s : σ} (hs : ¬ P s) {es : List ε}
    (h : P (C.run s es)) :
    ∃ pre e post, es = pre ++ e :: post ∧ ¬ P (C.run s pre) ∧
      ∀ mid, mid <+: post → P (C.run s (pre ++ e :: mid)) := by
  induction es using List.reverseRecOn with
  | nil => exact absurd h hs
  | append_singleton es e ih =>
      by_cases hbefore : P (C.run s es)
      · obtain ⟨pre, e', post, rfl, hpre, hpost⟩ := ih hbefore
        refine ⟨pre, e', post ++ [e], by simp, hpre, fun mid hmid => ?_⟩
        rcases List.prefix_concat_iff.1 hmid with rfl | hmid
        · rwa [List.append_assoc] at h
        · exact hpost mid hmid
      · refine ⟨es, e, [], rfl, hbefore, fun mid hmid => ?_⟩
        rwa [List.prefix_nil.1 hmid]

/-- Two components side by side: what relates their states survives the steps, and they put
out the same. -/
theorem Along.lockstep {τ δ : Type*} {D : Component τ δ ω} {f : ε → δ} {R : σ → τ → Prop}
    {P : σ → ε → Prop}
    (hstep : ∀ s t e, P s e → R s t →
      R (C.next s e) (D.next t (f e)) ∧ C.output s e = D.output t (f e))
    {s : σ} {t : τ} (hst : R s t) {es : List ε} (hes : C.Along P s es) :
    R (C.run s es) (D.run t (es.map f)) ∧ C.outputs s es = D.outputs t (es.map f) := by
  induction es generalizing s t with
  | nil => exact ⟨hst, rfl⟩
  | cons e es ih =>
      obtain ⟨hnext, hout⟩ := hstep s t e hes.1 hst
      obtain ⟨hrun, houts⟩ := ih hnext hes.2
      exact ⟨hrun, congrArg₂ List.cons hout houts⟩

/-- A component that holds items and puts them out one at a time, in an order of its own,
puts out each of them once, and `d` when none is left. -/
theorem Along.drains [DecidableEq ω] {pending : σ → List ω} {d : ω} {P : σ → ε → Prop}
    (hstep : ∀ s e, P s e →
      pending s = [] ∧ pending (C.next s e) = [] ∧ C.output s e = d ∨
        C.output s e ∈ pending s ∧
          pending (C.next s e) = (pending s).erase (C.output s e))
    {s : σ} {es : List ε} (hes : C.Along P s es) :
    ∃ found : List ω, found.Perm (pending s) ∧
      C.outputs s es = (List.range es.length).map fun i => found.getD i d := by
  induction es generalizing s with
  | nil => exact ⟨pending s, .refl _, rfl⟩
  | cons e es ih =>
      obtain ⟨found, hperm, hout⟩ := ih hes.2
      rcases hstep s e hes.1 with ⟨hnone, hnext, hd⟩ | ⟨hmem, hnext⟩
      · rw [hnext, List.perm_nil] at hperm
        refine ⟨[], by rw [hnone], ?_⟩
        rw [outputs_cons, hd, hout, hperm, List.length_cons, List.range_succ_eq_map,
          List.map_cons, List.map_map]
        rfl
      · refine ⟨C.output s e :: found, ?_, ?_⟩
        · rw [hnext] at hperm
          exact (hperm.cons _).trans (List.perm_cons_erase hmem).symm
        · rw [outputs_cons, hout, List.length_cons, List.range_succ_eq_map, List.map_cons,
            List.map_map]
          rfl
variable (C) in
/-- Every run puts out the same from both states. -/
def Indistinguishable (s t : σ) : Prop := ∀ es, C.outputs s es = C.outputs t es

theorem Indistinguishable.output {s t : σ} (h : C.Indistinguishable s t) (e : ε) :
    C.output s e = C.output t e :=
  (List.cons.inj (h [e])).1

theorem Indistinguishable.next {s t : σ} (h : C.Indistinguishable s t) (e : ε) :
    C.Indistinguishable (C.next s e) (C.next t e) :=
  fun es => (List.cons.inj (h (e :: es))).2

/-- Related states are indistinguishable, if they put out the same and every event
relates the states after it. -/
theorem indistinguishable_of_related {R : σ → σ → Prop}
    (hout : ∀ s t e, R s t → C.output s e = C.output t e)
    (hnext : ∀ s t e, R s t → R (C.next s e) (C.next t e)) {s t : σ} (h : R s t) :
    C.Indistinguishable s t := by
  intro es
  induction es generalizing s t with
  | nil => rfl
  | cons e es ih => rw [outputs_cons, outputs_cons, hout s t e h, ih (hnext s t e h)]

end Component

/-- The last value that `field` takes on the events, where it has one. -/
def lastValue {ε β : Type*} (field : ε → Option β) (es : List ε) : Option β :=
  (es.filterMap field).getLast?

theorem lastValue_append {ε β : Type*} (field : ε → Option β) (es fs : List ε) :
    lastValue field (es ++ fs) = (lastValue field fs).or (lastValue field es) := by
  rw [lastValue, List.filterMap_append, List.getLast?_append]
  rfl

theorem lastValue_concat {ε β : Type*} (field : ε → Option β) (es : List ε) (e : ε) :
    lastValue field (es ++ [e]) = (field e).or (lastValue field es) := by
  rw [lastValue_append]
  cases h : field e <;> simp [lastValue, h]

theorem lastValue_map {ε β γ : Type*} (g : β → γ) (field : ε → Option β) (es : List ε) :
    lastValue (fun e => (field e).map g) es = (lastValue field es).map g := by
  rw [lastValue, lastValue, ← List.map_filterMap, List.getLast?_map]

/-- A part of the state that every event overwrites or keeps holds the last value written
to it. -/
theorem Component.run_eq_lastValue {σ ε ω β : Type*} {C : Component σ ε ω} (part : σ → β)
    (field : ε → Option β) (h : ∀ s e, part (C.next s e) = (field e).getD (part s)) (s : σ)
    (es : List ε) : part (C.run s es) = (lastValue field es).getD (part s) := by
  induction es using List.reverseRecOn with
  | nil => rfl
  | append_singleton es e ih =>
      rw [run_concat, h, ih, lastValue_concat]
      cases field e <;> rfl

theorem exists_mem_of_lastValue {ε β : Type*} {field : ε → Option β} {es : List ε} {v : β}
    (h : lastValue field es = some v) : ∃ e ∈ es, field e = some v :=
  List.mem_filterMap.1 (List.mem_of_getLast? h)

/-- Such a part is as it was at the start, or was last written by an event of the run. -/
theorem Component.run_part_cases {σ ε ω β : Type*} {C : Component σ ε ω} (part : σ → β)
    (field : ε → Option β) (h : ∀ s e, part (C.next s e) = (field e).getD (part s)) (s : σ)
    (es : List ε) :
    part (C.run s es) = part s ∨
      ∃ pre e post, es = pre ++ e :: post ∧ field e = some (part (C.run s es)) ∧
        ∀ e' ∈ post, field e' = none := by
  induction es using List.reverseRecOn with
  | nil => exact .inl rfl
  | append_singleton es e ih =>
      rw [C.run_concat, h]
      cases he : field e with
      | some v => exact .inr ⟨es, e, [], rfl, he, by simp⟩
      | none =>
          refine ih.imp id ?_
          rintro ⟨pre, e', post, rfl, he', hpost⟩
          refine ⟨pre, e', post ++ [e], by simp, he', fun e'' hmem => ?_⟩
          rcases List.mem_append.1 hmem with hmem | hmem
          · exact hpost e'' hmem
          · rwa [List.mem_singleton.1 hmem]

theorem lastValue_eq_none {ε β : Type*} {field : ε → Option β} {es : List ε}
    (h : ∀ e ∈ es, field e = none) : lastValue field es = none := by
  rw [lastValue, List.filterMap_eq_nil_iff.2 h]
  rfl

end Transition
