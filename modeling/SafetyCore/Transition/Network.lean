import Mathlib.Data.List.Infix
import Mathlib.Logic.Function.Basic
import SafetyCore.Transition.Component

/-!
# Components that exchange messages

A network has a component for every node `i : ι`. What a node puts out becomes messages, which
are appended to one log; a message is on a topic. A node reads a topic in the order of the log
and may miss messages: `deliver i k` hands it the message at the place `k`, if it has read
nothing on that topic from there on. This covers every delay, every loss and every order between
topics and between nodes. What comes from outside is an event that the node reads directly.

A run of the network contains a run of each of its nodes, whose events are those of `readsOf`.

`last` remembers for every node and topic the message that was read last, with its place in the
log. Two rules are about it. `run_eq_last`: what a node keeps of a topic is the message it has
read last. `Along.last`: once the messages of a topic have a property, a node that has read a
message from then on has read one with the property last.
-/

namespace Transition

/-- The components, and how the outputs of one become events of another. A callback may read more
than its message, such as a clock; `κ` is the type of that. -/
structure Network (ι τ κ : Type*) (σ ε ω : ι → Type*) (μ : Type*) where
  node : ∀ i, Component (σ i) (ε i) (ω i)
  external : ∀ i, ε i → Bool
  topic : μ → τ
  publish : ∀ i, ω i → List μ
  accept : ∀ i, μ → κ → Option (ε i)

namespace Network

structure State (ι τ : Type*) (σ : ι → Type*) (μ : Type*) where
  nodes : ∀ i, σ i
  log : List μ
  last : ι × τ → Option (ℕ × μ)

/-- A network in which nothing was published yet. -/
def State.start {ι τ : Type*} {σ : ι → Type*} {μ : Type*} (nodes : ∀ i, σ i) :
    State ι τ σ μ where
  nodes := nodes
  log := []
  last _ := none

inductive Event (ι κ : Type*) (ε : ι → Type*)
  | input (i : ι) (e : ε i)
  | deliver (i : ι) (k : ℕ) (c : κ)

variable {ι τ κ : Type*} {σ ε ω : ι → Type*} {μ : Type*} (N : Network ι τ κ σ ε ω μ)

/-! ## What a node reads -/

/-- The message at the place `k`, if the node `i` can still read it. -/
def unread (s : State ι τ σ μ) (i : ι) (k : ℕ) : Option μ :=
  s.log[k]?.filter fun m => (s.last (i, N.topic m)).all (·.1 < k)

/-- The event that a node reads in the step, with the node. -/
def reads (s : State ι τ σ μ) : Event ι κ ε → Option (Σ i, ε i)
  | .input i e => if N.external i e then some ⟨i, e⟩ else none
  | .deliver i k c => (N.unread s i k).bind fun m => (N.accept i m c).map (Sigma.mk i)

/-- The output of the node that reads an event in the step. -/
def emits (s : State ι τ σ μ) (ev : Event ι κ ε) : Option (Σ i, ω i) :=
  (N.reads s ev).map fun r => ⟨r.1, (N.node r.1).output (s.nodes r.1) r.2⟩

/-- The messages of the step. -/
def published (s : State ι τ σ μ) (ev : Event ι κ ε) : List μ :=
  ((N.emits s ev).map fun o => N.publish o.1 o.2).getD []

section Reads

variable {N} {s : State ι τ σ μ} {ev : Event ι κ ε} {i : ι}

theorem unread_eq_some_iff {k : ℕ} {m : μ} :
    N.unread s i k = some m ↔
      s.log[k]? = some m ∧ ∀ p ∈ s.last (i, N.topic m), p.1 < k := by
  rw [unread, Option.filter_eq_some_iff]
  refine and_congr_right fun _ => ?_
  cases s.last (i, N.topic m) <;> simp

theorem reads_input {e : ε i} (h : N.external i e = true) :
    N.reads s (.input i e : Event ι κ ε) = some ⟨i, e⟩ :=
  if_pos h

/-- What a node reads comes from outside, or is a message it has not read yet. -/
theorem reads_eq_some_iff {e : ε i} :
    N.reads s ev = some ⟨i, e⟩ ↔
      ev = .input i e ∧ N.external i e = true ∨
        ∃ k c m, ev = .deliver i k c ∧ N.unread s i k = some m ∧ N.accept i m c = some e := by
  constructor
  · intro h
    cases ev with
    | input i' e' =>
        rw [reads] at h
        split at h
        next hext =>
          cases h
          exact .inl ⟨rfl, hext⟩
        next => cases h
    | deliver i' k c =>
        obtain ⟨m, hm, hmap⟩ := Option.bind_eq_some_iff.1 h
        obtain ⟨e', he', hsigma⟩ := Option.map_eq_some_iff.1 hmap
        cases hsigma
        exact .inr ⟨k, c, m, rfl, hm, he'⟩
  · rintro (⟨rfl, hext⟩ | ⟨k, c, m, rfl, hm, hacc⟩)
    · exact reads_input hext
    · rw [reads, hm, Option.bind_some, hacc]
      rfl

theorem published_of_reads {e : ε i} (h : N.reads s ev = some ⟨i, e⟩) :
    N.published s ev = N.publish i ((N.node i).output (s.nodes i) e) := by
  rw [published, emits, h]
  rfl

end Reads

/-! ## One step -/

section Step

variable [DecidableEq ι] [DecidableEq τ]

/-- What was read last after a step in which a node reads an event. -/
def lastAfter (s : State ι τ σ μ) : Event ι κ ε → ι × τ → Option (ℕ × μ)
  | .input _ _ => s.last
  | .deliver i k _ =>
      match N.unread s i k with
      | none => s.last
      | some m => Function.update s.last (i, N.topic m) (some (k, m))

def step (s : State ι τ σ μ) (ev : Event ι κ ε) : State ι τ σ μ :=
  match N.reads s ev with
  | none => s
  | some ⟨i, e⟩ =>
      { nodes := Function.update s.nodes i ((N.node i).next (s.nodes i) e)
        log := s.log ++ N.published s ev
        last := N.lastAfter s ev }

/-- The network as a component: an event is a step of one node. -/
def component : Component (State ι τ σ μ) (Event ι κ ε) (Option (Σ i, ω i)) where
  next := N.step
  output := N.emits

end Step

variable {N} [DecidableEq ι] [DecidableEq τ] {s : State ι τ σ μ} {ev : Event ι κ ε} {i : ι}
  {t : τ}

theorem step_of_reads_none (h : N.reads s ev = none) : N.step s ev = s := by
  rw [step, h]

theorem step_of_reads {e : ε i} (h : N.reads s ev = some ⟨i, e⟩) :
    N.step s ev =
      { nodes := Function.update s.nodes i ((N.node i).next (s.nodes i) e)
        log := s.log ++ N.published s ev
        last := N.lastAfter s ev } := by
  rw [step, h]

theorem log_step : (N.step s ev).log = s.log ++ N.published s ev := by
  cases h : N.reads s ev with
  | none => simp [step, published, emits, h]
  | some r => rw [step_of_reads (i := r.1) (e := r.2) h]

theorem nodes_step_self {e : ε i} (h : N.reads s ev = some ⟨i, e⟩) :
    (N.step s ev).nodes i = (N.node i).next (s.nodes i) e := by
  rw [step_of_reads h]
  exact Function.update_self ..

theorem nodes_step_of_ne (h : ∀ e : ε i, N.reads s ev ≠ some ⟨i, e⟩) :
    (N.step s ev).nodes i = s.nodes i := by
  cases hr : N.reads s ev with
  | none => rw [step_of_reads_none hr]
  | some r =>
      obtain ⟨j, e⟩ := r
      rw [step_of_reads hr]
      refine Function.update_of_ne ?_ _ _
      rintro rfl
      exact h e hr

/-- A step moves one node or none. -/
theorem nodes_step_cases (N : Network ι τ κ σ ε ω μ) (s : State ι τ σ μ) (ev : Event ι κ ε)
    (i : ι) :
    (N.step s ev).nodes i = s.nodes i ∨
      ∃ e : ε i, N.reads s ev = some ⟨i, e⟩ ∧
        (N.step s ev).nodes i = (N.node i).next (s.nodes i) e := by
  by_cases h : ∃ e : ε i, N.reads s ev = some ⟨i, e⟩
  · obtain ⟨e, he⟩ := h
    exact .inr ⟨e, he, nodes_step_self he⟩
  · exact .inl (nodes_step_of_ne (not_exists.1 h))

/-- A step delivers one message or none. -/
theorem last_step_cases (N : Network ι τ κ σ ε ω μ) (s : State ι τ σ μ) (ev : Event ι κ ε)
    (i : ι) (t : τ) :
    (N.step s ev).last (i, t) = s.last (i, t) ∧
        (∀ k c m, ev = .deliver i k c → N.unread s i k = some m → N.topic m = t →
          N.reads s ev = none) ∨
      ∃ k c m e, ev = .deliver i k c ∧ N.unread s i k = some m ∧ N.topic m = t ∧
        N.accept i m c = some e ∧ (N.step s ev).last (i, t) = some (k, m) := by
  cases hr : N.reads s ev with
  | none => exact .inl ⟨by rw [step_of_reads_none hr], fun _ _ _ _ _ _ => rfl⟩
  | some r =>
      obtain ⟨j, e⟩ := r
      rw [step_of_reads hr]
      rcases reads_eq_some_iff.1 hr with ⟨rfl, -⟩ | ⟨k, c, m, rfl, hm, hacc⟩
      · exact .inl ⟨rfl, fun _ _ _ hdeliver => by cases hdeliver⟩
      · dsimp only [lastAfter]
        rw [hm]
        by_cases hit : (i, t) = (j, N.topic m)
        · cases hit
          exact .inr ⟨k, c, m, e, rfl, hm, rfl, hacc, Function.update_self ..⟩
        · refine .inl ⟨Function.update_of_ne hit _ _, ?_⟩
          rintro k' c' m' hdeliver hm' htopic
          cases hdeliver
          cases hm.symm.trans hm'
          exact absurd (congrArg (Prod.mk i) htopic.symm) hit

/-! ## Invariants of one node -/

/-- What survives the events of a node survives the steps of the network. -/
theorem preserved_lift {I : σ i → Prop} (hI : (N.node i).Preserved I) :
    N.component.Preserved fun s => I (s.nodes i) := by
  intro s ev h
  rcases N.nodes_step_cases s ev i with hkeep | ⟨e, -, hnext⟩
  · exact hkeep ▸ h
  · exact hnext ▸ hI _ e h

/-! ## The run of one node -/

variable (N) in
/-- The event that the node reads in the step. -/
def readBy (s : State ι τ σ μ) (ev : Event ι κ ε) (i : ι) : Option (ε i) :=
  (N.reads s ev).bind fun r => if h : r.1 = i then some (h ▸ r.2) else none

omit [DecidableEq τ] in
theorem readBy_eq_some_iff {e : ε i} : N.readBy s ev i = some e ↔ N.reads s ev = some ⟨i, e⟩ := by
  rw [readBy, Option.bind_eq_some_iff]
  constructor
  · rintro ⟨⟨j, e'⟩, hreads, he⟩
    split at he
    next hji =>
      obtain rfl : j = i := hji
      cases he
      exact hreads
    next => cases he
  · intro hreads
    exact ⟨⟨i, e⟩, hreads, dif_pos rfl⟩

variable (N) in
/-- The events that the node reads in a run, in order. -/
def readsOf (i : ι) : State ι τ σ μ → List (Event ι κ ε) → List (ε i)
  | _, [] => []
  | s, ev :: evs => (N.readBy s ev i).toList ++ readsOf i (N.step s ev) evs

theorem nodes_step (s : State ι τ σ μ) (ev : Event ι κ ε) (i : ι) :
    (N.step s ev).nodes i = (N.node i).run (s.nodes i) (N.readBy s ev i).toList := by
  cases h : N.readBy s ev i with
  | none =>
      refine nodes_step_of_ne fun e he => ?_
      rw [readBy_eq_some_iff.2 he] at h
      cases h
  | some e => exact nodes_step_self (readBy_eq_some_iff.1 h)

/-- In a run of the network every node makes a run of its own. -/
theorem nodes_run (s : State ι τ σ μ) (evs : List (Event ι κ ε)) (i : ι) :
    (N.component.run s evs).nodes i = (N.node i).run (s.nodes i) (N.readsOf i s evs) := by
  induction evs generalizing s with
  | nil => rfl
  | cons ev evs ih =>
      refine (ih (N.step s ev)).trans ?_
      rw [readsOf, Component.run_append, nodes_step]

/-- What a node reads in a run, it reads in a step of the run. -/
theorem exists_step_of_readsOf {s : State ι τ σ μ} {evs : List (Event ι κ ε)}
    {pre post : List (ε i)} {e : ε i} (h : N.readsOf i s evs = pre ++ e :: post) :
    ∃ evs₁ ev evs₂, evs = evs₁ ++ ev :: evs₂ ∧
      N.reads (N.component.run s evs₁) ev = some ⟨i, e⟩ ∧ N.readsOf i s evs₁ = pre ∧
      N.readsOf i (N.step (N.component.run s evs₁) ev) evs₂ = post := by
  induction evs generalizing s pre with
  | nil => simp [readsOf] at h
  | cons ev evs ih =>
      rw [readsOf] at h
      cases hread : N.readBy s ev i with
      | none =>
          rw [hread] at h
          obtain ⟨evs₁, ev', evs₂, rfl, hreads, hpre, hpost⟩ := ih h
          refine ⟨ev :: evs₁, ev', evs₂, rfl, hreads, ?_, hpost⟩
          rw [readsOf, hread, hpre]
          rfl
      | some e' =>
          rw [hread] at h
          cases pre with
          | nil =>
              cases h
              exact ⟨[], ev, evs, rfl, readBy_eq_some_iff.1 hread, rfl, rfl⟩
          | cons e'' pre =>
              obtain ⟨rfl, hrest⟩ := List.cons.inj h
              obtain ⟨evs₁, ev', evs₂, rfl, hreads, hpre, hpost⟩ := ih hrest
              refine ⟨ev :: evs₁, ev', evs₂, rfl, hreads, ?_, hpost⟩
              rw [readsOf, hread, hpre]
              rfl

theorem exists_step_of_mem_readsOf {s : State ι τ σ μ} {evs : List (Event ι κ ε)} {e : ε i}
    (h : e ∈ N.readsOf i s evs) :
    ∃ evs₁ ev evs₂, evs = evs₁ ++ ev :: evs₂ ∧
      N.reads (N.component.run s evs₁) ev = some ⟨i, e⟩ := by
  obtain ⟨pre, post, hsplit⟩ := List.append_of_mem h
  obtain ⟨evs₁, ev, evs₂, heq, hreads, -, -⟩ := exists_step_of_readsOf hsplit
  exact ⟨evs₁, ev, evs₂, heq, hreads⟩

theorem mem_readsOf_of_input {s : State ι τ σ μ} {evs : List (Event ι κ ε)} {e : ε i}
    (hext : N.external i e = true) (h : .input i e ∈ evs) : e ∈ N.readsOf i s evs := by
  induction evs generalizing s with
  | nil => cases h
  | cons ev evs ih =>
      rw [readsOf, List.mem_append]
      rcases List.mem_cons.1 h with rfl | h
      · rw [readBy_eq_some_iff.2 (reads_input hext)]
        exact .inl (List.mem_singleton.2 rfl)
      · exact .inr (ih h)

/-! ## The log -/

theorem log_run_isPrefix (s : State ι τ σ μ) (evs : List (Event ι κ ε)) :
    s.log <+: (N.component.run s evs).log := by
  induction evs generalizing s with
  | nil => exact List.prefix_refl _
  | cons ev evs ih =>
      refine (?_ : s.log <+: (N.step s ev).log).trans (ih (N.step s ev))
      rw [log_step]
      exact List.prefix_append _ _

/-- A message in the log was there at the start or is published by a step of the run. -/
theorem exists_published (s : State ι τ σ μ) (evs : List (Event ι κ ε)) {k : ℕ} {m : μ}
    (hm : (N.component.run s evs).log[k]? = some m) (hk : s.log.length ≤ k) :
    ∃ pre ev post j, evs = pre ++ ev :: post ∧
      (N.published (N.component.run s pre) ev)[j]? = some m ∧
      k = (N.component.run s pre).log.length + j := by
  induction evs generalizing s with
  | nil =>
      have hlt := (List.getElem?_eq_some_iff.1 hm).1
      exact absurd hk (not_le.2 hlt)
  | cons ev evs ih =>
      by_cases hlog : (N.step s ev).log.length ≤ k
      · obtain ⟨pre, ev', post, j, rfl, hpub, hle⟩ := ih (N.step s ev) hm hlog
        exact ⟨ev :: pre, ev', post, j, rfl, hpub, hle⟩
      · -- the place is one of the messages of this step
        refine ⟨[], ev, evs, k - s.log.length, rfl, ?_, (Nat.add_sub_cancel' hk).symm⟩
        rw [not_le] at hlog
        have hprefix := log_run_isPrefix (N := N) (N.step s ev) evs
        have hm' : (N.step s ev).log[k]? = some m := by
          obtain ⟨rest, hrest⟩ := hprefix
          change (N.component.run (N.step s ev) evs).log[k]? = some m at hm
          rw [← hrest, List.getElem?_append_left hlog] at hm
          exact hm
        rw [log_step, List.getElem?_append_right hk] at hm'
        exact hm'

/-- What a node reads comes from outside, or was published by a step before. -/
theorem exists_published_of_reads {nodes : ∀ i, σ i} {evs : List (Event ι κ ε)} {e : ε i}
    (h : N.reads (N.component.run (State.start nodes) evs) ev = some ⟨i, e⟩) :
    ev = .input i e ∧ N.external i e = true ∨
      ∃ c m pre ev' post j, N.accept i m c = some e ∧ evs = pre ++ ev' :: post ∧
        (N.published (N.component.run (State.start nodes) pre) ev')[j]? = some m ∧
        ev = .deliver i ((N.component.run (State.start nodes) pre).log.length + j) c := by
  rcases reads_eq_some_iff.1 h with hinput | ⟨k, c, m, rfl, hm, hacc⟩
  · exact .inl hinput
  · obtain ⟨pre, ev', post, j, rfl, hpub, rfl⟩ :=
      exists_published _ evs (unread_eq_some_iff.1 hm).1 (Nat.zero_le k)
    exact .inr ⟨c, m, pre, ev', post, j, hacc, rfl, hpub, rfl⟩

/-! ## What was read last -/

/-- What was read last on a topic is in the log, on that topic. -/
def Coherent (N : Network ι τ κ σ ε ω μ) (s : State ι τ σ μ) : Prop :=
  ∀ i t k m, s.last (i, t) = some (k, m) → s.log[k]? = some m ∧ N.topic m = t

omit [DecidableEq ι] [DecidableEq τ] in
theorem coherent_start (nodes : ∀ i, σ i) : N.Coherent (State.start nodes) := by
  intro i t k m h
  cases h

theorem coherent_preserved : N.component.Preserved N.Coherent := by
  intro s ev h i t k m hlast
  have hkeep : ∀ {m' : μ}, s.log[k]? = some m' → (N.step s ev).log[k]? = some m' := by
    intro m' hm'
    rw [log_step, List.getElem?_append_left (List.getElem?_eq_some_iff.1 hm').1]
    exact hm'
  rcases N.last_step_cases s ev i t with ⟨hsame, -⟩ | ⟨k', c, m', e, -, hm', htopic, -, hnew⟩
  · obtain ⟨hlog, htopic⟩ := h i t k m (hsame ▸ hlast)
    exact ⟨hkeep hlog, htopic⟩
  · cases (hnew.symm.trans hlast)
    exact ⟨hkeep (unread_eq_some_iff.1 hm').1, htopic⟩

/-- A part of a node that follows the messages of a topic, and that nothing else touches, holds
what it was given by the message read last. -/
theorem run_eq_last {β : Type*} (part : σ i → β) (value : μ → β)
    (hinput : ∀ n e, N.external i e = true → part ((N.node i).next n e) = part n)
    (hread : ∀ n m c e, N.accept i m c = some e →
      part ((N.node i).next n e) = if N.topic m = t then value m else part n)
    {s : State ι τ σ μ} (hs : s.last (i, t) = none) (evs : List (Event ι κ ε)) :
    part ((N.component.run s evs).nodes i) =
      (((N.component.run s evs).last (i, t)).map fun p => value p.2).getD
        (part (s.nodes i)) := by
  refine Component.run_history (C := N.component)
    (I := fun _ s' => part (s'.nodes i) =
      ((s'.last (i, t)).map fun p => value p.2).getD (part (s.nodes i))) ?_ ?_ evs
  · rw [hs]
    rfl
  · intro evs ev ih
    generalize N.component.run s evs = s' at ih ⊢
    change part ((N.step s' ev).nodes i) = _
    rcases N.last_step_cases s' ev i t with
      ⟨hsame, hnone⟩ | ⟨k, c, m, e, rfl, hm, htopic, hacc, hnew⟩
    · change _ = (((N.step s' ev).last (i, t)).map fun p => value p.2).getD _
      rw [hsame, ← ih]
      rcases N.nodes_step_cases s' ev i with hkeep | ⟨e, hr, hnext⟩
      · rw [hkeep]
      · rw [hnext]
        rcases reads_eq_some_iff.1 hr with ⟨-, hext⟩ | ⟨k, c, m, hev, hm, hacc⟩
        · exact hinput _ e hext
        · rw [hread _ m c e hacc, if_neg]
          intro htopic
          rw [hnone k c m hev hm htopic] at hr
          cases hr
    · have hr : N.reads s' (.deliver i k c) = some ⟨i, e⟩ :=
        reads_eq_some_iff.2 (.inr ⟨k, c, m, rfl, hm, hacc⟩)
      change _ = (((N.step s' (.deliver i k c)).last (i, t)).map fun p => value p.2).getD _
      rw [nodes_step_self hr, hread _ m c e hacc, if_pos htopic, hnew]
      rfl

section Stable

variable {F : State ι τ σ μ → Event ι κ ε → Prop} {J : State ι τ σ μ → Prop} {P : μ → Prop}

/-- Under an invariant with which the steps publish only messages that satisfy `P` on a topic, a
node that has read a message of that time has read one that satisfies `P` last. -/
theorem Along.last (hJ : ∀ s ev, F s ev → J s → J (N.step s ev))
    (hP : ∀ s ev, F s ev → J s → ∀ m ∈ N.published s ev, N.topic m = t → P m)
    (hcoherent : N.Coherent s) (hs : J s) {evs : List (Event ι κ ε)}
    (hevs : N.component.Along F s evs) {k : ℕ} {m : μ}
    (hlast : (N.component.run s evs).last (i, t) = some (k, m)) (hk : s.log.length ≤ k) :
    P m := by
  obtain ⟨hlog, htopic⟩ := coherent_preserved.run hcoherent evs i t k m hlast
  obtain ⟨pre, ev, post, j, rfl, hpub, -⟩ := exists_published s evs hlog hk
  obtain ⟨hpre, hrest⟩ := (N.component.along_append F s pre (ev :: post)).1 hevs
  exact hP _ ev hrest.1 (hpre.run hJ hs) m (List.mem_of_getElem? hpub) htopic

/-- The same from a step on that brings the invariant about, and whose own messages count. -/
theorem Along.last_cons (hJ : ∀ s ev, F s ev → J s → J (N.step s ev))
    (hP : ∀ s ev, F s ev → J s → ∀ m ∈ N.published s ev, N.topic m = t → P m)
    (hcoherent : N.Coherent s) (hs : J (N.step s ev))
    (hpublished : ∀ m ∈ N.published s ev, N.topic m = t → P m) {evs : List (Event ι κ ε)}
    (hevs : N.component.Along F (N.step s ev) evs) {k : ℕ} {m : μ}
    (hlast : (N.component.run s (ev :: evs)).last (i, t) = some (k, m))
    (hk : s.log.length ≤ k) : P m := by
  obtain ⟨hlog, htopic⟩ := coherent_preserved.run hcoherent (ev :: evs) i t k m hlast
  obtain ⟨pre, ev', post, j, heq, hpub', -⟩ := exists_published s (ev :: evs) hlog hk
  have hpub := List.mem_of_getElem? hpub'
  cases pre with
  | nil =>
      cases heq
      exact hpublished m hpub htopic
  | cons ev'' pre =>
      cases heq
      obtain ⟨hpre, hrest⟩ := (N.component.along_append F (N.step s ev) pre (ev' :: post)).1 hevs
      exact hP _ ev' hrest.1 (hpre.run hJ hs) m hpub htopic

end Stable

end Network

end Transition
