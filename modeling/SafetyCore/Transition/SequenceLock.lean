import Mathlib.Tactic.NormNum
import SafetyCore.Transition.Interleaving

/-!
# Sequence locks

A record is shared by one writer and any number of readers. The writer increments a
32-bit counter before and after it copies the record in; a reader loads the counter before
and after it copies the record out, and retries until both loads give the same even
number. Every access to the counter and every copy of one field is a step of its own, and
`lock` interleaves the steps in the order of a schedule.

The counter wraps, so a reader that sleeps through `2 ^ 31` writes may take two
different numbers for the same one. `read_current` says that no other read returns
anything but a record that was current during the read.
-/

namespace Transition

namespace SequenceLock

/-- A record with fields `φ`, copied one by one in the order of `fields`. -/
structure Layout (σ : Type*) (φ : Type*) where
  init : σ
  Value : φ → Type*
  get : ∀ f, σ → Value f
  /-- `copy f src dst` is `dst` with the field `f` of `src`. -/
  copy : φ → σ → σ → σ
  fields : List φ
  get_copy_self : ∀ f src dst, get f (copy f src dst) = get f src
  get_copy_of_ne : ∀ {f g} src dst, g ≠ f → get g (copy f src dst) = get g dst
  ext : ∀ {s t}, (∀ f ∈ fields, get f s = get f t) → s = t

structure Memory (σ : Type*) where
  sample : σ
  seq : UInt32
  deriving DecidableEq

/-- The next access of a thread, or what its last operation has returned. -/
inductive Pc (σ φ : Type*)
  | idle (ret : Option σ)
  | writing (sample : σ) (rest : List φ)
  | loading (result : σ)
  | reading (seq0 : UInt32) (result : σ) (rest : List φ)
  deriving DecidableEq

/-- An operation starts with its first access to the counter. -/
inductive Action (σ : Type*)
  | write (sample : σ)
  | read
  | access
  deriving DecidableEq

def Action.isWrite {σ : Type*} : Action σ → Bool
  | .write _ => true
  | _ => false

/-- What a step does to the writes. -/
inductive Effect (σ : Type*)
  | started (sample : σ)
  | finished (sample : σ)
  deriving DecidableEq

section Steps

variable {σ φ ι : Type*} (L : Layout σ φ)

def Pc.isIdle : Pc σ φ → Bool
  | .idle _ => true
  | _ => false

def Pc.isWriting : Pc σ φ → Bool
  | .writing _ _ => true
  | _ => false

/-- One access of a thread inside an operation. -/
def access (m : Memory σ) : Pc σ φ → Memory σ × Pc σ φ
  | .idle ret => (m, .idle ret)
  | .writing sample (f :: rest) =>
      ({ m with sample := L.copy f sample m.sample }, .writing sample rest)
  | .writing _ [] => ({ m with seq := m.seq + 1 }, .idle none)
  | .loading result => (m, .reading m.seq result L.fields)
  | .reading seq0 result (f :: rest) =>
      (m, .reading seq0 (L.copy f m.sample result) rest)
  | .reading seq0 result [] =>
      if seq0 ≠ m.seq ∨ seq0 &&& 1 ≠ 0 then (m, .loading result)
      else (m, .idle (some result))

/-- An idle thread may start an operation; a thread inside one makes its next access. Other
actions leave everything as it is. -/
def threadStep : Action σ → Memory σ → Pc σ φ → Memory σ × Pc σ φ
  | .write sample, m, .idle _ =>
      ({ m with seq := m.seq + 1 }, .writing sample L.fields)
  | .read, m, .idle _ => (m, .reading m.seq L.init L.fields)
  | .access, m, pc => access L m pc
  | _, m, pc => (m, pc)

def effect : Action σ → Pc σ φ → Option (Effect σ)
  | .write sample, .idle _ => some (.started sample)
  | .access, .writing sample [] => some (.finished sample)
  | _, _ => none

def startedOf : Option (Effect σ) → Option σ
  | some (.started sample) => some sample
  | _ => none

def finishedOf : Option (Effect σ) → Option σ
  | some (.finished sample) => some sample
  | _ => none

/-- All threads on one lock. -/
def lock (ι : Type*) [DecidableEq ι] :
    Component (Interleaved ι (Memory σ) (Pc σ φ)) (ι × Action σ) (Option (Effect σ)) where
  next := (interleave (threadStep L)).next
  output s e := effect e.2 (s.loc e.1)

/-- The memory before any operation. -/
def initial (ι : Type*) : Interleaved ι (Memory σ) (Pc σ φ) where
  shared := { sample := L.init, seq := 0 }
  loc _ := .idle none

variable [DecidableEq ι]

/-- The records whose writes start in a run. -/
def startedIn (s : Interleaved ι (Memory σ) (Pc σ φ)) (es : List (ι × Action σ)) : List σ :=
  ((lock L ι).outputs s es).filterMap startedOf

/-- The records whose writes finish in a run. -/
def finishedIn (s : Interleaved ι (Memory σ) (Pc σ φ)) (es : List (ι × Action σ)) : List σ :=
  ((lock L ι).outputs s es).filterMap finishedOf

/-- The records whose writes have started when the schedule has run, and those whose writes
have finished. -/
abbrev started (es : List (ι × Action σ)) : List σ := startedIn L (initial L ι) es

abbrev finished (es : List (ι × Action σ)) : List σ := finishedIn L (initial L ι) es

/-- The record of the last finished write. -/
def current (es : List (ι × Action σ)) : σ := (finished L es).getLast?.getD L.init

/-- The state after the schedule `es`. -/
abbrev after (es : List (ι × Action σ)) : Interleaved ι (Memory σ) (Pc σ φ) :=
  (lock L ι).run (initial L ι) es

/-- Only the thread `w` writes. -/
def SingleWriter (w : ι) (es : List (ι × Action σ)) : Prop :=
  ∀ e ∈ es, e.2.isWrite = true → e.1 = w

instance (w : ι) (es : List (ι × Action σ)) : Decidable (SingleWriter w es) :=
  inferInstanceAs (Decidable (∀ e ∈ es, e.2.isWrite = true → e.1 = w))

end Steps

section Writes

variable {σ φ ι : Type*} {L : Layout σ φ}

/-- What one action of a thread can do to the memory and to the writes. -/
theorem threadStep_cases (a : Action σ) (m : Memory σ) (pc : Pc σ φ) :
    (∃ sample ret, a = .write sample ∧ pc = .idle ret ∧
      threadStep L a m pc =
        ({ m with seq := m.seq + 1 }, .writing sample L.fields)) ∨
    (∃ sample f rest, a = .access ∧ pc = .writing sample (f :: rest) ∧
      threadStep L a m pc =
        ({ m with sample := L.copy f sample m.sample }, .writing sample rest)) ∨
    (∃ sample, a = .access ∧ pc = .writing sample [] ∧
      threadStep L a m pc = ({ m with seq := m.seq + 1 }, .idle none)) ∨
    ((threadStep L a m pc).1 = m ∧ effect a pc = none ∧
      ((threadStep L a m pc).2 = pc ∨
        pc.isWriting = false ∧ (threadStep L a m pc).2.isWriting = false)) := by
  cases a with
  | write sample =>
      cases pc with
      | idle ret => exact .inl ⟨sample, ret, rfl, rfl, rfl⟩
      | _ => exact .inr (.inr (.inr ⟨rfl, rfl, .inl rfl⟩))
  | read =>
      cases pc with
      | idle ret => exact .inr (.inr (.inr ⟨rfl, rfl, .inr ⟨rfl, rfl⟩⟩))
      | _ => exact .inr (.inr (.inr ⟨rfl, rfl, .inl rfl⟩))
  | access =>
      cases pc with
      | idle ret => exact .inr (.inr (.inr ⟨rfl, rfl, .inl rfl⟩))
      | loading result => exact .inr (.inr (.inr ⟨rfl, rfl, .inr ⟨rfl, rfl⟩⟩))
      | writing sample rest =>
          cases rest with
          | nil => exact .inr (.inr (.inl ⟨sample, rfl, rfl, rfl⟩))
          | cons f rest => exact .inr (.inl ⟨sample, f, rest, rfl, rfl, rfl⟩)
      | reading seq0 result rest =>
          refine .inr (.inr (.inr ?_))
          cases rest with
          | nil =>
              simp only [threadStep, access]
              split <;> exact ⟨rfl, rfl, .inr ⟨rfl, rfl⟩⟩
          | cons f rest => exact ⟨rfl, rfl, .inr ⟨rfl, rfl⟩⟩

variable {w i : ι} {a : Action σ} {es : List (ι × Action σ)}

theorem SingleWriter.restrict {fs : List (ι × Action σ)} (hw : SingleWriter w fs)
    (h : es <+: fs) : SingleWriter w es :=
  fun e he => hw e (h.subset he)

variable [DecidableEq ι]

/-! ## One step -/

theorem filterMap_singleton {α β : Type*} (f : α → Option β) (x : α) :
    [x].filterMap f = (f x).toList := by
  cases h : f x <;> simp [h]

theorem started_concat (es : List (ι × Action σ)) (i : ι) (a : Action σ) :
    started L (es ++ [(i, a)]) =
      started L es ++ (startedOf (effect a ((after L es).loc i))).toList := by
  rw [started, startedIn, Component.outputs_concat, List.filterMap_append]
  exact congrArg _ (filterMap_singleton _ _)

theorem finished_concat (es : List (ι × Action σ)) (i : ι) (a : Action σ) :
    finished L (es ++ [(i, a)]) =
      finished L es ++ (finishedOf (effect a ((after L es).loc i))).toList := by
  rw [finished, finishedIn, Component.outputs_concat, List.filterMap_append]
  exact congrArg _ (filterMap_singleton _ _)

theorem current_congr {es fs : List (ι × Action σ)} (h : finished L es = finished L fs) :
    current L es = current L fs := by
  rw [current, current, h]

theorem after_concat (L : Layout σ φ) (es : List (ι × Action σ)) (e : ι × Action σ) :
    after L (es ++ [e]) = (interleave (threadStep L)).next (after L es) e :=
  Component.run_concat ..

theorem after_concat_shared (es : List (ι × Action σ)) (i : ι) (a : Action σ) :
    (after L (es ++ [(i, a)])).shared =
      (threadStep L a (after L es).shared ((after L es).loc i)).1 := by
  rw [after_concat]
  rfl

theorem after_concat_loc_self (es : List (ι × Action σ)) (i : ι) (a : Action σ) :
    (after L (es ++ [(i, a)])).loc i =
      (threadStep L a (after L es).shared ((after L es).loc i)).2 := by
  rw [after_concat, interleave_loc_self]

theorem after_concat_loc_of_ne (es : List (ι × Action σ)) {i j : ι} (a : Action σ)
    (h : j ≠ i) : (after L (es ++ [(i, a)])).loc j = (after L es).loc j := by
  rw [after_concat, interleave_loc_of_ne _ _ _ h]

/-! ## The writer -/

/-- How far the writer is, and what the memory holds. The fields copied so far are those of
the new record. -/
def WriterAt (L : Layout σ φ) (es : List (ι × Action σ)) (m : Memory σ) :
    Pc σ φ → Prop
  | .writing sample rest =>
      (started L es).length = (finished L es).length + 1 ∧ sample ∈ started L es ∧
        ∀ f ∈ L.fields, f ∉ rest → L.get f m.sample = L.get f sample
  | _ => (started L es).length = (finished L es).length ∧ m.sample = current L es

theorem writerAt_of_not_isWriting {m : Memory σ} {pc : Pc σ φ}
    (h : pc.isWriting = false) :
    WriterAt L es m pc ↔
      (started L es).length = (finished L es).length ∧ m.sample = current L es := by
  cases pc with
  | writing sample rest => cases h
  | _ => rfl

theorem writerAt_congr {es fs : List (ι × Action σ)} (hs : started L fs = started L es)
    (hf : finished L fs = finished L es) {m : Memory σ} {pc : Pc σ φ} :
    WriterAt L fs m pc ↔ WriterAt L es m pc := by
  cases pc <;> simp only [WriterAt, hs, hf, current_congr hf]

/-- The counter counts both accesses of every write. -/
structure Consistent (L : Layout σ φ) (w : ι) (es : List (ι × Action σ)) : Prop where
  seq : (after L es).shared.seq.toNat =
    ((started L es).length + (finished L es).length) % 2 ^ 32
  readers : ∀ j, j ≠ w → ((after L es).loc j).isWriting = false
  writer : WriterAt L es (after L es).shared ((after L es).loc w)
  passed : current L es = L.init ∨ current L es ∈ started L es

theorem consistent_nil (w : ι) : Consistent L w [] where
  seq := rfl
  readers _ _ := rfl
  writer := ⟨rfl, rfl⟩
  passed := .inl rfl

theorem toNat_seq_succ {n : UInt32} {k : ℕ} (h : n.toNat = k % 2 ^ 32) :
    (n + 1).toNat = (k + 1) % 2 ^ 32 := by
  rw [UInt32.toNat_add, h]
  exact Nat.mod_add_mod k (2 ^ 32) 1

/-- The thread that is inside a write is the writer. -/
theorem Consistent.eq_writer (h : Consistent L w es)
    (hwriting : ((after L es).loc i).isWriting = true) : i = w := by
  by_contra hne
  rw [h.readers i hne] at hwriting
  cases hwriting

/-- Another thread keeps its place while `i` makes a step. -/
theorem Consistent.readers_concat (h : Consistent L i es) (a : Action σ) (j : ι) (hj : j ≠ i) :
    ((after L (es ++ [(i, a)])).loc j).isWriting = false := by
  rw [after_concat_loc_of_ne es a hj]
  exact h.readers j hj

/-- The writer starts. -/
theorem Consistent.start {sample : σ} {ret : Option σ} (h : Consistent L i es)
    (hpc : (after L es).loc i = .idle ret) : Consistent L i (es ++ [(i, .write sample)]) := by
  have hstarted : started L (es ++ [(i, .write sample)]) = started L es ++ [sample] := by
    rw [started_concat, hpc]
    rfl
  have hfinished : finished L (es ++ [(i, .write sample)]) = finished L es := by
    rw [finished_concat, hpc]
    exact List.append_nil _
  have hshared := after_concat_shared (L := L) es i (.write sample)
  have hself := after_concat_loc_self (L := L) es i (.write sample)
  have hwriter := h.writer
  rw [hpc] at hwriter hshared hself
  obtain ⟨hlength, hmem⟩ := hwriter
  refine ⟨?_, h.readers_concat _, ?_, ?_⟩
  · rw [hshared, hstarted, hfinished, List.length_append]
    refine (toNat_seq_succ h.seq).trans (congrArg (· % 2 ^ 32) ?_)
    rw [List.length_singleton]
    omega
  · rw [hself]
    refine ⟨?_, ?_, fun f hf hrest => absurd hf hrest⟩
    · rw [hstarted, hfinished, List.length_append, hlength, List.length_singleton]
    · rw [hstarted]
      exact List.mem_append_right _ List.mem_cons_self
  · rw [current_congr hfinished, hstarted]
    exact h.passed.imp id (List.mem_append_left _)

/-- The writer copies one field. -/
theorem Consistent.copy {sample : σ} {f : φ} {rest : List φ} (h : Consistent L i es)
    (hpc : (after L es).loc i = .writing sample (f :: rest)) :
    Consistent L i (es ++ [(i, .access)]) := by
  have hstarted : started L (es ++ [(i, .access)]) = started L es := by
    rw [started_concat, hpc]
    exact List.append_nil _
  have hfinished : finished L (es ++ [(i, .access)]) = finished L es := by
    rw [finished_concat, hpc]
    exact List.append_nil _
  have hshared := after_concat_shared (L := L) es i .access
  have hself := after_concat_loc_self (L := L) es i .access
  have hwriter := h.writer
  rw [hpc] at hwriter hshared hself
  obtain ⟨hlength, hmem, hcopied⟩ := hwriter
  refine ⟨?_, h.readers_concat _, ?_, ?_⟩
  · rw [hshared, hstarted, hfinished]
    exact h.seq
  · rw [hself, hshared]
    refine ⟨by rw [hstarted, hfinished, hlength], hstarted ▸ hmem, fun g hg hrest => ?_⟩
    by_cases hgf : g = f
    · rw [hgf]
      exact L.get_copy_self f sample _
    · refine (L.get_copy_of_ne sample _ hgf).trans (hcopied g hg ?_)
      rw [List.mem_cons, not_or]
      exact ⟨hgf, hrest⟩
  · rw [current_congr hfinished, hstarted]
    exact h.passed

/-- The writer finishes, with all fields copied. -/
theorem Consistent.finish {sample : σ} (h : Consistent L i es)
    (hpc : (after L es).loc i = .writing sample []) :
    Consistent L i (es ++ [(i, .access)]) := by
  have hstarted : started L (es ++ [(i, .access)]) = started L es := by
    rw [started_concat, hpc]
    exact List.append_nil _
  have hfinished : finished L (es ++ [(i, .access)]) = finished L es ++ [sample] := by
    rw [finished_concat, hpc]
    rfl
  have hcurrent : current L (es ++ [(i, .access)]) = sample := by
    rw [current, hfinished, List.getLast?_append, List.getLast?_singleton]
    rfl
  have hshared := after_concat_shared (L := L) es i .access
  have hself := after_concat_loc_self (L := L) es i .access
  have hwriter := h.writer
  rw [hpc] at hwriter hshared hself
  obtain ⟨hlength, hmem, hcopied⟩ := hwriter
  refine ⟨?_, h.readers_concat _, ?_, ?_⟩
  · rw [hshared, hstarted, hfinished, List.length_append]
    exact toNat_seq_succ h.seq
  · rw [hself, hshared]
    refine ⟨?_, ?_⟩
    · rw [hstarted, hfinished, List.length_append, hlength, List.length_singleton]
    · rw [hcurrent]
      exact L.ext fun f hf => hcopied f hf List.not_mem_nil
  · rw [hcurrent, hstarted]
    exact .inr hmem

/-- A step that accesses neither the record nor the writes. -/
theorem Consistent.quiet (h : Consistent L w es)
    (hmemory : (threadStep L a (after L es).shared ((after L es).loc i)).1 =
      (after L es).shared)
    (heffect : effect a ((after L es).loc i) = none)
    (hloc : (threadStep L a (after L es).shared ((after L es).loc i)).2 =
        (after L es).loc i ∨
      ((after L es).loc i).isWriting = false ∧
        (threadStep L a (after L es).shared ((after L es).loc i)).2.isWriting = false) :
    Consistent L w (es ++ [(i, a)]) := by
  have hstarted : started L (es ++ [(i, a)]) = started L es := by
    rw [started_concat, heffect]
    exact List.append_nil _
  have hfinished : finished L (es ++ [(i, a)]) = finished L es := by
    rw [finished_concat, heffect]
    exact List.append_nil _
  have hshared := (after_concat_shared (L := L) es i a).trans hmemory
  have hpc (j : ι) : (after L (es ++ [(i, a)])).loc j = (after L es).loc j ∨
      ((after L es).loc j).isWriting = false ∧
        ((after L (es ++ [(i, a)])).loc j).isWriting = false := by
    by_cases hj : j = i
    · rw [hj, after_concat_loc_self]
      exact hloc
    · exact .inl (after_concat_loc_of_ne es a hj)
  refine ⟨?_, fun j hj => ?_, ?_, ?_⟩
  · rw [hshared, hstarted, hfinished]
    exact h.seq
  · rcases hpc j with heq | ⟨-, hnot⟩
    · rw [heq]
      exact h.readers j hj
    · exact hnot
  · rw [hshared, writerAt_congr hstarted hfinished]
    rcases hpc w with heq | ⟨hbefore, hnot⟩
    · rw [heq]
      exact h.writer
    · rw [writerAt_of_not_isWriting hnot]
      exact (writerAt_of_not_isWriting hbefore).1 h.writer
  · rw [current_congr hfinished, hstarted]
    exact h.passed

theorem Consistent.concat (hw : a.isWrite = true → i = w)
    (h : Consistent L w es) : Consistent L w (es ++ [(i, a)]) := by
  rcases threadStep_cases (L := L) a (after L es).shared ((after L es).loc i) with
    ⟨sample, ret, rfl, hpc, -⟩ | ⟨sample, f, rest, rfl, hpc, -⟩ |
    ⟨sample, rfl, hpc, -⟩ | ⟨hmemory, heffect, hloc⟩
  · obtain rfl := hw rfl
    exact h.start hpc
  · obtain rfl := h.eq_writer (by rw [hpc]; rfl)
    exact h.copy hpc
  · obtain rfl := h.eq_writer (by rw [hpc]; rfl)
    exact h.finish hpc
  · exact h.quiet hmemory heffect hloc

theorem SingleWriter.consistent (hw : SingleWriter w es) : Consistent L w es := by
  induction es using List.reverseRecOn with
  | nil => exact consistent_nil w
  | append_singleton es e ih =>
      exact (ih (hw.restrict (List.prefix_append es [e]))).concat
        (hw e (List.mem_append_right _ List.mem_cons_self))

/-- At most one write is in progress. -/
theorem Consistent.length_finished (h : Consistent L w es) :
    (finished L es).length ≤ (started L es).length ∧
      (started L es).length ≤ (finished L es).length + 1 := by
  have hwriter := h.writer
  cases hpc : (after L es).loc w with
  | writing sample rest =>
      rw [hpc] at hwriter
      have := hwriter.1
      omega
  | _ =>
      rw [hpc] at hwriter
      have := hwriter.1
      omega

/-- Between the writes the memory holds the current record. -/
theorem Consistent.sample_eq (h : Consistent L w es)
    (hquiet : (started L es).length = (finished L es).length) :
    (after L es).shared.sample = current L es := by
  have hwriter := h.writer
  cases hpc : (after L es).loc w with
  | writing sample rest =>
      rw [hpc] at hwriter
      have := hwriter.1
      omega
  | _ =>
      rw [hpc] at hwriter
      exact hwriter.2

/-! ## A read -/

theorem started_append (es fs : List (ι × Action σ)) :
    started L (es ++ fs) = started L es ++ startedIn L (after L es) fs := by
  rw [started, startedIn, Component.outputs_append, List.filterMap_append]
  rfl

theorem finished_append (es fs : List (ι × Action σ)) :
    finished L (es ++ fs) = finished L es ++ finishedIn L (after L es) fs := by
  rw [finished, finishedIn, Component.outputs_append, List.filterMap_append]
  rfl

theorem started_mono {es fs : List (ι × Action σ)} (h : es <+: fs) :
    (started L es).length ≤ (started L fs).length := by
  obtain ⟨gs, rfl⟩ := h
  rw [started_append, List.length_append]
  exact Nat.le_add_right _ _

theorem finished_mono {es fs : List (ι × Action σ)} (h : es <+: fs) :
    (finished L es).length ≤ (finished L fs).length := by
  obtain ⟨gs, rfl⟩ := h
  rw [finished_append, List.length_append]
  exact Nat.le_add_right _ _

/-- If all that has started in the end had finished early on, then nothing is in progress in
between. -/
theorem quiet_between {fs gs : List (ι × Action σ)} (hw : SingleWriter w gs)
    (hef : es <+: fs) (hfg : fs <+: gs)
    (h : (started L gs).length = (finished L es).length) :
    (started L fs).length = (finished L es).length ∧
      (finished L fs).length = (finished L es).length := by
  have hes := ((hw.restrict (hef.trans hfg)).consistent (L := L)).length_finished.1
  have hfs := ((hw.restrict hfg).consistent (L := L)).length_finished.1
  have hstarted := started_mono (L := L) hef
  have hstarted' := started_mono (L := L) hfg
  have hfinished := finished_mono (L := L) hef
  omega

/-- Without a write that finishes, the current record stays. -/
theorem current_eq_of_le {es fs : List (ι × Action σ)} (h : es <+: fs)
    (hlength : (finished L fs).length ≤ (finished L es).length) :
    current L fs = current L es := by
  obtain ⟨gs, rfl⟩ := h
  rw [finished_append, List.length_append] at hlength
  have hnone : finishedIn L (after L es) gs = [] :=
    List.eq_nil_of_length_eq_zero (by omega)
  refine current_congr ?_
  rw [finished_append, hnone, List.append_nil]

/-- A thread inside the read that began with the schedule `es`, after `mid`. The number it
has loaded counts the writes up to a moment of the read, and if none was in progress then
and none has started since, the fields copied so far are those of the record that was
current at that moment. -/
def ReadAt (L : Layout σ φ) (es mid : List (ι × Action σ)) : Pc σ φ → Prop
  | .loading _ => True
  | .reading seq0 result rest =>
      ∃ q, q <+: mid ∧
        seq0.toNat =
          ((started L (es ++ q)).length + (finished L (es ++ q)).length) % 2 ^ 32 ∧
        ((started L (es ++ mid)).length = (finished L (es ++ q)).length →
          ∀ f ∈ L.fields, f ∉ rest → L.get f result = L.get f (current L (es ++ q)))
  | _ => False

/-- A round of the read, right after it has loaded the counter. -/
theorem readAt_load (es mid : List (ι × Action σ)) (result : σ)
    (hw : SingleWriter w (es ++ mid)) :
    ReadAt L es mid (.reading (after L (es ++ mid)).shared.seq result L.fields) :=
  ⟨mid, List.prefix_rfl, (hw.consistent (L := L)).seq, fun _ _ hf hrest => absurd hf hrest⟩

/-- A read begins with the load of the counter. -/
theorem readAt_start (hw : SingleWriter w (es ++ [(i, Action.read)]))
    (hidle : ((after L es).loc i).isIdle = true) :
    ReadAt L (es ++ [(i, Action.read)]) [] ((after L (es ++ [(i, Action.read)])).loc i) := by
  have hshared := after_concat_shared (L := L) es i .read
  rw [after_concat_loc_self]
  cases hpc : (after L es).loc i with
  | idle ret =>
      have hload := readAt_load (L := L) (es ++ [(i, .read)]) [] L.init
        (by rwa [List.append_nil])
      rw [List.append_nil, hshared, hpc] at hload
      exact hload
  | _ =>
      rw [hpc] at hidle
      cases hidle

/-- A step that leaves the thread where it is. -/
theorem ReadAt.extend {mid : List (ι × Action σ)} {pc : Pc σ φ} {e : ι × Action σ}
    (hw : SingleWriter w (es ++ (mid ++ [e]))) (h : ReadAt L es mid pc) :
    ReadAt L es (mid ++ [e]) pc := by
  cases pc with
  | idle ret => exact h
  | writing sample rest => exact h
  | loading result => trivial
  | reading seq0 result rest =>
      obtain ⟨q, hq, hseq, hcopied⟩ := h
      have hmid : es ++ mid <+: es ++ (mid ++ [e]) :=
        (List.prefix_append_right_inj es).2 (List.prefix_append mid [e])
      have hqmid : es ++ q <+: es ++ mid := (List.prefix_append_right_inj es).2 hq
      exact ⟨q, hq.trans (List.prefix_append mid [e]), hseq,
        fun hquiet => hcopied (quiet_between hw hqmid hmid hquiet).1⟩

/-- The reader copies one field out. -/
theorem ReadAt.copy {mid : List (ι × Action σ)} {e : ι × Action σ} {seq0 : UInt32}
    {result : σ} {f : φ} {rest : List φ} (hw : SingleWriter w (es ++ (mid ++ [e])))
    (h : ReadAt L es mid (.reading seq0 result (f :: rest))) :
    ReadAt L es (mid ++ [e])
      (.reading seq0 (L.copy f (after L (es ++ mid)).shared.sample result) rest) := by
  obtain ⟨q, hq, hloaded, hcopied⟩ := h
  have hmid : es ++ mid <+: es ++ (mid ++ [e]) :=
    (List.prefix_append_right_inj es).2 (List.prefix_append mid [e])
  have hqmid : es ++ q <+: es ++ mid := (List.prefix_append_right_inj es).2 hq
  refine ⟨q, hq.trans (List.prefix_append mid _), hloaded, fun hquiet g hg hrest => ?_⟩
  obtain ⟨hstarted, hfinished⟩ := quiet_between hw hqmid hmid hquiet
  by_cases hgf : g = f
  · -- The memory holds the record that was current at the load.
    have hsample := ((hw.restrict hmid).consistent (L := L)).sample_eq
      (hstarted.trans hfinished.symm)
    rw [hgf, ← current_eq_of_le hqmid hfinished.le, ← hsample]
    exact L.get_copy_self f _ _
  · refine (L.get_copy_of_ne _ _ hgf).trans (hcopied hstarted g hg ?_)
    rw [List.mem_cons, not_or]
    exact ⟨hgf, hrest⟩

theorem ReadAt.concat {mid : List (ι × Action σ)} {j : ι}
    (hw : SingleWriter w (es ++ (mid ++ [(j, a)])))
    (h : ReadAt L es mid ((after L (es ++ mid)).loc i))
    (hinside : ((after L (es ++ (mid ++ [(j, a)]))).loc i).isIdle = false) :
    ReadAt L es (mid ++ [(j, a)]) ((after L (es ++ (mid ++ [(j, a)]))).loc i) := by
  have hextend := h.extend hw
  have hshared := after_concat_shared (L := L) (es ++ mid) j a
  rw [List.append_assoc] at hshared
  by_cases hj : j = i
  · obtain rfl := hj
    have hself := after_concat_loc_self (L := L) (es ++ mid) j a
    rw [List.append_assoc] at hself
    rw [hself] at hinside ⊢
    cases hpc : (after L (es ++ mid)).loc j with
    | idle ret =>
        rw [hpc] at h
        exact h.elim
    | writing sample rest =>
        rw [hpc] at h
        exact h.elim
    | loading result =>
        cases a with
        | write sample => trivial
        | read => trivial
        | access =>
            -- The next round begins with another load of the counter.
            have hload := readAt_load (L := L) es _ result hw
            rw [hshared, hpc] at hload
            exact hload
    | reading seq0 result rest =>
        rw [hpc] at h hinside hextend
        cases a with
        | write sample => exact hextend
        | read => exact hextend
        | access =>
            cases rest with
            | cons f rest => exact h.copy hw
            | nil =>
                simp only [threadStep, access] at hinside ⊢
                split
                · trivial
                next hequal =>
                  rw [if_neg hequal] at hinside
                  cases hinside
  · have hother := after_concat_loc_of_ne (L := L) (es ++ mid) (i := j) (j := i) a
      (Ne.symm hj)
    rw [List.append_assoc] at hother
    rw [hother]
    exact hextend

/-- The whole read, up to the access that returns. -/
theorem readAt {mid : List (ι × Action σ)}
    (hw : SingleWriter w (es ++ [(i, Action.read)] ++ mid))
    (hidle : ((after L es).loc i).isIdle = true)
    (hinside : ∀ q, q <+: mid →
      ((after L (es ++ [(i, Action.read)] ++ q)).loc i).isIdle = false) :
    ReadAt L (es ++ [(i, Action.read)]) mid
      ((after L (es ++ [(i, Action.read)] ++ mid)).loc i) := by
  induction mid using List.reverseRecOn with
  | nil =>
      rw [List.append_nil] at hw ⊢
      exact readAt_start hw hidle
  | append_singleton mid e ih =>
      have hmid : mid <+: mid ++ [e] := List.prefix_append mid [e]
      have hread := ih (hw.restrict ((List.prefix_append_right_inj _).2 hmid))
        fun q hq => hinside q (hq.trans hmid)
      exact hread.concat hw (hinside (mid ++ [e]) List.prefix_rfl)

theorem and_one_eq_zero_iff (n : UInt32) : n &&& 1 = 0 ↔ n.toNat % 2 = 0 := by
  rw [← UInt32.toNat_inj, UInt32.toNat_and, UInt32.toNat_one, Nat.and_one_is_mod]
  rfl

/-- Two loads of one even number see the same writes, all of them finished, if fewer than
`2 ^ 31` writes start in between. -/
theorem length_started_eq {fs gs : List (ι × Action σ)} (hw : SingleWriter w gs)
    (hef : es <+: fs) (hfg : fs <+: gs)
    (hsame : (after L gs).shared.seq.toNat =
      ((started L fs).length + (finished L fs).length) % 2 ^ 32)
    (heven : (after L gs).shared.seq.toNat % 2 = 0)
    (hfew : (started L gs).length < (started L es).length + 2 ^ 31) :
    (started L gs).length = (finished L fs).length := by
  have hafter := hw.consistent (L := L)
  have hseq := hafter.seq
  have hwrites := ((hw.restrict hfg).consistent (L := L)).length_finished
  have hwrites' := hafter.length_finished
  have hstarted := started_mono (L := L) hef
  have hstarted' := started_mono (L := L) hfg
  have hfinished := finished_mono (L := L) hfg
  omega

/-- A read returns a record that was current at a moment of the read: the initial one, or one
that was written. Fewer than `2 ^ 31` writes may start during the read. -/
theorem read_current {mid : List (ι × Action σ)} {sample : σ}
    (hw : SingleWriter w (es ++ [(i, Action.read)] ++ mid))
    (hidle : ((after L es).loc i).isIdle = true)
    (hinside : ∀ q, q <+: mid →
      ((after L (es ++ [(i, Action.read)] ++ q)).loc i).isIdle = false)
    (hreturn : (after L (es ++ [(i, Action.read)] ++ mid ++ [(i, Action.access)])).loc i =
      .idle (some sample))
    (hfew : (startedIn L (after L (es ++ [(i, Action.read)])) mid).length < 2 ^ 31) :
    ∃ q, q <+: mid ∧ sample = current L (es ++ [(i, Action.read)] ++ q) ∧
      (sample = L.init ∨ sample ∈ started L (es ++ [(i, Action.read)] ++ q)) := by
  have hread := readAt hw hidle hinside
  have hnot := hinside mid List.prefix_rfl
  have hlength := congrArg List.length (started_append (L := L) (es ++ [(i, .read)]) mid)
  rw [List.length_append] at hlength
  rw [after_concat_loc_self] at hreturn
  cases hpc : (after L (es ++ [(i, .read)] ++ mid)).loc i with
  | idle ret =>
      rw [hpc] at hnot
      cases hnot
  | writing sample rest =>
      rw [hpc] at hread
      exact hread.elim
  | loading result =>
      rw [hpc] at hreturn
      cases hreturn
  | reading seq0 result rest =>
      rw [hpc] at hread hreturn
      cases rest with
      | cons f rest => cases hreturn
      | nil =>
          obtain ⟨q, hq, hloaded, hcopied⟩ := hread
          simp only [threadStep, access] at hreturn
          split at hreturn
          · cases hreturn
          next hequal =>
            cases hreturn
            rw [not_or, not_not, not_not, and_one_eq_zero_iff] at hequal
            obtain ⟨hsame, heven⟩ := hequal
            have hqmid : es ++ [(i, .read)] ++ q <+: es ++ [(i, .read)] ++ mid :=
              (List.prefix_append_right_inj _).2 hq
            have hquiet := length_started_eq hw (List.prefix_append _ q) hqmid
              (hsame ▸ hloaded) (hsame ▸ heven) (by omega)
            have hcurrent : sample = current L (es ++ [(i, .read)] ++ q) :=
              L.ext fun f hf => hcopied hquiet f hf List.not_mem_nil
            refine ⟨q, hq, hcurrent, ?_⟩
            rw [hcurrent]
            exact ((hw.restrict hqmid).consistent (L := L)).passed

end Writes

end SequenceLock

end Transition
