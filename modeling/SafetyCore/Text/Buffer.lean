import Mathlib.Data.List.TakeWhile

/-!
# Text in bounded buffers

A `Buffer n` is an array of `n` characters that holds a text and a NUL after it, so that a
text of fewer than `n` characters fits and a longer one is cut. `store` copies characters
to the start of the buffer, `view` reads the text back, and `snprintf` is the function of
the C library, which cuts its output one character before the end and says so only in its
return value.
-/

namespace Text

/-- The character that ends a text. -/
def nul : Char := Char.ofNat 0

/-- An array of `capacity` characters. -/
structure Buffer (capacity : ℕ) where
  chars : List Char
  length_chars : chars.length = capacity
  deriving DecidableEq

namespace Buffer

variable {capacity : ℕ}

/-- The buffer after `fill('\0')`. -/
def zeroed (capacity : ℕ) : Buffer capacity := ⟨List.replicate capacity nul, by simp⟩

/-- Copy `text` to the start of the buffer, as far as it fits. -/
def store (b : Buffer capacity) (text : List Char) : Buffer capacity where
  chars := (text ++ b.chars.drop text.length).take capacity
  length_chars := by
    have h := b.length_chars
    simp only [List.length_take, List.length_append, List.length_drop]
    omega

/-- `std::string_view(data())`: the characters before the first NUL. -/
def view (b : Buffer capacity) : List Char := b.chars.takeWhile (· ≠ nul)

/-- `snprintf(data(), capacity, ...)` where the whole output is `text`. -/
def snprintf (b : Buffer capacity) (text : List Char) : Buffer capacity :=
  if capacity = 0 then b else b.store (text.take (capacity - 1) ++ [nul])

theorem nul_notMem_view (b : Buffer capacity) : nul ∉ b.view := by
  intro h
  have hnul := List.mem_takeWhile_imp h
  simp at hnul

/-- A text without NUL that is followed by one is read back. -/
theorem takeWhile_ne_nul {text : List Char} (h : nul ∉ text) (rest : List Char) :
    (text ++ nul :: rest).takeWhile (· ≠ nul) = text := by
  have hall : ∀ c ∈ text, decide (c ≠ nul) = true := by
    intro c hc
    simp only [decide_eq_true_eq]
    rintro rfl
    exact h hc
  rw [List.takeWhile_append_of_pos hall]
  simp

/-- A text in a zeroed buffer is followed by NUL up to the end. -/
theorem store_zeroed_chars {text : List Char} (hlength : text.length ≤ capacity) :
    ((zeroed capacity).store text).chars =
      text ++ List.replicate (capacity - text.length) nul := by
  unfold store zeroed
  dsimp only
  rw [List.drop_replicate, List.take_of_length_le]
  simp only [List.length_append, List.length_replicate]
  omega

/-- A text that fits into a zeroed buffer is read back. -/
theorem view_store_zeroed {text : List Char} (hnul : nul ∉ text)
    (hlength : text.length < capacity) :
    ((zeroed capacity).store text).view = text := by
  obtain ⟨k, hk⟩ : ∃ k, capacity - text.length = k + 1 :=
    ⟨capacity - text.length - 1, by omega⟩
  rw [view, store_zeroed_chars hlength.le, hk, List.replicate_succ, takeWhile_ne_nul hnul]

/-- The last character of a buffer stays NUL where the text leaves room for it. -/
theorem getLast?_store_zeroed {text : List Char} (hlength : text.length < capacity) :
    ((zeroed capacity).store text).chars.getLast? = some nul := by
  have hroom : capacity - text.length ≠ 0 := by omega
  rw [store_zeroed_chars hlength.le, List.getLast?_append, List.getLast?_replicate,
    if_neg hroom]
  rfl

/-- `snprintf` writes the start of its output and a NUL. -/
theorem snprintf_chars (b : Buffer capacity) (hcapacity : 0 < capacity) (text : List Char) :
    ∃ rest, (b.snprintf text).chars = text.take (capacity - 1) ++ nul :: rest := by
  have hlength : (text.take (capacity - 1)).length + 1 ≤ capacity := by
    rw [List.length_take]
    omega
  obtain ⟨k, hk⟩ : ∃ k, capacity - (text.take (capacity - 1)).length = k + 1 :=
    ⟨capacity - (text.take (capacity - 1)).length - 1, by omega⟩
  unfold snprintf store
  rw [if_neg hcapacity.ne']
  dsimp only
  rw [List.append_assoc, List.singleton_append, List.take_append,
    List.take_of_length_le (by omega), hk, List.take_succ_cons]
  exact ⟨_, rfl⟩

/-- What `snprintf` leaves in the buffer is its output, cut one character before the
end. -/
theorem view_snprintf (b : Buffer capacity) (hcapacity : 0 < capacity) {text : List Char}
    (hnul : nul ∉ text.take (capacity - 1)) :
    (b.snprintf text).view = text.take (capacity - 1) := by
  obtain ⟨rest, hchars⟩ := b.snprintf_chars hcapacity text
  rw [view, hchars, takeWhile_ne_nul hnul]

theorem length_view_snprintf_lt (b : Buffer capacity) (hcapacity : 0 < capacity)
    (text : List Char) : (b.snprintf text).view.length < capacity := by
  obtain ⟨rest, hchars⟩ := b.snprintf_chars hcapacity text
  have hmem : nul ∈ (b.snprintf text).chars := by simp [hchars]
  have hinitial : (b.snprintf text).view <+: (b.snprintf text).chars :=
    List.takeWhile_prefix _
  refine lt_of_le_of_ne (hinitial.length_le.trans_eq (b.snprintf text).length_chars) ?_
  intro hlength
  have heq := hinitial.eq_of_length (hlength.trans (b.snprintf text).length_chars.symm)
  exact (b.snprintf text).nul_notMem_view (heq ▸ hmem)

end Buffer

end Text
