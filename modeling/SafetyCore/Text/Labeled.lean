import SafetyCore.Text.Conversion.Numeral

/-!
# Labeled numbers

`printLabeled` writes a list of numbers, each after its label, and `readLabeled` reads the numbers
back with `strtoull`, given the labels. Reading inverts printing if no label after the first
starts with a digit, as such a label ends the number before it.
-/

namespace Text

/-- The output of `%llu`. -/
def decimal (n : ℕ) : List Char := Nat.toDigits 10 n

/-- What comes after a number and ends it. -/
def EndsNumber (rest : List Char) : Prop := ∀ c ∈ rest.head?, c.isDigit = false

instance : ∀ rest, Decidable (EndsNumber rest)
  | [] => .isTrue (by simp [EndsNumber])
  | c :: _ => decidable_of_iff (c.isDigit = false) (by simp [EndsNumber])

/-! ## One number -/

theorem decimal_ne_nil (n : ℕ) : decimal n ≠ [] := Nat.toDigits_ne_nil

theorem isDigit_of_mem_decimal {n : ℕ} {c : Char} (h : c ∈ decimal n) : c.isDigit = true :=
  Nat.isDigit_of_mem_toDigits (by decide) (by decide) h

theorem length_decimal_le {n k : ℕ} (hk : 0 < k) (h : n < 10 ^ k) : (decimal n).length ≤ k :=
  (Nat.length_toDigits_le_iff (by decide) hk).2 h

theorem length_decimal_uint64 (n : UInt64) : (decimal n.toNat).length ≤ 20 :=
  length_decimal_le (by decide) (n.toNat_lt.trans (by decide))

theorem digitsValue_decimal (n : ℕ) : digitsValue (decimal n) = n :=
  Nat.ofDigitChars_eq_foldl.symm.trans Nat.ofDigitChars_ten_toDigits

theorem takeWhile_isDigit_append {digits rest : List Char} (h : ∀ c ∈ digits, c.isDigit = true)
    (hrest : EndsNumber rest) : (digits ++ rest).takeWhile Char.isDigit = digits := by
  rw [List.takeWhile_append_of_pos h]
  cases rest with
  | nil => simp
  | cons c rest => simp [hrest c rfl]

theorem dropWhile_isDigit_append {digits rest : List Char} (h : ∀ c ∈ digits, c.isDigit = true)
    (hrest : EndsNumber rest) : (digits ++ rest).dropWhile Char.isDigit = rest := by
  rw [List.dropWhile_append_of_pos h]
  cases rest with
  | nil => rfl
  | cons c rest => simp [hrest c rfl]

/-- A digit is neither white space nor a sign. -/
theorem splitSign_of_isDigit {c : Char} (h : c.isDigit = true) (s : List Char) :
    splitSign ((c :: s).dropWhile isSpace) = (false, c :: s) := by
  rw [List.dropWhile_cons_of_neg (by simp [isSpace_of_isDigit h])]
  have hsign : IsSign false [] := .inl rfl
  unfold splitSign
  split
  next heq =>
    cases heq
    exact absurd h (by decide)
  next heq =>
    cases heq
    exact absurd h (by decide)
  next => rfl

/-- `strtoull` reads a number up to what ends it. -/
theorem strtoull_decimal_append (n : UInt64) {rest : List Char} (hrest : EndsNumber rest) :
    strtoull (decimal n.toNat ++ rest) = ⟨n, rest, false⟩ := by
  have hdigits : ∀ c ∈ decimal n.toNat, c.isDigit = true := fun _ => isDigit_of_mem_decimal
  have hsplit : splitSign ((decimal n.toNat ++ rest).dropWhile isSpace) =
      (false, decimal n.toNat ++ rest) := by
    obtain ⟨c, cs, hcons⟩ := List.exists_cons_of_ne_nil (decimal_ne_nil n.toNat)
    rw [hcons] at hdigits ⊢
    exact splitSign_of_isDigit (hdigits c List.mem_cons_self) _
  have hlt : digitsValue (decimal n.toNat) < 2 ^ 64 := by
    rw [digitsValue_decimal]
    exact n.toNat_lt
  unfold strtoull
  simp only [hsplit, takeWhile_isDigit_append hdigits hrest,
    dropWhile_isDigit_append hdigits hrest, decimal_ne_nil, if_false]
  rw [if_neg (by omega), digitsValue_decimal, UInt64.ofNat_toNat]
  rfl

/-! ## Many numbers -/

def printLabeled : List (List Char × UInt64) → List Char
  | [] => []
  | (label, value) :: fields => label ++ (decimal value.toNat ++ printLabeled fields)

def readLabeled : List (List Char) → List Char → Option (List UInt64)
  | [], s => if s.isEmpty then some [] else none
  | label :: labels, s =>
      if label.isPrefixOf s then
        let parsed := strtoull (s.drop label.length)
        (readLabeled labels parsed.rest).map (parsed.value :: ·)
      else none

/-- A label that ends the number before it. -/
def IsSeparator (label : List Char) : Prop := label ≠ [] ∧ EndsNumber label

instance (label : List Char) : Decidable (IsSeparator label) :=
  inferInstanceAs (Decidable (_ ∧ _))

theorem endsNumber_printLabeled {fields : List (List Char × UInt64)}
    (h : ∀ field ∈ fields, IsSeparator field.1) : EndsNumber (printLabeled fields) := by
  cases fields with
  | nil => intro c hc; cases hc
  | cons field fields =>
      obtain ⟨hne, hends⟩ := h field List.mem_cons_self
      obtain ⟨c, cs, hcons⟩ := List.exists_cons_of_ne_nil hne
      intro c' hc'
      refine hends c' ?_
      rw [printLabeled, hcons] at hc'
      rw [hcons]
      exact hc'

theorem readLabeled_cons {label : List Char} (labels : List (List Char)) (value : UInt64)
    {rest : List Char} (hrest : EndsNumber rest) :
    readLabeled (label :: labels) (label ++ (decimal value.toNat ++ rest)) =
      (readLabeled labels rest).map (value :: ·) := by
  have hlabel : label.isPrefixOf (label ++ (decimal value.toNat ++ rest)) = true := by simp
  rw [readLabeled, if_pos hlabel, List.drop_left, strtoull_decimal_append value hrest]

/-- Reading inverts printing. -/
theorem readLabeled_printLabeled (fields : List (List Char × UInt64))
    (h : ∀ field ∈ fields.tail, IsSeparator field.1) :
    readLabeled (fields.map Prod.fst) (printLabeled fields) = some (fields.map Prod.snd) := by
  induction fields with
  | nil => rfl
  | cons field fields ih =>
      obtain ⟨label, value⟩ := field
      have hrest : EndsNumber (printLabeled fields) := endsNumber_printLabeled h
      rw [printLabeled, List.map_cons, readLabeled_cons _ _ hrest,
        ih fun field hfield => h field (List.mem_of_mem_tail hfield)]
      rfl

/-- What is printed has at most twenty digits for each number. -/
theorem length_printLabeled_le (fields : List (List Char × UInt64)) :
    (printLabeled fields).length ≤
      ((fields.map fun field => field.1.length).sum) + 20 * fields.length := by
  induction fields with
  | nil => exact le_rfl
  | cons field fields ih =>
      have hvalue := length_decimal_uint64 field.2
      rw [printLabeled]
      simp only [List.length_append, List.map_cons, List.sum_cons, List.length_cons]
      omega

/-- Every character is one of a label or a digit. -/
theorem mem_printLabeled {fields : List (List Char × UInt64)} {c : Char}
    (h : c ∈ printLabeled fields) :
    c.isDigit = true ∨ ∃ field ∈ fields, c ∈ field.1 := by
  induction fields with
  | nil => cases h
  | cons field fields ih =>
      rw [printLabeled] at h
      rcases List.mem_append.1 h with hlabel | hrest
      · exact .inr ⟨field, List.mem_cons_self, hlabel⟩
      · rcases List.mem_append.1 hrest with hdigit | hrest
        · exact .inl (isDigit_of_mem_decimal hdigit)
        · rcases ih hrest with hdigit | ⟨field', hmem, hlabel⟩
          · exact .inl hdigit
          · exact .inr ⟨field', List.mem_cons_of_mem _ hmem, hlabel⟩

end Text
