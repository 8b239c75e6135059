import Mathlib.Data.List.TakeWhile
import SafetyCore.Text.Conversion

/-!
# Numerals

`IsNumeral` is the grammar that `strtoull` reads: white space, a sign, decimal digits.
A numeral determines its sign and its number, and the conversion of a whole string
succeeds exactly on the numerals of numbers that fit into 64 bits.
-/

namespace Text

/-- A minus, or no minus. -/
def IsSign (minus : Bool) (sign : List Char) : Prop :=
  if minus then sign = ['-'] else sign = [] ∨ sign = ['+']

/-- The string is white space, a sign and decimal digits that denote `n`. -/
def IsNumeral (minus : Bool) (s : List Char) (n : ℕ) : Prop :=
  ∃ space sign digits, s = space ++ (sign ++ digits) ∧ (∀ c ∈ space, isSpace c = true) ∧
    IsSign minus sign ∧ digits ≠ [] ∧ (∀ c ∈ digits, c.isDigit = true) ∧
    digitsValue digits = n

theorem isSpace_of_isDigit {c : Char} (h : c.isDigit = true) : isSpace c = false := by
  simp only [Char.isDigit, isSpace, Char.le_def, UInt32.le_iff_toNat_le, ge_iff_le,
    Bool.and_eq_true, Bool.or_eq_false_iff, Bool.and_eq_false_iff, decide_eq_true_eq,
    decide_eq_false_iff_not] at *
  constructor
  · rintro rfl
    simp at h
  · simp at h ⊢
    omega

/-! ## Signs -/

theorem isSign_splitSign (body : List Char) :
    ∃ sign, body = sign ++ (splitSign body).2 ∧ IsSign (splitSign body).1 sign := by
  unfold splitSign
  split
  · exact ⟨['+'], rfl, .inr rfl⟩
  · exact ⟨['-'], rfl, rfl⟩
  · exact ⟨[], rfl, .inl rfl⟩

theorem splitSign_append {minus : Bool} {sign digits : List Char} (hsign : IsSign minus sign)
    (hne : digits ≠ []) (hdigits : ∀ c ∈ digits, c.isDigit = true) :
    splitSign (sign ++ digits) = (minus, digits) := by
  cases minus with
  | true =>
      cases (hsign : sign = ['-'])
      rfl
  | false =>
      rcases (hsign : sign = [] ∨ sign = ['+']) with rfl | rfl
      · obtain ⟨c, cs, rfl⟩ := List.exists_cons_of_ne_nil hne
        have hc := hdigits c List.mem_cons_self
        have hplus : c ≠ '+' := by
          rintro rfl
          exact absurd hc (by decide)
        have hminus : c ≠ '-' := by
          rintro rfl
          exact absurd hc (by decide)
        rw [List.nil_append, splitSign.eq_3]
        · rintro s ⟨⟩
          exact hplus rfl
        · rintro s ⟨⟩
          exact hminus rfl
      · rfl

/-- What follows the white space of a numeral does not start with white space. -/
theorem dropWhile_isSpace {minus : Bool} {space sign digits : List Char}
    (hspace : ∀ c ∈ space, isSpace c = true) (hsign : IsSign minus sign)
    (hne : digits ≠ []) (hdigits : ∀ c ∈ digits, c.isDigit = true) :
    (space ++ (sign ++ digits)).dropWhile isSpace = sign ++ digits := by
  rw [List.dropWhile_append_of_pos hspace]
  cases minus with
  | true =>
      cases (hsign : sign = ['-'])
      rfl
  | false =>
      rcases (hsign : sign = [] ∨ sign = ['+']) with rfl | rfl
      · obtain ⟨c, cs, rfl⟩ := List.exists_cons_of_ne_nil hne
        simp [isSpace_of_isDigit (hdigits c List.mem_cons_self)]
      · rfl

/-- Reading a numeral recovers its sign and its digits. -/
theorem isNumeral_iff {minus : Bool} {s : List Char} {n : ℕ} :
    IsNumeral minus s n ↔
      ∃ digits, splitSign (s.dropWhile isSpace) = (minus, digits) ∧ digits ≠ [] ∧
        (∀ c ∈ digits, c.isDigit = true) ∧ digitsValue digits = n := by
  constructor
  · rintro ⟨space, sign, digits, rfl, hspace, hsign, hne, hdigits, hvalue⟩
    refine ⟨digits, ?_, hne, hdigits, hvalue⟩
    rw [dropWhile_isSpace hspace hsign hne hdigits, splitSign_append hsign hne hdigits]
  · rintro ⟨digits, hsplit, hne, hdigits, hvalue⟩
    obtain ⟨sign, hbody, hsign⟩ := isSign_splitSign (s.dropWhile isSpace)
    rw [hsplit] at hbody hsign
    refine ⟨s.takeWhile isSpace, sign, digits, ?_, ?_, hsign, hne, hdigits, hvalue⟩
    · rw [← hbody, List.takeWhile_append_dropWhile]
    · exact fun c hc => List.mem_takeWhile_imp hc

/-- The sign and the number of a numeral are its own. -/
theorem IsNumeral.unique {minus minus' : Bool} {s : List Char} {n n' : ℕ}
    (h : IsNumeral minus s n) (h' : IsNumeral minus' s n') : minus = minus' ∧ n = n' := by
  obtain ⟨digits, hsplit, -, -, hvalue⟩ := isNumeral_iff.1 h
  obtain ⟨digits', hsplit', -, -, hvalue'⟩ := isNumeral_iff.1 h'
  cases hsplit.symm.trans hsplit'
  exact ⟨rfl, hvalue.symm.trans hvalue'⟩

/-! ## The conversion -/

/-- The whole string was read, and the number was in range. -/
def Conversion.Complete {β : Type*} (parsed : Conversion β) (s : List Char) : Prop :=
  parsed.rest ≠ s ∧ parsed.rest = [] ∧ parsed.erange = false

/-- The value that the conversion has for a numeral. -/
def signedValue (minus : Bool) (n : ℕ) : UInt64 :=
  if minus then -UInt64.ofNat n else UInt64.ofNat n

theorem signedValue_false_toNat {n : ℕ} (h : n < 2 ^ 64) :
    (signedValue false n).toNat = n := by
  rw [signedValue, if_neg Bool.false_ne_true, UInt64.toNat_ofNat']
  exact Nat.mod_eq_of_lt h

theorem signedValue_true_toNat {n : ℕ} (h : n < 2 ^ 64) :
    (signedValue true n).toNat = (2 ^ 64 - n) % 2 ^ 64 := by
  rw [signedValue, if_pos rfl, UInt64.toNat_neg, UInt64.toNat_ofNat', Nat.mod_eq_of_lt h]
  rfl

/-- A numeral is read completely exactly if its digits denote a number below `2 ^ 64`. -/
theorem strtoull_of_isNumeral {minus : Bool} {s : List Char} {n : ℕ}
    (h : IsNumeral minus s n) :
    ((strtoull s).Complete s ↔ n < 2 ^ 64) ∧
      (n < 2 ^ 64 → (strtoull s).value = signedValue minus n) := by
  obtain ⟨digits, hsplit, hne, hdigits, rfl⟩ := isNumeral_iff.1 h
  have htake : digits.takeWhile Char.isDigit = digits := List.takeWhile_eq_self_iff.2 hdigits
  have hdrop : digits.dropWhile Char.isDigit = [] := List.dropWhile_eq_nil_iff.2 hdigits
  have hs : s ≠ [] := by
    rintro rfl
    exact hne (Prod.mk.inj hsplit).2.symm
  unfold strtoull
  simp only [hsplit, htake, hdrop, hne, if_false]
  by_cases hlt : digitsValue digits < 2 ^ 64
  · rw [if_neg (by omega)]
    exact ⟨iff_of_true ⟨hs.symm, rfl, rfl⟩ hlt, fun _ => rfl⟩
  · rw [if_pos (by omega)]
    exact ⟨iff_of_false (fun hc => Bool.noConfusion hc.2.2) hlt, fun hc => absurd hc hlt⟩

/-- Nothing but a numeral is read completely. -/
theorem exists_isNumeral_of_complete {s : List Char} (h : (strtoull s).Complete s) :
    ∃ minus n, IsNumeral minus s n := by
  obtain ⟨hne, hrest, -⟩ := h
  obtain ⟨minus, body, hsplit⟩ : ∃ minus body,
      splitSign (s.dropWhile isSpace) = (minus, body) := ⟨_, _, rfl⟩
  unfold strtoull at hne hrest
  simp only [hsplit] at hne hrest
  by_cases hdigits : body.takeWhile Char.isDigit = []
  · rw [if_pos hdigits] at hne
    exact absurd rfl hne
  · have hdrop : body.dropWhile Char.isDigit = [] := by
      rw [if_neg hdigits] at hrest
      split at hrest <;> exact hrest
    have hbody : body ≠ [] := by
      rintro rfl
      exact hdigits rfl
    exact ⟨minus, digitsValue body,
      isNumeral_iff.2 ⟨body, hsplit, hbody, List.dropWhile_eq_nil_iff.1 hdrop, rfl⟩⟩

end Text
