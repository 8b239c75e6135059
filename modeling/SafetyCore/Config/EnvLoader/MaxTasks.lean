import SafetyCore.Config.EnvLoader

/-!
# The grammar of the task limit

`SAFETY_CORE_MAX_TASKS` should hold a number from 0 to 255 with an optional plus sign. A
minus sign is no error for the conversion: it negates the number modulo `2 ^ 64`, so that
digits just below `2 ^ 64` come back as a small number.
-/

namespace SafetyCore

open Arithmetic Text

/-- A numeral without a minus sign of at most 255 gives its number, and every other string
gives the default. -/
def FollowsGrammar (s : List Char) (fallback maxTasks : UInt8) : Prop :=
  (∀ n, IsNumeral false s n → n ≤ 255 → maxTasks.toNat = n) ∧
    ((∀ n, IsNumeral false s n → 255 < n) → maxTasks = fallback)

/-- If the string is a numeral with a minus sign of a number that the negation takes to at
most 255, it takes it to the default. -/
def MinusHarmless (s : List Char) (fallback : UInt8) : Prop :=
  ∀ n, IsNumeral true s n → n < 2 ^ 64 → (2 ^ 64 - n) % 2 ^ 64 ≤ 255 →
    (2 ^ 64 - n) % 2 ^ 64 = fallback.toNat

section Reading

variable {getenv : String → Option (List Char)} {s : List Char}

variable {α : Type*} [FiniteTest α] (strtod : List Char → Conversion α)
  (defaults : SystemConfig α)

theorem loadFromEnv_maxTasks_of_not_complete
    (hs : getenv "SAFETY_CORE_MAX_TASKS" = some s) (h : ¬ (strtoull s).Complete s) :
    (loadFromEnv getenv strtod defaults).maxTasks = defaults.maxTasks := by
  have hread := readUInt64_of_not_complete hs h defaults.maxTasks.toUInt64
  simp only [loadFromEnv, readUInt64Bounded, hread, ite_self, UInt8.toUInt8_toUInt64]

/-- A number that was read completely is taken over if it is at most 255. -/
theorem loadFromEnv_maxTasks_of_complete
    (hs : getenv "SAFETY_CORE_MAX_TASKS" = some s) (h : (strtoull s).Complete s) :
    (loadFromEnv getenv strtod defaults).maxTasks.toNat =
      if (strtoull s).value.toNat ≤ 255 then (strtoull s).value.toNat
      else defaults.maxTasks.toNat := by
  have hread := readUInt64_of_complete hs h defaults.maxTasks.toUInt64
  simp only [loadFromEnv, readUInt64Bounded, hread]
  by_cases hle : (strtoull s).value.toNat ≤ 255
  · have hbounds : ¬ ((strtoull s).value < 0 ∨ 255 < (strtoull s).value) := by
      simp [UInt64.lt_iff_toNat_lt, hle]
    rw [if_neg hbounds, if_pos hle, UInt64.toNat_toUInt8]
    omega
  · have hbounds : (strtoull s).value < 0 ∨ 255 < (strtoull s).value := by
      right
      rw [UInt64.lt_iff_toNat_lt]
      exact not_le.1 hle
    rw [if_pos hbounds, if_neg hle, UInt8.toUInt8_toUInt64]

/-- For every string and every default: the task limit follows the grammar exactly if no
minus sign takes the digits to a number from 0 to 255 other than the default. -/
theorem loadFromEnv_maxTasks_iff (hs : getenv "SAFETY_CORE_MAX_TASKS" = some s) :
    FollowsGrammar s defaults.maxTasks (loadFromEnv getenv strtod defaults).maxTasks ↔
      MinusHarmless s defaults.maxTasks := by
  by_cases hc : (strtoull s).Complete s
  · obtain ⟨minus, n, hn⟩ := exists_isNumeral_of_complete hc
    have hout := loadFromEnv_maxTasks_of_complete strtod defaults hs hc
    obtain ⟨hiff, hvalue⟩ := strtoull_of_isNumeral hn
    have hlt : n < 2 ^ 64 := hiff.1 hc
    rw [hvalue hlt] at hout
    cases minus with
    | false =>
        rw [signedValue_false_toNat hlt] at hout
        refine iff_of_true ⟨?_, ?_⟩ fun m hm => Bool.noConfusion (hn.unique hm).1
        · intro m hm hle
          rw [hout, (hn.unique hm).2, if_pos hle]
        · intro hbig
          rw [if_neg (not_le.2 (hbig n hn))] at hout
          exact UInt8.toNat_inj.1 hout
    | true =>
        rw [signedValue_true_toNat hlt] at hout
        have hplus : ∀ m, ¬ IsNumeral false s m :=
          fun m hm => Bool.noConfusion (hn.unique hm).1
        have hharmless : MinusHarmless s defaults.maxTasks ↔
            ((2 ^ 64 - n) % 2 ^ 64 ≤ 255 → (2 ^ 64 - n) % 2 ^ 64 = defaults.maxTasks.toNat) := by
          refine ⟨fun h => h n hn hlt, fun h m hm _ => ?_⟩
          rwa [← (hn.unique hm).2]
        have hgrammar : FollowsGrammar s defaults.maxTasks
            (loadFromEnv getenv strtod defaults).maxTasks ↔
              (loadFromEnv getenv strtod defaults).maxTasks = defaults.maxTasks :=
          ⟨fun h => h.2 fun m hm => absurd hm (hplus m),
            fun h => ⟨fun m hm => absurd hm (hplus m), fun _ => h⟩⟩
        rw [hharmless, hgrammar, ← UInt8.toNat_inj, hout]
        split
        case isTrue hle => exact ⟨fun h _ => h, fun h => h hle⟩
        case isFalse hgt => exact ⟨fun _ hle => absurd hle hgt, fun _ => rfl⟩
  · have hout := loadFromEnv_maxTasks_of_not_complete strtod defaults hs hc
    have hbig : ∀ minus n, IsNumeral minus s n → 2 ^ 64 ≤ n := by
      intro minus n hn
      by_contra hlt
      exact hc ((strtoull_of_isNumeral hn).1.2 (not_le.1 hlt))
    refine iff_of_true ⟨?_, fun _ => hout⟩ ?_
    · intro n hn hle
      have := hbig false n hn
      omega
    · intro n hn hlt
      exact absurd (hbig true n hn) (not_le.2 hlt)

end Reading

/-- An environment with one variable. -/
def maxTasksEnv (value : String) (name : String) : Option (List Char) :=
  if name = "SAFETY_CORE_MAX_TASKS" then some value.toList else none

/-- A conversion that reads nothing. -/
def noNumber (s : List Char) : Conversion ℚ := ⟨0, s, false⟩

theorem loadFromEnv_maxTasks_iff_plus_seven :
    FollowsGrammar "+7".toList 4
        (loadFromEnv (maxTasksEnv "+7") noNumber makeConfig).maxTasks ↔
      MinusHarmless "+7".toList 4 :=
  loadFromEnv_maxTasks_iff noNumber makeConfig (if_pos rfl)

/-- The digits of `2 ^ 64 - 1` with a minus sign set the limit to 1. -/
theorem loadFromEnv_maxTasks_minus :
    ¬ ∀ (getenv : String → Option (List Char)) (s : List Char)
        (strtod : List Char → Conversion ℚ) (defaults : SystemConfig ℚ),
      getenv "SAFETY_CORE_MAX_TASKS" = some s →
      FollowsGrammar s defaults.maxTasks (loadFromEnv getenv strtod defaults).maxTasks := by
  intro h
  have hgrammar := h (maxTasksEnv "-18446744073709551615") "-18446744073709551615".toList
    noNumber makeConfig (if_pos rfl)
  have hone : (loadFromEnv (maxTasksEnv "-18446744073709551615") noNumber
      (makeConfig : SystemConfig ℚ)).maxTasks = 1 := by decide +kernel
  have hminus : IsNumeral true "-18446744073709551615".toList 18446744073709551615 :=
    isNumeral_iff.2 ⟨"18446744073709551615".toList, by decide +kernel, by decide +kernel,
      List.all_eq_true.1 (by decide +kernel), by decide +kernel⟩
  have hdefault := hgrammar.2 fun n hn => Bool.noConfusion (hminus.unique hn).1
  rw [hone] at hdefault
  exact absurd hdefault (by decide)

end SafetyCore
