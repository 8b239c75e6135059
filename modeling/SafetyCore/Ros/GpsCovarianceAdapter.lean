import SafetyCore.Arithmetic.DiagonalScaling

/-!
# The GPS covariance adapter

`GpsCovarianceAdapterNode` republishes every fix with the variances on the diagonal of its
covariance multiplied, by a factor that belongs to the status of the fix. A fix without a
covariance is given one first. The minimal numbers of satellites are loaded and never read, and are
left out, as is the header of the message.
-/

namespace SafetyCore

open Arithmetic

namespace NavSatStatus

def STATUS_NO_FIX : Int8 := -1

def STATUS_FIX : Int8 := 0

def STATUS_SBAS_FIX : Int8 := 1

def STATUS_GBAS_FIX : Int8 := 2

end NavSatStatus

structure NavSatFix (α : Type*) where
  status : Int8
  latitude : α
  longitude : α
  altitude : α
  /-- The covariance by rows. -/
  positionCovariance : Fin 9 → α
  positionCovarianceType : UInt8

namespace NavSatFix

def COVARIANCE_TYPE_UNKNOWN : UInt8 := 0

def COVARIANCE_TYPE_KNOWN : UInt8 := 3

/-- The covariance as a matrix. -/
def covariance {α : Type*} (msg : NavSatFix α) : Matrix (Fin 3) (Fin 3) α :=
  .of fun i j => msg.positionCovariance (Fin.ofNat 9 (3 * i + j))

end NavSatFix

namespace GpsCovarianceAdapterNode

structure Params (α : Type*) [OfScientific α] where
  multiplierExcellent : α := 1.0
  multiplierGood : α := 2.0
  multiplierFair : α := 5.0
  multiplierPoor : α := 10.0

section Callback

variable {α : Type*} [Zero α] [Mul α] [OfScientific α] (params : Params α)

/-- A status that is not recognized counts as poor. -/
def getMultiplierForStatus (status : Int8) : α :=
  if status = NavSatStatus.STATUS_GBAS_FIX then params.multiplierExcellent
  else if status = NavSatStatus.STATUS_SBAS_FIX then params.multiplierGood
  else if status = NavSatStatus.STATUS_FIX then params.multiplierFair
  else if status = NavSatStatus.STATUS_NO_FIX then params.multiplierPoor
  else params.multiplierPoor

/-- About 5 m horizontally and 10 m vertically. -/
def baseCovariance : Fin 9 → α
  | 0 => 25.0
  | 4 => 25.0
  | 8 => 100.0
  | _ => 0.0

def onGps (msg : NavSatFix α) : NavSatFix α :=
  let multiplier := getMultiplierForStatus params msg.status
  let covariance :=
    if msg.positionCovarianceType = NavSatFix.COVARIANCE_TYPE_UNKNOWN then baseCovariance
    else msg.positionCovariance
  { msg with
    positionCovariance := fun i =>
      if i = 0 ∨ i = 4 ∨ i = 8 then covariance i * multiplier else covariance i
    positionCovarianceType := NavSatFix.COVARIANCE_TYPE_KNOWN }

end Callback

/-! ## What is published is a covariance -/

/-- The fix has a covariance, or says that it has none. -/
def WellFormed (msg : NavSatFix ℝ) : Prop :=
  msg.positionCovarianceType ≠ NavSatFix.COVARIANCE_TYPE_UNKNOWN → msg.covariance.PosSemidef

/-- The covariance that is scaled. -/
noncomputable def inputCovariance (msg : NavSatFix ℝ) : Matrix (Fin 3) (Fin 3) ℝ :=
  if msg.positionCovarianceType = NavSatFix.COVARIANCE_TYPE_UNKNOWN then
    .diagonal ![25, 25, 100]
  else
    msg.covariance

theorem posSemidef_inputCovariance {msg : NavSatFix ℝ} (hmsg : WellFormed msg) :
    (inputCovariance msg).PosSemidef := by
  unfold inputCovariance
  split_ifs with hunknown
  · refine .diagonal fun i => ?_
    fin_cases i <;> norm_num
  · exact hmsg hunknown

theorem isVariance_iff : ∀ i j : Fin 3,
    (Fin.ofNat 9 (3 * i + j) = 0 ∨ Fin.ofNat 9 (3 * i + j) = 4 ∨ Fin.ofNat 9 (3 * i + j) = 8) ↔
      i = j := by
  decide

theorem covariance_onGps (params : Params ℝ) (msg : NavSatFix ℝ) :
    (onGps params msg).covariance =
      scaleDiagonal (getMultiplierForStatus params msg.status) (inputCovariance msg) := by
  unfold onGps inputCovariance
  dsimp only
  split_ifs
  · ext i j
    fin_cases i <;> fin_cases j <;>
      simp [NavSatFix.covariance, scaleDiagonal, baseCovariance] <;> norm_num
  · ext i j
    simp only [NavSatFix.covariance, scaleDiagonal, Matrix.of_apply, isVariance_iff]

/-- No status lowers a variance. -/
structure Params.Widening (params : Params ℝ) : Prop where
  excellent : 1 ≤ params.multiplierExcellent
  good : 1 ≤ params.multiplierGood
  fair : 1 ≤ params.multiplierFair
  poor : 1 ≤ params.multiplierPoor

theorem forall_one_le_getMultiplierForStatus_iff (params : Params ℝ) :
    (∀ status, 1 ≤ getMultiplierForStatus params status) ↔ params.Widening := by
  constructor
  · intro h
    exact ⟨h NavSatStatus.STATUS_GBAS_FIX, h NavSatStatus.STATUS_SBAS_FIX,
      h NavSatStatus.STATUS_FIX, h NavSatStatus.STATUS_NO_FIX⟩
  · intro h status
    unfold getMultiplierForStatus
    split_ifs
    exacts [h.excellent, h.good, h.fair, h.poor, h.poor]

/-- A fix with three fully correlated coordinates. -/
def correlatedFix (status : Int8) : NavSatFix ℝ where
  status := status
  latitude := 0
  longitude := 0
  altitude := 0
  positionCovariance := 1
  positionCovarianceType := NavSatFix.COVARIANCE_TYPE_KNOWN

theorem covariance_correlatedFix (status : Int8) :
    (correlatedFix status).covariance = Matrix.vecMulVec 1 (star 1) := by
  ext i j
  simp [NavSatFix.covariance, correlatedFix, Matrix.vecMulVec_apply]

theorem wellFormed_correlatedFix (status : Int8) : WellFormed (correlatedFix status) := by
  intro _
  rw [covariance_correlatedFix]
  exact Matrix.posSemidef_vecMulVec_self_star 1

theorem inputCovariance_correlatedFix (status : Int8) :
    inputCovariance (correlatedFix status) = Matrix.vecMulVec 1 (star 1) := by
  have htype : (correlatedFix status).positionCovarianceType ≠
      NavSatFix.COVARIANCE_TYPE_UNKNOWN := by
    simp [correlatedFix, NavSatFix.COVARIANCE_TYPE_KNOWN, NavSatFix.COVARIANCE_TYPE_UNKNOWN]
  rw [inputCovariance, if_neg htype, covariance_correlatedFix]

/-- What is published is a covariance that contains the one of the fix, for every fix. -/
def KeepsCovariances (params : Params ℝ) : Prop :=
  ∀ msg, WellFormed msg →
    (onGps params msg).covariance.PosSemidef ∧
      ((onGps params msg).covariance - inputCovariance msg).PosSemidef

theorem keepsCovariances_iff (params : Params ℝ) : KeepsCovariances params ↔ params.Widening := by
  rw [← forall_one_le_getMultiplierForStatus_iff]
  constructor
  · intro h status
    have hfix := (h (correlatedFix status) (wellFormed_correlatedFix status)).1
    rw [covariance_onGps, inputCovariance_correlatedFix] at hfix
    exact one_le_of_posSemidef_scaleDiagonal hfix
  · intro h msg hmsg
    have hinput := posSemidef_inputCovariance hmsg
    rw [covariance_onGps]
    exact ⟨posSemidef_scaleDiagonal (h msg.status) hinput,
      posSemidef_scaleDiagonal_sub (h msg.status) hinput⟩

/-- The loaded defaults. -/
example : Params.Widening {} := by
  constructor <;> norm_num

end GpsCovarianceAdapterNode

end SafetyCore
