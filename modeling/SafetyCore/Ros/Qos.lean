import Mathlib.Tactic.Common

/-!
# Quality of service

A publisher offers a profile and a subscription requests one. Whether the two are connected is
decided by the middleware, which is not part of the repository: its rule is a parameter here.
`ConnectsOffered` and `RefusesVolatile` are the two halves of its documentation that matter, and
`offersAll` is the plain rule that has both.
-/

namespace SafetyCore

structure Qos where
  depth : ℕ
  reliable : Bool := true
  transientLocal : Bool := false
  deriving DecidableEq, Repr

namespace Qos

/-- What offers everything that is requested is connected. -/
def ConnectsOffered (compatible : Qos → Qos → Bool) : Prop :=
  ∀ offered requested : Qos, (requested.reliable = true → offered.reliable = true) →
    (requested.transientLocal = true → offered.transientLocal = true) →
    compatible offered requested = true

/-- Where the durability is requested, a volatile publisher is not connected. -/
def RefusesVolatile (compatible : Qos → Qos → Bool) : Prop :=
  ∀ offered requested : Qos, requested.transientLocal = true → offered.transientLocal = false →
    compatible offered requested = false

/-- The publisher offers the reliability and the durability if they are requested. -/
def offersAll (offered requested : Qos) : Bool :=
  (!requested.reliable || offered.reliable) &&
    (!requested.transientLocal || offered.transientLocal)

theorem offersAll_connectsOffered : ConnectsOffered offersAll := by
  intro offered requested hreliable hdurable
  unfold offersAll
  cases hr : requested.reliable <;> cases ht : requested.transientLocal <;> simp_all

theorem offersAll_refusesVolatile : RefusesVolatile offersAll := by
  intro offered requested hrequested hvolatile
  simp [offersAll, hrequested, hvolatile]

end Qos

namespace QosConfig

def sensorQos : Qos := { depth := 5, reliable := false }

def reliableQos : Qos := { depth := 10 }

def stateQos : Qos := reliableQos

end QosConfig

end SafetyCore
