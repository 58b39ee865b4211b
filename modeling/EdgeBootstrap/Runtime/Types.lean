/-! The vocabulary of the runtime port: its status, its errors and its health
report. -/
namespace EdgeBootstrap

inductive RuntimeStatus
  | starting | running | stopping | stopped | degraded
  deriving DecidableEq, Repr

def RuntimeStatus.isHealthy (s : RuntimeStatus) : Bool := s = .running

inductive RuntimeError
  | startFailed (msg : String)
  | shutdownFailed (msg : String)
  | bindFailed (msg : String)
  | internal (msg : String)
  | shutdownTimeout (secs : UInt64)
  | broker (msg : String)
  | scheduler (msg : String)
  deriving DecidableEq, Repr

/-- `ComponentHealth` of the runtime port. -/
structure ComponentHealth where
  name : String
  healthy : Bool
  detail : Option String
  deriving DecidableEq, Repr

/-- `ComponentHealth::healthy`. -/
def ComponentHealth.ofHealthy (name : String) : ComponentHealth := ⟨name, true, none⟩

/-- `ComponentHealth::unhealthy`. -/
def ComponentHealth.ofUnhealthy (name detail : String) : ComponentHealth := ⟨name, false, some detail⟩

structure RuntimeHealth where
  status : RuntimeStatus
  components : List ComponentHealth
  uptimeSecs : UInt64
  deriving DecidableEq, Repr

def RuntimeHealth.isHealthy (h : RuntimeHealth) : Bool :=
  h.status.isHealthy && h.components.all (·.healthy)

theorem RuntimeHealth.not_isHealthy_of_mem {h : RuntimeHealth} {c : ComponentHealth}
    (member : c ∈ h.components) (sick : c.healthy = false) : h.isHealthy = false := by
  have some_sick : h.components.all (·.healthy) = false := by
    rw [List.all_eq_false]
    exact ⟨c, member, by simp [sick]⟩
  simp [isHealthy, some_sick]

end EdgeBootstrap
