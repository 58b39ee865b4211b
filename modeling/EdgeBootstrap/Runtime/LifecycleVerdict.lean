import EdgeBootstrap.Runtime.Manager

/-! What the verdict of the lifecycle monitor does to the health of the runtime.
The manager keeps the components of the monitor's report and drops its overall
status, also the one it puts in for a monitor that fails; so only a component can
make the runtime unhealthy. -/
namespace EdgeBootstrap

/-- The report is of something that is not healthy, as a whole or in a part. -/
def HealthResponse.Sick (report : HealthResponse) : Prop :=
  report.overall ≠ .healthy ∨ ∃ c ∈ report.components, c.status ≠ .healthy

/-- The monitor fails to report, or reports something sick. -/
def ReportsSick (result : Except String HealthResponse) : Prop :=
  ∀ report, result = .ok report → report.Sick

/-- The monitor names a sick component. -/
def NamesSick (result : Except String HealthResponse) : Prop :=
  ∃ report, result = .ok report ∧ ∃ c ∈ report.components, c.status ≠ .healthy

section
variable [Platform] {σ α : Type}

namespace DefaultRuntimeManager

variable {self : DefaultRuntimeManager σ α} {now : UInt64}

/-- The runtime is healthy when it is running and every component reported or
probed is healthy. -/
theorem isHealthy_health_iff : (self.health now).isHealthy = true ↔
    self.status = .running ∧ (∀ c ∈ self.report.components, c.status = .healthy) ∧
      ∀ c ∈ self.probed, c.healthy = true := by
  have reported : ∀ c, (ComponentHealth.ofReported c).healthy = true ↔ c.status = .healthy := by
    intro c
    rw [← not_iff_not, Bool.not_eq_true, ComponentHealth.ofReported_unhealthy]
  unfold RuntimeHealth.isHealthy RuntimeStatus.isHealthy
  rw [Bool.and_eq_true, decide_eq_true_iff, List.all_eq_true]
  refine and_congr_right fun _ => ?_
  simp only [mem_health, or_imp, forall_and, forall_exists_index, and_imp,
    forall_apply_eq_imp_iff₂, reported]

/-- A sick component in the monitor's report makes the runtime unhealthy. -/
theorem not_isHealthy_of_namesSick (names : NamesSick self.lifecycle.health) :
    (self.health now).isHealthy = false := by
  obtain ⟨report, reports, c, member, sick⟩ := names
  rw [← Bool.not_eq_true, isHealthy_health_iff]
  rintro ⟨_, healthy, _⟩
  have same : self.report = report := by simp [DefaultRuntimeManager.report, reports]
  exact sick (healthy c (same ▸ member))

/-- A new manager whose transports are healthy and whose monitor answers its
health call with `result`. -/
def watchedBy (σ α : Type) (result : Except String HealthResponse) : DefaultRuntimeManager σ α where
  config := {}
  ingress := ⟨some ⟨fun _ => pure (.ok (.new 200 [])), .ok ⟨true, none⟩⟩, none⟩
  egress := ⟨.ok (), none⟩
  lifecycle := ⟨.ok (), result, .ok ()⟩

variable (σ α now) in
/-- Once started, it is healthy as long as the monitor names no sick component. -/
theorem isHealthy_watchedBy {result : Except String HealthResponse} (unnamed : ¬ NamesSick result) :
    let started := ((watchedBy σ α result).start now).2
    started.status = .running ∧ started.lifecycle.health = result ∧
      (started.health now).isHealthy = true := by
  refine ⟨rfl, rfl, ?_⟩
  rw [isHealthy_health_iff]
  refine ⟨rfl, ?_, ?_⟩
  · cases result with
    | error e => simp [watchedBy, start, DefaultRuntimeManager.report, Ingress.hasAny]
    | ok report =>
      intro c member
      by_cases healthy : c.status = .healthy
      · exact healthy
      · exact absurd ⟨report, rfl, c, member, healthy⟩ unnamed
  · simp [watchedBy, start, Ingress.hasAny, probed, ComponentHealth.ofHealthy]

end DefaultRuntimeManager

variable (σ α) in
/-- A sick answer of the monitor makes every running manager unhealthy, whatever its
transports report, exactly when the answer is not sick or names a sick component. -/
theorem sick_monitor_noticed_iff (result : Except String HealthResponse) :
    (ReportsSick result → ∀ (self : DefaultRuntimeManager σ α) (now : UInt64),
      self.status = .running → self.lifecycle.health = result →
        (self.health now).isHealthy = false) ↔
      ¬ ReportsSick result ∨ NamesSick result := by
  constructor
  · intro noticed
    by_cases sick : ReportsSick result
    · by_cases names : NamesSick result
      · exact .inr names
      · obtain ⟨running, watched, healthy⟩ :=
          DefaultRuntimeManager.isHealthy_watchedBy σ α 0 names
        rw [noticed sick _ 0 running watched] at healthy
        cases healthy
    · exact .inl sick
  · rintro (well | names) sick self now _ watched
    · exact absurd sick well
    · exact DefaultRuntimeManager.not_isHealthy_of_namesSick (watched ▸ names)

end

section Reference

attribute [local instance] Platform.reference

/-- A monitor that cannot be asked, and a runtime that says it is healthy. -/
theorem failing_monitor_goes_unnoticed :
    let result : Except String HealthResponse := .error "monitor is down"
    let started := ((DefaultRuntimeManager.watchedBy Unit Unit result).start 0).2
    ReportsSick result ∧ started.status = .running ∧ started.lifecycle.health = result ∧
      (started.health 0).isHealthy = true := by
  refine ⟨fun report other => ?_, rfl, rfl, rfl⟩
  cases other

end Reference

end EdgeBootstrap
