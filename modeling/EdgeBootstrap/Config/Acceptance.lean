import EdgeBootstrap.Config.FailClosed
import EdgeBootstrap.Config.Layers
import EdgeBootstrap.Config.Validator

/-! Which files and variables give a configuration that can be loaded and that
`ConfigValidator` accepts. The defaults are valid, so a chain is refused for a value
only when the layer that decides the key says that value. -/
namespace EdgeBootstrap
open Toml

section
variable [Platform] {deps : LoaderDeps} {env : Env} {loader : ApplicationConfigLoader}

namespace ConfigKey
variable (deps env loader)

/-- What the layer that decides the key says, if any layer does. -/
def decided (tenantFile : Option String) (k : ConfigKey) : Option k.Value :=
  match k.variable.bind env.var with
  | some v => k.ofVariable v
  | none => k.fromFiles deps env loader tenantFile

variable {deps env loader}

theorem eq_of_precedence {tenantFile : Option String} {fallback : RuntimeConfig} {k : ConfigKey}
    {x : k.Value} (precedence : k.Precedence deps env loader tenantFile fallback x) :
    x = (k.decided deps env loader tenantFile).getD (k.get fallback) := by
  unfold decided
  unfold Precedence at precedence
  cases governed : k.variable.bind env.var with
  | some v =>
    simp only [governed] at precedence
    simp only [precedence, Option.getD_some]
  | none =>
    simp only [governed] at precedence
    exact precedence

end ConfigKey

namespace ApplicationConfigLoader
variable (deps env loader)

/-- No layer that decides one of the keys the validator looks at gives it a value the
validator refuses. -/
structure NothingInvalid (tenantFile : Option String) : Prop where
  httpBind : ∀ text : String, ConfigKey.httpBind.decided deps env loader tenantFile = some text →
    Rust.trim text ≠ ""
  grpcBind : ∀ text : String, ConfigKey.grpcBind.decided deps env loader tenantFile = some text →
    Rust.trim text ≠ ""
  timeout : ConfigKey.shutdownTimeoutSecs.decided deps env loader tenantFile ≠ some (0 : UInt64)

variable {deps env loader}

/-- Over a valid fallback, the deciding layers alone make a configuration invalid. -/
theorem validate_iff_nothingInvalid {tenantFile : Option String} {fallback cfg : RuntimeConfig}
    (valid : ConfigValidator.validate fallback = .ok ())
    (decides : ∀ k : ConfigKey, k.Precedence deps env loader tenantFile fallback (k.get cfg)) :
    ConfigValidator.validate cfg = .ok () ↔ loader.NothingInvalid deps env tenantFile := by
  rw [ConfigValidator.validate_eq_ok_iff] at valid ⊢
  obtain ⟨http, grpc, timeout⟩ := valid
  have filled (decided : Option String) (fallback : String) (own : Rust.trim fallback ≠ "") :
      Rust.trim (decided.getD fallback) ≠ "" ↔ ∀ text, decided = some text → Rust.trim text ≠ "" := by
    cases decided with
    | none => simpa using own
    | some text => simp
  have positive (decided : Option UInt64) (fallback : UInt64) (own : fallback ≠ 0) :
      decided.getD fallback ≠ 0 ↔ decided ≠ some 0 := by
    cases decided with
    | none => simpa using own
    | some secs => simp
  have httpBind : cfg.httpBind = _ := ConfigKey.eq_of_precedence (decides .httpBind)
  have grpcBind : cfg.grpcBind = _ := ConfigKey.eq_of_precedence (decides .grpcBind)
  have secs : cfg.shutdownTimeoutSecs = _ := ConfigKey.eq_of_precedence (decides .shutdownTimeoutSecs)
  constructor
  · rintro ⟨http', grpc', timeout'⟩
    rw [httpBind] at http'
    rw [grpcBind] at grpc'
    rw [secs] at timeout'
    exact ⟨(filled _ _ http).mp http', (filled _ _ grpc).mp grpc', (positive _ _ timeout).mp timeout'⟩
  · rintro ⟨http', grpc', timeout'⟩
    refine ⟨?_, ?_, ?_⟩
    · rw [httpBind]
      exact (filled _ _ http).mpr http'
    · rw [grpcBind]
      exact (filled _ _ grpc).mpr grpc'
    · rw [secs]
      exact (positive _ _ timeout).mpr timeout'

/-- The defaults are valid, for every tenant. -/
theorem validate_default (tenantId : Option String) :
    ConfigValidator.validate { RuntimeConfig.default with tenantId } = .ok () := by
  rw [ConfigValidator.validate_eq_ok_iff]
  have http : Rust.trim "0.0.0.0:8080" ≠ "" := by decide
  have grpc : Rust.trim "0.0.0.0:50051" ≠ "" := by decide
  exact ⟨http, grpc, nofun⟩

/-- Loading and validating succeeds exactly when no file of the chain is broken, the
timeout variable can be parsed, and no layer that decides a bind address or the timeout
gives a blank one or a zero; for a tenant, when besides the id is well formed and there
is a file for it that is not broken, which then counts as the highest of the files. -/
theorem config_accepted_iff (deps : LoaderDeps) (env : Env) (loader : ApplicationConfigLoader) :
    ((∃ cfg, loader.load deps env = .ok cfg ∧ ConfigValidator.validate cfg = .ok ()) ↔
      ¬ loader.BrokenLayer env (readOverride deps) ∧ ¬ BadTimeout env ∧
        loader.NothingInvalid deps env none) ∧
    ∀ id, (∃ cfg, loader.loadForTenant deps env id = .ok cfg ∧ ConfigValidator.validate cfg = .ok ()) ↔
      validateTenantId id = .ok () ∧ ¬ loader.BrokenLayer env (readOverride deps) ∧
        ¬ loader.TenantRefused deps env id ∧ ¬ BadTimeout env ∧
        loader.NothingInvalid deps env (loader.tenantPath env id) := by
  constructor
  · constructor
    · rintro ⟨cfg, loaded, valid⟩
      have sound := load_fails.iff_succeeded.mp ⟨cfg, loaded⟩
      rw [not_or] at sound
      exact ⟨sound.1, sound.2, (validate_iff_nothingInvalid (validate_default none)
        (load_follows_precedence loaded)).mp valid⟩
    · rintro ⟨unbroken, parses, nothing⟩
      obtain ⟨cfg, loaded⟩ := load_fails.iff_succeeded.mpr (not_or.mpr ⟨unbroken, parses⟩)
      exact ⟨cfg, loaded, (validate_iff_nothingInvalid (validate_default none)
        (load_follows_precedence loaded)).mpr nothing⟩
  · intro id
    have unit : (¬ ∃ e, validateTenantId id = .error e) ↔ validateTenantId id = .ok () := by
      cases validateTenantId id <;> simp
    constructor
    · rintro ⟨cfg, loaded, valid⟩
      have sound := (loadForTenant_fails id).iff_succeeded.mp ⟨cfg, loaded⟩
      simp only [not_or] at sound
      obtain ⟨wellFormed, unbroken, given, parses⟩ := sound
      exact ⟨unit.mp wellFormed, unbroken, given, parses,
        (validate_iff_nothingInvalid (validate_default (some id))
          (loadForTenant_follows_precedence loaded)).mp valid⟩
    · rintro ⟨wellFormed, unbroken, given, parses, nothing⟩
      obtain ⟨cfg, loaded⟩ := (loadForTenant_fails id).iff_succeeded.mpr
        (by simp only [not_or]; exact ⟨unit.mpr wellFormed, unbroken, given, parses⟩)
      exact ⟨cfg, loaded, (validate_iff_nothingInvalid (validate_default (some id))
        (loadForTenant_follows_precedence loaded)).mpr nothing⟩

end ApplicationConfigLoader

end

end EdgeBootstrap
