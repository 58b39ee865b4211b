import EdgeBootstrap.Config.Layers

/-! The chain of directories of the XDG Base Directory specification. The loader
lists them lowest first and lets the last one win, which is the first one of the
specification's own order; a variable that is set and empty leaves it without the
directory that the specification falls back to. -/
namespace EdgeBootstrap
open Overlays

section
variable [Platform]

namespace ApplicationConfigLoader
open ConfigKey

/-- The entries of `XDG_CONFIG_DIRS` as the specification has them. -/
def xdgEntries (dirs : Option String) : List String :=
  match dirs with
  | none => ["/etc/xdg"]
  | some dirs => if dirs = "" then ["/etc/xdg"] else (Rust.split ':' dirs).filter (· ≠ "")

/-- The directories before those entries, the most important one first. -/
def ownDirs (env : Env) (appName : String) : List String :=
  (env.var "SWE_EDGE_CONFIG_DIR").toList ++ env.configDir.toList.map (Rust.joinPath · appName)

/-- The directories of the specification, the most important one first. -/
def xdgDirs (env : Env) (appName : String) : List String :=
  ownDirs env appName ++
    (xdgEntries (env.var "XDG_CONFIG_DIRS")).map (Rust.joinPath · appName)

/-- What the first of these directories sets a key to. -/
def xdgValue (deps : LoaderDeps) (env : Env) (appName : String) (k : ConfigKey) : k.Value :=
  ((xdgDirs env appName).findSome? fun dir => k.setAt deps env (applicationFile dir)).getD
    (k.get .default)

variable {deps : LoaderDeps} {env : Env} {appName : String} {cfg : RuntimeConfig}

omit [Platform] in
/-- The loader's chain, from its end. -/
theorem reverse_xdg (env : Env) (appName : String) :
    (xdg env appName).configDirs.reverse = ownDirs env appName ++
      ((Rust.split ':' ((env.var "XDG_CONFIG_DIRS").getD "/etc/xdg")).filter (· ≠ "")).map
        (Rust.joinPath · appName) := by
  have single (dir : Option String) : dir.toList.reverse = dir.toList := by cases dir <;> rfl
  simp only [xdg, ownDirs, List.reverse_append, List.filter_reverse, List.reverse_reverse, single,
    List.append_assoc, ← List.map_reverse]

omit [Platform] in
/-- The chain is the specification's, unless the variable is set and empty. -/
theorem reverse_xdg_eq_xdgDirs (given : env.var "XDG_CONFIG_DIRS" ≠ some "") :
    (xdg env appName).configDirs.reverse = xdgDirs env appName := by
  rw [reverse_xdg, xdgDirs]
  cases var : env.var "XDG_CONFIG_DIRS" with
  | none =>
    have whole : (Rust.split ':' "/etc/xdg").filter (· ≠ "") = ["/etc/xdg"] := by decide
    simp only [xdgEntries, Option.getD_none, whole]
  | some dirs =>
    have filled : dirs ≠ "" := by
      rintro rfl
      exact given var
    simp only [xdgEntries, Option.getD_some, if_neg filled]

/-- Without variables of its own, a load leaves a key as the last directory that
sets it. -/
theorem get_load {loader : ApplicationConfigLoader}
    (unset : ∀ name : String, "SWE_EDGE_".toList <+: name.toList → name ≠ "SWE_EDGE_CONFIG_DIR" →
      env.var name = none)
    (loaded : loader.load deps env = .ok cfg) (k : ConfigKey) :
    k.get cfg = (loader.configDirs.reverse.findSome? fun dir =>
      k.setAt deps env (applicationFile dir)).getD (k.get .default) := by
  unfold load at loaded
  obtain ⟨based, base, applied⟩ := Except.bind_eq_ok.mp loaded
  have ungoverned : k.variable.bind env.var = none := by
    have free (name : String) (own : "SWE_EDGE_".toList.isPrefixOf name.toList = true)
        (other : name ≠ "SWE_EDGE_CONFIG_DIR") : env.var name = none :=
      unset name (List.isPrefixOf_iff_prefix.mp own) other
    cases k with
    | serviceName => exact free "SWE_EDGE_SERVICE_NAME" (by decide) (by decide)
    | httpBind => exact free "SWE_EDGE_HTTP_BIND" (by decide) (by decide)
    | grpcBind => exact free "SWE_EDGE_GRPC_BIND" (by decide) (by decide)
    | shutdownTimeoutSecs => exact free "SWE_EDGE_SHUTDOWN_TIMEOUT" (by decide) (by decide)
    | systemdNotify => exact free "SWE_EDGE_SYSTEMD_NOTIFY" (by decide) (by decide)
    | tenantId => exact free "SWE_EDGE_TENANT_ID" (by decide) (by decide)
    | _ => rfl
  have kept := get_applyEnv applied k
  simp only [ungoverned] at kept
  rw [kept, get_base base k, findSome?_reverse]

/-- A key has the value of the first directory of the specification that sets
it, unless `XDG_CONFIG_DIRS` is set and empty, no directory before its entries
sets the key, and the file in `/etc/xdg` sets it to something else than its
default. -/
theorem xdg_precedence_iff (deps : LoaderDeps) (env : Env) (appName : String)
    (unset : ∀ name : String, "SWE_EDGE_".toList <+: name.toList → name ≠ "SWE_EDGE_CONFIG_DIR" →
      env.var name = none)
    (loaded : (xdg env appName).load deps env = .ok cfg) (k : ConfigKey) :
    k.get cfg = xdgValue deps env appName k ↔
      (env.var "XDG_CONFIG_DIRS" = some "" →
        (∀ dir ∈ ownDirs env appName, k.setAt deps env (applicationFile dir) = none) →
        ∀ x, k.setAt deps env (applicationFile (Rust.joinPath "/etc/xdg" appName)) = some x →
          x = k.get .default) := by
  rw [get_load unset loaded k, xdgValue]
  by_cases given : env.var "XDG_CONFIG_DIRS" = some ""
  · have nothing : (Rust.split ':' "").filter (· ≠ "") = [] := by decide
    simp only [reverse_xdg, xdgDirs, given, xdgEntries, Option.getD_some, nothing, if_true, List.map_nil,
      List.append_nil, List.map_cons, List.findSome?_append, true_implies]
    cases own : (ownDirs env appName).findSome? fun dir => k.setAt deps env (applicationFile dir) with
    | some x =>
      obtain ⟨dir, member, set⟩ := List.exists_of_findSome?_eq_some own
      constructor
      · intro _ silent
        rw [silent dir member] at set
        cases set
      · intro _
        rfl
    | none =>
      have silent : ∀ dir ∈ ownDirs env appName, k.setAt deps env (applicationFile dir) = none :=
        List.findSome?_eq_none_iff.mp own
      cases system : k.setAt deps env (applicationFile (Rust.joinPath "/etc/xdg" appName)) with
      | none => simp [system]
      | some x =>
        simp only [system, List.findSome?_cons, Option.none_or, Option.getD_none, Option.getD_some,
          Option.some.injEq, forall_eq']
        exact ⟨fun same _ => same.symm, fun same => (same silent).symm⟩
  · rw [reverse_xdg_eq_xdgDirs given]
    exact iff_of_true rfl fun empty => absurd empty given

end ApplicationConfigLoader

end

section Reference
open ApplicationConfigLoader

attribute [local instance] Platform.reference

private theorem unset_of_dirs {files : List (String × String)} {dirs : String} (name : String)
    (own : "SWE_EDGE_".toList <+: name.toList) :
    (Env.holding files [("XDG_CONFIG_DIRS", dirs)]).var name = none := by
  have other : name ≠ "XDG_CONFIG_DIRS" := by
    rintro rfl
    exact absurd own (by decide)
  have differs : (name == "XDG_CONFIG_DIRS") = false := by simpa using other
  simp [Env.holding, List.lookup_cons, differs]

/-- Two system directories with an empty segment between them. -/
def systemEnv : Env := .holding
  [("/etc/site/edge/application.toml", "service_name = \"edge\"\n"),
    ("/etc/vendor/edge/application.toml", "http_bind = \"0.0.0.0:80\"\n")]
  [("XDG_CONFIG_DIRS", "/etc/site::/etc/vendor")]

theorem xdg_precedence_iff_segments :
    let cfg := { RuntimeConfig.default with serviceName := "edge", httpBind := "0.0.0.0:80" }
    (xdg systemEnv "edge").load (.parsing serviceDocuments) systemEnv = .ok cfg ∧
      ConfigKey.serviceName.get cfg =
        xdgValue (.parsing serviceDocuments) systemEnv "edge" .serviceName := by
  intro cfg
  have loaded : (xdg systemEnv "edge").load (.parsing serviceDocuments) systemEnv = .ok cfg := rfl
  refine ⟨loaded, ?_⟩
  refine (xdg_precedence_iff (.parsing serviceDocuments) systemEnv "edge"
    (fun name own _ => unset_of_dirs name own) loaded .serviceName).mpr fun empty => ?_
  exact absurd empty (by decide)

/-- The variable is set and empty: the file in `/etc/xdg` is not read. -/
theorem empty_variable_hides_default_dir :
    let env := Env.holding [("/etc/xdg/edge/application.toml", "service_name = \"edge\"\n")]
      [("XDG_CONFIG_DIRS", "")]
    (∀ name : String, "SWE_EDGE_".toList <+: name.toList → env.var name = none) ∧
      (xdg env "edge").load (.parsing serviceDocuments) env = .ok .default ∧
      xdgValue (.parsing serviceDocuments) env "edge" .serviceName = "edge" ∧
      ConfigKey.serviceName.get .default ≠
        xdgValue (.parsing serviceDocuments) env "edge" .serviceName := by
  intro env
  refine ⟨fun name own => unset_of_dirs name own, rfl, rfl, ?_⟩
  intro same
  exact absurd (show RuntimeConfig.default.serviceName = "edge" from same) (by decide)

end Reference

end EdgeBootstrap
