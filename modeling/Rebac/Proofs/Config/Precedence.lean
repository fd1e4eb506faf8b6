import Rebac.Proofs.Config.VariableFile
import Rebac.Proofs.Config.Variables

namespace Rebac.Config

open Rebac.Record

/-!
# Which source a setting comes from

The settings that a process starts with, one by one. The variables of the process and those that the file
of variables adds are one source, which has priority over the file of settings.

* `readGroup_of_startup` — the settings are read from the variables laid over the file.
* `Settled` — what the value of a setting is, given the variables and the file.
* `settings_by_source` — **each setting of a process that starts is settled**.
* `file_not_above_variable_file` — the file of settings has no priority over the file of variables.
-/

variable {files : String → Option String} {environment : List Variable} {c : Config}

/-! ### Reading the sources -/

/-- The settings are told apart by their names. -/
theorem readable_settings : (Record.fields Config).Readable := by decide

/-- The tables of a file have their names in ascending order. -/
theorem orderly_fileTree {path : String} {text : Option String} {file : Tree}
    (h : fileTree path text = .ok file) : file.Orderly := by
  unfold fileTree at h
  split at h
  · cases h
    exact ⟨List.Pairwise.nil, trivial⟩
  · split at h
    · cases h
      exact Tree.orderly_ofEntries _ [] _ ⟨List.Pairwise.nil, trivial⟩
    · cases h

/-- The settings are read from the variables laid over the file. -/
theorem readGroup_of_startup {vs : List Variable} (hvs : withFileVariables files environment = vs)
    (loaded : startup files environment = .ok c) :
    ∃ file, fileTree (pathOf vs) (files (plainPath (pathOf vs))) = .ok file
      ∧ readGroup (Record.title Config) (Record.fields Config) (putNamed _) (readListed _ 0)
        (file.merge (Tree.ofVariables vs)) = .ok (Record.unpack c) := by
  unfold startup load at loaded
  dsimp only at loaded
  rw [hvs] at loaded
  obtain ⟨file, hfile, loaded⟩ := bind_eq_ok_iff.mp loaded
  obtain ⟨fields, hfields, hpack⟩ := bind_eq_ok_iff.mp (mapError_eq_ok_iff.mp loaded)
  cases hpack
  refine ⟨file, hfile, ?_⟩
  rw [Record.unpack_pack]
  rw [readShape] at hfields
  exact hfields

/-! ### Setting by setting -/

/-- What the value of a setting is, given all variables and what the file says. -/
structure Settled (vs : List Variable) (file : Tree) {fs : Fields} {sh : Shape} (k : Setting fs sh)
    (value : sh.Carrier) : Prop where
  /-- The last variable that mentions the setting gives it, if it has the name of the setting. -/
  named : ∀ before v after, vs = before ++ v :: after → variablePath? v.1 = some k.path →
    (∀ w ∈ after, ¬ k.MentionedBy w) → readShape sh (Tree.ofVariable v.2) = .ok value
  /-- A setting that no variable mentions has what the file gives, or else its default, if the sections
      in which it stands are tables there. -/
  unmentioned : (∀ v ∈ vs, ¬ k.MentionedBy v) → k.Open file → Valued sh (k.given? file) value
  /-- What all variables together give is the value. -/
  given : ∀ x, k.given? (Tree.ofVariables vs) = some x → readShape sh x = .ok value
  /-- What they do not give has its default if they replace a section in which it stands. -/
  replaced : k.given? (Tree.ofVariables vs) = none → k.Replaced file (Tree.ofVariables vs) →
    value = sh.default
  /-- What they do not give has what the file gives, or else its default, if they replace no section in
      which it stands. -/
  kept : k.given? (Tree.ofVariables vs) = none → ¬ k.Replaced file (Tree.ofVariables vs) →
    Valued sh (k.given? file) value

/-- What is read from variables laid over a file is settled. -/
theorem settled_of_read {title : String} {fs : Fields} {sh : Shape} (k : Setting fs sh)
    {vs : List Variable} {file : Tree} {record : fs.Carrier} (hreadable : fs.Readable)
    (hfile : file.Orderly)
    (h : readGroup title fs (putNamed fs) (readListed fs 0) (file.merge (Tree.ofVariables vs))
      = .ok record) : Settled vs file k (k.get record) := by
  obtain ⟨hgiven, hreplaced, hkept⟩ :=
    valued_of_merge k hreadable hfile (Tree.orderly_ofVariables vs) h
  refine ⟨fun before v after hvs hpath hafter => ?_, fun hnone hopen => ?_, hgiven, hreplaced, hkept⟩
  · -- Variables before it may have left a section there, but then the value could not be read.
    obtain ⟨x, hx, hread⟩ := Setting.ofVariables_of_last hpath hafter
    exact hread _ (hgiven x (hvs ▸ hx))
  · obtain ⟨hvariables, hnothing⟩ := Setting.ofVariables_of_unmentioned hnone
    exact hkept hnothing (hopen.not_replaced hvariables)

/-- **Each setting of a process that starts is settled** by the variables of the process, the variables
    that the file of variables adds for names that the process has not set, and the file of settings. -/
theorem settings_by_source (loaded : startup files environment = .ok c) :
    ∃ added file, withFileVariables files environment = environment ++ added
      ∧ (∀ v, v ∈ added ↔ valueOf? v.1 environment = none
        ∧ valueOf? v.1 (fileVariables files environment) = some v.2)
      ∧ fileTree (pathOf (environment ++ added))
        (files (plainPath (pathOf (environment ++ added)))) = .ok file
      ∧ ∀ {sh : Shape} (k : Setting (Record.fields Config) sh),
        Settled (environment ++ added) file k (k.get (Record.unpack c)) := by
  obtain ⟨added, hadded, hmem⟩ := withFileVariables_eq files environment
  obtain ⟨file, hfile, hread⟩ := readGroup_of_startup hadded loaded
  refine ⟨added, file, hadded, hmem, hfile, fun k => ?_⟩
  exact settled_of_read k readable_settings (orderly_fileTree hfile) hread

/-- A file of settings with a limit and a host, and a file of variables with another limit and a port. -/
def twoLimits : String → Option String := fun name =>
  if name = defaultPath then some "[server]\nrate_limit = 1\nhost = \"::1\"\n"
  else if name = variableFileName then
    some "PERMIFY_SERVER__RATE_LIMIT=2\nPERMIFY_SERVER__GRPC__PORT=3\n"
  else none

/-- A process that sets the port only. -/
def portOnly : List Variable := [("PERMIFY_SERVER__GRPC__PORT", "4")]

def hostSetting : Setting (Record.fields Config) (.one .text "0.0.0.0") :=
  .inside "server" (.here "host" rfl)

def rateLimitSetting : Setting (Record.fields Config) (.one (.integer .u64) (10000 : UInt64)) :=
  .inside "server" (.there (.here "rate_limit" rfl))

def grpcPortSetting : Setting (Record.fields Config) (.one (.integer .u16) (3478 : UInt16)) :=
  .inside "server" (.there (.there (.inside "grpc" (.here "port" rfl))))

theorem startup_twoLimits :
    ∃ c, startup twoLimits portOnly = .ok c ∧ rateLimitSetting.get (Record.unpack c) = 2 := by
  have hstarts : (startup twoLimits portOnly).toOption.map (·.server.rateLimit) = some 2 := by
    decide +kernel
  obtain ⟨c, hc, hlimit⟩ := Option.map_eq_some_iff.mp hstarts
  exact ⟨c, toOption_eq_some_iff.mp hc, hlimit⟩

/-- The process gives the port, above the file of variables; the file of variables gives the limit, above
    the file of settings; the file of settings gives the host, which no variable mentions. -/
theorem settings_by_source_limits : ∃ c : Config, startup twoLimits portOnly = .ok c
    ∧ c.server.grpc.port = 4 ∧ c.server.rateLimit = 2 ∧ c.server.host = "::1" := by
  obtain ⟨c, loaded, -⟩ := startup_twoLimits
  obtain ⟨added, file, hadded, -, hfile, hsettled⟩ := settings_by_source loaded
  have hvs : portOnly ++ added = portOnly ++ [("PERMIFY_SERVER__RATE_LIMIT", "2")] :=
    hadded.symm.trans (by decide +kernel)
  rw [hvs] at hfile hsettled
  refine ⟨c, loaded, ?_, ?_, ?_⟩
  · -- The port is named by the process, and by no variable after it.
    have hread := (hsettled grpcPortSetting).named [] _ _ rfl (by decide +kernel) (by decide +kernel)
    have hport : (readShape (.one (.integer .u16) (3478 : UInt16)) (Tree.ofVariable "4")).toOption
      = some 4 := by decide +kernel
    rw [toOption_eq_some_iff.mp hport] at hread
    exact (Except.ok.inj hread).symm
  · -- The limit is named by the file of variables only.
    have hread := (hsettled rateLimitSetting).named [_] _ [] rfl (by decide +kernel) (by simp)
    have hlimit : (readShape (.one (.integer .u64) (10000 : UInt64)) (Tree.ofVariable "2")).toOption
      = some 2 := by decide +kernel
    rw [toOption_eq_some_iff.mp hlimit] at hread
    exact (Except.ok.inj hread).symm
  · -- No variable names the host, so that it is the one of the settings file at the default path.
    have hpath : pathOf (portOnly ++ [("PERMIFY_SERVER__RATE_LIMIT", "2")]) = defaultPath
        ∧ plainPath defaultPath = defaultPath := by decide +kernel
    rw [hpath.1, hpath.2] at hfile
    have hfound : ((fileTree defaultPath (twoLimits defaultPath)).toOption.bind fun file =>
        if hostSetting.Open file then (hostSetting.given? file).bind fun x =>
          (readShape (.one .text "0.0.0.0") x).toOption
        else none) = some "::1" := by decide +kernel
    rw [toOption_eq_some_iff.mpr hfile, Option.bind_some] at hfound
    split at hfound
    · next hopen =>
      obtain ⟨x, hx, hhost⟩ := Option.bind_eq_some_iff.mp hfound
      have hread := (hsettled hostSetting).unmentioned (by decide +kernel) hopen
      rw [hx] at hread
      exact Except.ok.inj (hread.symm.trans (toOption_eq_some_iff.mp hhost))
    · cases hfound

/-- **The file of settings has no priority over the file of variables**: a setting that the process does not
    set need not have what the file of settings gives for it. -/
theorem file_not_above_variable_file : ¬ ∀ (files : String → Option String)
    (environment : List Variable) (c : Config) (file : Tree) (sh : Shape)
    (k : Setting (Record.fields Config) sh) (x : Tree), startup files environment = .ok c →
      fileTree (pathOf environment) (files (plainPath (pathOf environment))) = .ok file →
      (∀ v ∈ environment, ¬ k.MentionedBy v) → k.given? file = some x →
      readShape sh x = .ok (k.get (Record.unpack c)) := by
  intro h
  obtain ⟨c, hc, htwo⟩ := startup_twoLimits
  have hgiven : ((fileTree (pathOf portOnly) (twoLimits (plainPath (pathOf portOnly)))).toOption.bind
      fun file => (rateLimitSetting.given? file).bind fun x =>
        (readShape (.one (.integer .u64) (10000 : UInt64)) x).toOption) = some 1 := by decide +kernel
  obtain ⟨file, hfile, hgiven⟩ := Option.bind_eq_some_iff.mp hgiven
  obtain ⟨x, hx, hone⟩ := Option.bind_eq_some_iff.mp hgiven
  have hread := h twoLimits portOnly c file _ rateLimitSetting x hc (toOption_eq_some_iff.mp hfile)
    (by decide +kernel) hx
  rw [toOption_eq_some_iff.mp hone, htwo] at hread
  exact absurd (Except.ok.inj hread) (by decide)

end Rebac.Config
