import ArtifactTools.Proofs.CommandLine.Keeping

/-! What a request to assign values to settings has done when it ends well. For a transformer that
has settings, all of it: each key is declared, and the file has the value of its last assignment.
For one that has none, nothing: the assignments are not even read. -/

namespace ArtifactTools

namespace Config

theorem isPlain_of_absent {host : Host} {path : Path}
    (absent : (prepare host path).2.files.holds host.directory path = false) :
    IsPlain host path := by
  intro place node found
  rw [FileTree.holds, found] at absent
  cases absent

/-- A configuration can be had from a path: it loads, or there is nothing and it is the default
one. A path such as `new/../file` may lead somewhere once its directories have been made, and then
to a file that may be read. -/
inductive IsHad (host : Host) (path : Path) : Config → Prop
  | loaded {config} : load host path = .ok config → IsHad host path config
  | absent : host.holds path = false → IsPlain host path → IsHad host path .default

namespace IsHad

variable {host : Host} {config : Config}

theorem plain {path : Path} (had : IsHad host path config) : IsPlain host path := by
  cases had with
  | loaded loaded => exact isPlain_of_load loaded
  | absent absent plain => exact plain

theorem loadOrDefault {place : Option Path}
    (had : IsHad host (place.getD (defaultPath host)) config) :
    Config.loadOrDefault host place = .ok config := by
  cases had with
  | loaded loaded => exact loadOrDefault_of_load loaded
  | absent absent plain => simp [Config.loadOrDefault, absent]

end IsHad

end Config

namespace CommandLine

/-- All assignments have been carried out and saved, so that any registry built under the
configuration in the file has what they give. -/
structure CarriedOut (session : Session) (ref : Ref) (assignments : List String) (exit : Exit) :
    Prop where
  declared : ∀ assignment ∈ assignments, ∃ key raw, Spells assignment key raw ∧
    key ∈ ref.transformer.store.keys
  saved : ∃ settings,
    Config.load exit.host session.path = .ok { session.config with settings } ∧
      ∀ launcher numbering, ∃ rebuilt,
        (Builder.builtin.build ⟨{ session.config with settings }, launcher⟩ numbering).result =
          .ok rebuilt ∧
        ∀ before last after key raw, assignments = before ++ last :: after →
          Spells last key raw → Unnamed after key →
            ∃ value, ref.transformer.store.Takes key raw value ∧
              rebuilt.valueOf? ref.transformer.id key = some value

theorem key_mem_of_takes {store : Settings.Store} {key raw : String} {value : Settings.Value}
    (takes : store.Takes key raw value) : key ∈ store.keys := by
  obtain ⟨kind, declared, -⟩ := takes
  obtain ⟨entry, found, -⟩ := (Settings.Store.kind?_eq_some_iff store key kind).mp declared
  exact Settings.Store.key_mem_of_find? found

theorem Accepted.exists_declared {store : Settings.Store} {assignment : String}
    (accepted : Accepted store assignment) :
    ∃ key raw, Spells assignment key raw ∧ key ∈ store.keys := by
  obtain ⟨key, value, raw, spells, takes⟩ := accepted
  exact ⟨key, raw, spells, key_mem_of_takes takes⟩

theorem exists_lastAssigns {store : Settings.Store} {before after : List String}
    {last key raw : String}
    (accepted : ∀ assignment ∈ before ++ last :: after, Accepted store assignment)
    (spells : Spells last key raw) (unnamed : Unnamed after key) :
    ∃ value, store.Takes key raw value ∧
      LastAssigns store (before ++ last :: after) key value := by
  obtain ⟨other, value, text, spellsToo, takes⟩ := accepted last (by simp)
  obtain ⟨rfl, rfl⟩ := spells.unique spellsToo
  exact ⟨value, takes, before, last, after, rfl, ⟨raw, spells, takes⟩, unnamed.untouched store⟩

theorem carriedOut_of_saved {session : Session} (builtin : session.registry.IsBuiltin) {ref : Ref}
    (holds : session.registry.Holds ref.handle.index.toNat ref.transformer)
    {assignments : List String} {resets : Bool} {store : Settings.Store} {host : Host} {exit : Exit}
    (ends : editStore ref.transformer assignments resets = .ok store)
    (plain : Config.IsPlain host session.path)
    (saves : Session.saveSettings { session with
      registry := session.registry.withStore ref.handle.index.toNat store } host =
        (.ok (), exit.host)) :
    CarriedOut session ref assignments exit := by
  have accepted := accepted_of_editStore ends
  have edited := edited_of_editStore ends
  have source := isBuiltin_withStore builtin holds edited
  have loads := @load_of_saveSettings_plain { session with
    registry := session.registry.withStore ref.handle.index.toNat store } _ _ plain saves
  constructor
  · exact fun assignment member => (accepted assignment member).exists_declared
  · refine ⟨_, loads, ?_⟩
    intro launcher numbering
    obtain ⟨rebuilt, built, values⟩ :=
      @Builder.exists_rebuild _ source ⟨{ session.config with settings := _ }, launcher⟩ rfl
        numbering
    have edit := (hasEdit_withStore builtin holds edited).of_values values
    refine ⟨rebuilt, built, ?_⟩
    rintro before last after key raw rfl spells unnamed
    obtain ⟨value, takes, lastAssigns⟩ := exists_lastAssigns accepted spells unnamed
    exact ⟨value, takes, edit.last key value lastAssigns⟩

/-- A request with assignments that ends well has carried them out if the transformer has settings,
and has left the host alone if it has none. -/
theorem settings_carried {launcher : Duration → Launcher} {host : Host} {arguments : List String}
    {place : Option Path} {name : String} {assignments : List String} {resets : Bool}
    {config : Config}
    (request : Request.read arguments = .ok ⟨place, .settings name assignments resets⟩)
    (assigned : assignments ≠ [])
    (had : Config.IsHad host (place.getD (Config.defaultPath host)) config)
    (succeeded : (run launcher host arguments).code = 0) :
    ∃ session ref, Session.start launcher host place = .ok session ∧ session.config = config ∧
      session.path = place.getD (Config.defaultPath host) ∧ session.find name = .ok ref ∧
      if ref.transformer.hasSettings then
        CarriedOut session ref assignments (run launcher host arguments)
      else (run launcher host arguments).host = host := by
  obtain ⟨registry, builtin, started⟩ := @exists_start launcher _ _ _ had.loadOrDefault
  rcases ran : runSettings _ name assignments resets (.ofHost host) with ⟨final, finish⟩
  obtain ⟨code, after⟩ := run_settings request started ran
  obtain ⟨ref, found, outcome⟩ := exists_saved_of_success ran (code ▸ succeeded)
  refine ⟨_, ref, started, rfl, rfl, found, ?_⟩
  simp only [ne_eq, assigned, not_false_eq_true, true_or, and_true] at outcome
  split
  · next hasSettings =>
      rw [if_pos hasSettings, ← after] at outcome
      obtain ⟨store, ends, saves⟩ := outcome
      exact carriedOut_of_saved builtin (exists_holds_of_find builtin found) ends had.plain saves
  · next settingless =>
      rw [if_neg settingless] at outcome
      exact after.trans outcome

/-- The later of two assignments to a key counts. The session makes the file. -/
theorem settings_carried_twice :
    let host : Host := ⟨⟨[], [], 0⟩, [], []⟩
    let arguments := ["--config", "config.json", "settings", "hex", "--set", "bytes_per_row=8",
      "--set", "bytes_per_row=4"]
    let place := some (Path.ofString "config.json")
    let assignments := ["bytes_per_row=8", "bytes_per_row=4"]
    Request.read arguments = .ok ⟨place, .settings "hex" assignments false⟩ ∧ assignments ≠ [] ∧
      Config.IsHad host (place.getD (Config.defaultPath host)) .default ∧
      (run idleLauncher host arguments).code = 0 ∧
      ∃ session ref, Session.start idleLauncher host place = .ok session ∧
        session.find "hex" = .ok ref ∧ ref.transformer.hasSettings = true ∧
        CarriedOut session ref assignments (run idleLauncher host arguments) := by
  intro host arguments place assignments
  have request : Request.read arguments = .ok ⟨place, .settings "hex" assignments false⟩ := by
    decide +kernel
  have absent : host.holds (Path.ofString "config.json") = false := by decide +kernel
  have had : Config.IsHad host (place.getD (Config.defaultPath host)) .default :=
    .absent absent (Config.isPlain_of_absent (by decide +kernel))
  have code : (run idleLauncher host arguments).code = 0 := by decide +kernel
  obtain ⟨session, ref, started, -, -, found, outcome⟩ :=
    settings_carried request (by simp [assignments]) had code
  have changed : (run idleLauncher host arguments).host ≠ host := by decide +kernel
  split at outcome
  · next hasSettings =>
      exact ⟨request, by simp [assignments], had, code, session, ref, started, found, hasSettings,
        outcome⟩
  · exact absurd outcome changed

/-- An assignment to a setting that nobody has declared is passed over with success. -/
theorem settings_ignored :
    let host : Host := ⟨⟨[], [], 0⟩, [], []⟩
    let arguments := ["--config", "config.json", "settings", "text", "--set", "foo=bar"]
    let path := Path.ofString "config.json"
    Request.read arguments = .ok ⟨some path, .settings "text" ["foo=bar"] false⟩ ∧
      Config.IsHad host path .default ∧ (run idleLauncher host arguments).code = 0 ∧
      (run idleLauncher host arguments).host = host ∧
      ∃ session ref, Session.start idleLauncher host (some path) = .ok session ∧
        session.find "text" = .ok ref ∧
        ¬ CarriedOut session ref ["foo=bar"] (run idleLauncher host arguments) := by
  intro host arguments path
  have absent : host.holds path = false := by decide +kernel
  have had : Config.IsHad host path .default :=
    .absent absent (Config.isPlain_of_absent (by decide +kernel))
  refine ⟨by decide +kernel, had, by decide +kernel, by decide +kernel, ?_⟩
  have opened : ∃ session ref, Session.start idleLauncher host (some path) = .ok session ∧
      session.find "text" = .ok ref ∧ ref.transformer.store.keys = [] := by
    simp only [host, path]
    refine ⟨_, _, by cbv, by cbv, by cbv⟩
  obtain ⟨session, ref, started, found, keyless⟩ := opened
  refine ⟨session, ref, started, found, ?_⟩
  intro carried
  obtain ⟨key, raw, -, declared⟩ := carried.declared "foo=bar" List.mem_cons_self
  rw [keyless] at declared
  cases declared

end CommandLine

end ArtifactTools
