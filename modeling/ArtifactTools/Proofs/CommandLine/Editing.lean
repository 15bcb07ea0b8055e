import ArtifactTools.CommandLine.Program
import ArtifactTools.Proofs.CommandLine.Assignments
import ArtifactTools.Proofs.Config.Saving
import ArtifactTools.Proofs.Registry.Builtin

/-! Editing settings from the command line. An edit that is accepted is in the configuration file
afterwards, where a new registry finds it, and touches nothing else; an edit with a fault anywhere
changes nothing on the host. -/

namespace ArtifactTools

namespace CommandLine

/-! Sessions. -/

theorem exists_start_import {launcher : Duration → Launcher} {host : Host} {place : Option Path}
    {config : Config} (loaded : Config.loadOrDefault host place = .ok config) :
    ∃ fresh : Registry, fresh.IsBuiltin ∧ Session.start launcher host place =
      .ok ⟨config, place.getD (Config.defaultPath host),
        (fresh.importSettings config.settings).1⟩ := by
  obtain ⟨fresh, builtin, built⟩ :=
    Builder.exists_build_builtin ⟨config, launcher config.timeout⟩ .first
  refine ⟨fresh, builtin, ?_⟩
  simp only [Session.start, loaded, Shared.start, Shared.vacant, Shared.checkVacant, built,
    Shared.publish]

theorem exists_start {launcher : Duration → Launcher} {host : Host} {place : Option Path}
    {config : Config} (loaded : Config.loadOrDefault host place = .ok config) :
    ∃ registry : Registry, registry.IsBuiltin ∧ Session.start launcher host place =
      .ok ⟨config, place.getD (Config.defaultPath host), registry⟩ := by
  obtain ⟨fresh, builtin, started⟩ := @exists_start_import launcher _ _ _ loaded
  exact ⟨_, builtin.importSettings _, started⟩

theorem exists_holds_of_find {session : Session} (builtin : session.registry.IsBuiltin)
    {name : String} {ref : Ref} (found : session.find name = .ok ref) :
    session.registry.Holds ref.handle.index.toNat ref.transformer := by
  have indexed := builtin.sound.toIndexed
  have entry : ∃ index transformer, session.registry.Holds index transformer ∧
      ref = session.registry.refOf index transformer := by
    unfold Session.find at found
    split at found
    · next other chosen =>
        obtain rfl := Except.ok.inj found
        rcases Option.or_eq_some_iff.mp chosen with byId | ⟨-, byName⟩
        · obtain ⟨index, transformer, holds, -, same⟩ := (indexed.findById?_eq_some_iff _ _).mp byId
          exact ⟨index, transformer, holds, same⟩
        · obtain ⟨index, transformer, holds, -, same⟩ :=
            (indexed.findByName?_eq_some_iff _ _).mp byName
          exact ⟨index, transformer, holds, same⟩
    · cases found
  obtain ⟨index, transformer, holds, rfl⟩ := entry
  have few : index < UInt32.size := by
    have bound := holds.lt_size
    rw [builtin.size] at bound
    exact Nat.lt_trans bound (by decide +kernel)
  have back : (UInt32.ofNat index).toNat = index := UInt32.toNat_ofNat_of_lt' few
  rw [Registry.refOf, back]
  exact holds

theorem host_printLines (lines : List String) : ∀ terminal : Terminal,
    (terminal.printLines lines).host = terminal.host := by
  induction lines with
  | nil => intro terminal; rfl
  | cons line rest ih => intro terminal; exact ih (terminal.printLine line)

/-- Saved settings are those of the registry, and loaded again. -/
theorem exists_saveSettings (session : Session) {host : Host}
    (writable : Config.IsWritable host session.path) :
    ∃ saved, session.saveSettings host = (.ok (), saved) ∧ Config.load saved session.path =
      .ok { session.config with settings := session.registry.exportSettings } := by
  obtain ⟨saved, saves, read, -⟩ :=
    writable.save { session.config with settings := session.registry.exportSettings }
  refine ⟨saved, by simp only [Session.saveSettings, saves], ?_⟩
  exact Config.load_of_read (Registry.legible_exportSettings _ 124)
    (Registry.doubleFree_exportSettings _) read

/-! Editing in a session. -/

theorem isEmpty_and_not {assignments : List String} {resets : Bool}
    (wanted : assignments ≠ [] ∨ resets = true) : (assignments.isEmpty && !resets) = false := by
  simpa [Decidable.imp_iff_not_or] using wanted

section

variable {session : Session} {name : String} {ref : Ref} {assignments : List String}
  {resets : Bool} {terminal : Terminal} (found : session.find name = .ok ref)
  (hasSettings : ref.transformer.hasSettings = true)

include found hasSettings

theorem runSettings_shown : ∃ shown, runSettings session name [] false terminal = (shown, .ok 0) ∧
    shown.host = terminal.host := by
  refine ⟨_, by simp [runSettings, found, hasSettings]; rfl, ?_⟩
  exact host_printLines _ _

variable (wanted : assignments ≠ [] ∨ resets = true)

include wanted

theorem runSettings_of_refused {messages : List String}
    (refused : editStore ref.transformer assignments resets = .error messages) :
    runSettings session name assignments resets terminal = (terminal, .error messages) := by
  simp [runSettings, found, hasSettings, isEmpty_and_not wanted, refused]

/-- The host may have new directories by then, but the command has failed. -/
theorem runSettings_of_unsaved {store : Settings.Store} {messages : List String} {left : Host}
    (edited : editStore ref.transformer assignments resets = .ok store)
    (unsaved : Session.saveSettings { session with
      registry := session.registry.withStore ref.handle.index.toNat store } terminal.host =
        (.error messages, left)) :
    runSettings session name assignments resets terminal =
      (terminal.withHost left, .error messages) := by
  simp [runSettings, found, hasSettings, isEmpty_and_not wanted, edited, unsaved]

theorem runSettings_of_saved {store : Settings.Store} {saved : Host}
    (edited : editStore ref.transformer assignments resets = .ok store)
    (saves : Session.saveSettings { session with
      registry := session.registry.withStore ref.handle.index.toNat store } terminal.host =
        (.ok (), saved)) :
    ∃ final, runSettings session name assignments resets terminal = (final, .ok 0) ∧
      final.host = saved := by
  have edits := isEmpty_and_not wanted
  refine ⟨_, by simp [runSettings, found, hasSettings, edits, edited, saves]; rfl, ?_⟩
  exact host_printLines _ _

end

structure HasEdit (session : Session) (ref : Ref) (assignments : List String) (resets : Bool)
    (registry : Registry) : Prop where
  last : ∀ key value, LastAssigns ref.transformer.store assignments key value →
    registry.valueOf? ref.transformer.id key = some value
  untouched : ∀ key, Untouched ref.transformer.store assignments key →
    registry.valueOf? ref.transformer.id key =
      if resets then (ref.transformer.store.descriptor? key).map (·.default)
      else session.registry.valueOf? ref.transformer.id key
  others : ∀ id key, id ≠ ref.transformer.id →
    registry.valueOf? id key = session.registry.valueOf? id key

theorem HasEdit.of_values {session : Session} {ref : Ref} {assignments : List String}
    {resets : Bool} {source registry : Registry}
    (edited : HasEdit session ref assignments resets source)
    (same : ∀ id key, registry.valueOf? id key = source.valueOf? id key) :
    HasEdit session ref assignments resets registry := by
  constructor
  · intro key value last
    rw [same, edited.last key value last]
  · intro key untouched
    rw [same, edited.untouched key untouched]
  · intro id key different
    rw [same, edited.others id key different]

theorem isBuiltin_withStore {session : Session} (builtin : session.registry.IsBuiltin) {ref : Ref}
    (holds : session.registry.Holds ref.handle.index.toNat ref.transformer)
    {assignments : List String} {resets : Bool} {store : Settings.Store}
    (edited : Edited ref.transformer.store assignments resets store) :
    (session.registry.withStore ref.handle.index.toNat store).IsBuiltin :=
  builtin.withStore holds (edited.consistent (builtin.sound.settings _ holds.mem))
    edited.descriptors.sameKinds

theorem hasEdit_withStore {session : Session} (builtin : session.registry.IsBuiltin) {ref : Ref}
    (holds : session.registry.Holds ref.handle.index.toNat ref.transformer)
    {assignments : List String} {resets : Bool} {store : Settings.Store}
    (edited : Edited ref.transformer.store assignments resets store) :
    HasEdit session ref assignments resets
      (session.registry.withStore ref.handle.index.toNat store) := by
  have indexed := builtin.sound.toIndexed
  have settings := indexed.settingsOf?_withStore holds store
  have before := indexed.settingsOf?_of_holds holds
  constructor
  · intro key value last
    rw [Registry.valueOf?, settings, if_pos rfl, Option.bind_some]
    exact edited.last key value last
  · intro key untouched
    rw [Registry.valueOf?, settings, if_pos rfl, Option.bind_some, Registry.valueOf?, before,
      Option.bind_some]
    exact edited.untouched key untouched
  · intro id key different
    rw [Registry.valueOf?, settings, if_neg different, Registry.valueOf?]

/-- An edit in a session ends with all of it in the file, or with nothing done to the host. -/
structure EditsWhole (session : Session) (ref : Ref) (assignments : List String) (resets : Bool)
    (host : Host) (exit : Exit) : Prop where
  refused : (∃ assignment ∈ assignments, ¬ Accepted ref.transformer.store assignment) →
    exit.code = 1 ∧ exit.host = host
  accepted : (∀ assignment ∈ assignments, Accepted ref.transformer.store assignment) →
    exit.code = 0
  shown : assignments = [] → resets = false → exit.host = host
  saved : (∀ assignment ∈ assignments, Accepted ref.transformer.store assignment) →
    assignments ≠ [] ∨ resets = true →
    ∃ settings, Config.load exit.host session.path = .ok { session.config with settings } ∧
      ∀ launcher numbering, ∃ rebuilt,
        (Builder.builtin.build ⟨{ session.config with settings }, launcher⟩ numbering).result =
          .ok rebuilt ∧
        HasEdit session ref assignments resets rebuilt

theorem run_settings {launcher : Duration → Launcher} {host : Host} {arguments : List String}
    {place : Option Path} {name : String} {assignments : List String} {resets : Bool}
    {session : Session} {final : Terminal} {finish : Finish}
    (request : Request.read arguments = .ok ⟨place, .settings name assignments resets⟩)
    (started : Session.start launcher host place = .ok session)
    (ran : runSettings session name assignments resets (.ofHost host) = (final, finish)) :
    (run launcher host arguments).code = finishCode finish ∧
      (run launcher host arguments).host = final.host := by
  have begins : Session.start launcher (Terminal.ofHost host).host place = .ok session := started
  simp [run, request, runRequest, begins, runCommand, ran]

section

variable {launcher : Duration → Launcher} {host : Host} {arguments : List String}
  {place : Option Path} {name : String} {assignments : List String} {resets : Bool}
  {session : Session} {ref : Ref}
  (request : Request.read arguments = .ok ⟨place, .settings name assignments resets⟩)
  (started : Session.start launcher host place = .ok session)
  (found : session.find name = .ok ref) (hasSettings : ref.transformer.hasSettings = true)

include request started found hasSettings

theorem run_of_refused
    (refused : ∃ assignment ∈ assignments, ¬ Accepted ref.transformer.store assignment) :
    (run launcher host arguments).code = 1 ∧ (run launcher host arguments).host = host := by
  obtain ⟨messages, ends⟩ := editStore_of_refused refused resets
  have wanted : assignments ≠ [] ∨ resets = true := by
    obtain ⟨assignment, member, -⟩ := refused
    exact Or.inl (List.ne_nil_of_mem member)
  exact run_settings request started (runSettings_of_refused found hasSettings wanted ends)

theorem run_of_saved (builtin : session.registry.IsBuiltin)
    (writable : Config.IsWritable host session.path)
    (accepted : ∀ assignment ∈ assignments, Accepted ref.transformer.store assignment)
    (wanted : assignments ≠ [] ∨ resets = true) :
    (run launcher host arguments).code = 0 ∧ ∃ settings,
      Config.load (run launcher host arguments).host session.path =
        .ok { session.config with settings } ∧
      ∀ launcher numbering, ∃ rebuilt,
        (Builder.builtin.build ⟨{ session.config with settings }, launcher⟩ numbering).result =
          .ok rebuilt ∧
        HasEdit session ref assignments resets rebuilt := by
  have holds := exists_holds_of_find builtin found
  obtain ⟨store, ends, edited⟩ := editStore_of_accepted accepted resets
  let source := session.registry.withStore ref.handle.index.toNat store
  have sourceBuiltin : source.IsBuiltin := isBuiltin_withStore builtin holds edited
  obtain ⟨saved, saves, loads⟩ := exists_saveSettings { session with registry := source } writable
  obtain ⟨final, ran, sameHost⟩ :=
    @runSettings_of_saved _ _ _ _ _ (.ofHost host) found hasSettings wanted _ _ ends saves
  obtain ⟨code, after⟩ := run_settings request started ran
  refine ⟨code, source.exportSettings, ?_, ?_⟩
  · rw [after, sameHost]
    exact loads
  · intro other numbering
    obtain ⟨rebuilt, built, values⟩ := @Builder.exists_rebuild _ sourceBuiltin
      ⟨{ session.config with settings := source.exportSettings }, other⟩ rfl numbering
    exact ⟨rebuilt, built, (hasEdit_withStore builtin holds edited).of_values values⟩

end

/-- Under a configuration that is not there or can be loaded, and can be saved, a request to edit
settings is carried out as a whole or not at all. -/
theorem settings_edited_whole {launcher : Duration → Launcher} {host : Host}
    {arguments : List String} {place : Option Path} {name : String} {assignments : List String}
    {resets : Bool} {config : Config}
    (request : Request.read arguments = .ok ⟨place, .settings name assignments resets⟩)
    (loaded : Config.loadOrDefault host place = .ok config)
    (writable : Config.IsWritable host (place.getD (Config.defaultPath host))) :
    ∃ session, Session.start launcher host place = .ok session ∧ session.config = config ∧
      session.path = place.getD (Config.defaultPath host) ∧
      ∀ ref, session.find name = .ok ref → ref.transformer.hasSettings = true →
        EditsWhole session ref assignments resets host (run launcher host arguments) := by
  obtain ⟨registry, builtin, started⟩ := @exists_start launcher _ _ _ loaded
  refine ⟨_, started, rfl, rfl, ?_⟩
  intro ref found hasSettings
  have shown : assignments = [] → resets = false →
      (run launcher host arguments).code = 0 ∧ (run launcher host arguments).host = host := by
    rintro rfl rfl
    obtain ⟨final, ran, sameHost⟩ :=
      @runSettings_shown _ _ _ (.ofHost host) found hasSettings
    obtain ⟨code, after⟩ := run_settings request started ran
    exact ⟨code, after.trans sameHost⟩
  constructor
  · exact run_of_refused request started found hasSettings
  · intro accepted
    by_cases wanted : assignments ≠ [] ∨ resets = true
    · exact (run_of_saved request started found hasSettings builtin writable accepted wanted).1
    · obtain ⟨unassigned, keeps⟩ := not_or.mp wanted
      exact (shown (not_not.mp unassigned) (Bool.eq_false_iff.mpr keeps)).1
  · exact fun unassigned keeps => (shown unassigned keeps).2
  · intro accepted wanted
    exact (run_of_saved request started found hasSettings builtin writable accepted wanted).2

/-- One key is assigned twice, with blanks about. -/
theorem settings_edited_whole_twice :
    let launcher : Duration → Launcher := fun _ _ host _ => (.error .cancelled, host)
    let host : Host := ⟨⟨[], [], 0⟩, [], []⟩
    let arguments := ["--config", "config.json", "settings", "hex", "--set", "bytes_per_row=8",
      "--set=uppercase = true", "--set", " bytes_per_row =4"]
    let place := some (Path.ofString "config.json")
    let assignments := ["bytes_per_row=8", "uppercase = true", " bytes_per_row =4"]
    Request.read arguments = .ok ⟨place, .settings "hex" assignments false⟩ ∧
      Config.loadOrDefault host place = .ok .default ∧
      Config.IsWritable host (Path.ofString "config.json") ∧
      ∃ session ref, Session.start launcher host place = .ok session ∧
        session.find "hex" = .ok ref ∧ ref.transformer.hasSettings = true ∧
        EditsWhole session ref assignments false host (run launcher host arguments) := by
  intro launcher host arguments place assignments
  have request : Request.read arguments = .ok ⟨place, .settings "hex" assignments false⟩ := by
    decide +kernel
  have loaded : Config.loadOrDefault host place = .ok .default := by
    have absent : host.holds (Path.ofString "config.json") = false := by decide +kernel
    simp [Config.loadOrDefault, place, absent]
  have writable : Config.IsWritable host (Path.ofString "config.json") := by
    refine ⟨⟨⟨[], [], 0⟩, [], []⟩, by decide +kernel, 0,
      ⟨[([Utf8.encode "config.json"], .file 0)], [⟨[[]], 0, 0o644, 0, 0⟩], 0⟩,
      ⟨[[]], 0, 0o644, 0, 0⟩, ?_, ?_, ?_⟩ <;> decide +kernel
  obtain ⟨session, started, -, -, edits⟩ :=
    @settings_edited_whole launcher host arguments place "hex" assignments false .default request
      loaded writable
  have opened : ∃ session ref, Session.start launcher host place = .ok session ∧
      session.find "hex" = .ok ref ∧ ref.transformer.hasSettings = true := by
    simp only [launcher, host, place]
    refine ⟨_, _, by cbv, by cbv, by cbv⟩
  obtain ⟨same, ref, starts, found, hasSettings⟩ := opened
  obtain rfl := Except.ok.inj (started.symm.trans starts)
  exact ⟨request, loaded, writable, session, ref, started, found, hasSettings,
    edits ref found hasSettings⟩

end CommandLine

end ArtifactTools
