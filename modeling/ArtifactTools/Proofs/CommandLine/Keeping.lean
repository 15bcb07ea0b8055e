import ArtifactTools.Proofs.CommandLine.Editing
import ArtifactTools.Proofs.Registry.Keeping

/-! What an edit from the command line keeps of the settings in the file. The file is written from
the registry of the session, so that persisted values stay if and only if the registry has taken
them over when the session started. -/

namespace ArtifactTools.CommandLine

def Unnamed (assignments : List String) (key : String) : Prop :=
  ∀ assignment ∈ assignments, ∀ raw, ¬ Spells assignment key raw

theorem Unnamed.untouched {assignments : List String} {key : String}
    (unnamed : Unnamed assignments key) (store : Settings.Store) :
    Untouched store assignments key := by
  rintro assignment member value ⟨raw, spells, -⟩
  exact unnamed assignment member raw spells

theorem exists_saved_of_wanted {session : Session} {name : String} {ref : Ref}
    {assignments : List String} {resets : Bool} {terminal final : Terminal} {finish : Finish}
    (found : session.find name = .ok ref) (hasSettings : ref.transformer.hasSettings = true)
    (wanted : assignments ≠ [] ∨ resets = true)
    (ran : runSettings session name assignments resets terminal = (final, finish))
    (succeeded : finishCode finish = 0) :
    ∃ store, editStore ref.transformer assignments resets = .ok store ∧
      Session.saveSettings { session with
        registry := session.registry.withStore ref.handle.index.toNat store } terminal.host =
          (.ok (), final.host) := by
  cases edited : editStore ref.transformer assignments resets with
  | error messages =>
      rw [runSettings_of_refused found hasSettings wanted edited] at ran
      obtain ⟨-, rfl⟩ := Prod.mk.inj ran
      cases succeeded
  | ok store =>
      refine ⟨store, rfl, ?_⟩
      rcases saves : Session.saveSettings { session with
        registry := session.registry.withStore ref.handle.index.toNat store }
          terminal.host with ⟨messages | _, saved⟩
      · rw [runSettings_of_unsaved found hasSettings wanted edited saves] at ran
        obtain ⟨-, rfl⟩ := Prod.mk.inj ran
        cases succeeded
      · obtain ⟨last, ends, same⟩ := runSettings_of_saved found hasSettings wanted edited saves
        obtain ⟨rfl, -⟩ := Prod.mk.inj (ends.symm.trans ran)
        rw [same]

theorem exists_saved_of_success {session : Session} {name : String} {assignments : List String}
    {resets : Bool} {terminal final : Terminal} {finish : Finish}
    (ran : runSettings session name assignments resets terminal = (final, finish))
    (succeeded : finishCode finish = 0) :
    ∃ ref, session.find name = .ok ref ∧
      if ref.transformer.hasSettings = true ∧ (assignments ≠ [] ∨ resets = true) then
        ∃ store, editStore ref.transformer assignments resets = .ok store ∧
          Session.saveSettings { session with
            registry := session.registry.withStore ref.handle.index.toNat store } terminal.host =
              (.ok (), final.host)
      else final.host = terminal.host := by
  cases found : session.find name with
  | error messages =>
      simp only [runSettings, found, Prod.mk.injEq] at ran
      obtain ⟨-, rfl⟩ := ran
      cases succeeded
  | ok ref =>
      refine ⟨ref, rfl, ?_⟩
      by_cases hasSettings : ref.transformer.hasSettings = true
      · by_cases wanted : assignments ≠ [] ∨ resets = true
        · rw [if_pos ⟨hasSettings, wanted⟩]
          exact exists_saved_of_wanted found hasSettings wanted ran succeeded
        · rw [if_neg fun both => wanted both.2]
          obtain ⟨unassigned, keeps⟩ := not_or.mp wanted
          obtain rfl := not_not.mp unassigned
          obtain rfl := Bool.eq_false_iff.mpr keeps
          obtain ⟨shown, ends, same⟩ := @runSettings_shown _ _ _ terminal found hasSettings
          obtain ⟨rfl, -⟩ := Prod.mk.inj (ends.symm.trans ran)
          exact same
      · rw [if_neg fun both => hasSettings both.1]
        simp [runSettings, found, hasSettings] at ran
        obtain ⟨rfl, -⟩ := ran
        rfl

theorem valueOf?_withStore_of_unnamed {session : Session} (builtin : session.registry.IsBuiltin)
    {ref : Ref} (holds : session.registry.Holds ref.handle.index.toNat ref.transformer)
    {assignments : List String} {store : Settings.Store}
    (edited : Edited ref.transformer.store assignments false store) {id key : String}
    (apart : id ≠ ref.transformer.id ∨ Unnamed assignments key) :
    (session.registry.withStore ref.handle.index.toNat store).valueOf? id key =
      session.registry.valueOf? id key := by
  have edit := hasEdit_withStore builtin holds edited
  by_cases same : id = ref.transformer.id
  · have unnamed := apart.resolve_left (not_not.mpr same)
    rw [same, edit.untouched key (unnamed.untouched _), if_neg Bool.false_ne_true]
  · exact edit.others id key same

theorem accepted_of_editStore {transformer : Transformer} {assignments : List String}
    {resets : Bool} {store : Settings.Store}
    (ends : editStore transformer assignments resets = .ok store) :
    ∀ assignment ∈ assignments, Accepted transformer.store assignment := by
  by_contra! spoiled
  obtain ⟨messages, fails⟩ := editStore_of_refused spoiled resets
  rw [ends] at fails
  cases fails

theorem edited_of_editStore {transformer : Transformer} {assignments : List String} {resets : Bool}
    {store : Settings.Store} (ends : editStore transformer assignments resets = .ok store) :
    Edited transformer.store assignments resets store := by
  obtain ⟨other, endsToo, edited⟩ := editStore_of_accepted (accepted_of_editStore ends) resets
  obtain rfl := Except.ok.inj (ends.symm.trans endsToo)
  exact edited

/-- Settings that have been saved to a plain path are loaded again. -/
theorem load_of_saveSettings_plain {session : Session} {host saved : Host}
    (plain : Config.IsPlain host session.path)
    (saves : session.saveSettings host = (.ok (), saved)) :
    Config.load saved session.path =
      .ok { session.config with settings := session.registry.exportSettings } := by
  have writable : Config.IsWritable host session.path := by
    simp only [Session.saveSettings] at saves
    split at saves
    · next written => exact plain.isWritable written
    · cases (Prod.mk.inj saves).1
  obtain ⟨other, savesToo, loads⟩ := exists_saveSettings session writable
  obtain ⟨-, rfl⟩ := Prod.mk.inj (saves.symm.trans savesToo)
  exact loads

theorem load_of_saveSettings {session : Session} {host saved : Host} {before : Config}
    (loaded : Config.load host session.path = .ok before)
    (saves : session.saveSettings host = (.ok (), saved)) :
    Config.load saved session.path =
      .ok { session.config with settings := session.registry.exportSettings } :=
  load_of_saveSettings_plain (Config.isPlain_of_load loaded) saves

/-- After an edit that ends well the file is as it was but for the settings. Of what it had there
and no assignment names, it keeps just what this build's registry accepts. -/
theorem settings_kept {launcher : Duration → Launcher} {host : Host} {arguments : List String}
    {place : Option Path} {name : String} {assignments : List String} {config : Config}
    (request : Request.read arguments = .ok ⟨place, .settings name assignments false⟩)
    (loaded : Config.load host (place.getD (Config.defaultPath host)) = .ok config)
    (succeeded : (run launcher host arguments).code = 0) :
    ∃ session ref, Session.start launcher host place = .ok session ∧ session.config = config ∧
      session.path = place.getD (Config.defaultPath host) ∧ session.find name = .ok ref ∧
      if ref.transformer.hasSettings = true ∧ assignments ≠ [] then
        ∃ settings, Config.load (run launcher host arguments).host session.path =
            .ok { config with settings } ∧
          ∀ id key raw, config.settings.value? id key = some raw →
            id ≠ ref.transformer.id ∨ Unnamed assignments key →
              (settings.value? id key = some raw ↔ session.registry.Accepts id key raw)
      else (run launcher host arguments).host = host := by
  obtain ⟨fresh, freshBuiltin, started⟩ :=
    @exists_start_import launcher _ _ _ (Config.loadOrDefault_of_load loaded)
  have builtin := freshBuiltin.importSettings config.settings
  rcases ran : runSettings _ name assignments false (.ofHost host) with ⟨final, finish⟩
  obtain ⟨code, after⟩ := run_settings request started ran
  obtain ⟨ref, found, outcome⟩ := exists_saved_of_success ran (code ▸ succeeded)
  refine ⟨_, ref, started, rfl, rfl, found, ?_⟩
  simp only [Bool.false_eq_true, or_false] at outcome
  split
  · next wanted =>
      rw [if_pos wanted] at outcome
      obtain ⟨store, ends, saves⟩ := outcome
      have edited := edited_of_editStore ends
      have holds := exists_holds_of_find builtin found
      have source := isBuiltin_withStore builtin holds edited
      have loads := load_of_saveSettings loaded saves
      rw [after]
      refine ⟨_, loads, ?_⟩
      intro id key raw held apart
      have declared := freshBuiltin.sound.toIndexed.sameDeclarations_import config.settings
      rw [source.sound.value?_exportSettings,
        valueOf?_withStore_of_unnamed builtin holds edited apart, declared.accepts_iff]
      exact freshBuiltin.sound.valueOf?_importSettings_iff held
  · next nothing =>
      rw [if_neg nothing] at outcome
      exact after.trans outcome

def leftText : String :=
  "\x7b\"settings\":\x7b\"cfr\":\x7b\"level\":3\x7d,\"hex\":\x7b\"bytes_per_row\":8\x7d\x7d\x7d"

def leftHost : Host :=
  let octets := Utf8.encode leftText
  ⟨⟨[([Utf8.encode "config.json"], .file 0)], [⟨[octets], octets.length, 0o644, 0, 0⟩], 0⟩, [], []⟩

def leftConfig : Config := { Config.default with
  settings := .ofList [("cfr", .ofList [("level", .number (.whole 3))]),
    ("hex", .ofList [("bytes_per_row", .number (.whole 8))])] }

def editedConfig : Config := { Config.default with
  settings := .ofList
    [("hex", .ofList [("bytes_per_row", .number (.whole 8)), ("uppercase", .bool true)])] }

def editArguments : List String :=
  ["--config", "config.json", "settings", "hex", "--set", "uppercase=true"]

def idleLauncher : Duration → Launcher := fun _ _ host _ => (.error .cancelled, host)

def editedExit : Exit := run idleLauncher leftHost editArguments

theorem load_leftHost : Config.load leftHost (Path.ofString "config.json") = .ok leftConfig := by
  have stored : leftHost.read (Path.ofString "config.json") = .ok (Utf8.encode leftText) := by
    decide +kernel
  have read : Json.read? leftText = some (.object [(some "settings", .object
      [(some "cfr", .object [(some "level", .number ⟨false, ['3'], [], none⟩)]),
        (some "hex", .object [(some "bytes_per_row", .number ⟨false, ['8'], [], none⟩)])])]) := by
    cbv
  have parsed : Config.parse? leftText = some leftConfig := by
    rw [Config.parse?, read]
    rfl
  simp only [Config.load, stored, Utf8.decode?_encode, parsed]

theorem code_editedExit : editedExit.code = 0 := by decide +kernel

theorem load_editedExit :
    Config.load editedExit.host (Path.ofString "config.json") = .ok editedConfig := by
  have stored : editedExit.host.read (Path.ofString "config.json") =
      .ok (Utf8.encode editedConfig.text) := by decide +kernel
  have legible : editedConfig.Legible := by
    intro entry member
    obtain rfl := List.mem_singleton.mp member
    exact List.forall_mem_cons.mpr ⟨.whole _ ⟨by decide, by decide⟩,
      List.forall_mem_singleton.mpr (.bool _ _)⟩
  have free : editedConfig.settings.DoubleFree := by
    intro entry member
    obtain rfl := List.mem_singleton.mp member
    exact List.forall_mem_cons.mpr ⟨.whole _, List.forall_mem_singleton.mpr (.bool _)⟩
  exact Config.load_of_read legible free stored

/-- What `hex` has under another key is kept, and what `cfr` had is not. -/
theorem settings_kept_hex :
    let place := some (Path.ofString "config.json")
    Request.read editArguments = .ok ⟨place, .settings "hex" ["uppercase=true"] false⟩ ∧
      Config.load leftHost (place.getD (Config.defaultPath leftHost)) = .ok leftConfig ∧
      (run idleLauncher leftHost editArguments).code = 0 ∧
      ∃ session, Session.start idleLauncher leftHost place = .ok session ∧
        session.registry.Accepts "hex" "bytes_per_row" (.number (.whole 8)) ∧
        ¬ session.registry.Accepts "cfr" "level" (.number (.whole 3)) := by
  intro place
  have request : Request.read editArguments =
      .ok ⟨place, .settings "hex" ["uppercase=true"] false⟩ := by decide +kernel
  refine ⟨request, load_leftHost, code_editedExit, ?_⟩
  obtain ⟨session, ref, started, -, path, -, outcome⟩ :=
    @settings_kept idleLauncher leftHost editArguments place "hex" ["uppercase=true"] leftConfig
      request load_leftHost code_editedExit
  refine ⟨session, started, ?_⟩
  rw [path, Option.getD_some] at outcome
  by_cases wanted : ref.transformer.hasSettings = true ∧ ["uppercase=true"] ≠ []
  · rw [if_pos wanted] at outcome
    obtain ⟨settings, loads, keeps⟩ := outcome
    have edited : settings = editedConfig.settings :=
      congrArg Config.settings (Except.ok.inj (loads.symm.trans load_editedExit))
    have unnamed {key : String} (other : key ≠ "uppercase") : Unnamed ["uppercase=true"] key := by
      intro assignment member raw spells
      obtain rfl := List.mem_singleton.mp member
      have reads : readAssignment "uppercase=true" = .ok ("uppercase", "true") := by decide +kernel
      exact other (spells.unique ((readAssignment_eq_ok_iff _ _ _).mp reads)).1
    have hex := keeps "hex" "bytes_per_row" _ rfl (Or.inr (unnamed (by decide)))
    have cfr := keeps "cfr" "level" _ rfl (Or.inr (unnamed (by decide)))
    rw [edited] at hex cfr
    exact ⟨hex.mp rfl, fun accepts => nomatch cfr.mpr accepts⟩
  · -- The file has changed, so that there was something to save.
    rw [if_neg wanted] at outcome
    have unchanged : editedExit.host = leftHost := outcome
    have loads := load_editedExit
    rw [unchanged, load_leftHost] at loads
    have gone : leftConfig.settings.value? "cfr" "level" = none :=
      congrArg (fun config => config.settings.value? "cfr" "level") (Except.ok.inj loads)
    cases gone

/-- An edit of a setting of `hex` takes away what `cfr` had. -/
theorem settings_lost :
    Request.read editArguments =
        .ok ⟨some (Path.ofString "config.json"), .settings "hex" ["uppercase=true"] false⟩ ∧
      Config.load leftHost (Path.ofString "config.json") = .ok leftConfig ∧
      (run idleLauncher leftHost editArguments).code = 0 ∧
      leftConfig.settings.value? "cfr" "level" = some (.number (.whole 3)) ∧
      ∃ config, Config.load (run idleLauncher leftHost editArguments).host
          (Path.ofString "config.json") = .ok config ∧
        config.settings.value? "cfr" "level" = none := by
  have request : Request.read editArguments =
      .ok ⟨some (Path.ofString "config.json"), .settings "hex" ["uppercase=true"] false⟩ := by
    decide +kernel
  exact ⟨request, load_leftHost, code_editedExit, rfl, editedConfig, load_editedExit, rfl⟩

end ArtifactTools.CommandLine
