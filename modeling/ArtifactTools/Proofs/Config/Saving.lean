import ArtifactTools.Config.File
import ArtifactTools.Proofs.Config.Fields
import ArtifactTools.Proofs.Host.Files
import ArtifactTools.Proofs.Registry.Exports
import ArtifactTools.Text.Utf8

/-! Saving a configuration and loading it again. Whatever has been read from a text is legible, and
so are settings that a registry exports; what is legible and holds no double comes back the same. -/

namespace ArtifactTools.Config

/-! Where configurations come from. -/

/-- A configuration was read from a text or a file, and may have taken over the settings that a
registry exports. -/
inductive Obtained : Config → Prop
  | parsed {text : String} {config : Config} : parse? text = some config → Obtained config
  | loaded {host : Host} {path : Path} {config : Config} :
      load host path = .ok config → Obtained config
  | exporting {config : Config} (number : UInt32) (requests : List Registry.Request) :
      Obtained config →
        Obtained { config with
          settings := ((Registry.empty number).run requests).exportSettings }

theorem Legible.assign? {config next : Config} {field : Field} {document : Json.Document}
    (legible : config.Legible) (assigned : config.assign? document field = some next) :
    next.Legible := by
  cases field
  case settings =>
    obtain ⟨settings, read, rfl⟩ := Option.map_eq_some_iff.mp assigned
    exact Settings.Persisted.legible_of_ofDocument? read
  all_goals
    obtain ⟨value, -, rfl⟩ := Option.map_eq_some_iff.mp assigned
    exact legible

theorem Legible.readMembers? {members : List (Option String × Json.Document)} :
    ∀ {config next : Config} {seen : List Field}, config.Legible →
      config.readMembers? seen members = some next → next.Legible := by
  induction members with
  | nil =>
      intro config next seen legible read
      obtain rfl := Option.some.inj read
      exact legible
  | cons member rest ih =>
      intro config next seen legible read
      obtain ⟨key, document⟩ := member
      cases key with
      | none => cases read
      | some key =>
          rw [Config.readMembers?] at read
          split at read
          · exact ih legible read
          · split at read
            · cases read
            · split at read
              · cases read
              · next assigned => exact ih (legible.assign? assigned) read

theorem Legible.readElements? {documents : List Json.Document} :
    ∀ {config next : Config} {fields : List Field}, config.Legible →
      config.readElements? fields documents = some next → next.Legible := by
  induction documents with
  | nil =>
      intro config next fields legible read
      rw [Config.readElements?] at read
      obtain rfl := Option.some.inj read
      exact legible
  | cons document rest ih =>
      intro config next fields legible read
      cases fields with
      | nil => cases read
      | cons field fields =>
          rw [Config.readElements?] at read
          split at read
          · cases read
          · next assigned => exact ih (legible.assign? assigned) read

theorem legible_of_parse? {text : String} {config : Config}
    (parsed : parse? text = some config) : config.Legible := by
  obtain ⟨document, -, read⟩ := Option.bind_eq_some_iff.mp parsed
  have legible : default.Legible := Settings.Persisted.legible_empty 124
  cases document with
  | object members => exact legible.readMembers? read
  | array elements => exact legible.readElements? read
  | _ => cases read

theorem exists_parse?_of_load {host : Host} {path : Path} {config : Config}
    (loaded : load host path = .ok config) : ∃ text, parse? text = some config := by
  unfold load at loaded
  split at loaded
  · cases loaded
  · split at loaded
    · cases loaded
    · split at loaded
      · cases loaded
      · next parsed =>
          obtain rfl := Except.ok.inj loaded
          exact ⟨_, parsed⟩

theorem Obtained.legible {config : Config} (obtained : config.Obtained) : config.Legible := by
  induction obtained with
  | parsed parsed => exact legible_of_parse? parsed
  | loaded loaded =>
      obtain ⟨text, parsed⟩ := exists_parse?_of_load loaded
      exact legible_of_parse? parsed
  | exporting number requests _ _ => exact Registry.legible_exportSettings _ 124

/-! Saving. -/

def prepare (host : Host) (path : Path) : Except HostError Unit × Host :=
  match path.parent? with
  | none => (.ok (), host)
  | some parent => host.makeDirectories parent

def IsWritable (host : Host) (path : Path) : Prop :=
  ∃ prepared, prepare host path = (.ok (), prepared) ∧
    prepared.files.IsWritable prepared.directory path

theorem save_eq (config : Config) (host : Host) (path : Path) :
    config.save host path =
      match prepare host path with
      | (.error cause, prepared) => (.error (.write path cause), prepared)
      | (.ok (), prepared) =>
          match prepared.write path (Utf8.encode config.text) with
          | .error cause => (.error (.write path cause), prepared)
          | .ok saved => (.ok (), saved) := by
  unfold save prepare
  cases path.parent? with
  | none => cases host.write path (Utf8.encode config.text) <;> rfl
  | some parent =>
      dsimp only
      rcases host.makeDirectories parent with ⟨cause | _, prepared⟩ <;> rfl

theorem save_of_prepare {config : Config} {host prepared saved : Host} {path : Path}
    (ready : prepare host path = (.ok (), prepared))
    (written : prepared.write path (Utf8.encode config.text) = .ok saved) :
    config.save host path = (.ok (), saved) := by
  simp only [save_eq, ready, written]

theorem prepare_again {host prepared later : Host} {path : Path}
    (ready : prepare host path = (.ok (), prepared))
    (sameDirectory : later.directory = prepared.directory)
    (grown : prepared.files.Extends later.files) : prepare later path = (.ok (), later) := by
  unfold prepare at ready ⊢
  cases above : path.parent? with
  | none => rfl
  | some parent =>
      simp only [above] at ready
      obtain ⟨made, same⟩ := Prod.mk.inj ready
      have directories : host.files.makeDirectories host.directory parent =
          (.ok (), prepared.files) := Prod.ext made (congrArg Host.files same)
      have unmoved : prepared.directory = host.directory := (congrArg Host.directory same).symm
      have again := FileTree.makeDirectories_again directories grown
      rw [← unmoved, ← sameDirectory] at again
      simp only [Host.makeDirectories, again]

theorem load_of_read {config : Config} {host : Host} {path : Path} (legible : config.Legible)
    (free : config.settings.DoubleFree)
    (read : host.read path = .ok (Utf8.encode config.text)) : load host path = .ok config := by
  unfold load
  simp only [read, Utf8.decode?_encode, parse?_text legible free]

/-- To a writable path any configuration is saved, and the path stays writable. -/
theorem IsWritable.save {host : Host} {path : Path} (writable : IsWritable host path)
    (config : Config) :
    ∃ saved : Host, config.save host path = (.ok (), saved) ∧
      saved.read path = .ok (Utf8.encode config.text) ∧ IsWritable saved path := by
  obtain ⟨prepared, ready, opens⟩ := writable
  obtain ⟨files, written, grown, read, opensAgain⟩ := opens.write (Utf8.encode config.text)
  have saves : prepared.write path (Utf8.encode config.text) =
      .ok { prepared with files } := by
    rw [Host.write, written]
    rfl
  refine ⟨{ prepared with files }, save_of_prepare ready saves, read, ?_⟩
  exact ⟨{ prepared with files }, prepare_again ready rfl grown, opensAgain⟩

theorem exists_prepare_of_save {config : Config} {host saved : Host} {path : Path}
    (saves : config.save host path = (.ok (), saved)) :
    ∃ prepared, prepare host path = (.ok (), prepared) ∧
      prepared.write path (Utf8.encode config.text) = .ok saved := by
  rw [save_eq] at saves
  rcases ready : prepare host path with ⟨cause | _, prepared⟩
  · rw [ready] at saves
    cases (Prod.mk.inj saves).1
  · rw [ready] at saves
    cases written : prepared.write path (Utf8.encode config.text) with
    | error cause =>
        simp only [written] at saves
        cases (Prod.mk.inj saves).1
    | ok next =>
        simp only [written] at saves
        obtain ⟨-, rfl⟩ := Prod.mk.inj saves
        exact ⟨prepared, rfl, written⟩

theorem prepare_keeps {host prepared : Host} {path : Path} {result : Except HostError Unit}
    (ready : prepare host path = (result, prepared)) :
    host.files.Extends prepared.files ∧ prepared.files.files = host.files.files ∧
      prepared.directory = host.directory := by
  unfold prepare at ready
  split at ready
  · obtain ⟨-, rfl⟩ := Prod.mk.inj ready
    exact ⟨host.files.extends_refl, rfl, rfl⟩
  · next parent _ =>
      obtain ⟨-, rfl⟩ := Prod.mk.inj ready
      exact ⟨host.files.extends_makeDirectories host.directory parent,
        host.files.files_makeDirectories host.directory parent, rfl⟩

theorem exists_read_of_load {host : Host} {path : Path} {config : Config}
    (loaded : load host path = .ok config) :
    ∃ octets, octets ≠ [] ∧ host.read path = .ok octets := by
  unfold load at loaded
  cases read : host.read path with
  | error cause =>
      rw [read] at loaded
      cases loaded
  | ok octets =>
      refine ⟨octets, ?_, rfl⟩
      rintro rfl
      rw [read] at loaded
      have empty : Utf8.decode? [] = some "" := by decide +kernel
      have nothing : parse? "" = none := by cbv
      simp [empty, nothing] at loaded

theorem loadOrDefault_of_load {host : Host} {place : Option Path} {config : Config}
    (loaded : load host (place.getD (defaultPath host)) = .ok config) :
    loadOrDefault host place = .ok config := by
  obtain ⟨octets, -, read⟩ := exists_read_of_load loaded
  have holds : host.holds (place.getD (defaultPath host)) = true := FileTree.holds_of_read read
  simp only [loadOrDefault, holds, if_true, loaded]

/-- Once the directories above it have been made, a path leads to a file that may be read, or to
nothing. -/
def IsPlain (host : Host) (path : Path) : Prop :=
  (prepare host path).2.files.IsPlain host.directory path

theorem isPlain_of_load {host : Host} {path : Path} {config : Config}
    (loaded : load host path = .ok config) : IsPlain host path := by
  obtain ⟨octets, filled, read⟩ := exists_read_of_load loaded
  obtain ⟨place, number, file, found, stored, readable⟩ :=
    FileTree.exists_file_of_read read filled
  rcases ready : prepare host path with ⟨result, prepared⟩
  obtain ⟨grown, files, -⟩ := prepare_keeps ready
  intro other node foundToo
  rw [ready] at foundToo
  obtain ⟨-, rfl⟩ := Prod.mk.inj (Except.ok.inj ((grown.find found).symm.trans foundToo))
  rw [ready]
  exact ⟨number, file, rfl, files ▸ stored, readable⟩

theorem IsPlain.isWritable {host saved : Host} {path : Path} (plain : IsPlain host path)
    {config : Config} (saves : config.save host path = (.ok (), saved)) : IsWritable host path := by
  obtain ⟨prepared, ready, written⟩ := exists_prepare_of_save saves
  obtain ⟨-, -, unmoved⟩ := prepare_keeps ready
  have writes : ∃ next, prepared.files.write prepared.directory path
      (Utf8.encode config.text) = .ok next := by
    unfold Host.write at written
    cases there : prepared.files.write prepared.directory path (Utf8.encode config.text) with
    | error cause =>
        rw [there] at written
        cases written
    | ok next => exact ⟨next, rfl⟩
  obtain ⟨next, writes⟩ := writes
  rw [IsPlain, ready, ← unmoved] at plain
  exact ⟨prepared, ready, FileTree.IsPlain.isWritable plain writes⟩

/-- A configuration without doubles that came from a text, with or without the settings that a
registry exports, is loaded again from where it is saved, and saving it again writes the same
octets. -/
theorem load_save {config : Config} (obtained : config.Obtained)
    (free : config.settings.DoubleFree) {host : Host} {path : Path}
    (writable : IsWritable host path) :
    ∃ saved again : Host, config.save host path = (.ok (), saved) ∧
      load saved path = .ok config ∧ config.save saved path = (.ok (), again) ∧
      saved.read path = .ok (Utf8.encode config.text) ∧ again.read path = saved.read path := by
  obtain ⟨saved, saves, read, writableAgain⟩ := writable.save config
  obtain ⟨again, savesAgain, readAgain, -⟩ := writableAgain.save config
  exact ⟨saved, again, saves, load_of_read obtained.legible free read, savesAgain, read,
    readAgain.trans read.symm⟩

/-- The first save makes the directory and the file. -/
theorem load_save_nested :
    let config : Config := { default with
      extraClasspath := some ""
      settings := .ofList [("strip",
        .ofList [("rules", .array [.number (.whole 7), .object [("é", .null)]])])] }
    let host : Host := ⟨⟨[], [], 0⟩, [], []⟩
    let path := Path.ofString "helios/config.json"
    config.Obtained ∧ config.settings.DoubleFree ∧ IsWritable host path ∧
      ∃ saved again : Host, config.save host path = (.ok (), saved) ∧
        load saved path = .ok config ∧ config.save saved path = (.ok (), again) ∧
        saved.read path = .ok (Utf8.encode config.text) ∧ again.read path = saved.read path := by
  intro config host path
  have legible : config.Legible := by
    refine List.forall_mem_singleton.mpr (List.forall_mem_singleton.mpr ?_)
    refine .array (List.forall_mem_cons.mpr ⟨.whole _ ⟨by decide, by decide⟩, ?_⟩)
    rw [List.forall_mem_singleton]
    refine .object (List.pairwise_singleton _ _) ?_
    rw [List.forall_mem_singleton]
    exact .null _
  have free : config.settings.DoubleFree := by
    refine List.forall_mem_singleton.mpr (List.forall_mem_singleton.mpr ?_)
    refine .array (List.forall_mem_cons.mpr ⟨.whole _, ?_⟩)
    rw [List.forall_mem_singleton]
    refine .object ?_
    rw [List.forall_mem_singleton]
    exact .null
  have obtained : config.Obtained := .parsed (parse?_text legible free)
  have writable : IsWritable host path := by
    refine ⟨⟨⟨[(["helios"].map Utf8.encode, .directory 0o755)], [], 0⟩, [], []⟩,
      by decide +kernel, 0, ⟨[(["helios"].map Utf8.encode, .directory 0o755),
        (["helios", "config.json"].map Utf8.encode, .file 0)], [⟨[[]], 0, 0o644, 0, 0⟩], 0⟩,
      ⟨[[]], 0, 0o644, 0, 0⟩, ?_, ?_, ?_⟩ <;> decide +kernel
  exact ⟨obtained, free, writable, load_save obtained free writable⟩

end ArtifactTools.Config
