import ArtifactTools.Proofs.Conversion.Accounting
import ArtifactTools.Proofs.Process.Starting

/-! What a built-in converter launches. The program is the tool as it was found, which is still
there when it is launched. It is also the file that runs, provided that its path is absolute, or has
a slash and the tool starts where it was looked for. -/

namespace ArtifactTools

namespace Config

inductive Offers (host : Host) (configured : Option String) (tool : Tool) : Path → Prop
  | configuration {text} : configured = some text → Offers host configured tool (.ofString text)
  | environment {text} : host.valueOf? tool.variableName = some text →
      Offers host configured tool (.ofString text)
  | search {directory name} : directory ∈ searchDirectories host → name ∈ tool.names →
      Offers host configured tool (directory.join (.ofString name))

section

variable {config : Config} {host : Host} {configured : Option String} {tool : Tool} {path : Path}

theorem holds_of_holdsExecutable (executable : host.holdsExecutable path = true) :
    host.holds path = true := by
  unfold Host.holdsExecutable FileTree.holdsExecutable at executable
  unfold Host.holds FileTree.holds
  split at executable
  · next found => rw [found]
  · cases executable

theorem offers_of_search (found : search host tool = some path) :
    Offers host configured tool path ∧ host.holds path = true := by
  unfold search findByVariable at found
  split at found
  · next named =>
      split at named
      · cases named
      · next text value =>
          split at named
          · next holds =>
              obtain rfl := Option.some.inj (named.trans found)
              exact ⟨.environment value, holds⟩
          · cases named
  · obtain ⟨name, member, onPath⟩ := List.exists_of_findSome?_eq_some found
    unfold findOnPath at onPath
    obtain ⟨directory, searched, rfl⟩ := List.mem_map.mp (List.mem_of_find?_eq_some onPath)
    exact ⟨.search searched member, holds_of_holdsExecutable (List.find?_some onPath)⟩

theorem offers_of_resolve (found : config.resolve host configured tool = some path) :
    Offers host configured tool path ∧ host.holds path = true := by
  have searched (later : (if config.discoversTools then search host tool else none) = some path) :
      Offers host configured tool path ∧ host.holds path = true := by
    split at later
    · exact offers_of_search later
    · cases later
  cases configured with
  | none => exact searched found
  | some text =>
      simp only [resolve] at found
      split at found
      · next holds =>
          obtain rfl := Option.some.inj found
          exact ⟨.configuration rfl, holds⟩
      · exact searched found

structure IsAnchored (config : Config) (host : Host) : Prop where
  configured : ∀ text, config.python3Location = some text ∨ config.dex2jarLocation = some text →
    (Path.ofString text).isAbsolute = true
  environment : ∀ tool ∈ [python3, dex2jar], ∀ text, host.valueOf? tool.variableName = some text →
    (Path.ofString text).isAbsolute = true
  searched : ∀ directory ∈ searchDirectories host, directory.isAbsolute = true

theorem IsAnchored.isAbsolute (anchored : config.IsAnchored host) (known : tool ∈ [python3, dex2jar])
    (listed : ∀ text, configured = some text →
      config.python3Location = some text ∨ config.dex2jarLocation = some text)
    (offers : Offers host configured tool path) : path.isAbsolute = true := by
  cases offers with
  | configuration named => exact anchored.configured _ (listed _ named)
  | environment value => exact anchored.environment tool known _ value
  | search searched _ => exact Path.isAbsolute_join (anchored.searched _ searched) _

end

end Config

namespace Converter

theorem exists_find_of_tool {converter : Converter} {host : Host} {tool : Path}
    (resolved : converter.tool? host = some tool) :
    (∃ place node, host.files.find host.directory tool = .ok (place, node)) ∧
      (converter.environment.config.IsAnchored host → tool.isAbsolute = true) := by
  have offered : host.holds tool = true ∧
      (converter.environment.config.IsAnchored host → tool.isAbsolute = true) := by
    unfold tool? at resolved
    split at resolved
    · obtain ⟨offers, holds⟩ := Config.offers_of_resolve resolved
      exact ⟨holds, fun anchored => anchored.isAbsolute (by simp) (fun _ => Or.inl) offers⟩
    · split at resolved
      · obtain ⟨offers, holds⟩ := Config.offers_of_resolve resolved
        exact ⟨holds, fun anchored => anchored.isAbsolute (by simp) (fun _ => Or.inr) offers⟩
      · cases resolved
  refine ⟨?_, offered.2⟩
  have holds := offered.1
  unfold Host.holds FileTree.holds at holds
  split at holds
  · next result found => exact ⟨result.1, result.2, found⟩
  · cases holds

section

variable {converter : Converter} {input output : Path} {limits : Limits} {before : Services}

theorem launches_of_settled {result : Except ConversionError ConversionStatus}
    (planned : converter.strategy.plan converter.environment.config before.host input output =
      .settled result) :
    (converter.convert input output limits before).2.launches = before.launches := by
  rw [convert_of_settled planned]
  unfold Conversion.recover
  split <;> rfl

/-- A tool is launched as planned, when the directory of the output has been made. -/
theorem prepared_of_launch {template : Template} {launch : Launch}
    (planned : converter.strategy.plan converter.environment.config before.host input output =
      .tool template true)
    (launched : (converter.convert input output limits before).2.launches =
      before.launches ++ [launch]) :
    launch = ⟨template, limits⟩ ∧
      (Conversion.prepareOutput before.host output).1 = .ok () := by
  rcases prepared : Conversion.prepareOutput before.host output with ⟨cause | _, host⟩
  · rw [convert_of_unprepared planned prepared] at launched
    simp at launched
  · rcases answered : converter.environment.launcher before.launches host ⟨template, limits⟩ with
      ⟨cause | answer, later⟩
    · rw [convert_of_broken planned prepared answered] at launched
      exact ⟨by simpa using launched.symm, rfl⟩
    · rw [convert_of_completed planned prepared answered] at launched
      exact ⟨by simpa using launched.symm, rfl⟩

end

theorem extends_prepareOutput (host : Host) (output : Path) :
    (Conversion.prepareOutput host output).2.directory = host.directory ∧
      host.files.Extends (Conversion.prepareOutput host output).2.files := by
  unfold Conversion.prepareOutput
  split
  · exact ⟨rfl, host.files.extends_refl⟩
  · next parent _ => exact ⟨rfl, host.files.extends_makeDirectories host.directory parent⟩

/-- What is launched for an output: the tool that was found at a place, which it is still at. -/
structure LaunchesTool (converter : Converter) (output : Path) (before : Host)
    (template : Template) (place : Location) : Prop where
  tool : converter.tool? before = some template.program
  found : ∃ node, before.files.find before.directory template.program = .ok (place, node) ∧
    let host := (Conversion.prepareOutput before output).2
    host.files.find host.directory template.program = .ok (place, node)
  /-- It is the file that is started if and only if the path that is taken at the start leads to
  it, -/
  started : let host := (Conversion.prepareOutput before output).2
    ∀ directory, SystemLauncher.startDirectory host template = .ok directory →
      (SystemLauncher.fileTaken? host template = some place ↔ ∃ path node,
        Invocation.pathTaken? host.files directory host.searchedDirectories
          template.program.octets template.arguments = some path ∧
        host.files.find directory path = .ok (place, node))
  /-- and so it is for an anchored path. -/
  anchored : SystemLauncher.IsAnchored template ∨ converter.environment.config.IsAnchored before →
    let host := (Conversion.prepareOutput before output).2
    ∀ directory, SystemLauncher.startDirectory host template = .ok directory →
      SystemLauncher.fileTaken? host template = some place

theorem launchesTool_of_tool {converter : Converter} {before : Host} {template : Template}
    (resolved : converter.tool? before = some template.program) (output : Path) :
    ∃ place, converter.LaunchesTool output before template place := by
  obtain ⟨⟨place, node, found⟩, absolute⟩ := exists_find_of_tool resolved
  obtain ⟨home, grown⟩ := extends_prepareOutput before output
  let host := (Conversion.prepareOutput before output).2
  have still : host.files.find host.directory template.program = .ok (place, node) := by
    rw [home]
    exact grown.find found
  refine ⟨place, resolved, ⟨node, found, still⟩, ?_, ?_⟩
  · intro host directory starts
    exact SystemLauncher.fileTaken?_eq_some_iff starts place
  · intro anchored host directory starts
    refine SystemLauncher.fileTaken_of_isAnchored starts still ?_
    exact anchored.elim (fun direct => direct) fun places => Or.inl (absolute places)

/-- A built-in converter launches the tool that was found. What is started is the file that was
found, if the path is anchored or all places of tools are. -/
theorem launchesTool_of_launch {environment : Environment} {converter : Converter}
    (builtin : converter ∈ Conversion.converters environment) {input output : Path}
    {limits : Limits} {before : Services} {launch : Launch}
    (launched : (converter.convert input output limits before).2.launches =
      before.launches ++ [launch]) :
    launch.limits = limits ∧ (Conversion.prepareOutput before.host output).1 = .ok () ∧
      ∃ place, converter.LaunchesTool output before.host launch.template place := by
  have idle {result : Except ConversionError ConversionStatus}
      (planned : converter.strategy.plan converter.environment.config before.host input output =
        .settled result) : False := by
    rw [launches_of_settled planned] at launched
    simp at launched
  have busy (plans : converter.PlansTool) : launch.limits = limits ∧
      (Conversion.prepareOutput before.host output).1 = .ok () ∧
        ∃ place, converter.LaunchesTool output before.host launch.template place := by
    rcases plans before.host input output with ⟨-, reason, planned⟩ | ⟨template, resolved, planned⟩
    · exact (idle planned).elim
    · obtain ⟨rfl, prepared⟩ := prepared_of_launch planned launched
      exact ⟨rfl, prepared, launchesTool_of_tool resolved output⟩
  simp only [Conversion.converters, List.mem_cons, List.not_mem_nil, or_false] at builtin
  rcases builtin with rfl | rfl | rfl | rfl
  · exact busy (plansTool_enjarify environment)
  · exact busy (plansTool_dex2jar environment)
  · exact (idle rfl).elim
  · exact (idle rfl).elim

/-- An absolute place is launched as it was found. -/
theorem launchesTool_dex2jar :
    let config : Config := { Config.default with dex2jarLocation := some "/d2j" }
    let environment : Environment := ⟨config, fun _ host _ => (.error .cancelled, host)⟩
    let host : Host := ⟨⟨[([Utf8.encode "d2j"], .file 0)], [⟨[[]], 0, 0o755, 0, 0⟩], 0⟩, [], []⟩
    let converter := Conversion.dex2jar environment
    let output := Path.ofString "out/app.jar"
    let template := Conversion.dex2jarTemplate host (Path.ofString "/d2j")
      (Path.ofString "app.dex") output
    (converter.convert (Path.ofString "app.dex") output ⟨none, none⟩ (.ofHost host)).2.launches =
        [⟨template, ⟨none, none⟩⟩] ∧
      (∃ place, converter.LaunchesTool output host template place) ∧
      SystemLauncher.fileTaken? (Conversion.prepareOutput host output).2 template =
        some [Utf8.encode "d2j"] := by
  intro config environment host converter output template
  have builtin : converter ∈ Conversion.converters environment := by
    simp [Conversion.converters, converter]
  have launched : (converter.convert (Path.ofString "app.dex") output ⟨none, none⟩
      (.ofHost host)).2.launches = (Services.ofHost host).launches ++ [⟨template, ⟨none, none⟩⟩] := by
    decide +kernel
  have launches := launchesTool_of_launch builtin launched
  exact ⟨launched, launches.2.2, by decide +kernel⟩

/-- A relative place is taken from the directory that the tool starts in. Another file may be
there. -/
theorem enjarify_launches_other :
    let config : Config := { Config.default with
      python3Location := some "bin/py"
      enjarifyDirectory := some "checkout"
      discoversTools := false }
    let converter := Conversion.enjarify ⟨config, fun _ host _ => (.error .cancelled, host)⟩
    let file := StoredFile.mk [[]] 0 0o755 0 0
    let below (names : List String) : Location := names.map Utf8.encode
    let host : Host := ⟨⟨[(below ["bin"], .directory 0o755), (below ["bin", "py"], .file 0),
      (below ["checkout"], .directory 0o755), (below ["checkout", "bin"], .directory 0o755),
      (below ["checkout", "bin", "py"], .file 1)], [file, file], 0⟩, [], []⟩
    let output := Path.ofString "app.jar"
    let launches :=
      (converter.convert (Path.ofString "app.apk") output ⟨none, none⟩ (.ofHost host)).2.launches
    converter.tool? host = some (Path.ofString "bin/py") ∧
      host.files.find host.directory (Path.ofString "bin/py") =
        .ok (below ["bin", "py"], .file 0) ∧
      launches.map (fun launch => SystemLauncher.fileTaken?
        (Conversion.prepareOutput host output).2 launch.template) =
          [some (below ["checkout", "bin", "py"])] := by
  decide +kernel

end Converter

end ArtifactTools
