import ArtifactTools.Proofs.Conversion.Launching
import ArtifactTools.Proofs.Text.Utf8

/-! The order in which a tool is looked for: what is configured, what the variable of the tool
names, and what `PATH` leads to. What is named but not there is passed over. Without a search the
environment says nothing. -/

namespace ArtifactTools

theorem Host.valueOf?_eq_some_iff {host : Host} {name text : String} :
    host.valueOf? name = some text ↔ host.octetsOf? name = some (Utf8.encode text) := by
  simp only [valueOf?, Option.bind_eq_some_iff, Utf8.decode?_eq_some_iff, exists_eq_right]

namespace Config

def IsStale (host : Host) (named : Option String) : Prop :=
  ∀ text, named = some text → host.holds (.ofString text) = false

def IsAbsent (host : Host) (name : String) : Prop :=
  ∀ directory ∈ searchDirectories host,
    host.holdsExecutable (directory.join (.ofString name)) = false

def IsFirst (host : Host) (name : String) (path : Path) : Prop :=
  ∃ before directory after, searchDirectories host = before ++ directory :: after ∧
    (∀ passed ∈ before, host.holdsExecutable (passed.join (.ofString name)) = false) ∧
    path = directory.join (.ofString name) ∧ host.holdsExecutable path = true

inductive Searches (host : Host) (tool : Tool) : Option Path → Prop
  | environment {text} : host.octetsOf? tool.variableName = some (Utf8.encode text) →
      host.holds (.ofString text) = true → Searches host tool (some (.ofString text))
  /-- A name counts only if no directory of `PATH` has one of the names before it. -/
  | name {before name after path} : IsStale host (host.valueOf? tool.variableName) →
      tool.names = before ++ name :: after → (∀ earlier ∈ before, IsAbsent host earlier) →
      IsFirst host name path → Searches host tool (some path)
  | nothing : IsStale host (host.valueOf? tool.variableName) →
      (∀ name ∈ tool.names, IsAbsent host name) → Searches host tool none

inductive Resolves (config : Config) (host : Host) (configured : Option String) (tool : Tool) :
    Option Path → Prop
  | configuration {text} : configured = some text → host.holds (.ofString text) = true →
      Resolves config host configured tool (some (.ofString text))
  | closed : IsStale host configured → config.discoversTools = false →
      Resolves config host configured tool none
  | search {result} : IsStale host configured → config.discoversTools = true →
      Searches host tool result → Resolves config host configured tool result

section

variable {config : Config} {host : Host} {configured : Option String} {tool : Tool}

theorem findOnPath_eq_some_iff {name : String} {path : Path} :
    findOnPath host name = some path ↔ IsFirst host name path := by
  simp only [findOnPath, List.find?_map, Option.map_eq_some_iff, List.find?_eq_some_iff_append,
    Function.comp_apply, Bool.not_eq_true', IsFirst]
  constructor
  · rintro ⟨directory, ⟨executable, before, after, searched, passed⟩, rfl⟩
    exact ⟨before, directory, after, searched, passed, rfl, executable⟩
  · rintro ⟨before, directory, after, searched, passed, rfl, executable⟩
    exact ⟨directory, ⟨executable, before, after, searched, passed⟩, rfl⟩

theorem findOnPath_eq_none_iff {name : String} :
    findOnPath host name = none ↔ IsAbsent host name := by
  simp [findOnPath, IsAbsent]

theorem findByVariable_eq_some {text : String} (value : host.valueOf? tool.variableName = some text)
    (holds : host.holds (.ofString text) = true) :
    findByVariable host tool = some (.ofString text) := by
  simp only [findByVariable, value, holds, if_true]

theorem findByVariable_eq_none (stale : IsStale host (host.valueOf? tool.variableName)) :
    findByVariable host tool = none := by
  unfold findByVariable
  split
  · rfl
  · next text value =>
      rw [stale text value]
      rfl

theorem search_eq_of_searches {result : Option Path} (searches : Searches host tool result) :
    search host tool = result := by
  unfold search
  cases searches with
  | environment value holds =>
      rw [findByVariable_eq_some (Host.valueOf?_eq_some_iff.mpr value) holds]
  | name stale names absent first =>
      rw [findByVariable_eq_none stale]
      refine List.findSome?_eq_some_iff.mpr ⟨_, _, _, names, findOnPath_eq_some_iff.mpr first, ?_⟩
      exact fun earlier member => findOnPath_eq_none_iff.mpr (absent earlier member)
  | nothing stale absent =>
      rw [findByVariable_eq_none stale]
      exact List.findSome?_eq_none_iff.mpr fun name member =>
        findOnPath_eq_none_iff.mpr (absent name member)

theorem isStale_or_holds (host : Host) (named : Option String) : IsStale host named ∨
    ∃ text, named = some text ∧ host.holds (.ofString text) = true := by
  by_cases there : ∃ text, named = some text ∧ host.holds (.ofString text) = true
  · exact .inr there
  · refine .inl fun text same => Bool.eq_false_iff.mpr fun holds => there ⟨text, same, holds⟩

theorem searches_search (host : Host) (tool : Tool) : Searches host tool (search host tool) := by
  rcases isStale_or_holds host (host.valueOf? tool.variableName) with stale | ⟨text, value, holds⟩
  · have onPath : search host tool = tool.names.findSome? (findOnPath host) := by
      rw [search, findByVariable_eq_none stale]
    rw [onPath]
    cases found : tool.names.findSome? (findOnPath host) with
    | none =>
        exact .nothing stale fun name member =>
          findOnPath_eq_none_iff.mp (List.findSome?_eq_none_iff.mp found name member)
    | some path =>
        obtain ⟨before, name, after, names, first, absent⟩ := List.findSome?_eq_some_iff.mp found
        have missing := fun earlier member => findOnPath_eq_none_iff.mp (absent earlier member)
        exact .name stale names missing (findOnPath_eq_some_iff.mp first)
  · rw [search, findByVariable_eq_some value holds]
    exact .environment (Host.valueOf?_eq_some_iff.mp value) holds

theorem resolve_eq_of_isStale (stale : IsStale host configured) :
    config.resolve host configured tool =
      if config.discoversTools then search host tool else none := by
  unfold resolve
  cases configured with
  | none => rfl
  | some text => simp only [stale text rfl, Bool.false_eq_true, if_false]

theorem resolve_eq_iff {result : Option Path} : config.resolve host configured tool = result ↔
    config.Resolves host configured tool result := by
  constructor
  · rintro rfl
    rcases isStale_or_holds host configured with stale | ⟨text, rfl, holds⟩
    · rw [resolve_eq_of_isStale stale]
      cases opened : config.discoversTools with
      | false => exact .closed stale opened
      | true => exact .search stale opened (searches_search host tool)
    · have found : config.resolve host (some text) tool = some (.ofString text) := by
        simp only [resolve, holds, if_true]
      rw [found]
      exact .configuration rfl holds
  · intro resolves
    cases resolves with
    | configuration named holds => simp only [resolve, named, holds, if_true]
    | closed stale closed => simp [resolve_eq_of_isStale stale, closed]
    | search stale opened searches =>
        simp [resolve_eq_of_isStale stale, opened, search_eq_of_searches searches]

/-- Without a search the environment says nothing. -/
theorem resolve_of_environment (closed : config.discoversTools = false)
    (environment : List (String × Octets)) :
    config.resolve { host with environment } configured tool =
      config.resolve host configured tool := by
  simp only [resolve, closed, Bool.false_eq_true, if_false]
  rfl

end

end Config

theorem Conversion.prepareOutput_of_environment (host : Host)
    (environment : List (String × Octets)) (output : Path) :
    (prepareOutput { host with environment } output).1 = (prepareOutput host output).1 := by
  unfold prepareOutput
  split <;> rfl

namespace Converter

variable {converter : Converter} {input output : Path} {limits : Limits} {before : Services}

/-- A tool is launched just where the directory of the output could be made. -/
theorem launches_of_tool {template : Template}
    (planned : converter.strategy.plan converter.environment.config before.host input output =
      .tool template true) :
    (converter.convert input output limits before).2.launches = before.launches ++
      match (Conversion.prepareOutput before.host output).1 with
      | .ok _ => [⟨template, limits⟩]
      | .error _ => [] := by
  rcases prepared : Conversion.prepareOutput before.host output with ⟨cause | _, host⟩
  · simp [convert_of_unprepared planned prepared]
  · rcases answered : converter.environment.launcher before.launches host ⟨template, limits⟩ with
      ⟨cause | answer, later⟩
    · simp [convert_of_broken planned prepared answered]
    · simp [convert_of_completed planned prepared answered]

theorem launches_of_environment (environment : List (String × Octets))
    (same : converter.strategy.plan converter.environment.config
        { before.host with environment } input output =
      converter.strategy.plan converter.environment.config before.host input output)
    (busy : ∀ template, converter.strategy.plan converter.environment.config before.host input
      output ≠ .tool template false) :
    (converter.convert input output limits
        { before with host := { before.host with environment } }).2.launches =
      (converter.convert input output limits before).2.launches := by
  cases planned : converter.strategy.plan converter.environment.config before.host input output with
  | settled result =>
      rw [launches_of_settled planned, launches_of_settled (same.trans planned)]
  | tool template prepares =>
      cases prepares with
      | false => exact absurd planned (busy template)
      | true =>
          rw [launches_of_tool planned, launches_of_tool (same.trans planned),
            Conversion.prepareOutput_of_environment]

theorem PlansTool.ne_tool_false (plans : converter.PlansTool) (host : Host) (template : Template) :
    converter.strategy.plan converter.environment.config host input output ≠
      .tool template false := by
  intro planned
  rcases plans host input output with ⟨-, reason, settled⟩ | ⟨other, -, tool⟩
  · rw [planned] at settled
    cases settled
  · rw [planned] at tool
    cases tool

theorem launches_of_builtin {config : Config} {launcher : Launcher}
    (closed : config.discoversTools = false)
    (builtin : converter ∈ Conversion.converters ⟨config, launcher⟩)
    (environment : List (String × Octets)) :
    (converter.convert input output limits
        { before with host := { before.host with environment } }).2.launches =
      (converter.convert input output limits before).2.launches := by
  simp only [Conversion.converters, List.mem_cons, List.not_mem_nil, or_false] at builtin
  rcases builtin with rfl | rfl | rfl | rfl
  · refine launches_of_environment environment ?_ ((plansTool_enjarify _).ne_tool_false _)
    simp only [Conversion.enjarify, Conversion.enjarifyStrategy, Conversion.planEnjarify,
      Config.resolvePython3, Config.resolve_of_environment closed]
    rfl
  · refine launches_of_environment environment ?_ ((plansTool_dex2jar _).ne_tool_false _)
    simp only [Conversion.dex2jar, Conversion.dex2jarStrategy, Conversion.planDex2Jar,
      Config.resolveDex2Jar, Config.resolve_of_environment closed]
    rfl
  · exact launches_of_environment environment rfl (fun _ => Plan.noConfusion)
  · exact launches_of_environment environment rfl (fun _ => Plan.noConfusion)

end Converter

/-- Tools are resolved in a fixed order of their places, and what is resolved is there. Without a
search, runs that differ in their environments only resolve alike and launch the same. -/
theorem Config.tools_resolved_in_order (config : Config) (host : Host) :
    (∀ result, config.resolvePython3 host = result ↔
      config.Resolves host config.python3Location python3 result) ∧
    (∀ result, config.resolveDex2Jar host = result ↔
      config.Resolves host config.dex2jarLocation dex2jar result) ∧
    (∀ path, config.resolvePython3 host = some path ∨ config.resolveDex2Jar host = some path →
      host.holds path = true) ∧
    (config.discoversTools = false → ∀ environment,
      let other := { host with environment }
      config.resolvePython3 other = config.resolvePython3 host ∧
      config.resolveDex2Jar other = config.resolveDex2Jar host ∧
      ∀ launcher, ∀ converter ∈ Conversion.converters ⟨config, launcher⟩,
        ∀ input output limits launches reports,
          (converter.convert input output limits ⟨other, launches, reports⟩).2.launches =
            (converter.convert input output limits ⟨host, launches, reports⟩).2.launches) := by
  refine ⟨fun _ => resolve_eq_iff, fun _ => resolve_eq_iff, ?_, ?_⟩
  · rintro path (found | found)
    · exact (offers_of_resolve found).2
    · exact (offers_of_resolve found).2
  · intro closed environment other
    refine ⟨resolve_of_environment closed environment, resolve_of_environment closed environment,
      ?_⟩
    intro launcher converter builtin input output limits launches reports
    let before : Services := ⟨host, launches, reports⟩
    exact @Converter.launches_of_builtin _ _ _ _ before _ _ closed builtin environment

/-- The second name of a tool lies before the first on `PATH`, the configured place is not there,
and the variable is not text. -/
theorem Config.tools_resolved_in_order_stale :
    let config : Config := { Config.default with
      python3Location := some "/a/py"
      dex2jarLocation := some "/gone" }
    let closed : Config := { config with discoversTools := false }
    let file := StoredFile.mk [[]] 0 0o755 0 0
    let below (names : List String) : Location := names.map Utf8.encode
    let host : Host := ⟨⟨[(below ["a"], .directory 0o755), (below ["a", "py"], .file 0),
      (below ["a", "d2j-dex2jar.sh"], .file 0), (below ["b"], .directory 0o755),
      (below ["b", "d2j-dex2jar"], .file 0)], [file], 0⟩, [],
      [("PATH", Utf8.encode "/a:/b"), ("HELIOS_DEX2JAR", [255])]⟩
    let other := { host with environment := [] }
    let launcher : Launcher := fun _ host _ => (.error .cancelled, host)
    let launches (host : Host) := ((Conversion.enjarify ⟨closed, launcher⟩).convert
      (Path.ofString "app.apk") (Path.ofString "out/app.jar") ⟨none, none⟩ ⟨host, [], []⟩).2.launches
    config.Resolves host config.dex2jarLocation dex2jar
        (some (Path.ofString "/b/d2j-dex2jar")) ∧
      closed.Resolves host closed.dex2jarLocation dex2jar none ∧
      closed.discoversTools = false ∧ launches other = launches host ∧
      (launches host).length = 1 := by
  intro config closed file below host other launcher launches
  have second := (config.tools_resolved_in_order host).2.1 (some (Path.ofString "/b/d2j-dex2jar"))
  obtain ⟨-, first, -, alike⟩ := closed.tools_resolved_in_order host
  refine ⟨second.mp (by decide +kernel), (first none).mp (by decide +kernel), rfl, ?_,
    by decide +kernel⟩
  obtain ⟨-, -, launched⟩ := alike rfl []
  exact launched launcher (Conversion.enjarify ⟨closed, launcher⟩) List.mem_cons_self _ _ _ _ _

end ArtifactTools
