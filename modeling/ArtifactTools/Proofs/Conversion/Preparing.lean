import ArtifactTools.Proofs.Conversion.Arguments
import ArtifactTools.Proofs.Conversion.Launching
import ArtifactTools.Proofs.Host.Leads
import ArtifactTools.Proofs.Path.Parents

/-! The directory of an output. It is made from the path as it is given, and the tool gets the
absolute form of that path: around both is the same directory. No tool is launched before it stands,
and where no tool is called for the host is left as it was. -/

namespace ArtifactTools

namespace Host

structure HasDirectory (host : Host) : Prop where
  named : host.IsNamed
  directories : host.files.HasDirectories FileTree.anyMode host.directory

structure ReachesDirectory (host : Host) : Prop where
  short : ∀ name ∈ host.directory, name.length ≤ FileTree.nameLimit
  directories : host.files.HasDirectories FileTree.isPassable host.directory

/-- A path leads to a directory. A process that can come to its working directory from the root
finds it there, if the path can be handed to the system at all. -/
structure Stands (host : Host) (path : Path) : Prop where
  leads : ∃ place mode, host.files.Leads FileTree.anyMode host.directory path.components place ∧
    host.files.node? place = some (.directory mode)
  found : host.ReachesDirectory → 0 ∉ path.octets → path.octets.length ≤ FileTree.pathLimit →
    host.holdsDirectory path = true

theorem HasDirectory.doubled {host : Host} (home : host.HasDirectory) :
    ∀ name ∈ host.directory, name ≠ [Path.dot, Path.dot] :=
  fun name member => (home.named name member).2

end Host

namespace FileTree

variable {tree : FileTree} {start place : Location} {mode : Nat}

theorem walkWith_of_current {isMarked : Bool} {rest : List Component}
    {goOn : Location → Octets → Bool → List Component → Except HostError Location}
    (walked : tree.walkWith .content goOn start isMarked (.current :: rest) = .ok place) :
    tree.walkWith .content goOn start isMarked rest = .ok place := by
  obtain ⟨-, next, stepped, onward⟩ := walkWith_cons_iff.mp walked
  obtain ⟨rfl, other | ⟨mode, present, -⟩⟩ := lets_of_step stepped
  · cases other
  · rcases onward with ⟨target, link, -⟩ | ⟨-, walkedOn⟩
    · cases present.symm.trans link
    · exact walkedOn

/-- A dot at the beginning stays in the directory. -/
theorem walk_of_current {isMarked : Bool} {rest : List Component} (links : Nat)
    (walked : tree.walk .content links start isMarked (.current :: rest) = .ok place) :
    tree.walk .content links start isMarked rest = .ok place := by
  cases links with
  | zero => exact walkWith_of_current walked
  | succ links => exact walkWith_of_current walked

theorem walk_nil (links : Nat) : tree.walk .content links start false [] = .ok start := by
  cases links <;> rfl

end FileTree

namespace Conversion

variable {host later : Host} {output parent : Path}

theorem holdsDirectory_of_prepareOutput (around : output.parent? = some parent)
    (written : parent.octets ≠ []) (prepared : prepareOutput host output = (.ok (), later)) :
    later.files.holdsDirectory host.directory parent = true := by
  have nonempty : ¬ parent.octets.isEmpty = true := by simpa using written
  simp only [prepareOutput, around, Host.makeDirectories, FileTree.makeDirectories, if_neg nonempty,
    Prod.mk.injEq] at prepared
  obtain ⟨made, rfl⟩ := prepared
  obtain ⟨before, ensured⟩ := FileTree.exists_ensureDirectory _ (Prod.ext made rfl)
  exact FileTree.holds_of_ensureDirectory written ensured

theorem walk_of_holdsDirectory {files : FileTree} {directory : Location}
    (around : output.parent? = some parent) (dotted : parent ≠ ⟨[Path.dot]⟩)
    (holds : files.holdsDirectory directory parent = true) :
    ∃ place mode, files.walk .content FileTree.linkLimit directory false parent.components =
      .ok place ∧ files.node? place = some (.directory mode) := by
  obtain ⟨place, mode, followed, present⟩ := (FileTree.holdsDirectory_iff _ _ _).mp holds
  obtain ⟨-, -, -, walked⟩ := (FileTree.follow_eq_ok_iff _ _ _ _ _).mp followed
  rw [(Path.stepsOf_parent around).resolve_left dotted] at walked
  exact ⟨place, mode, walked, present⟩

theorem walk_names_of_prepareOutput (around : output.parent? = some parent)
    (relative : output.isAbsolute = false) (prepared : prepareOutput host output = (.ok (), later))
    (home : ∃ mode, later.files.node? host.directory = some (.directory mode)) :
    ∃ place mode, later.files.walk .content FileTree.linkLimit host.directory false
        (output.names.map Path.componentOf).dropLast = .ok place ∧
      later.files.node? place = some (.directory mode) := by
  by_cases alone : (output.names.map Path.componentOf).dropLast = []
  · obtain ⟨mode, present⟩ := home
    rw [alone]
    exact ⟨_, mode, FileTree.walk_nil _, present⟩
  · have nonempty : output.names.map Path.componentOf ≠ [] := by
      intro empty
      simp [empty] at alone
    have steps := Path.components_parent around
    rw [output.components_eq, List.dropLast_append_of_ne_nil nonempty] at steps
    have written : parent.octets ≠ [] := Path.octets_ne_nil (by simp [steps, alone])
    have dotted : parent ≠ ⟨[Path.dot]⟩ := by
      refine Path.ne_dot fun current => ?_
      rw [steps] at current
      rcases Path.opening_of_relative relative with opens | opens
      · rw [opens, List.singleton_append] at current
        exact alone (List.cons.inj current).2
      · rw [opens, List.nil_append] at current
        have member : Component.current ∈ output.names.map Path.componentOf :=
          (List.dropLast_sublist _).subset (current ▸ List.mem_singleton_self _)
        exact (Path.ne_of_mem_leading (output.leading_segments ▸ member)).2 rfl
    obtain ⟨place, mode, walked, present⟩ := walk_of_holdsDirectory around dotted
      (holdsDirectory_of_prepareOutput around written prepared)
    refine ⟨place, mode, ?_, present⟩
    rw [steps] at walked
    rcases Path.opening_of_relative relative with opens | opens
    · rw [opens] at walked
      exact FileTree.walk_of_current _ walked
    · rwa [opens] at walked

theorem walk_of_isAbsolute (rooted : output.isAbsolute = true) (nonempty : output.names ≠ [])
    (prepared : prepareOutput host output = (.ok (), later)) :
    ∃ place mode, later.files.walk .content FileTree.linkLimit host.directory false
        output.components.dropLast = .ok place ∧
      later.files.node? place = some (.directory mode) := by
  obtain ⟨parent, around⟩ := Path.exists_parent nonempty
  have named : output.names.map Path.componentOf ≠ [] := by simpa using nonempty
  have steps := Path.components_parent around
  have begins : output.components.dropLast =
      .root :: (output.names.map Path.componentOf).dropLast := by
    rw [Path.components_of_isAbsolute rooted, List.dropLast_cons_of_ne_nil named]
  have written : parent.octets ≠ [] := Path.octets_ne_nil (by simp [steps, begins])
  have dotted : parent ≠ ⟨[Path.dot]⟩ := Path.ne_dot (by simp [steps, begins])
  rw [← steps]
  exact walk_of_holdsDirectory around dotted
    (holdsDirectory_of_prepareOutput around written prepared)

def LeadsOn (host : Host) (steps : List Component) : Prop :=
  ∃ place mode, host.files.node? place = some (.directory mode) ∧
    host.files.Leads FileTree.anyMode host.directory steps place ∧
    (host.ReachesDirectory →
      host.files.walk .content FileTree.linkLimit host.directory false steps = .ok place)

theorem leadsOn_names (home : host.HasDirectory) {names : Location}
    (within : names <+: host.directory) {rest : List Component} {place : Location} {mode : Nat}
    (walked : host.files.walk .content FileTree.linkLimit names false rest = .ok place)
    (present : host.files.node? place = some (.directory mode)) :
    LeadsOn host (.root :: names.map Path.componentOf ++ rest) := by
  have doubled : ∀ name ∈ names, name ≠ [Path.dot, Path.dot] :=
    fun name member => home.doubled name (within.subset member)
  refine ⟨place, mode, present, ?_, ?_⟩
  · exact (FileTree.leads_names doubled (home.directories.of_prefix within)).append
      (FileTree.leads_of_walk _ _ _ _ walked).anyMode
  · intro reaches
    rw [FileTree.walk_names doubled (fun name member => reaches.short name (within.subset member))
      (reaches.directories.of_prefix within)]
    exact walked

theorem components_around (named : host.IsNamed)
    (around : (host.absolute output).parent? = some parent) :
    output.namesFrom host.directory ≠ [] ∧ parent.components =
      .root :: ((output.namesFrom host.directory).map Path.componentOf).dropLast := by
  have written : output.octets ≠ [] := by
    intro nothing
    have empty : output = Path.empty := congrArg Path.mk nothing
    rw [host.absolute_of_empty nothing, empty] at around
    cases around
  have whole : (host.absolute output).components =
      .root :: (output.namesFrom host.directory).map Path.componentOf := by
    rw [absolute_eq_spell named output written,
      Path.components_spell (leads_namesFrom named output)]
  have nonempty : output.namesFrom host.directory ≠ [] := by
    intro empty
    rw [empty] at whole
    rw [Path.parent?_of_root whole] at around
    cases around
  refine ⟨nonempty, ?_⟩
  rw [Path.components_parent around, whole,
    List.dropLast_cons_of_ne_nil (by simpa using nonempty)]

theorem leadsOn_of_prepareOutput (home : later.HasDirectory)
    (same : later.directory = host.directory)
    (nonempty : output.namesFrom host.directory ≠ [])
    (prepared : prepareOutput host output = (.ok (), later)) :
    LeadsOn later (.root :: ((output.namesFrom host.directory).map Path.componentOf).dropLast) := by
  cases rooted : output.isAbsolute with
  | true =>
      have all : output.namesFrom host.directory = output.names := if_pos rooted
      rw [all] at nonempty ⊢
      obtain ⟨place, mode, walked, present⟩ := walk_of_isAbsolute rooted nonempty prepared
      rw [Path.components_of_isAbsolute rooted,
        List.dropLast_cons_of_ne_nil (by simpa using nonempty), ← same] at walked
      exact ⟨place, mode, present, (FileTree.leads_of_walk _ _ _ _ walked).anyMode, fun _ => walked⟩
  | false =>
      have all : output.namesFrom host.directory = later.directory ++ output.names := by
        rw [Path.namesFrom, rooted, if_neg Bool.false_ne_true, same]
      rw [all, List.map_append]
      by_cases alone : output.names = []
      -- The output is the working directory itself, and around it is the one that it lies in.
      · obtain ⟨mode, present, -⟩ := home.directories _ (List.dropLast_prefix later.directory)
        have within := leadsOn_names home (List.dropLast_prefix later.directory)
          (FileTree.walk_nil FileTree.linkLimit) present
        rw [List.append_nil, List.map_dropLast] at within
        rwa [alone, List.map_nil, List.append_nil]
      · obtain ⟨mode, present, -⟩ := home.directories _ (List.prefix_refl later.directory)
        obtain ⟨parent, around⟩ := Path.exists_parent alone
        obtain ⟨place, mode, walked, present⟩ :=
          walk_names_of_prepareOutput around rooted prepared ⟨mode, same ▸ present⟩
        rw [List.dropLast_append_of_ne_nil (by simpa using alone), ← List.cons_append]
        exact leadsOn_names home (List.prefix_refl _) (same ▸ walked) present

theorem hasDirectory_of_extends (home : host.HasDirectory)
    (same : later.directory = host.directory) (grown : host.files.Extends later.files) :
    later.HasDirectory := by
  refine ⟨?_, ?_⟩
  · unfold Host.IsNamed
    exact same ▸ home.named
  · intro above within
    obtain ⟨mode, present, any⟩ := home.directories above (same ▸ within)
    exact ⟨mode, grown.kept _ _ present, any⟩

theorem stands_of_prepareOutput (home : host.HasDirectory)
    (prepared : prepareOutput host output = (.ok (), later))
    (around : (host.absolute output).parent? = some parent) : later.Stands parent := by
  obtain ⟨same, grown⟩ := Converter.extends_prepareOutput host output
  rw [prepared] at same grown
  obtain ⟨nonempty, steps⟩ := components_around home.named around
  obtain ⟨place, mode, present, leads, reached⟩ :=
    leadsOn_of_prepareOutput (hasDirectory_of_extends home same grown) same nonempty prepared
  rw [← steps] at leads reached
  refine ⟨⟨place, mode, leads, present⟩, ?_⟩
  intro reaches noNul short
  have written : parent.octets ≠ [] := Path.octets_ne_nil (by simp [steps])
  have dotted : parent ≠ ⟨[Path.dot]⟩ := Path.ne_dot (by simp [steps])
  have plain := (Path.stepsOf_parent around).resolve_left dotted
  refine (FileTree.holdsDirectory_iff _ _ _).mpr ⟨place, mode, ?_, present⟩
  refine (FileTree.follow_eq_ok_iff _ _ _ _ _).mpr ⟨written, noNul, short, ?_⟩
  rw [plain]
  exact reached reaches

def IsReady (host : Host) (launch : Launch) : Prop :=
  ∃ made, valueAfter? (Utf8.encode "-o") launch.template.arguments = some made ∧
    ∀ around, (Path.mk made).parent? = some around → host.Stands around

def AgreeWhenReady (launcher other : Launcher) : Prop := ∀ launches host launch,
  IsReady host launch → other launches host launch = launcher launches host launch

inductive Unpreparable (host : Host) (output : Path) : Prop
  | refused {cause} : (prepareOutput host output).1 = .error cause → Unpreparable host output
  | blocked {around} : host.HasDirectory → output.parent? = some around →
      host.files.IsBlocked host.directory around.components → Unpreparable host output

theorem Unpreparable.exists_error (unpreparable : Unpreparable host output) :
    ∃ cause, (prepareOutput host output).1 = .error cause := by
  cases unpreparable with
  | refused error => exact ⟨_, error⟩
  | blocked home around blocked =>
      obtain ⟨mode, present, -⟩ := home.directories _ (List.prefix_refl host.directory)
      obtain ⟨cause, error⟩ := FileTree.error_of_isBlocked ⟨mode, present⟩ blocked
      refine ⟨cause, ?_⟩
      simpa only [prepareOutput, around, Host.makeDirectories] using error

end Conversion

namespace Converter

def HandsOver (converter : Converter) : Prop := ∀ host : Host, host.IsNamed →
  ∀ input output template prepares,
    converter.strategy.plan converter.environment.config host input output =
      .tool template prepares → prepares = true ∧
        Conversion.valueAfter? (Utf8.encode "-o") template.arguments =
          some (host.absolute output).octets

theorem handsOver_enjarify (environment : Environment) :
    (Conversion.enjarify environment).HandsOver := by
  intro host named input output template prepares planned
  change Conversion.planEnjarify environment.config host input output = _ at planned
  unfold Conversion.planEnjarify at planned
  split at planned
  · cases planned
  · next python _ =>
      obtain ⟨rfl, rfl⟩ := Plan.tool.inj planned
      exact ⟨rfl, (Conversion.readAs_enjarify named python _ input output).output⟩

theorem handsOver_dex2jar (environment : Environment) :
    (Conversion.dex2jar environment).HandsOver := by
  intro host named input output template prepares planned
  change Conversion.planDex2Jar environment.config host input output = _ at planned
  unfold Conversion.planDex2Jar at planned
  split at planned
  · cases planned
  · next tool _ =>
      obtain ⟨rfl, rfl⟩ := Plan.tool.inj planned
      exact ⟨rfl, (Conversion.readAs_dex2jar named tool input output).output⟩

theorem handsOver_of_builtin {environment : Environment} {converter : Converter}
    (builtin : converter ∈ Conversion.converters environment) : converter.HandsOver := by
  simp only [Conversion.converters, List.mem_cons, List.not_mem_nil, or_false] at builtin
  rcases builtin with rfl | rfl | rfl | rfl
  · exact handsOver_enjarify environment
  · exact handsOver_dex2jar environment
  · exact fun _ _ _ _ _ _ => Plan.noConfusion
  · exact fun _ _ _ _ _ _ => Plan.noConfusion

def withLauncher (converter : Converter) (launcher : Launcher) : Converter :=
  { converter with environment := { converter.environment with launcher } }

/-- It does not matter what a launcher does where a launch is not ready. -/
theorem convert_of_agree {converter : Converter} (handsOver : converter.HandsOver)
    {launcher : Launcher}
    (agree : Conversion.AgreeWhenReady converter.environment.launcher launcher)
    {before : Services} (home : before.host.HasDirectory) (input output : Path) (limits : Limits) :
    (converter.withLauncher launcher).convert input output limits before =
      converter.convert input output limits before := by
  let plan := converter.strategy.plan converter.environment.config before.host input output
  have carried : Conversion.carryOut launcher output limits before plan =
      Conversion.carryOut converter.environment.launcher output limits before plan := by
    cases planned : plan with
    | settled result => rfl
    | tool template prepares =>
        obtain ⟨rfl, made⟩ := handsOver _ home.named input output template prepares planned
        rcases prepared : Conversion.prepareOutput before.host output with ⟨cause | _, host⟩
        · simp only [Conversion.carryOut, prepared]
        · have ready : Conversion.IsReady host ⟨template, limits⟩ :=
            ⟨_, made, fun around => Conversion.stands_of_prepareOutput home prepared⟩
          simp only [Conversion.carryOut, prepared, Conversion.runTool, Services.launch,
            agree _ _ _ ready]
  simp only [convert, withLauncher]
  rw [carried]

theorem run_of_build {converter : Converter} {serial : Nat} {transformer : Transformer}
    (built : converter.draft.build serial = .ok transformer) (input output : Path) (limits : Limits)
    (before : Services) : transformer.id = converter.id ∧
      transformer.run (.convert input output limits) before =
        (transformer.answer (.convert input output limits)
            (converter.convert input output limits before).1,
          (converter.convert input output limits before).2) := by
  obtain ⟨-, -, store, -, rfl⟩ := (Draft.build_eq_ok_iff _ _ _).mp built
  exact ⟨rfl, rfl⟩

inductive IsIdle : Except TransformerError Outcome → Prop
  | skipped (reason) : IsIdle (.ok (.converted (.skipped reason)))
  | nothingToDo : IsIdle (.ok (.converted .nothingToDo))
  | unimplemented (id reason) : IsIdle (.error (.unimplementedOperation id reason))
  | unsupported (id kind) : IsIdle (.error (.unsupportedOperation id kind))

theorem untouched_of_accountable {converter : Converter} {transformer : Transformer}
    (accountable : converter.Accountable transformer) (operation : Operation) (before : Services)
    (idle : IsIdle (transformer.run operation before).1) :
    (transformer.run operation before).2 = before := by
  by_cases converts : ∃ input output limits, operation = .convert input output limits
  · obtain ⟨input, output, limits, rfl⟩ := converts
    by_cases unimplemented : converter.id = "jar2dex"
    · obtain ⟨reason, answered⟩ :=
        accountable.unimplemented unimplemented input output limits before
      rw [answered]
    · obtain ⟨status, after, answered, accounts⟩ :=
        accountable.converted unimplemented input output limits before
      rw [answered] at idle ⊢
      cases idle with
      | skipped reason => exact (accounts.skipped reason rfl).1
      | nothingToDo => exact (accounts.nothingToDo rfl).1
  · have other : ∀ input output limits, operation ≠ .convert input output limits :=
      fun input output limits same => converts ⟨input, output, limits, same⟩
    rw [accountable.unsupported operation before other]

structure PreparesOutput (converter : Converter) (transformer : Transformer) : Prop where
  /-- Whenever the launcher is called the launch is ready: it makes no difference if another does
  what it likes with launches that are not. -/
  ready : ∀ launcher, Conversion.AgreeWhenReady converter.environment.launcher launcher →
    ∀ serial other, (converter.withLauncher launcher).draft.build serial = .ok other →
      ∀ input output limits before, before.host.HasDirectory →
        other.run (.convert input output limits) before =
          transformer.run (.convert input output limits) before
  unprepared : ∀ input output limits before, converter.tool? before.host ≠ none →
    Conversion.Unpreparable before.host output →
      ∃ cause after, (Conversion.prepareOutput before.host output).1 = .error cause ∧
        transformer.run (.convert input output limits) before =
          (.ok (.converted (.failed ("failed to prepare conversion: " ++ cause.message))), after) ∧
        after.launches = before.launches
  untouched : ∀ operation before, IsIdle (transformer.run operation before).1 →
    (transformer.run operation before).2 = before

/-- Every output is to stand in a directory before a tool is launched for it, and where no tool is
called for the host is left as it was. -/
theorem output_ready_before_launch {environment : Environment} {converter : Converter}
    (builtin : converter ∈ Conversion.converters environment) (serial : Nat) :
    ∃ transformer, converter.draft.build serial = .ok transformer ∧
      converter.PreparesOutput transformer := by
  obtain ⟨transformer, built, accountable⟩ := builtin_accountable builtin serial
  refine ⟨transformer, built, ?_, ?_, untouched_of_accountable accountable⟩
  · intro launcher agree serial other builtOther input output limits before home
    obtain ⟨sameId, answered⟩ := run_of_build built input output limits before
    obtain ⟨otherId, otherwise⟩ := run_of_build builtOther input output limits before
    have same : other.id = transformer.id := otherId.trans sameId.symm
    rw [otherwise, answered, convert_of_agree (handsOver_of_builtin builtin) agree home]
    simp only [Transformer.answer, same]
  · intro input output limits before available unpreparable
    obtain ⟨tool, resolved⟩ := Option.ne_none_iff_exists'.mp available
    obtain ⟨cause, error⟩ := unpreparable.exists_error
    have implemented : converter.id ≠ "jar2dex" := by
      intro unimplemented
      simp [tool?, unimplemented] at resolved
    obtain ⟨status, after, answered, accounts⟩ :=
      accountable.converted implemented input output limits before
    obtain ⟨rfl, launches⟩ := accounts.unprepared tool cause _ resolved (Prod.ext error rfl)
    exact ⟨cause, after, error, answered, launches⟩

/-- A launcher that runs away unless the launch is ready is not noticed. A file stands where the
directory of another output would have to be. -/
theorem output_ready_before_launch_blocked :
    let config : Config := { Config.default with dex2jarLocation := some "/d2j" }
    let tame : Launcher := fun _ host _ => (.error .cancelled, host)
    let wild : Launcher := fun launches host launch => open Classical in
      if Conversion.IsReady host launch then tame launches host launch
      else (.error .cancelled, { host with directory := [] })
    let below (names : List String) : Location := names.map Utf8.encode
    let host : Host := ⟨⟨[(below ["d2j"], .file 0), (below ["home"], .directory 0o755),
      (below ["home", "taken"], .file 0)], [⟨[[]], 0, 0o755, 0, 0⟩], 0⟩, below ["home"], []⟩
    let converter := Conversion.dex2jar ⟨config, tame⟩
    let convert (output : String) : Operation :=
      .convert (Path.ofString "app.dex") (Path.ofString output) ⟨none, none⟩
    ∃ transformer other, converter.draft.build 0 = .ok transformer ∧
      (converter.withLauncher wild).draft.build 1 = .ok other ∧ host.HasDirectory ∧
      other.run (convert "./new/../out/app.jar") (.ofHost host) =
        transformer.run (convert "./new/../out/app.jar") (.ofHost host) ∧
      (transformer.run (convert "./new/../out/app.jar") (.ofHost host)).2.launches.length = 1 ∧
      (∃ cause : HostError, (transformer.run (convert "taken/app.jar") (.ofHost host)).1 =
        .ok (.converted (.failed ("failed to prepare conversion: " ++ cause.message)))) ∧
      (transformer.run (.view []) (.ofHost host)).2 = .ofHost host := by
  intro config tame wild below host converter convert
  have builtin : converter ∈ Conversion.converters ⟨config, tame⟩ := by
    simp [Conversion.converters, converter]
  obtain ⟨transformer, built, prepares⟩ := output_ready_before_launch builtin 0
  have same : (converter.withLauncher wild) ∈ Conversion.converters ⟨config, wild⟩ := by
    simp [Conversion.converters, converter, withLauncher, Conversion.dex2jar]
  obtain ⟨other, builtOther, -⟩ := output_ready_before_launch same 1
  have home : host.HasDirectory := by
    constructor
    · intro name member
      obtain rfl := List.mem_singleton.mp member
      exact ⟨⟨by decide +kernel, by decide +kernel⟩, by decide +kernel⟩
    · intro above within
      obtain rfl | rfl : above = [] ∨ above = [Utf8.encode "home"] := by
        simpa [host, below, List.prefix_cons_iff] using within
      · exact ⟨0o755, by decide +kernel, trivial⟩
      · exact ⟨0o755, by decide +kernel, trivial⟩
  have launched : (converter.convert (Path.ofString "app.dex")
      (Path.ofString "./new/../out/app.jar") ⟨none, none⟩ (.ofHost host)).2.launches.length = 1 := by
    decide +kernel
  refine ⟨transformer, other, built, builtOther, home, ?_, ?_, ?_, ?_⟩
  · refine prepares.ready wild ?_ 1 other builtOther _ _ _ _ home
    intro launches host launch ready
    exact if_pos ready
  · rwa [(run_of_build built _ _ _ _).2]
  · have around : (Path.ofString "taken/app.jar").parent? = some (Path.ofString "taken") := by
      decide +kernel
    have steps : (Path.ofString "taken").components = [.named (Utf8.encode "taken")] := by
      decide +kernel
    have taken : host.files.node? (below ["home", "taken"]) = some (.file 0) := by decide +kernel
    have leads : host.files.Leads FileTree.anyMode host.directory [.named (Utf8.encode "taken")]
        (below ["home", "taken"]) := by
      refine .step (.inr ⟨0o755, by decide +kernel, trivial⟩) ?_ .done
      intro target link
      cases taken.symm.trans link
    have blocked : host.files.IsBlocked host.directory (Path.ofString "taken").components :=
      steps ▸ @FileTree.IsBlocked.occupied _ _ _ _ _ [] leads taken rfl
    obtain ⟨cause, after, -, answered, -⟩ := prepares.unprepared (Path.ofString "app.dex") _
      ⟨none, none⟩ (.ofHost host) (by decide +kernel) (.blocked home around blocked)
    exact ⟨cause, by rw [answered]⟩
  · refine prepares.untouched (.view []) (.ofHost host) ?_
    obtain ⟨-, -, store, -, rfl⟩ := (Draft.build_eq_ok_iff _ _ _).mp built
    exact .unsupported _ _

end Converter

end ArtifactTools
