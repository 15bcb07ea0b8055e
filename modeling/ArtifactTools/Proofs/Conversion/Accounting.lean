import ArtifactTools.Conversion.Tools
import ArtifactTools.Proofs.Registry.Requests

/-! How a built-in converter accounts for what it does. Its status, the launch of a tool and the
report of a failure go together: a tool is launched at most once, a failure is reported just once,
and the only conversion that fails is the one that is not implemented. -/

namespace ArtifactTools

namespace Converter

def needsTool (converter : Converter) : Bool :=
  converter.id = "enjarify" || converter.id = "dex2jar"

def tool? (converter : Converter) (host : Host) : Option Path :=
  if converter.id = "enjarify" then converter.environment.config.resolvePython3 host
  else if converter.id = "dex2jar" then converter.environment.config.resolveDex2Jar host
  else none

def failure (converter : Converter) (error : ConversionError) : Failure :=
  .transformer (.transformationFailed converter.id (.conversion error))

def Launched (converter : Converter) (limits : Limits) (before after : Services)
    (answer : Except ProcessError Output) : Prop :=
  ∃ template host, after.launches = before.launches ++ [⟨template, limits⟩] ∧
    converter.environment.launcher before.launches host ⟨template, limits⟩ = (answer, after.host)

/-- What the status of a conversion says about launches and reports. -/
structure Accounts (converter : Converter) (output : Path) (limits : Limits)
    (before after : Services) (status : ConversionStatus) : Prop where
  launches : after.launches = before.launches ∨
    ∃ template, after.launches = before.launches ++ [⟨template, limits⟩]
  completed : ∀ exitCode duration, status = .completed exitCode duration →
    after.reports = before.reports ∧
      ∃ errorText, converter.Launched limits before after (.ok ⟨exitCode, errorText, duration⟩)
  failed : ∀ message, status = .failed message → ∃ error : ConversionError,
    error.message = message ∧ after.reports = before.reports.add (converter.failure error) ∧
      ((∃ cause, error = .process cause ∧ converter.Launched limits before after (.error cause)) ∨
        (∃ cause, error = .preparation cause ∧ after.launches = before.launches ∧
          Conversion.prepareOutput before.host output = (.error cause, after.host)))
  skipped : ∀ reason, status = .skipped reason →
    after = before ∧ converter.needsTool = true ∧ converter.tool? before.host = none
  nothingToDo : status = .nothingToDo → after = before ∧ converter.id = "none"
  unresolved : converter.needsTool = true → converter.tool? before.host = none →
    ∃ reason, status = .skipped reason
  unprepared : ∀ tool cause host, converter.tool? before.host = some tool →
    Conversion.prepareOutput before.host output = (.error cause, host) →
      status = .failed (ConversionError.preparation cause).message ∧
        after.launches = before.launches
  idle : converter.id = "none" → status = .nothingToDo

structure Accountable (converter : Converter) (transformer : Transformer) : Prop where
  unsupported : ∀ operation before,
    (∀ input output limits, operation ≠ .convert input output limits) →
      transformer.run operation before =
        (.error (.unsupportedOperation converter.id operation.kind), before)
  unimplemented : converter.id = "jar2dex" → ∀ input output limits before, ∃ reason,
    transformer.run (.convert input output limits) before =
      (.error (.unimplementedOperation converter.id reason), before)
  converted : converter.id ≠ "jar2dex" → ∀ input output limits before, ∃ status after,
    transformer.run (.convert input output limits) before = (.ok (.converted status), after) ∧
      converter.Accounts output limits before after status

/-! The courses that a conversion can take. -/

theorem recover_error (converter : Converter) (services : Services) {error : ConversionError}
    (implemented : ∀ reason, error ≠ .unimplemented reason) :
    Conversion.recover converter.id services (.error error) =
      (.outcome (.converted (.failed error.message)),
        { services with reports := services.reports.add (converter.failure error) }) := by
  rw [Conversion.recover]
  · rfl
  · exact implemented

section

variable {converter : Converter} {input output : Path} {limits : Limits} {before : Services}

/-- Whatever is settled at once needs neither tool nor directory. -/
theorem convert_of_settled {result : Except ConversionError ConversionStatus}
    (planned : converter.strategy.plan converter.environment.config before.host input output =
      .settled result) :
    converter.convert input output limits before =
      Conversion.recover converter.id before result := by
  simp only [convert, planned, Conversion.carryOut]

variable {template : Template} {host later : Host}
  (planned : converter.strategy.plan converter.environment.config before.host input output =
    .tool template true)

include planned

theorem convert_of_unprepared {cause : HostError}
    (unprepared : Conversion.prepareOutput before.host output = (.error cause, host)) :
    converter.convert input output limits before =
      (.outcome (.converted (.failed (ConversionError.preparation cause).message)),
        ⟨host, before.launches, before.reports.add (converter.failure (.preparation cause))⟩) := by
  simp only [convert, planned, Conversion.carryOut, unprepared]
  exact recover_error converter _ (by simp)

variable (prepared : Conversion.prepareOutput before.host output = (.ok (), host))

include prepared

theorem convert_of_completed {answer : Output}
    (answered : converter.environment.launcher before.launches host ⟨template, limits⟩ =
      (.ok answer, later)) :
    converter.convert input output limits before =
      (.outcome (.converted (.completed answer.exitCode answer.duration)),
        ⟨later, before.launches ++ [⟨template, limits⟩], before.reports⟩) := by
  simp only [convert, planned, Conversion.carryOut, prepared, Conversion.runTool, Services.launch,
    answered, Conversion.recover]

theorem convert_of_broken {cause : ProcessError}
    (answered : converter.environment.launcher before.launches host ⟨template, limits⟩ =
      (.error cause, later)) :
    converter.convert input output limits before =
      (.outcome (.converted (.failed (ConversionError.process cause).message)),
        ⟨later, before.launches ++ [⟨template, limits⟩],
          before.reports.add (converter.failure (.process cause))⟩) := by
  simp only [convert, planned, Conversion.carryOut, prepared, Conversion.runTool, Services.launch,
    answered]
  exact recover_error converter _ (by simp)

end

def Converts (converter : Converter) (input output : Path) (limits : Limits) (before : Services) :
    Prop :=
  ∃ status after, converter.convert input output limits before =
    (.outcome (.converted status), after) ∧ converter.Accounts output limits before after status

theorem ne_none_of_tool? {converter : Converter} {host : Host} {tool : Path}
    (resolved : converter.tool? host = some tool) : converter.id ≠ "none" := by
  intro idle
  simp [tool?, idle] at resolved

section

variable {converter : Converter} {output : Path} {limits : Limits} {before : Services}
  {tool : Path} (resolved : converter.tool? before.host = some tool)

include resolved

theorem accounts_of_unprepared {cause : HostError} {host : Host}
    (unprepared : Conversion.prepareOutput before.host output = (.error cause, host)) :
    converter.Accounts output limits before
      ⟨host, before.launches, before.reports.add (converter.failure (.preparation cause))⟩
      (.failed (ConversionError.preparation cause).message) := by
  constructor
  · exact Or.inl rfl
  · simp
  · intro message same
    rw [← ConversionStatus.failed.inj same]
    exact ⟨.preparation cause, rfl, rfl, Or.inr ⟨cause, rfl, rfl, unprepared⟩⟩
  · simp
  · simp
  · simp [resolved]
  · intro other found there _ refused
    rw [unprepared] at refused
    obtain ⟨sameCause, -⟩ := Prod.mk.inj refused
    rw [Except.error.inj sameCause]
    exact ⟨rfl, rfl⟩
  · simp [ne_none_of_tool? resolved]

variable {template : Template} {host later : Host}
  (prepared : Conversion.prepareOutput before.host output = (.ok (), host))

include prepared

theorem accounts_of_broken {cause : ProcessError}
    (answered : converter.environment.launcher before.launches host ⟨template, limits⟩ =
      (.error cause, later)) :
    converter.Accounts output limits before
      ⟨later, before.launches ++ [⟨template, limits⟩],
        before.reports.add (converter.failure (.process cause))⟩
      (.failed (ConversionError.process cause).message) := by
  constructor
  · exact Or.inr ⟨template, rfl⟩
  · simp
  · intro message same
    rw [← ConversionStatus.failed.inj same]
    exact ⟨.process cause, rfl, rfl, Or.inl ⟨cause, rfl, template, host, rfl, answered⟩⟩
  · simp
  · simp
  · simp [resolved]
  · simp [prepared]
  · simp [ne_none_of_tool? resolved]

theorem accounts_of_completed {answer : Output}
    (answered : converter.environment.launcher before.launches host ⟨template, limits⟩ =
      (.ok answer, later)) :
    converter.Accounts output limits before
      ⟨later, before.launches ++ [⟨template, limits⟩], before.reports⟩
      (.completed answer.exitCode answer.duration) := by
  constructor
  · exact Or.inr ⟨template, rfl⟩
  · intro exitCode duration same
    obtain ⟨rfl, rfl⟩ := ConversionStatus.completed.inj same
    exact ⟨rfl, answer.errorText, template, host, rfl, answered⟩
  · simp
  · simp
  · simp
  · simp [resolved]
  · simp [prepared]
  · simp [ne_none_of_tool? resolved]

end

theorem converts_of_tool {converter : Converter} {input output : Path} {limits : Limits}
    {before : Services} {tool : Path} {template : Template}
    (resolved : converter.tool? before.host = some tool)
    (planned : converter.strategy.plan converter.environment.config before.host input output =
      .tool template true) : converter.Converts input output limits before := by
  rcases prepared : Conversion.prepareOutput before.host output with ⟨cause | _, host⟩
  · exact ⟨_, _, convert_of_unprepared planned prepared, accounts_of_unprepared resolved prepared⟩
  · rcases answered : converter.environment.launcher before.launches host ⟨template, limits⟩ with
      ⟨cause | answer, later⟩
    · exact ⟨_, _, convert_of_broken planned prepared answered,
        accounts_of_broken resolved prepared answered⟩
    · exact ⟨_, _, convert_of_completed planned prepared answered,
        accounts_of_completed resolved prepared answered⟩

theorem converts_of_missing {converter : Converter} {input output : Path} {limits : Limits}
    {before : Services} {reason : String} (needs : converter.needsTool = true)
    (missing : converter.tool? before.host = none)
    (planned : converter.strategy.plan converter.environment.config before.host input output =
      .settled (.ok (.skipped reason))) : converter.Converts input output limits before := by
  have busy : converter.id ≠ "none" := by
    intro idle
    simp [needsTool, idle] at needs
  refine ⟨_, _, convert_of_settled planned, ?_⟩
  constructor
  · exact Or.inl rfl
  · simp
  · simp
  · intro _ _
    exact ⟨rfl, needs, missing⟩
  · simp
  · intro _ _
    exact ⟨reason, rfl⟩
  · simp [missing]
  · simp [busy]

theorem converts_of_idle {converter : Converter} {input output : Path} {limits : Limits}
    {before : Services} (idle : converter.id = "none")
    (planned : converter.strategy.plan converter.environment.config before.host input output =
      .settled (.ok .nothingToDo)) : converter.Converts input output limits before := by
  refine ⟨_, _, convert_of_settled planned, ?_⟩
  constructor
  · exact Or.inl rfl
  · simp
  · simp
  · simp
  · intro _
    exact ⟨rfl, idle⟩
  · simp [needsTool, idle]
  · simp [tool?, idle]
  · intro _
    rfl

/-! The built-in converters. -/

def PlansTool (converter : Converter) : Prop := ∀ host input output,
  let plan := converter.strategy.plan converter.environment.config host input output
  (converter.tool? host = none ∧ ∃ reason, plan = .settled (.ok (.skipped reason))) ∨
    ∃ template, converter.tool? host = some template.program ∧ plan = .tool template true

theorem plansTool_enjarify (environment : Environment) :
    (Conversion.enjarify environment).PlansTool := by
  intro host input output
  cases resolved : environment.config.resolvePython3 host with
  | none =>
      have planned : Conversion.planEnjarify environment.config host input output =
          .settled (.ok (.skipped "Python 3 is not configured")) := by
        simp only [Conversion.planEnjarify, resolved]
      exact Or.inl ⟨resolved, _, planned⟩
  | some python =>
      let template := Conversion.enjarifyTemplate host python
        (environment.config.enjarifyDirectory.map Path.ofString) input output
      have planned : Conversion.planEnjarify environment.config host input output =
          .tool template true := by
        simp only [Conversion.planEnjarify, resolved, template]
      exact Or.inr ⟨template, resolved, planned⟩

theorem plansTool_dex2jar (environment : Environment) :
    (Conversion.dex2jar environment).PlansTool := by
  intro host input output
  cases resolved : environment.config.resolveDex2Jar host with
  | none =>
      have planned : Conversion.planDex2Jar environment.config host input output =
          .settled (.ok (.skipped "dex2jar is not configured")) := by
        simp only [Conversion.planDex2Jar, resolved]
      exact Or.inl ⟨resolved, _, planned⟩
  | some tool =>
      let template := Conversion.dex2jarTemplate host tool input output
      have planned : Conversion.planDex2Jar environment.config host input output =
          .tool template true := by
        simp only [Conversion.planDex2Jar, resolved, template]
      exact Or.inr ⟨template, resolved, planned⟩

theorem PlansTool.converts {converter : Converter} (plans : converter.PlansTool)
    (needs : converter.needsTool = true) (input output : Path) (limits : Limits)
    (before : Services) : converter.Converts input output limits before := by
  rcases plans before.host input output with ⟨missing, reason, planned⟩ |
    ⟨template, resolved, planned⟩
  · exact converts_of_missing needs missing planned
  · exact converts_of_tool resolved planned

theorem eq_jar2dex_of_id {environment : Environment} {converter : Converter}
    (builtin : converter ∈ Conversion.converters environment) (named : converter.id = "jar2dex") :
    converter = Conversion.jar2dex environment := by
  simp only [Conversion.converters, List.mem_cons, List.not_mem_nil, or_false] at builtin
  rcases builtin with rfl | rfl | rfl | rfl
  · simp [Conversion.enjarify] at named
  · simp [Conversion.dex2jar] at named
  · rfl
  · simp [Conversion.none] at named

theorem converts_of_builtin {environment : Environment} {converter : Converter}
    (builtin : converter ∈ Conversion.converters environment)
    (implemented : converter.id ≠ "jar2dex") (input output : Path) (limits : Limits)
    (before : Services) : converter.Converts input output limits before := by
  simp only [Conversion.converters, List.mem_cons, List.not_mem_nil, or_false] at builtin
  rcases builtin with rfl | rfl | rfl | rfl
  · exact (plansTool_enjarify environment).converts rfl input output limits before
  · exact (plansTool_dex2jar environment).converts rfl input output limits before
  · exact absurd rfl implemented
  · exact converts_of_idle rfl rfl

theorem accountable_of_builtin {environment : Environment} {converter : Converter}
    (builtin : converter ∈ Conversion.converters environment) {transformer : Transformer}
    (sameId : transformer.id = converter.id)
    (behaves : transformer.behaviour = converter.behaviour) :
    converter.Accountable transformer := by
  have answers : ∀ operation before, transformer.run operation before =
      (transformer.answer operation (converter.behaviour transformer.store operation before).1,
        (converter.behaviour transformer.store operation before).2) := by
    intro operation before
    rw [← behaves]
    rfl
  constructor
  · intro operation before other
    rw [answers]
    cases operation with
    | convert input output limits => exact absurd rfl (other input output limits)
    | _ => simp only [behaviour, Transformer.answer, sameId]
  · intro unimplemented input output limits before
    obtain rfl := eq_jar2dex_of_id builtin unimplemented
    refine ⟨"jar to dex conversion is not available", ?_⟩
    have settled : (Conversion.jar2dex environment).convert input output limits before =
        (.unimplemented "jar to dex conversion is not available", before) :=
      (convert_of_settled rfl).trans rfl
    rw [answers]
    simp only [behaviour, settled, Transformer.answer, sameId]
  · intro implemented input output limits before
    obtain ⟨status, after, converted, accounts⟩ :=
      converts_of_builtin builtin implemented input output limits before
    refine ⟨status, after, ?_, accounts⟩
    rw [answers]
    simp only [behaviour, converted, Transformer.answer]

theorem legal_id_of_builtin {environment : Environment} {converter : Converter}
    (builtin : converter ∈ Conversion.converters environment) :
    Identity.IsLegal converter.id ∧ converter.name ≠ "" := by
  have legal : ∀ id ∈ ["enjarify", "dex2jar", "jar2dex", "none"], Identity.IsLegal id := by
    decide +kernel
  simp only [Conversion.converters, List.mem_cons, List.not_mem_nil, or_false] at builtin
  rcases builtin with rfl | rfl | rfl | rfl
  · exact ⟨legal "enjarify" (by simp), by simp [Conversion.enjarify]⟩
  · exact ⟨legal "dex2jar" (by simp), by simp [Conversion.dex2jar]⟩
  · exact ⟨legal "jar2dex" (by simp), by simp [Conversion.jar2dex]⟩
  · exact ⟨legal "none" (by simp), by simp [Conversion.none]⟩

/-- Every built-in converter becomes a transformer, which accounts for whatever it is asked. -/
theorem builtin_accountable {environment : Environment} {converter : Converter}
    (builtin : converter ∈ Conversion.converters environment) (serial : Nat) :
    ∃ transformer, converter.draft.build serial = .ok transformer ∧
      converter.Accountable transformer := by
  obtain ⟨legal, named⟩ := legal_id_of_builtin builtin
  refine ⟨⟨serial, converter.id, converter.name, .other, .empty, converter.strategy.accepts,
    converter.behaviour⟩, ?_, accountable_of_builtin builtin rfl rfl⟩
  exact (Draft.build_eq_ok_iff _ _ _).mpr ⟨legal, named, .empty, rfl, rfl⟩

/-- A tool that is there, and a launcher that gives up. -/
theorem builtin_accountable_cancelled :
    let config : Config := { Config.default with dex2jarLocation := some "/d2j" }
    let environment : Environment := ⟨config, fun _ host _ => (.error .cancelled, host)⟩
    let host : Host := ⟨⟨[([Utf8.encode "d2j"], .file 0)], [⟨[[]], 0, 0o755, 0, 0⟩], 0⟩, [], []⟩
    let converter := Conversion.dex2jar environment
    let after := (converter.convert (Path.ofString "app.dex") (Path.ofString "out/app.jar")
      ⟨none, none⟩ (.ofHost host)).2
    converter ∈ Conversion.converters environment ∧
      (∃ transformer, converter.draft.build 0 = .ok transformer ∧
        converter.Accountable transformer) ∧
      after.launches.length = 1 ∧
      after.reports = [(converter.failure (.process .cancelled)).report] := by
  intro config environment host converter after
  have builtin : converter ∈ Conversion.converters environment := by
    simp [Conversion.converters, converter]
  exact ⟨builtin, builtin_accountable builtin 0, by decide +kernel, by decide +kernel⟩

end Converter

end ArtifactTools
