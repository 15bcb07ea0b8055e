import ArtifactTools.Proofs.CommandLine.Success
import ArtifactTools.Proofs.Conversion.Accounting
import ArtifactTools.Proofs.Registry.Families
import ArtifactTools.Proofs.Text.Utf8

/-! The command that converts a file. Which transformer it takes follows from the name of the input,
unless one is named, and its exit code says whether that transformer has done its work. -/

namespace ArtifactTools

/-! The transformers of a session. -/

def Draft.kept (draft : Draft) : Draft := { draft with descriptors := [] }

def Transformer.kept (transformer : Transformer) : Draft :=
  ⟨transformer.id, transformer.name, transformer.type, [], transformer.accepts,
    transformer.behaviour⟩

theorem Registry.kept_importSettings (registry : Registry) (persisted : Settings.Persisted) :
    (registry.importSettings persisted).1.entries.map Transformer.kept =
      registry.entries.map Transformer.kept := by
  have bare (registry : Registry) :
      registry.bare.entries.map Transformer.kept = registry.entries.map Transformer.kept := by
    rw [Registry.bare, List.map_map]
    rfl
  rw [← bare, registry.bare_importSettings, bare]

namespace CommandLine

theorem exists_start_kept {launcher : Duration → Launcher} {host : Host} {place : Option Path}
    {config : Config} (loaded : Config.loadOrDefault host place = .ok config) :
    ∃ registry : Registry, registry.Indexed ∧ Session.start launcher host place =
        .ok ⟨config, place.getD (Config.defaultPath host), registry⟩ ∧
      registry.entries.map Transformer.kept =
        (Builder.builtin.drafts ⟨config, launcher config.timeout⟩).map Draft.kept := by
  let environment : Environment := ⟨config, launcher config.timeout⟩
  obtain ⟨registry, -, built⟩ := Builder.exists_build_builtin environment .first
  obtain ⟨-, fresh, sound, comprises, same⟩ :=
    Builder.exists_fresh Builder.builtin environment .first built
  rw [same] at built
  refine ⟨_, (sound.importSettings config.settings).toIndexed, ?_, ?_⟩
  · simp only [Session.start, loaded, Shared.start, Shared.vacant, Shared.checkVacant,
      Shared.publish, environment] at built ⊢
    simp only [built]
  · rw [Registry.kept_importSettings]
    apply comprises.map_entries
    intro draft serial transformer built
    obtain ⟨-, -, store, -, rfl⟩ := (Draft.build_eq_ok_iff _ _ _).mp built
    rfl

/-! How the input chooses. -/

inductive Suits (input : Path) : String → Prop
  | dex {name} : input.fileName? = some name → Utf8.encode ".dex" <:+ name → Suits input "dex2jar"
  | jar {name} : input.fileName? = some name → Utf8.encode ".jar" <:+ name → Suits input "jar2dex"
  | other : (∀ name, input.fileName? = some name →
      ¬ Utf8.encode ".dex" <:+ name ∧ ¬ Utf8.encode ".jar" <:+ name) → Suits input "enjarify"

def suitedId (name : String) : String :=
  if Conversion.endsWith ".dex" name then "dex2jar"
  else if Conversion.endsWith ".jar" name then "jar2dex"
  else "enjarify"

theorem endsWith_iff {ending : String}
    (plain : ∀ character ∈ ending.toList, Utf8.Reader.IsPlain character)
    (same : ending.toList.map Utf8.octetOf = Utf8.encode ending) (octets : Octets) :
    Conversion.endsWith ending (Utf8.decodeLossy octets) = true ↔
      Utf8.encode ending <:+ octets := by
  rw [Conversion.endsWith, List.isSuffixOf_iff_suffix, Utf8.decodeLossy, String.toList_ofList,
    Utf8.suffix_run_iff plain, same]

/-- An octet that spells nothing becomes a character of its own, so the ending of a name survives
whatever stands before it. -/
theorem endsWith_dex (name : Octets) :
    Conversion.endsWith ".dex" (Utf8.decodeLossy name) = true ↔ Utf8.encode ".dex" <:+ name :=
  endsWith_iff (by simp [Utf8.Reader.IsPlain]) (by decide +kernel) name

theorem endsWith_jar (name : Octets) :
    Conversion.endsWith ".jar" (Utf8.decodeLossy name) = true ↔ Utf8.encode ".jar" <:+ name :=
  endsWith_iff (by simp [Utf8.Reader.IsPlain]) (by decide +kernel) name

theorem not_dex_of_jar {name : Octets} (jar : Utf8.encode ".jar" <:+ name) :
    ¬ Utf8.encode ".dex" <:+ name := by
  intro dex
  have same := (List.suffix_of_suffix_length_le dex jar (by decide +kernel)).eq_of_length
    (by decide +kernel)
  exact absurd same (by decide +kernel)

theorem suits_iff (input : Path) (id : String) :
    Suits input id ↔ id = suitedId (classifyingName input) := by
  cases named : input.fileName? with
  | none =>
      have nameless : suitedId (classifyingName input) = "enjarify" := by
        rw [classifyingName, named]
        decide +kernel
      rw [nameless]
      constructor
      · intro suits
        cases suits with
        | dex namedToo => simp [named] at namedToo
        | jar namedToo => simp [named] at namedToo
        | other => rfl
      · rintro rfl
        exact .other (by simp [named])
  | some name =>
      have read : classifyingName input = Utf8.decodeLossy name := by
        rw [classifyingName, named]
        rfl
      have only {other : Octets} (namedToo : input.fileName? = some other) : name = other :=
        Option.some.inj (named.symm.trans namedToo)
      simp only [read, suitedId, endsWith_dex, endsWith_jar]
      constructor
      · intro suits
        cases suits with
        | dex namedToo dex =>
            obtain rfl := only namedToo
            rw [if_pos dex]
        | jar namedToo jar =>
            obtain rfl := only namedToo
            rw [if_neg (not_dex_of_jar jar), if_pos jar]
        | other neither =>
            obtain ⟨notDex, notJar⟩ := neither name named
            rw [if_neg notDex, if_neg notJar]
      · rintro rfl
        split
        · next dex => exact .dex named dex
        · next notDex =>
            split
            · next jar => exact .jar named jar
            · next notJar =>
                refine .other fun other namedToo => ?_
                obtain rfl := only namedToo
                exact ⟨notDex, notJar⟩

end CommandLine

inductive Registry.Chooses (registry : Registry) (input : Path) :
    Option String → Transformer → Prop
  | suits {transformer} : transformer ∈ registry.entries →
      CommandLine.Suits input transformer.id → Chooses registry input none transformer
  | id {text transformer} : transformer ∈ registry.entries → transformer.id = text →
      Chooses registry input (some text) transformer
  | name {text transformer} : (∀ other ∈ registry.entries, other.id ≠ text) →
      transformer ∈ registry.entries → transformer.name = text →
      Chooses registry input (some text) transformer

theorem Registry.Chooses.mem {registry : Registry} {input : Path} {converter : Option String}
    {transformer : Transformer} (chosen : registry.Chooses input converter transformer) :
    transformer ∈ registry.entries := by
  cases chosen <;> assumption

def Registry.Lacks (registry : Registry) (text : String) : Prop :=
  ∀ transformer ∈ registry.entries, transformer.id ≠ text ∧ transformer.name ≠ text

namespace CommandLine

theorem chooses_unique {registry : Registry} (indexed : registry.Indexed) {input : Path}
    {converter : Option String} {transformer other : Transformer}
    (chosen : registry.Chooses input converter transformer)
    (also : registry.Chooses input converter other) : transformer = other := by
  cases chosen with
  | suits entry suits =>
      cases also with
      | suits entryToo suitsToo =>
          have same := ((suits_iff _ _).mp suits).trans ((suits_iff _ _).mp suitsToo).symm
          exact indexed.eq_of_id entry entryToo same
  | id entry named =>
      cases also with
      | id entryToo namedToo => exact indexed.eq_of_id entry entryToo (named.trans namedToo.symm)
      | name lacking => exact absurd named (lacking _ entry)
  | name lacking entry named =>
      cases also with
      | id entryToo namedToo => exact absurd namedToo (lacking _ entryToo)
      | name _ entryToo namedToo =>
          exact indexed.eq_of_name entry entryToo (named.trans namedToo.symm)

theorem chooses_of_find {session : Session} (indexed : session.registry.Indexed) (input : Path)
    (text : String) :
    (∃ ref, session.find text = .ok ref ∧
        session.registry.Chooses input (some text) ref.transformer) ∨
      session.registry.Lacks text ∧ session.find text =
        .error [s!"unknown transformer '{text}' (run `helios list` to see all)"] := by
  rcases byId : session.registry.findById? text with _ | ref
  · have noId := (indexed.findById?_eq_none_iff text).mp byId
    rcases byName : session.registry.findByName? text with _ | ref
    · have noName := (indexed.findByName?_eq_none_iff text).mp byName
      refine Or.inr ⟨fun transformer entry => ⟨noId _ entry, noName _ entry⟩, ?_⟩
      simp only [Session.find, byId, byName, Option.or_none]
    · obtain ⟨index, transformer, holds, named, rfl⟩ :=
        (indexed.findByName?_eq_some_iff _ _).mp byName
      refine Or.inl ⟨session.registry.refOf index transformer, ?_, .name noId holds.mem named⟩
      simp only [Session.find, byId, byName, Option.none_or]
  · obtain ⟨index, transformer, holds, named, rfl⟩ := (indexed.findById?_eq_some_iff _ _).mp byId
    refine Or.inl ⟨session.registry.refOf index transformer, ?_, .id holds.mem named⟩
    simp only [Session.find, byId, Option.some_or]

/-! The built-in transformers. -/

theorem drafts_builtin (environment : Environment) : Builder.builtin.drafts environment =
    Viewer.drafts ++ (Conversion.converters environment).map Converter.draft := by
  simp [Builder.drafts, Builder.builtin, Family.viewers, Family.converters]

section

variable {registry : Registry} {environment : Environment}
  (kept : registry.entries.map Transformer.kept =
    (Builder.builtin.drafts environment).map Draft.kept)

include kept

theorem exists_draft {transformer : Transformer} (entry : transformer ∈ registry.entries) :
    ∃ draft ∈ Builder.builtin.drafts environment, transformer.kept = draft.kept := by
  have listed : transformer.kept ∈ registry.entries.map Transformer.kept :=
    List.mem_map_of_mem entry
  rw [kept] at listed
  obtain ⟨draft, drafted, same⟩ := List.mem_map.mp listed
  exact ⟨draft, drafted, same.symm⟩

theorem exists_entry {draft : Draft} (drafted : draft ∈ Builder.builtin.drafts environment) :
    ∃ transformer ∈ registry.entries, transformer.kept = draft.kept := by
  have listed : draft.kept ∈ (Builder.builtin.drafts environment).map Draft.kept :=
    List.mem_map_of_mem drafted
  rw [← kept] at listed
  exact List.mem_map.mp listed

theorem titles_eq : registry.entries.map (fun transformer => (transformer.id, transformer.name)) =
    [("hex", "Hex"), ("text", "Text"), ("enjarify", "Enjarify"), ("dex2jar", "Dex2Jar"),
      ("jar2dex", "Jar2Dex"), ("none", "None")] := by
  have titles := congrArg (List.map fun draft : Draft => (draft.id, draft.name)) kept
  rw [List.map_map, List.map_map] at titles
  exact titles.trans (by rw [drafts_builtin]; rfl)

theorem exists_findById? (indexed : registry.Indexed) {converter : Converter}
    (builtin : converter ∈ Conversion.converters environment) :
    ∃ ref, registry.findById? converter.id = some ref ∧ ref.transformer ∈ registry.entries ∧
      ref.transformer.id = converter.id ∧
      ref.transformer.accepts = converter.strategy.accepts := by
  have drafted : converter.draft ∈ Builder.builtin.drafts environment := by
    rw [drafts_builtin]
    exact List.mem_append_right _ (List.mem_map_of_mem builtin)
  obtain ⟨transformer, entry, same⟩ := exists_entry kept drafted
  have id : transformer.id = converter.id := congrArg Draft.id same
  obtain ⟨index, holds⟩ := Registry.exists_holds_of_mem entry
  exact ⟨_, id ▸ indexed.findById?_of_holds holds, entry, id, congrArg Draft.accepts same⟩

/-- There is a converter for every name. -/
theorem exists_pickConverter (indexed : registry.Indexed) (name : String) :
    ∃ ref, pickConverter registry name = some ref ∧ ref.transformer ∈ registry.entries ∧
      ref.transformer.id = suitedId name := by
  obtain ⟨dex, foundDex, entryDex, idDex, acceptsDex⟩ := exists_findById? kept indexed
    (show Conversion.dex2jar environment ∈ _ by simp [Conversion.converters])
  obtain ⟨jar, foundJar, entryJar, idJar, acceptsJar⟩ := exists_findById? kept indexed
    (show Conversion.jar2dex environment ∈ _ by simp [Conversion.converters])
  obtain ⟨any, foundAny, entryAny, idAny, acceptsAny⟩ := exists_findById? kept indexed
    (show Conversion.enjarify environment ∈ _ by simp [Conversion.converters])
  have order : converterOrder.filterMap registry.findById? = [dex, jar, any] := by
    simp only [Conversion.dex2jar, Conversion.jar2dex, Conversion.enjarify]
      at foundDex foundJar foundAny
    simp [converterOrder, foundDex, foundJar, foundAny]
  have dexes : dex.transformer.accepts name = Conversion.endsWith ".dex" name := by
    rw [acceptsDex]
    rfl
  have jars : jar.transformer.accepts name = Conversion.endsWith ".jar" name := by
    rw [acceptsJar]
    rfl
  have anything : any.transformer.accepts name = true := by
    rw [acceptsAny]
    rfl
  simp only [pickConverter, order, List.find?_cons, dexes, jars, anything, suitedId]
  cases Conversion.endsWith ".dex" name with
  | true => exact ⟨dex, rfl, entryDex, idDex⟩
  | false =>
      cases Conversion.endsWith ".jar" name with
      | true => exact ⟨jar, rfl, entryJar, idJar⟩
      | false => exact ⟨any, rfl, entryAny, idAny⟩

end

/-! How the command ends. -/

inductive Succeeds : Except TransformerError Outcome → Prop
  | completed (exitCode duration) : Succeeds (.ok (.converted (.completed exitCode duration)))
  | nothingToDo : Succeeds (.ok (.converted .nothingToDo))

structure Answers (transformer : Transformer) (answer : Except TransformerError Outcome) :
    Prop where
  viewer : transformer.id ∈ ["hex", "text"] →
    answer = .error (.unsupportedOperation transformer.id "convert")
  unimplemented : transformer.id = "jar2dex" →
    ∃ reason, answer = .error (.unimplementedOperation "jar2dex" reason)
  converted : transformer.id ∈ ["enjarify", "dex2jar", "none"] →
    ∃ status, answer = .ok (.converted status)

structure Ends (answer : Except TransformerError Outcome) (finish : Finish) : Prop where
  succeeded : finishCode finish = 0 ↔ Succeeds answer
  failed : finishCode finish = 1 ↔ ¬ Succeeds answer
  refused : ∀ error, answer = .error error → finish = .error (Failure.transformer error).chain
  concluded : ∀ status, answer = .ok (.converted status) → ∃ code, finish = .ok code

theorem ends_of_success {answer : Except TransformerError Outcome} (succeeds : Succeeds answer) :
    Ends answer (.ok 0) := by
  refine ⟨by simp [finishCode, succeeds], by simp [finishCode, succeeds], ?_, fun _ _ => ⟨0, rfl⟩⟩
  rintro error rfl
  cases succeeds

theorem ends_of_error (error : TransformerError) :
    Ends (.error error) (.error (Failure.transformer error).chain) := by
  have fails : ¬ Succeeds (.error error) := by rintro ⟨⟩
  refine ⟨by simp [finishCode, fails], by simp [finishCode, fails], ?_, by simp⟩
  rintro _ ⟨⟩
  rfl

theorem ends_of_failure {outcome : Outcome} {finish : Finish} (fails : ¬ Succeeds (.ok outcome))
    (code : finishCode finish = 1)
    (concluded : ∀ status, outcome = .converted status → ∃ code, finish = .ok code) :
    Ends (.ok outcome) finish := by
  refine ⟨by simp [code, fails], by simp [code, fails], by simp, ?_⟩
  rintro status ⟨⟩
  exact concluded status rfl

theorem ends_of_chosen {session : Session} {input output : Path} {converter : Option String}
    {timeout : Option Nat} (terminal : Terminal) {ref : Ref}
    (chosen : chooseConverter session (classifyingName input) converter = .ok ref) :
    Ends (ref.transformer.run (.convert input output ⟨timeout.map Duration.ofSeconds, none⟩)
        terminal.services).1
      (runConvert session input output converter timeout terminal).2 := by
  rcases ran : ref.transformer.run (.convert input output ⟨timeout.map Duration.ofSeconds, none⟩)
    terminal.services with ⟨error | outcome, after⟩
  · have finish : (runConvert session input output converter timeout terminal).2 =
        .error (Failure.transformer error).chain := by
      simp only [runConvert, chosen, Terminal.printLine, Terminal.print, ran]
    rw [finish]
    exact ends_of_error error
  · rcases outcome with text | octets | ⟨exitCode, duration⟩ | reason | message | _ <;>
      simp only [runConvert, chosen, Terminal.printLine, Terminal.print, ran, statusLines]
    · exact ends_of_failure (by rintro ⟨⟩) rfl (by simp)
    · exact ends_of_failure (by rintro ⟨⟩) rfl (by simp)
    · exact ends_of_success (.completed exitCode duration)
    · exact ends_of_failure (by rintro ⟨⟩) rfl fun _ _ => ⟨1, rfl⟩
    · exact ends_of_failure (by rintro ⟨⟩) rfl fun _ _ => ⟨1, rfl⟩
    · exact ends_of_success .nothingToDo

section

variable {transformer : Transformer} (input output : Path) (limits : Limits) (services : Services)

theorem answers_of_viewer {render : Settings.Store → Octets → String}
    (titled : transformer.id ∈ ["hex", "text"])
    (shows : transformer.behaviour = Viewer.showing render) :
    Answers transformer (transformer.run (.convert input output limits) services).1 := by
  constructor
  · intro _
    rw [Transformer.run, shows]
    rfl
  · intro jar
    simp [jar] at titled
  · intro converts
    rcases List.mem_pair.mp titled with hex | text
    · simp [hex] at converts
    · simp [text] at converts

theorem answers_of_converter {environment : Environment} {converter : Converter}
    (builtin : converter ∈ Conversion.converters environment)
    (sameId : transformer.id = converter.id)
    (behaves : transformer.behaviour = converter.behaviour) :
    Answers transformer (transformer.run (.convert input output limits) services).1 := by
  have accountable := Converter.accountable_of_builtin builtin sameId behaves
  constructor
  · intro viewer
    have converts : converter.id ∈ ["enjarify", "dex2jar", "jar2dex", "none"] :=
      List.mem_map_of_mem builtin
    rw [← sameId] at converts
    rcases List.mem_pair.mp viewer with hex | text
    · simp [hex] at converts
    · simp [text] at converts
  · intro jar
    obtain ⟨reason, answered⟩ :=
      accountable.unimplemented (sameId.symm.trans jar) input output limits services
    exact ⟨reason, by rw [answered, ← sameId, jar]⟩
  · intro converts
    have implemented : converter.id ≠ "jar2dex" := by
      rw [← sameId]
      rintro jar
      simp [jar] at converts
    obtain ⟨status, after, answered, -⟩ :=
      accountable.converted implemented input output limits services
    exact ⟨status, by rw [answered]⟩

end

theorem answers_of_kept {registry : Registry} {environment : Environment}
    (kept : registry.entries.map Transformer.kept =
      (Builder.builtin.drafts environment).map Draft.kept)
    {transformer : Transformer} (entry : transformer ∈ registry.entries) (input output : Path)
    (limits : Limits) (services : Services) :
    Answers transformer (transformer.run (.convert input output limits) services).1 := by
  obtain ⟨draft, drafted, same⟩ := exists_draft kept entry
  have id : transformer.id = draft.id := congrArg Draft.id same
  have behaves : transformer.behaviour = draft.behaviour := congrArg Draft.behaviour same
  rw [drafts_builtin, List.mem_append] at drafted
  rcases drafted with viewer | converter
  · rcases List.mem_pair.mp viewer with rfl | rfl
    · exact answers_of_viewer input output limits services (by simp [id, Viewer.hex]) behaves
    · exact answers_of_viewer input output limits services (by simp [id, Viewer.text]) behaves
  · obtain ⟨converter, builtin, rfl⟩ := List.mem_map.mp converter
    exact answers_of_converter input output limits services builtin id behaves

/-- Whatever configuration loads, a conversion takes the one transformer that its arguments choose
and succeeds just where that one has done its work, unless nothing goes by the name given. -/
theorem convert_ends {launcher : Duration → Launcher} {host : Host} {place : Option Path}
    {config : Config} (loaded : Config.loadOrDefault host place = .ok config)
    (input output : Path) (converter : Option String) (timeout : Option Nat) :
    let request : Request := ⟨place, .convert input output converter timeout⟩
    let finish := (runRequest launcher request (.ofHost host)).2
    (∀ arguments, Request.read arguments = .ok request →
      (run launcher host arguments).code = finishCode finish) ∧
    ∃ session, Session.start launcher host place = .ok session ∧ session.config = config ∧
      session.registry.entries.map (fun transformer => (transformer.id, transformer.name)) =
        [("hex", "Hex"), ("text", "Text"), ("enjarify", "Enjarify"), ("dex2jar", "Dex2Jar"),
          ("jar2dex", "Jar2Dex"), ("none", "None")] ∧
      ((∃ transformer,
          (∀ other, session.registry.Chooses input converter other ↔ other = transformer) ∧
          let answer := (transformer.run
            (.convert input output ⟨timeout.map Duration.ofSeconds, none⟩) (.ofHost host)).1
          Answers transformer answer ∧ Ends answer finish) ∨
        ∃ text, converter = some text ∧ session.registry.Lacks text ∧
          finish = .error [s!"unknown transformer '{text}' (run `helios list` to see all)"]) := by
  intro request finish
  obtain ⟨registry, indexed, started, kept⟩ := @exists_start_kept launcher _ _ _ loaded
  have opened : finish = (runConvert
      ⟨config, place.getD (Config.defaultPath host), registry⟩ input output converter timeout
      (.ofHost host)).2 := by
    simp only [finish, request, runRequest, Terminal.host, Terminal.ofHost, Services.ofHost,
      started, runCommand]
  refine ⟨?_, _, started, rfl, titles_eq kept, ?_⟩
  · intro arguments read
    simp only [run, read, finish]
  have concludes (ref : Ref) (chosen : chooseConverter
      ⟨config, place.getD (Config.defaultPath host), registry⟩ (classifyingName input) converter =
        .ok ref) (chooses : registry.Chooses input converter ref.transformer) :
      ∃ transformer, (∀ other, registry.Chooses input converter other ↔ other = transformer) ∧
        let answer := (transformer.run
          (.convert input output ⟨timeout.map Duration.ofSeconds, none⟩) (.ofHost host)).1
        Answers transformer answer ∧ Ends answer finish := by
    refine ⟨ref.transformer, ?_, answers_of_kept kept chooses.mem .., ?_⟩
    · intro other
      constructor
      · exact fun also => chooses_unique indexed also chooses
      · rintro rfl
        exact chooses
    · rw [opened]
      exact ends_of_chosen (.ofHost host) chosen
  cases converter with
  | none =>
      obtain ⟨ref, picked, entry, suits⟩ :=
        exists_pickConverter kept indexed (classifyingName input)
      refine Or.inl (concludes ref ?_ (.suits entry ((suits_iff _ _).mpr suits)))
      simp only [chooseConverter, picked]
  | some text =>
      rcases @chooses_of_find ⟨config, place.getD (Config.defaultPath host), registry⟩ indexed
        input text with ⟨ref, found, chooses⟩ | ⟨lacks, missing⟩
      · exact Or.inl (concludes ref found chooses)
      · refine Or.inr ⟨text, rfl, lacks, ?_⟩
        simp only [opened, runConvert, chooseConverter, missing]

/-- A name that begins with an octet that spells nothing, the longest timeout, and a tool that does
its work. A viewer that is asked for by its name does not convert. -/
theorem convert_ends_spoiled :
    let launcher : Duration → Launcher := fun _ _ host _ => (.ok ⟨0, "", .ofSeconds 1⟩, host)
    let host : Host := ⟨⟨[([Utf8.encode "d2j"], .file 0)], [⟨[[]], 0, 0o755, 0, 0⟩], 0⟩, [],
      [("HELIOS_DEX2JAR", Utf8.encode "/d2j")]⟩
    let place := some (Path.ofString "config.json")
    let input : Path := ⟨255 :: Utf8.encode ".dex"⟩
    let output := Path.ofString "app.jar"
    let code (converter : Option String) : Nat := finishCode (runRequest launcher
      ⟨place, .convert input output converter (some (2 ^ 64 - 1))⟩ (.ofHost host)).2
    Config.loadOrDefault host place = .ok .default ∧ code none = 0 ∧ code (some "Hex") = 1 ∧
      ∃ session transformer, Session.start launcher host place = .ok session ∧
        session.registry.Chooses input none transformer ∧ transformer.id = "dex2jar" ∧
        Succeeds (transformer.run
          (.convert input output ⟨some (.ofSeconds (2 ^ 64 - 1)), none⟩) (.ofHost host)).1 := by
  intro launcher host place input output code
  have absent : host.holds (Path.ofString "config.json") = false := by decide +kernel
  have loaded : Config.loadOrDefault host place = .ok .default :=
    (Config.IsHad.absent absent (Config.isPlain_of_absent (by decide +kernel))).loadOrDefault
  have done : code none = 0 := by decide +kernel
  obtain ⟨-, session, started, -, -, ⟨transformer, chosen, -, ends⟩ | ⟨text, given, -⟩⟩ :=
    @convert_ends launcher host place _ loaded input output none (some (2 ^ 64 - 1))
  · have chooses := (chosen transformer).mpr rfl
    refine ⟨loaded, done, by decide +kernel, session, transformer, started, chooses, ?_,
      ends.succeeded.mp done⟩
    cases chooses with
    | suits _ suits => exact ((suits_iff _ _).mp suits).trans (by decide +kernel)
  · cases given

end CommandLine

end ArtifactTools
