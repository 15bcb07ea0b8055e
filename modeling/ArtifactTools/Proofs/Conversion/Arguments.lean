import ArtifactTools.Conversion.Tools
import ArtifactTools.Proofs.Host.Directories
import ArtifactTools.Proofs.Path.Absolute

/-! The command lines of the tools. Whatever the paths, a tool finds its own options and no others,
and every path stands for the same file wherever the tool is started. -/

namespace ArtifactTools

namespace FileTree

/-- A slash after a path made of one step would follow no name. -/
theorem ne_nil_of_marked {path : Path} {rest : List Component}
    (steps : (stepsOf path).1 = .root :: rest) (marked : (stepsOf path).2 = true) : rest ≠ [] := by
  rintro rfl
  have named : path.fileName?.isSome = true := by
    simp only [stepsOf, Bool.and_eq_true] at marked
    exact marked.2
  have whole : path.components ++ _ = [Component.root] := steps
  rcases List.append_eq_singleton_iff.mp whole with ⟨nothing, -⟩ | ⟨alone, -⟩
  · simp [Path.fileName?, nothing] at named
  · simp [Path.fileName?, alone] at named

theorem follow_of_isAbsolute_any (tree : FileTree) (purpose : Purpose) {path : Path}
    (rooted : path.isAbsolute = true) (directory other : Location) :
    tree.follow purpose directory path = tree.follow purpose other path := by
  obtain ⟨rest, steps⟩ : ∃ rest, (stepsOf path).1 = .root :: rest := by
    simp [stepsOf, Path.components, rooted]
  have goesOn : (purpose = .creation && (stepsOf path).2 && rest.isEmpty) = false := by
    cases marked : (stepsOf path).2 with
    | false => simp
    | true =>
        have more := ne_nil_of_marked steps marked
        simp [more]
  have same (goOn : Location → Octets → Bool → List Component → Except HostError Location) :
      tree.walkWith purpose goOn directory (stepsOf path).2 (.root :: rest) =
        tree.walkWith purpose goOn other (stepsOf path).2 (.root :: rest) := by
    rw [walkWith, walkWith]
    simp only [goesOn, Bool.false_eq_true, if_false, step, node?]
    rfl
  unfold follow
  simp only [steps]
  split
  · rfl
  · split
    · rfl
    · split
      · rfl
      · exact same _

end FileTree

def Host.IsNamed (host : Host) : Prop :=
  ∀ name ∈ host.directory, Path.IsLeading name ∧ name ≠ [Path.dot, Path.dot]

theorem Host.IsNamed.leads {host : Host} (named : host.IsNamed) :
    ∀ name ∈ host.directory, Path.IsLeading name :=
  fun name member => (named name member).1

theorem Host.absolute_of_empty (host : Host) {path : Path} (nothing : path.octets = []) :
    host.absolute path = path := by
  simp [absolute, Path.absolute, nothing]

namespace Conversion

def isOption (argument : Octets) : Bool := argument.head? = some 45

def valueAfter? (option : Octets) : List Octets → Option Octets
  | argument :: value :: rest =>
      if argument = option then some value else valueAfter? option (value :: rest)
  | _ => .none

structure StandsFor (host : Host) (path : Path) (argument : Octets) : Prop where
  form : argument = (host.absolute path).octets
  isAbsolute : path.octets ≠ [] → (Path.mk argument).isAbsolute = true
  steps : path.octets ≠ [] → (Path.mk argument).components =
    .root :: (path.namesFrom host.directory).map Path.componentOf
  ending : path.endsWithSlash = true → (Path.mk argument).endsWithSlash = true
  anywhere : path.octets ≠ [] → ∀ (files : FileTree) purpose directory other,
    files.follow purpose directory ⟨argument⟩ = files.follow purpose other ⟨argument⟩
  empty : path.octets = [] → argument = []
  plain : isOption argument = false

section

variable {host : Host} (named : host.IsNamed)

include named

theorem leads_namesFrom (path : Path) :
    ∀ name ∈ path.namesFrom host.directory, Path.IsLeading name := by
  unfold Path.namesFrom
  split
  · exact fun _ => Path.isLeading_of_mem_names
  · exact List.forall_mem_append.mpr ⟨named.leads, fun _ => Path.isLeading_of_mem_names⟩

theorem absolute_eq_spell (path : Path) (written : path.octets ≠ []) : host.absolute path =
    Path.spell path.beginsWithTwoSlashes (path.namesFrom host.directory) path.endsWithSlash :=
  Path.absolute_eq_spell named.leads written

theorem standsFor_absolute (path : Path) : StandsFor host path (host.absolute path).octets := by
  by_cases nothing : path.octets = []
  · have same := host.absolute_of_empty nothing
    rw [same, nothing]
    constructor
    · rw [same, nothing]
    · exact fun written => absurd nothing written
    · exact fun written => absurd nothing written
    · intro slashed
      simp [Path.endsWithSlash, nothing] at slashed
    · exact fun written => absurd nothing written
    · exact fun _ => rfl
    · rfl
  · have form := absolute_eq_spell named path nothing
    have leads := leads_namesFrom named path
    have rooted : (host.absolute path).isAbsolute = true := by
      rw [form]
      exact Path.isAbsolute_spell _ _ _
    constructor
    · rfl
    · exact fun _ => rooted
    · intro _
      change (host.absolute path).components = _
      rw [form, Path.components_spell leads]
    · intro slashed
      change (host.absolute path).endsWithSlash = true
      rw [form, slashed]
      rcases eq_or_ne (path.namesFrom host.directory) [] with empty | nonempty
      · rw [empty, Path.spell_nil]
        cases path.beginsWithTwoSlashes <;> rfl
      · exact Path.endsWithSlash_spell leads nonempty _ _
    · exact fun _ files purpose => files.follow_of_isAbsolute_any purpose rooted
    · exact fun written => absurd written nothing
    · have first : (host.absolute path).octets.head? = some Path.slash := by
        simpa [Path.isAbsolute] using rooted
      simp [isOption, first, Path.slash]

/-- The absolute form of an absolute form is the same. -/
theorem absolute_absolute (path : Path) :
    host.absolute (host.absolute path) = host.absolute path := by
  by_cases nothing : path.octets = []
  · rw [host.absolute_of_empty nothing, host.absolute_of_empty nothing]
  · rw [absolute_eq_spell named path nothing]
    exact Path.absolute_spell (leads_namesFrom named path) _ _ _

end

/-- The tool finds just these options, and the path of the output where it looks for it. -/
structure ReadAs (template : Template) (options : List String) (made : Octets) : Prop where
  options : template.arguments.filter isOption = options.map Utf8.encode
  output : valueAfter? (Utf8.encode "-o") template.arguments = some made

theorem readAs_enjarify {host : Host} (named : host.IsNamed) (program : Path)
    (directory : Option Path) (input output : Path) :
    ReadAs (enjarifyTemplate host program directory input output) ["-O", "-m", "-o", "-f"]
      (host.absolute output).octets := by
  have given := (standsFor_absolute named input).plain
  have made := (standsFor_absolute named output).plain
  have apart : (host.absolute input).octets ≠ Utf8.encode "-o" := by
    intro same
    rw [same] at given
    exact absurd given (by decide +kernel)
  constructor
  · have options : isOption (Utf8.encode "-O") = true ∧ isOption (Utf8.encode "-m") = true ∧
        isOption (Utf8.encode "enjarify.main") = false ∧ isOption (Utf8.encode "-o") = true ∧
        isOption (Utf8.encode "-f") = true := by decide +kernel
    simp [enjarifyTemplate, given, made, options]
  · have words : Utf8.encode "-O" ≠ Utf8.encode "-o" ∧ Utf8.encode "-m" ≠ Utf8.encode "-o" ∧
        Utf8.encode "enjarify.main" ≠ Utf8.encode "-o" := by decide +kernel
    simp [enjarifyTemplate, valueAfter?, words, apart]

theorem readAs_dex2jar {host : Host} (named : host.IsNamed) (program input output : Path) :
    ReadAs (dex2jarTemplate host program input output) ["-o", "--force"]
      (host.absolute output).octets := by
  have given := (standsFor_absolute named input).plain
  have made := (standsFor_absolute named output).plain
  constructor
  · have options :
        isOption (Utf8.encode "-o") = true ∧ isOption (Utf8.encode "--force") = true := by
      decide +kernel
    simp [dex2jarTemplate, given, made, options]
  · simp [dex2jarTemplate, valueAfter?]

/-- Paths cannot confuse a command line: its words stand where they belong, no path is taken for an
option, and absolute forms of the paths make the same command line. -/
theorem command_lines_unconfused {host : Host} (named : host.IsNamed) (program : Path)
    (directory : Option Path) (input output : Path) :
    let enjarify := enjarifyTemplate host program directory input output
    let dex2jar := dex2jarTemplate host program input output
    ∃ given made, StandsFor host input given ∧ StandsFor host output made ∧
      enjarify = ⟨program, ["-O", "-m", "enjarify.main"].map Utf8.encode ++
        [given, Utf8.encode "-o", made, Utf8.encode "-f"], directory⟩ ∧
      ReadAs enjarify ["-O", "-m", "-o", "-f"] made ∧
      enjarifyTemplate host program directory (host.absolute input) (host.absolute output) =
        enjarify ∧
      dex2jar = ⟨program, [Utf8.encode "-o", made, Utf8.encode "--force", given], .none⟩ ∧
      ReadAs dex2jar ["-o", "--force"] made ∧
      dex2jarTemplate host program (host.absolute input) (host.absolute output) = dex2jar := by
  intro enjarify dex2jar
  refine ⟨_, _, standsFor_absolute named input, standsFor_absolute named output, rfl,
    readAs_enjarify named program directory input output, ?_, rfl,
    readAs_dex2jar named program input output, ?_⟩
  · simp only [enjarify, enjarifyTemplate, absolute_absolute named]
  · simp only [dex2jar, dex2jarTemplate, absolute_absolute named]

/-- A path that begins with a hyphen, and the empty one. -/
theorem command_lines_unconfused_hyphen :
    let host : Host := ⟨⟨[], [], 0⟩, [Utf8.encode "home"], []⟩
    let input := Path.ofString "-x//./y/"
    host.IsNamed ∧ StandsFor host input (Utf8.encode "/home/-x/y/") ∧
      StandsFor host .empty [] ∧
      (dex2jarTemplate host (Path.ofString "d2j") input .empty).arguments =
        ["-o", "", "--force", "/home/-x/y/"].map Utf8.encode := by
  intro host input
  have named : host.IsNamed := by
    intro name member
    obtain rfl := List.mem_singleton.mp member
    exact ⟨⟨by decide +kernel, by decide +kernel⟩, by decide +kernel⟩
  have form : (host.absolute input).octets = Utf8.encode "/home/-x/y/" ∧
      (host.absolute .empty).octets = [] := by decide +kernel
  obtain ⟨given, made, input, output, -, -, -, line, -, -⟩ :=
    command_lines_unconfused named (Path.ofString "d2j") .none input .empty
  obtain rfl : given = _ := input.form.trans form.1
  obtain rfl : made = _ := output.form.trans form.2
  exact ⟨named, input, output, by rw [line]; decide +kernel⟩

end Conversion

end ArtifactTools
