import ArtifactTools.Config.Tools
import ArtifactTools.Proofs.Path.Absolute
import ArtifactTools.Proofs.Text.Utf8

/-! The entries of a class path. Where no part holds a colon they are the runtime library, the input
and the extra entries. An empty entry, which stands for the current directory, comes about only from
a runtime library that is set to the empty text. -/

namespace ArtifactTools.Config

def entriesOf (classpath : String) : List String :=
  (classpath.toList.splitOn ':').map String.ofList

def filled (text : Option String) : List String :=
  text.toList.filter (· ≠ "")

def colon : UInt8 := 58

structure ColonFree (config : Config) (host : Host) (input : Path) : Prop where
  directory : colon ∉ host.workingDirectory.octets
  input : colon ∉ input.octets
  library : ∀ text ∈ config.runtimeLibrary, ':' ∉ text.toList
  extra : ∀ text ∈ config.extraClasspath, ':' ∉ text.toList

theorem entriesOf_intercalate {parts : List String} (nonempty : parts ≠ [])
    (free : ∀ part ∈ parts, ':' ∉ part.toList) : entriesOf (":".intercalate parts) = parts := by
  have split : (List.intercalate [':'] (parts.map String.toList)).splitOn ':' =
      parts.map String.toList := by
    apply List.splitOn_intercalate
    · intro characters member
      obtain ⟨part, listed, rfl⟩ := List.mem_map.mp member
      exact free part listed
    · simpa using nonempty
  have separator : (":" : String).toList = [':'] := rfl
  rw [entriesOf, String.toList_intercalate, separator, split, List.map_map]
  simp

theorem isAbsolute_pathOf (location : Location) : (Host.pathOf location).isAbsolute = true := by
  cases location with
  | nil => rfl
  | cons name rest => simp [Host.pathOf, Path.isAbsolute]

theorem display_ne_empty {path : Path} (rooted : path.isAbsolute = true) : path.display ≠ "" := by
  obtain ⟨octets⟩ := path
  cases octets with
  | nil => simp [Path.isAbsolute] at rooted
  | cons first rest =>
      obtain rfl : first = Path.slash := by simpa [Path.isAbsolute] using rooted
      have shown : Utf8.Reader.idle.run (Path.slash :: rest) = '/' :: Utf8.Reader.idle.run rest :=
        rfl
      intro empty
      have same := congrArg String.toList empty
      rw [Path.display, Utf8.decodeLossy, String.toList_ofList, shown] at same
      cases same

section

variable {config : Config} {host : Host} {input : Path} (free : config.ColonFree host input)
  (written : input.octets ≠ [])

include free written

theorem ColonFree.not_mem_absolute : ':' ∉ (host.absolute input).display.toList := by
  intro member
  have plain : Utf8.Reader.IsPlain ':' := ⟨by decide, by decide⟩
  have inOctets : colon ∈ (host.absolute input).octets :=
    Utf8.octetOf_mem_of_mem_decodeLossy plain member
  rcases Path.mem_of_mem_absolute written inOctets with before | between | after
  · exact free.directory before
  · exact absurd between (by decide)
  · exact free.input after

theorem ColonFree.entriesOf_classpath : entriesOf (config.classpath host input) =
    config.runtimeLibrary.toList ++ (host.absolute input).display ::
      filled config.extraClasspath := by
  have extra : (config.extraClasspath.filter fun entries => !entries.isEmpty).toList =
      filled config.extraClasspath := by
    cases config.extraClasspath with
    | none => rfl
    | some text => by_cases empty : text = "" <;> simp [filled, Option.filter, empty]
  have parts : config.classpath host input = ":".intercalate (config.runtimeLibrary.toList ++
      (host.absolute input).display :: filled config.extraClasspath) := by
    rw [classpath, extra]
  rw [parts]
  apply entriesOf_intercalate
  · simp
  · intro part listed
    rcases List.mem_append.mp listed with library | rest
    · exact free.library part (Option.mem_toList.mp library)
    · rcases List.mem_cons.mp rest with rfl | later
      · exact free.not_mem_absolute written
      · exact free.extra part (Option.mem_toList.mp (List.mem_of_mem_filter later))

/-- The entries of a class path are the runtime library and the extra entries, where these are set
and not empty, around the absolute form of the input, just if the runtime library is not set to the
empty text. If it is, an empty entry stands before them, and there is no other way to one. -/
theorem classpath_entries_iff :
    let entries := entriesOf (config.classpath host input)
    let path := host.absolute input
    (entries = filled config.runtimeLibrary ++ path.display :: filled config.extraClasspath ↔
      config.runtimeLibrary ≠ some "") ∧
    ("" ∈ entries ↔ config.runtimeLibrary = some "") ∧
    (config.runtimeLibrary = some "" →
      entries = "" :: path.display :: filled config.extraClasspath) ∧
    path.isAbsolute = true := by
  intro entries path
  have rooted : path.isAbsolute = true :=
    Path.isAbsolute_absolute (isAbsolute_pathOf host.directory) written
  have shown := display_ne_empty rooted
  have form : entries = config.runtimeLibrary.toList ++ path.display ::
      filled config.extraClasspath := free.entriesOf_classpath written
  have holds : "" ∈ entries ↔ config.runtimeLibrary = some "" := by
    rw [form, List.mem_append, List.mem_cons]
    simp [filled, shown.symm]
  have spoiled (empty : config.runtimeLibrary = some "") :
      entries = "" :: path.display :: filled config.extraClasspath := by
    rw [form, empty]
    rfl
  refine ⟨?_, holds, spoiled, rooted⟩
  constructor
  · intro same empty
    have first := holds.mpr empty
    rw [same, List.mem_append, List.mem_cons] at first
    simp [filled, shown.symm] at first
  · intro proper
    have kept : filled config.runtimeLibrary = config.runtimeLibrary.toList := by
      cases library : config.runtimeLibrary with
      | none => rfl
      | some text =>
          have visible : text ≠ "" := fun empty => proper (empty ▸ library)
          simp [filled, visible]
    rw [form, kept]

end

/-- A class path of three entries. -/
theorem classpath_entries_iff_around :
    let config : Config :=
      { default with runtimeLibrary := some "rt.jar", extraClasspath := some "libs/a.jar" }
    let host : Host := ⟨⟨[], [], 0⟩, [Utf8.encode "home"], []⟩
    let input := Path.ofString "./lib//in.jar"
    config.ColonFree host input ∧ input.octets ≠ [] ∧
      entriesOf (config.classpath host input) = ["rt.jar", "/home/lib/in.jar", "libs/a.jar"] := by
  intro config host input
  have free : config.ColonFree host input := by
    refine ⟨by decide +kernel, by decide +kernel, ?_, ?_⟩
    · rintro text ⟨⟩
      decide
    · rintro text ⟨⟩
      decide
  have written : input.octets ≠ [] := by decide +kernel
  obtain ⟨proper, -, -, -⟩ := classpath_entries_iff free written
  refine ⟨free, written, (proper.mpr (by decide)).trans ?_⟩
  decide +kernel

/-- A runtime library that is set to the empty text is an entry all the same. -/
theorem classpath_begins_empty :
    let config : Config := { default with runtimeLibrary := some "" }
    let host : Host := ⟨⟨[], [], 0⟩, [Utf8.encode "home"], []⟩
    let input := Path.ofString "input.jar"
    config.ColonFree host input ∧ input.octets ≠ [] ∧
      entriesOf (config.classpath host input) = ["", "/home/input.jar"] ∧
      filled config.runtimeLibrary ++ (host.absolute input).display ::
        filled config.extraClasspath = ["/home/input.jar"] := by
  intro config host input
  have free : config.ColonFree host input := by
    refine ⟨by decide +kernel, by decide +kernel, ?_, ?_⟩
    · rintro text ⟨⟩
      decide
    · rintro text ⟨⟩
  have written : input.octets ≠ [] := by decide +kernel
  refine ⟨free, written, (free.entriesOf_classpath written).trans ?_, ?_⟩
  · decide +kernel
  · decide +kernel

end ArtifactTools.Config
