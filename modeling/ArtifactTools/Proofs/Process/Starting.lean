import ArtifactTools.Process.SystemLauncher
import ArtifactTools.Proofs.Host.Directories

/-! Which file a tool is started from. A program with a slash in it is a path from the directory that
the tool starts in; any other is the first in the directories of `PATH` that ends the search. -/

namespace ArtifactTools

namespace Invocation

def candidate (name place : Octets) : Path :=
  ⟨if place.isEmpty then name else place ++ Path.slash :: name⟩

def settles : Except HostError Invocation → Bool
  | .ok _ => true
  | .error error => !goesOn error

def pathTaken? (tree : FileTree) (directory : Location) (searched : List Octets) (name : Octets)
    (arguments : List Octets) : Option Path :=
  if name.contains Path.slash then some ⟨name⟩
  else (searched.map (candidate name)).find? fun path =>
    settles (ofPath tree directory depthLimit path (name :: arguments))

section

variable {tree : FileTree} {directory : Location} {arguments : List Octets} {name : Octets}

theorem of_ofSearch {invocation : Invocation} (searched : List Octets) : ∀ {last : HostError},
    ofSearch tree directory arguments name last searched = .ok invocation → ∃ path,
      ((searched.map (candidate name)).find? fun path =>
        settles (ofPath tree directory depthLimit path arguments)) = some path ∧
      ofPath tree directory depthLimit path arguments = .ok invocation := by
  induction searched with
  | nil => intro last found; cases found
  | cons place rest ih =>
      intro last found
      rw [ofSearch, ← candidate.eq_def] at found
      rw [List.map_cons, List.find?_cons]
      cases outcome : ofPath tree directory depthLimit (candidate name place) arguments with
      | ok taken =>
          obtain rfl : taken = invocation := by simpa [outcome] using found
          exact ⟨candidate name place, by simp [settles], outcome⟩
      | error error =>
          simp only [outcome] at found
          split at found
          · next onward =>
              obtain ⟨path, chosen, ran⟩ := ih found
              exact ⟨path, by simpa [settles, onward] using chosen, ran⟩
          · cases found

theorem of_find {searched : List Octets} {invocation : Invocation}
    (found : find tree directory searched name arguments = .ok invocation) : ∃ path,
      pathTaken? tree directory searched name arguments = some path ∧
        ofPath tree directory depthLimit path (name :: arguments) = .ok invocation := by
  unfold find at found
  split at found
  · cases found
  · rw [pathTaken?]
    split at found
    · next slashed => exact ⟨⟨name⟩, by rw [if_pos slashed], found⟩
    · next plain =>
        rw [if_neg plain]
        exact of_ofSearch searched found

theorem exists_find_of_ofPath {depth : Nat} {path : Path} {invocation : Invocation}
    (ran : ofPath tree directory depth path arguments = .ok invocation) :
    ∃ place node, tree.find directory path = .ok (place, node) := by
  have executable : ∃ file, executable tree directory path = .ok file := by
    cases outcome : executable tree directory path with
    | ok file => exact ⟨file, rfl⟩
    | error error => simp [ofPath, outcome] at ran
  obtain ⟨file, there⟩ := executable
  unfold Invocation.executable at there
  split at there
  · cases there
  · cases found : tree.find directory path with
    | ok result => exact ⟨result.1, result.2, rfl⟩
    | error error => simp [found] at there

end

end Invocation

namespace SystemLauncher

def fileTaken? (host : Host) (template : Template) : Option Location :=
  match startDirectory host template with
  | .error _ => none
  | .ok directory =>
      (Invocation.pathTaken? host.files directory host.searchedDirectories
        template.program.octets template.arguments).bind fun path =>
          match host.files.find directory path with
          | .ok (place, _) => some place
          | .error _ => none

theorem fileTaken?_eq_some_iff {host : Host} {template : Template} {directory : Location}
    (starts : startDirectory host template = .ok directory) (place : Location) :
    fileTaken? host template = some place ↔ ∃ path node,
      Invocation.pathTaken? host.files directory host.searchedDirectories
        template.program.octets template.arguments = some path ∧
      host.files.find directory path = .ok (place, node) := by
  simp only [fileTaken?, starts, Option.bind_eq_some_iff]
  constructor
  · rintro ⟨path, taken, there⟩
    split at there
    · next other node found =>
        obtain rfl := Option.some.inj there
        exact ⟨path, node, taken, found⟩
    · cases there
  · rintro ⟨path, node, taken, found⟩
    exact ⟨path, taken, by rw [found]⟩

/-- A launch runs the file that it takes. -/
theorem exists_fileTaken {host : Host} {template : Template} {invocation : Invocation}
    {directory : Location} (resolved : resolve host template = .ok (invocation, directory)) :
    ∃ path place node, startDirectory host template = .ok directory ∧
      fileTaken? host template = some place ∧
      host.files.find directory path = .ok (place, node) ∧
      Invocation.ofPath host.files directory Invocation.depthLimit path
        (template.program.octets :: template.arguments) = .ok invocation := by
  unfold resolve at resolved
  split at resolved
  · cases resolved
  · split at resolved
    · cases resolved
    · next start starts =>
        cases outcome : Invocation.find host.files start host.searchedDirectories
            template.program.octets template.arguments with
        | error error => simp [outcome, Except.map] at resolved
        | ok found =>
            obtain ⟨rfl, rfl⟩ : found = invocation ∧ start = directory := by
              simpa [outcome, Except.map] using resolved
            obtain ⟨path, taken, ran⟩ := Invocation.of_find outcome
            obtain ⟨place, node, there⟩ := Invocation.exists_find_of_ofPath ran
            refine ⟨path, place, node, starts, ?_, there, ran⟩
            exact (fileTaken?_eq_some_iff starts place).mpr ⟨path, node, taken, there⟩

def IsAnchored (template : Template) : Prop :=
  template.program.isAbsolute = true ∨
    Path.slash ∈ template.program.octets ∧ template.workingDirectory = none

theorem slash_mem_of_isAbsolute {path : Path} (absolute : path.isAbsolute = true) :
    Path.slash ∈ path.octets := by
  obtain ⟨octets⟩ := path
  cases octets with
  | nil => simp [Path.isAbsolute] at absolute
  | cons first rest =>
      obtain rfl : first = Path.slash := by simpa [Path.isAbsolute] using absolute
      simp

theorem fileTaken_of_isAnchored {host : Host} {template : Template} {directory place : Location}
    {node : Node} (starts : startDirectory host template = .ok directory)
    (found : host.files.find host.directory template.program = .ok (place, node))
    (anchored : IsAnchored template) : fileTaken? host template = some place := by
  have slashed : template.program.octets.contains Path.slash = true := by
    rw [List.contains_iff_mem]
    rcases anchored with absolute | ⟨slashed, -⟩
    · exact slash_mem_of_isAbsolute absolute
    · exact slashed
  have there : host.files.find directory template.program = .ok (place, node) := by
    rcases anchored with absolute | ⟨-, home⟩
    · rwa [FileTree.find, host.files.follow_of_isAbsolute absolute directory host.directory]
    · obtain rfl : host.directory = directory := by simpa [startDirectory, home] using starts
      exact found
  refine (fileTaken?_eq_some_iff starts place).mpr ⟨template.program, node, ?_, there⟩
  rw [Invocation.pathTaken?, if_pos slashed]

end SystemLauncher

end ArtifactTools
