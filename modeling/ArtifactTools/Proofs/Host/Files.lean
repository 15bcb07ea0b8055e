import ArtifactTools.Proofs.Host.Directories

/-! Writing a file: what has been written is read, and can be written over. -/

namespace ArtifactTools.FileTree

def IsWritable (tree : FileTree) (directory : Location) (path : Path) : Prop :=
  ∃ number opened file,
    tree.openForWriting directory path false plainMode = .ok (.file number, opened) ∧
      opened.files[number]? = some file ∧ allows file.mode readBit = true

theorem node?_modifyContent (tree : FileTree) (number : Nat) (change : StoredFile → StoredFile)
    (place : Location) : (tree.modifyContent number change).node? place = tree.node? place := rfl

theorem extends_of_node?_eq {tree later : FileTree}
    (same : ∀ place, later.node? place = tree.node? place) : tree.Extends later := by
  constructor
  · intro place node found
    rw [same, found]
  · intro place target absent
    rw [same, absent]
    exact fun link => nomatch link

theorem files_modifyContent {tree : FileTree} {number : Nat} {file : StoredFile}
    (present : tree.files[number]? = some file) (change : StoredFile → StoredFile) :
    (tree.modifyContent number change).files[number]? =
      some { change file with modified := tree.now, revision := file.revision + 1 } := by
  simp [modifyContent, modifyFile, present]

theorem node?_create (tree : FileTree) {location : Location} (below : location ≠ [])
    (content : Octets) (mode : Nat) (other : Location) :
    (tree.create location content mode).node? other =
      if other = location then some (.file tree.files.length) else tree.node? other :=
  node?_put { tree with files := tree.files ++ [⟨[content], content.length, mode, tree.now, 0⟩] }
    below (.file tree.files.length) other

theorem files_create (tree : FileTree) (location : Location) (content : Octets) (mode : Nat) :
    (tree.create location content mode).files[tree.files.length]? =
      some ⟨[content], content.length, mode, tree.now, 0⟩ := by
  unfold create put
  split <;> simp

theorem writable_plainMode : allows plainMode writeBit = true := by
  decide

theorem readable_plainMode : allows plainMode readBit = true := by
  decide

structure Opened (tree : FileTree) (directory : Location) (path : Path) (number : Nat)
    (opened : FileTree) : Prop where
  grown : tree.Extends opened
  place : ∃ place, tree.follow .creation directory path = .ok place ∧
    opened.node? place = some (.file number)
  file : ∃ file, opened.files[number]? = some file ∧ file.pieces = [[]] ∧
    allows file.mode writeBit = true

theorem opened_of_openForWriting {tree opened : FileTree} {directory : Location} {path : Path}
    {number : Nat} (opens : tree.openForWriting directory path false plainMode =
      .ok (.file number, opened)) : tree.Opened directory path number opened := by
  unfold openForWriting locateWritable at opens
  split at opens
  · cases opens
  · next place followed =>
      split at opens
      · cases opens
      · next absent =>
          split at opens
          · obtain ⟨numbered, rfl⟩ := Prod.mk.inj (Except.ok.inj opens)
            obtain rfl := Node.file.inj numbered
            have below := ne_nil_of_node?_eq_none absent
            have added := tree.node?_create below [] plainMode
            refine ⟨extends_of_node? absent (by simp) added, ⟨place, followed, ?_⟩,
              ⟨_, files_create tree place [] plainMode, rfl, writable_plainMode⟩⟩
            rw [added, if_pos rfl]
          · cases opens
      · next other present =>
          split at opens
          · next writable =>
              obtain ⟨numbered, rfl⟩ := Prod.mk.inj (Except.ok.inj opens)
              obtain rfl := Node.file.inj numbered
              obtain ⟨file, stored, allowed⟩ := (Option.any_eq_true _ _).mp writable
              exact ⟨extends_of_node?_eq (node?_modifyContent tree other _),
                ⟨place, followed, present⟩, ⟨_, files_modifyContent stored _, rfl, allowed⟩⟩
          · cases opens
      · cases opens
      · cases opens
      · next node _ notFile _ _ _ =>
          exact absurd (Prod.mk.inj (Except.ok.inj opens)).1 (notFile number)

theorem write_of_openForWriting {tree opened : FileTree} {directory : Location} {path : Path}
    {number : Nat} (opens : tree.openForWriting directory path false plainMode =
      .ok (.file number, opened)) (content : Octets) :
    tree.write directory path content = .ok (opened.append number content) := by
  rw [write, opens]

theorem read_of_file {tree : FileTree} {directory place : Location} {path : Path} {number : Nat}
    {file : StoredFile} (followed : tree.follow .content directory path = .ok place)
    (present : tree.node? place = some (.file number)) (stored : tree.files[number]? = some file)
    (readable : allows file.mode readBit = true) :
    tree.read directory path = .ok file.content := by
  rw [read, (find_eq_ok_iff _ _ _ _ _).mpr ⟨followed, present⟩]
  simp [isDirectory, fileOf?, stored, readable]

theorem openForWriting_file {tree : FileTree} {directory place : Location} {path : Path}
    {number : Nat} {file : StoredFile} (followed : tree.follow .creation directory path = .ok place)
    (present : tree.node? place = some (.file number)) (stored : tree.files[number]? = some file)
    (writable : allows file.mode writeBit = true) (mode : Nat) :
    tree.openForWriting directory path false mode =
      .ok (.file number, tree.modifyContent number (·.replace [])) := by
  simp [openForWriting, locateWritable, followed, present, stored, writable]

theorem IsWritable.write {tree : FileTree} {directory : Location} {path : Path}
    (writable : tree.IsWritable directory path) (content : Octets) :
    ∃ next, tree.write directory path content = .ok next ∧ tree.Extends next ∧
      next.read directory path = .ok content ∧ next.IsWritable directory path := by
  obtain ⟨number, opened, before, opens, storedBefore, readable⟩ := writable
  obtain ⟨grown, ⟨place, followed, present⟩, ⟨file, stored, blank, allowed⟩⟩ :=
    opened_of_openForWriting opens
  obtain rfl := Option.some.inj (storedBefore.symm.trans stored)
  have storedNext : (opened.append number content).files[number]? = some _ :=
    files_modifyContent stored _
  have holdsContent : (before.append content).content = content := by
    simp [StoredFile.append, StoredFile.content, blank]
  have grownNext : tree.Extends (opened.append number content) := ⟨grown.kept, grown.plain⟩
  refine ⟨opened.append number content, write_of_openForWriting opens content, grownNext, ?_, ?_⟩
  · rw [read_of_file (grownNext.follow relaxed_creation_content followed) present storedNext
      readable]
    exact congrArg Except.ok holdsContent
  · exact ⟨number, _, _,
      openForWriting_file (grownNext.follow (.refl .creation) followed) present storedNext allowed
        plainMode,
      files_modifyContent storedNext _, readable⟩

theorem holds_of_read {tree : FileTree} {directory : Location} {path : Path} {content : Octets}
    (read : tree.read directory path = .ok content) : tree.holds directory path = true := by
  unfold FileTree.read at read
  unfold FileTree.holds
  split at read
  · cases read
  · next found => rw [found]

theorem exists_file_of_read {tree : FileTree} {directory : Location} {path : Path}
    {content : Octets} (read : tree.read directory path = .ok content) (filled : content ≠ []) :
    ∃ place number file, tree.find directory path = .ok (place, .file number) ∧
      tree.files[number]? = some file ∧ allows file.mode readBit = true := by
  unfold FileTree.read at read
  split at read
  · cases read
  · next place node found =>
      split at read
      · cases read
      · split at read
        · next file stored =>
            split at read
            · next readable =>
                cases node with
                | file number => exact ⟨place, number, file, found, stored, readable⟩
                | _ => cases stored
            · cases read
        · obtain rfl := Except.ok.inj read
          exact absurd rfl filled

/-- What a path leads to, if to anything, is a file that may be read. -/
def IsPlain (tree : FileTree) (directory : Location) (path : Path) : Prop :=
  ∀ place node, tree.find directory path = .ok (place, node) → ∃ number file,
    node = .file number ∧ tree.files[number]? = some file ∧ allows file.mode readBit = true

theorem IsPlain.isWritable {tree next : FileTree} {directory : Location} {path : Path}
    (plain : tree.IsPlain directory path) {content : Octets}
    (written : tree.write directory path content = .ok next) :
    tree.IsWritable directory path := by
  have opens : ∃ result, tree.openForWriting directory path false plainMode = .ok result := by
    unfold write at written
    split at written
    · cases written
    · next opened => exact ⟨_, opened⟩
    · next opened => exact ⟨_, opened⟩
  obtain ⟨result, opened⟩ := opens
  have opening := opened
  unfold openForWriting locateWritable at opened
  split at opened
  · cases opened
  · next location created =>
      have led := tree.extends_refl.follow relaxed_creation_content created
      cases present : tree.node? location with
      | none =>
          simp only [present] at opened
          split at opened
          · obtain rfl := Except.ok.inj opened
            exact ⟨_, _, _, opening, tree.files_create location [] plainMode, readable_plainMode⟩
          · cases opened
      | some node =>
          obtain ⟨number, file, rfl, stored, readable⟩ :=
            plain location node ((find_eq_ok_iff _ _ _ _ _).mpr ⟨led, present⟩)
          simp only [present] at opened
          split at opened
          · next writable =>
              simp only [stored, Option.any_some] at writable
              exact ⟨number, _, _, openForWriting_file created present stored writable plainMode,
                files_modifyContent stored _, readable⟩
          · cases opened

end ArtifactTools.FileTree
