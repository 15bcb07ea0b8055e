import ArtifactTools.Proofs.Host.Walks

/-! Making a directory and those above it: once that has succeeded the directory is there, and
making it again changes nothing. Whether it succeeds or not, all that was there stays. -/

namespace ArtifactTools.FileTree

/-! Paths to follow. -/

theorem fileName?_append_slash {octets : Octets} (nonempty : octets ≠ []) :
    (Path.mk (octets ++ [Path.slash])).fileName? = (Path.mk octets).fileName? := by
  rw [Path.fileName?, Path.components_append_slash nonempty, Path.fileName?]

theorem fst_stepsOf_append_slash {octets : Octets} (nonempty : octets ≠ []) :
    (stepsOf ⟨octets ++ [Path.slash]⟩).1 = (stepsOf ⟨octets⟩).1 := by
  rw [stepsOf, Path.components_append_slash nonempty, Path.lastSegment?_append_slash, stepsOf]

theorem snd_stepsOf_slashes (octets : Octets) (slashes : octets.rdropWhile (· = Path.slash) = []) :
    (stepsOf ⟨octets⟩).2 = false := by
  induction octets using List.reverseRecOn with
  | nil => rfl
  | append_singleton others last ih =>
      obtain rfl : last = Path.slash := by
        have every := List.rdropWhile_eq_nil_iff.mp slashes last (by simp)
        exact of_decide_eq_true every
      rw [List.rdropWhile_concat_pos _ _ _ (by simp)] at slashes
      have nameless := ih slashes
      cases others using List.reverseRecOn with
      | nil => rfl
      | append_singleton before previous =>
          have nonempty : before ++ [previous] ≠ [] := by simp
          obtain rfl : previous = Path.slash := by
            have every := List.rdropWhile_eq_nil_iff.mp slashes previous (by simp)
            exact of_decide_eq_true every
          simp only [stepsOf, fileName?_append_slash nonempty,
            Path.lastSegment?_append_slash] at nameless ⊢
          simpa [Path.endsWithSlash] using nameless

theorem stepsOf_trimmed {path : Path} (nonempty : path.octets ≠ []) :
    stepsOf path.trimmed = ((stepsOf path).1, false) := by
  obtain ⟨octets⟩ := path
  induction octets using List.reverseRecOn with
  | nil => exact absurd rfl nonempty
  | append_singleton others last ih =>
      by_cases isSlash : last = Path.slash
      · subst isSlash
        by_cases slashes : others.rdropWhile (· = Path.slash) = []
        · have whole : (others ++ [Path.slash]).rdropWhile (· = Path.slash) = [] := by
            rw [List.rdropWhile_concat_pos _ _ _ (by simp), slashes]
          rw [Path.trimmed_of_slashes whole]
          exact Prod.ext rfl (snd_stepsOf_slashes _ whole)
        · have others_ne : others ≠ [] := by
            rintro rfl
            exact slashes rfl
          rw [Path.trimmed_append_slash slashes, ih others_ne, fst_stepsOf_append_slash others_ne]
      · rw [Path.trimmed_append_other isSlash]
        refine Prod.ext rfl ?_
        simp [stepsOf, Path.endsWithSlash, isSlash]

theorem follow_eq_ok_iff (tree : FileTree) (purpose : Purpose) (directory : Location) (path : Path)
    (place : Location) :
    tree.follow purpose directory path = .ok place ↔
      path.octets ≠ [] ∧ 0 ∉ path.octets ∧ path.octets.length ≤ pathLimit ∧
        tree.walk purpose linkLimit directory (stepsOf path).2 (stepsOf path).1 = .ok place := by
  unfold follow
  by_cases empty : path.octets = []
  · simp [empty]
  · by_cases nul : 0 ∈ path.octets
    · simp [empty, nul]
    · by_cases long : path.octets.length ≤ pathLimit
      · simp [empty, nul, long, Nat.not_lt.mpr long]
      · simp [empty, nul, long, Nat.not_le.mp long]

theorem Extends.follow {tree later : FileTree} (grown : tree.Extends later)
    {purpose other : Purpose} (relaxed : purpose.Relaxed other) {directory : Location}
    {path : Path} {place : Location} (followed : tree.follow purpose directory path = .ok place) :
    later.follow other directory path = .ok place := by
  obtain ⟨nonempty, noNul, short, walked⟩ := (follow_eq_ok_iff _ _ _ _ _).mp followed
  exact (follow_eq_ok_iff _ _ _ _ _).mpr
    ⟨nonempty, noNul, short, grown.walk relaxed linkLimit _ _ _ walked⟩

theorem follow_of_isAbsolute (tree : FileTree) {path : Path} (absolute : path.isAbsolute = true)
    (directory other : Location) :
    tree.follow .content directory path = tree.follow .content other path := by
  obtain ⟨rest, steps⟩ : ∃ rest, (stepsOf path).1 = .root :: rest := by
    simp [stepsOf, Path.components, absolute]
  unfold follow
  simp only [steps]
  cases path.octets.isEmpty with
  | true => rfl
  | false => simp [linkLimit, walk, walkWith, step, node?]

theorem find_eq_ok_iff (tree : FileTree) (directory : Location) (path : Path) (place : Location)
    (node : Node) :
    tree.find directory path = .ok (place, node) ↔
      tree.follow .content directory path = .ok place ∧ tree.node? place = some node := by
  unfold find nodeAt
  cases tree.follow .content directory path with
  | error error => simp
  | ok other =>
      simp only [Except.ok.injEq]
      constructor
      · intro found
        split at found
        · cases found
        · next here =>
            obtain ⟨rfl, rfl⟩ := Prod.mk.inj (Except.ok.inj found)
            exact ⟨rfl, here⟩
      · rintro ⟨rfl, here⟩
        rw [here]

theorem locate_eq (tree : FileTree) (directory : Location) (path : Path) :
    tree.locate directory path =
      if path.octets.length > pathLimit then .error .nameTooLong
      else tree.follow .name directory path.trimmed := rfl

theorem holds_of_locate {tree : FileTree} {directory : Location} {path : Path}
    {place named : Location} (followed : tree.follow .content directory path = .ok place)
    (holds : tree.Holds place) (located : tree.locate directory path = .ok named) :
    tree.Holds named := by
  obtain ⟨nonempty, -, short, walked⟩ := (follow_eq_ok_iff _ _ _ _ _).mp followed
  rw [locate_eq, if_neg (Nat.not_lt.mpr short)] at located
  obtain ⟨-, -, -, walkedByName⟩ := (follow_eq_ok_iff _ _ _ _ _).mp located
  rw [stepsOf_trimmed nonempty] at walkedByName
  obtain ⟨other, reached, holdsOther⟩ := walk_name holds _ _ _ _ walked
  rwa [Except.ok.inj (walkedByName.symm.trans reached)]

/-! More nodes. -/

theorem lookup_replaceNode (location other : Location) (node : Node)
    (nodes : List (Location × Node)) :
    (replaceNode location node nodes).lookup other =
      if other = location then some node else nodes.lookup other := by
  induction nodes with
  | nil =>
      by_cases same : other = location
      · simp [replaceNode, same]
      · have different : (other == location) = false := by simpa using same
        simp [replaceNode, List.lookup_cons, different, same]
  | cons entry rest ih =>
      obtain ⟨first, old⟩ := entry
      rw [replaceNode]
      by_cases here : first = location
      · subst here
        by_cases same : other = first
        · simp [same]
        · have different : (other == first) = false := by simpa using same
          simp [List.lookup_cons, different, same]
      · rw [if_neg here]
        by_cases same : other = first
        · subst same
          simp [here]
        · have different : (other == first) = false := by simpa using same
          simp [List.lookup_cons, different, ih]

theorem node?_put (tree : FileTree) {location : Location} (below : location ≠ []) (node : Node)
    (other : Location) :
    (tree.put location node).node? other =
      if other = location then some node else tree.node? other := by
  unfold node? put
  rw [if_neg below, lookup_replaceNode]
  by_cases same : other = location
  · simp [same, below]
  · simp [same]

theorem ne_nil_of_node?_eq_none {tree : FileTree} {location : Location}
    (absent : tree.node? location = none) : location ≠ [] := by
  rintro rfl
  simp [node?] at absent

theorem extends_of_node? {tree later : FileTree} {location : Location} {node : Node}
    (absent : tree.node? location = none) (plain : ∀ target, node ≠ .link target)
    (added : ∀ other,
      later.node? other = if other = location then some node else tree.node? other) :
    tree.Extends later := by
  constructor
  · intro place old found
    have different : place ≠ location := by
      rintro rfl
      rw [absent] at found
      cases found
    rw [added, if_neg different, found]
  · intro place target free
    rw [added]
    split
    · exact fun same => plain target (Option.some.inj same)
    · rw [free]
      exact fun same => nomatch same

/-! Making directories. -/

theorem passable_programMode : allows programMode passBit = true := by
  decide

theorem holdsDirectory_of_makeDirectory {tree next : FileTree} {directory : Location}
    {path : Path} (nonempty : path.octets ≠ [])
    (made : tree.makeDirectory directory path programMode = .ok next) :
    next.holdsDirectory directory path = true := by
  unfold makeDirectory at made
  split at made
  · cases made
  · next location located =>
      split at made
      · cases made
      · next absent =>
          split at made
          · obtain rfl := Except.ok.inj made
            have below := ne_nil_of_node?_eq_none absent
            have added := tree.node?_put below (.directory programMode)
            have grown : tree.Extends (tree.put location (.directory programMode)) :=
              extends_of_node? absent (by simp) added
            have present : (tree.put location (.directory programMode)).node? location =
                some (.directory programMode) := by rw [added, if_pos rfl]
            rw [locate_eq] at located
            split at located
            · cases located
            · next short =>
                obtain ⟨-, noNul, -, walked⟩ := (follow_eq_ok_iff _ _ _ _ _).mp located
                rw [stepsOf_trimmed nonempty] at walked
                have reached := grown.walk_content absent present passable_programMode
                  (stepsOf path).2 linkLimit directory _ walked
                have nul : (0 : UInt8) ∉ path.octets := fun member =>
                  noNul (Path.mem_octets_trimmed (by decide) member)
                have followed := (follow_eq_ok_iff _ _ _ _ _).mpr
                  ⟨nonempty, nul, Nat.not_lt.mp short, reached⟩
                have found := (find_eq_ok_iff _ _ _ _ _).mpr ⟨followed, present⟩
                rw [holdsDirectory, found]
                rfl
          · cases made

theorem holdsDirectory_iff (tree : FileTree) (directory : Location) (path : Path) :
    tree.holdsDirectory directory path = true ↔ ∃ place mode,
      tree.follow .content directory path = .ok place ∧
        tree.node? place = some (.directory mode) := by
  unfold holdsDirectory
  constructor
  · intro holds
    split at holds
    · next place node found =>
        obtain ⟨followed, present⟩ := (find_eq_ok_iff _ _ _ _ _).mp found
        cases node with
        | directory mode => exact ⟨place, mode, followed, present⟩
        | _ => cases holds
    · cases holds
  · rintro ⟨place, mode, followed, present⟩
    rw [(find_eq_ok_iff _ _ _ _ _).mpr ⟨followed, present⟩]
    rfl

theorem Extends.holdsDirectory {tree later : FileTree} (grown : tree.Extends later)
    {directory : Location} {path : Path} (holds : tree.holdsDirectory directory path = true) :
    later.holdsDirectory directory path = true := by
  obtain ⟨place, mode, followed, present⟩ := (holdsDirectory_iff _ _ _).mp holds
  exact (holdsDirectory_iff _ _ _).mpr
    ⟨place, mode, grown.follow (.refl .content) followed, grown.kept _ _ present⟩

theorem ensureDirectory_of_holds {tree : FileTree} {directory : Location} {path : Path}
    (holds : tree.holdsDirectory directory path = true) :
    tree.ensureDirectory directory path = (.ok (), tree) := by
  obtain ⟨place, mode, followed, present⟩ := (holdsDirectory_iff _ _ _).mp holds
  unfold ensureDirectory
  split
  · next next made =>
      unfold makeDirectory at made
      split at made
      · cases made
      · next named located =>
          obtain ⟨node, found⟩ := holds_of_locate followed ⟨_, present⟩ located
          rw [found] at made
          cases made
  · rw [if_pos holds]

theorem holds_of_ensureDirectory {tree next : FileTree} {directory : Location} {path : Path}
    (nonempty : path.octets ≠ [])
    (ensured : tree.ensureDirectory directory path = (.ok (), next)) :
    next.holdsDirectory directory path = true := by
  unfold ensureDirectory at ensured
  split at ensured
  · next made =>
      obtain ⟨-, rfl⟩ := Prod.mk.inj ensured
      exact holdsDirectory_of_makeDirectory nonempty made
  · split at ensured
    · next holds =>
        obtain ⟨-, rfl⟩ := Prod.mk.inj ensured
        exact holds
    · cases (Prod.mk.inj ensured).1

theorem exists_ensureDirectory {tree next : FileTree} {directory : Location} {path : Path}
    (fuel : Nat) (made : tree.makeDirectoriesWithin directory path fuel = (.ok (), next)) :
    ∃ before : FileTree, before.ensureDirectory directory path = (.ok (), next) := by
  cases fuel with
  | zero => exact ⟨tree, made⟩
  | succ fuel =>
      rw [makeDirectoriesWithin] at made
      split at made
      · split at made
        · cases (Prod.mk.inj made).1
        · split at made
          · next before _ => exact ⟨before, made⟩
          · next failed => exact absurd made (failed next)
      · exact ⟨tree, made⟩

theorem makeDirectoriesWithin_of_holds {tree : FileTree} {directory : Location} {path : Path}
    (holds : tree.holdsDirectory directory path = true) (fuel : Nat) :
    tree.makeDirectoriesWithin directory path fuel = (.ok (), tree) := by
  cases fuel with
  | zero => exact ensureDirectory_of_holds holds
  | succ fuel => rw [makeDirectoriesWithin, ensureDirectory_of_holds holds]

/-- Directories that have been made need not be made again, whatever is added in the meantime. -/
theorem makeDirectories_again {tree next later : FileTree} {directory : Location} {path : Path}
    (made : tree.makeDirectories directory path = (.ok (), next)) (grown : next.Extends later) :
    later.makeDirectories directory path = (.ok (), later) := by
  unfold makeDirectories at made ⊢
  by_cases empty : path.octets.isEmpty
  · rw [if_pos empty]
  · rw [if_neg empty] at made ⊢
    obtain ⟨before, ensured⟩ := exists_ensureDirectory _ made
    have nonempty : path.octets ≠ [] := by simpa using empty
    have holds := grown.holdsDirectory (holds_of_ensureDirectory nonempty ensured)
    exact makeDirectoriesWithin_of_holds holds _

/-! All that is there stays as it is when directories are made. -/

theorem extends_refl (tree : FileTree) : tree.Extends tree := by
  constructor
  · exact fun _ _ found => found
  · intro place target absent
    rw [absent]
    exact fun same => nomatch same

theorem Extends.trans {tree next later : FileTree} (grown : tree.Extends next)
    (onward : next.Extends later) : tree.Extends later := by
  constructor
  · exact fun place node found => onward.kept place node (grown.kept place node found)
  · intro place target absent link
    have between := (onward.link_iff place target).mp link
    exact grown.plain place target absent between

theorem extends_makeDirectory {tree next : FileTree} {directory : Location} {path : Path}
    {mode : Nat} (made : tree.makeDirectory directory path mode = .ok next) :
    tree.Extends next := by
  unfold makeDirectory at made
  split at made
  · cases made
  · split at made
    · cases made
    · next absent =>
        split at made
        · obtain rfl := Except.ok.inj made
          have below := ne_nil_of_node?_eq_none absent
          exact extends_of_node? absent (by simp) (tree.node?_put below (.directory mode))
        · cases made

/-- Making directories does no more than to make one directory after another. -/
theorem related_makeDirectories {Related : FileTree → FileTree → Prop}
    (refl : ∀ tree, Related tree tree)
    (trans : ∀ {tree next later}, Related tree next → Related next later → Related tree later)
    (made : ∀ {tree next : FileTree} {directory path mode},
      tree.makeDirectory directory path mode = .ok next → Related tree next)
    (tree : FileTree) (directory : Location) (path : Path) :
    Related tree (tree.makeDirectories directory path).2 := by
  have ensured (tree : FileTree) (path : Path) :
      Related tree (tree.ensureDirectory directory path).2 := by
    unfold ensureDirectory
    split
    · next madeOne => exact made madeOne
    · exact refl tree
  have within (fuel : Nat) : ∀ (tree : FileTree) (path : Path),
      Related tree (tree.makeDirectoriesWithin directory path fuel).2 := by
    induction fuel with
    | zero => exact ensured
    | succ fuel ih =>
        intro tree path
        have first := ensured tree path
        rw [makeDirectoriesWithin]
        split
        · next between missing =>
            rw [missing] at first
            split
            · exact first
            · next parent _ =>
                have above := trans first (ih between parent)
                split
                · next reached madeAbove =>
                    rw [madeAbove] at above
                    exact trans above (ensured reached path)
                · exact above
        · exact first
  unfold makeDirectories
  split
  · exact refl tree
  · exact within _ tree path

theorem extends_makeDirectories (tree : FileTree) (directory : Location) (path : Path) :
    tree.Extends (tree.makeDirectories directory path).2 :=
  related_makeDirectories extends_refl Extends.trans extends_makeDirectory tree directory path

theorem files_makeDirectories (tree : FileTree) (directory : Location) (path : Path) :
    (tree.makeDirectories directory path).2.files = tree.files := by
  refine @related_makeDirectories (fun tree next => next.files = tree.files) (fun _ => rfl)
    (fun before after => after.trans before) ?_ tree directory path
  intro tree next directory path mode made
  unfold makeDirectory at made
  split at made
  · cases made
  · split at made
    · cases made
    · split at made
      · obtain rfl := Except.ok.inj made
        unfold put
        split <;> rfl
      · cases made

theorem Extends.find {tree later : FileTree} (grown : tree.Extends later) {directory : Location}
    {path : Path} {place : Location} {node : Node}
    (found : tree.find directory path = .ok (place, node)) :
    later.find directory path = .ok (place, node) := by
  obtain ⟨followed, present⟩ := (find_eq_ok_iff _ _ _ _ _).mp found
  exact (find_eq_ok_iff _ _ _ _ _).mpr
    ⟨grown.follow (.refl .content) followed, grown.kept _ _ present⟩

end ArtifactTools.FileTree
