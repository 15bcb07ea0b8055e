import ArtifactTools.Proofs.Host.Directories

/-! Where steps lead. Unlike a walk, which gives up after so many links and undergoes the checks of a
system call, this is a matter of the tree alone: steps lead from directory to directory, and through
links. The permissions that the directories have to have are a parameter. -/

namespace ArtifactTools.FileTree

def destination (start : Location) : Component → Location
  | .root => []
  | .current => start
  | .parent => start.dropLast
  | .named name => start ++ [name]

def Lets (tree : FileTree) (fits : Nat → Prop) (start : Location) (move : Component) : Prop :=
  move = .root ∨ ∃ mode, tree.node? start = some (.directory mode) ∧ fits mode

/-- A link lies in the directory that its text is taken from. -/
inductive Leads (tree : FileTree) (fits : Nat → Prop) : Location → List Component → Location → Prop
  | done {place} : Leads tree fits place [] place
  | step {start place move rest} : tree.Lets fits start move →
      (∀ target, tree.node? (destination start move) ≠ some (.link target)) →
      Leads tree fits (destination start move) rest place →
      Leads tree fits start (move :: rest) place
  | link {start place move rest target} : tree.Lets fits start move →
      tree.node? (destination start move) = some (.link target) →
      Leads tree fits start ((stepsOf ⟨target⟩).1 ++ rest) place →
      Leads tree fits start (move :: rest) place

def HasDirectories (tree : FileTree) (fits : Nat → Prop) (names : Location) : Prop :=
  ∀ above, above <+: names → ∃ mode, tree.node? above = some (.directory mode) ∧ fits mode

theorem HasDirectories.of_prefix {tree : FileTree} {fits : Nat → Prop} {names inner : Location}
    (directories : tree.HasDirectories fits names) (within : inner <+: names) :
    tree.HasDirectories fits inner :=
  fun above before => directories above (before.trans within)

abbrev anyMode : Nat → Prop := fun _ => True

abbrev isPassable (mode : Nat) : Prop := allows mode passBit = true

section

variable {tree : FileTree} {fits : Nat → Prop} {start place other : Location}
  {steps rest : List Component}

theorem Leads.anyMode (leads : tree.Leads fits start steps place) :
    tree.Leads anyMode start steps place := by
  have lets {start : Location} {move : Component} (allowed : tree.Lets fits start move) :
      tree.Lets FileTree.anyMode start move :=
    allowed.imp id fun ⟨mode, present, _⟩ => ⟨mode, present, trivial⟩
  induction leads with
  | done => exact .done
  | step allowed notLink _ ih => exact .step (lets allowed) notLink ih
  | link allowed link _ ih => exact .link (lets allowed) link ih

theorem Leads.append (leads : tree.Leads fits start steps other)
    (onward : tree.Leads fits other rest place) : tree.Leads fits start (steps ++ rest) place := by
  induction leads with
  | done => exact onward
  | step allowed notLink _ ih => exact .step allowed notLink (ih onward)
  | link allowed link _ ih =>
      have further := ih onward
      rw [List.append_assoc] at further
      exact .link allowed link further

theorem Leads.split (leads : tree.Leads fits start (steps ++ rest) place) :
    ∃ between, tree.Leads fits start steps between ∧ tree.Leads fits between rest place := by
  generalize whole : steps ++ rest = all at leads
  induction leads generalizing steps with
  | done =>
      obtain ⟨rfl, rfl⟩ := List.append_eq_nil_iff.mp whole
      exact ⟨_, .done, .done⟩
  | step allowed notLink onward ih =>
      cases steps with
      | nil =>
          obtain rfl : rest = _ := whole
          exact ⟨_, .done, .step allowed notLink onward⟩
      | cons move steps =>
          obtain ⟨rfl, rfl⟩ := List.cons.inj whole
          obtain ⟨between, first, second⟩ := ih rfl
          exact ⟨between, .step allowed notLink first, second⟩
  | link allowed link onward ih =>
      cases steps with
      | nil =>
          obtain rfl : rest = _ := whole
          exact ⟨_, .done, .link allowed link onward⟩
      | cons move steps =>
          obtain ⟨rfl, rfl⟩ := List.cons.inj whole
          obtain ⟨between, first, second⟩ := ih (List.append_assoc _ _ _)
          exact ⟨between, .link allowed link first, second⟩

theorem Leads.unique (leads : tree.Leads fits start steps place)
    (also : tree.Leads fits start steps other) : place = other := by
  induction leads with
  | done =>
      cases also
      rfl
  | step _ notLink _ ih =>
      cases also with
      | step _ _ onward => exact ih onward
      | link _ link _ => exact absurd link (notLink _)
  | link _ link _ ih =>
      cases also with
      | step _ notLink _ => exact absurd link (notLink _)
      | link _ same onward =>
          obtain rfl := Node.link.inj (Option.some.inj (link.symm.trans same))
          exact ih onward

theorem Leads.extends {later : FileTree} (grown : tree.Extends later)
    (leads : tree.Leads fits start steps place) : later.Leads fits start steps place := by
  have lets {start : Location} {move : Component} (allowed : tree.Lets fits start move) :
      later.Lets fits start move :=
    allowed.imp id fun ⟨mode, present, fit⟩ => ⟨mode, grown.kept _ _ present, fit⟩
  induction leads with
  | done => exact .done
  | step allowed notLink _ ih =>
      refine .step (lets allowed) ?_ ih
      exact fun target link => notLink target ((grown.link_iff _ target).mp link)
  | link allowed link _ ih => exact .link (lets allowed) (grown.kept _ _ link) ih

theorem leads_names {names : List Octets} (doubled : ∀ name ∈ names, name ≠ [Path.dot, Path.dot])
    (directories : tree.HasDirectories fits names) :
    tree.Leads fits start (.root :: names.map Path.componentOf) names := by
  induction names using List.reverseRecOn with
  | nil => exact .step (.inl rfl) (by simp [destination, node?]) .done
  | append_singleton names name ih =>
      have before := ih (fun other member => doubled other (by simp [member]))
        (directories.of_prefix (List.prefix_append names [name]))
      have single : Path.componentOf name = .named name := if_neg (doubled name (by simp))
      obtain ⟨mode, present, -⟩ := directories _ (List.prefix_refl (names ++ [name]))
      rw [List.map_append, List.map_singleton, single, ← List.cons_append]
      have directory := directories names (List.prefix_append names [name])
      refine before.append (.step (.inr directory) ?_ .done)
      intro target link
      rw [destination, present] at link
      cases link

end

/-! Walks go where the steps lead. -/

section

variable {tree : FileTree} {start place : Location}

theorem lets_of_step {next : Location} {move : Component}
    (stepped : tree.step start move = .ok next) :
    next = destination start move ∧ tree.Lets isPassable start move := by
  cases move with
  | root => exact ⟨(Except.ok.inj stepped).symm, .inl rfl⟩
  | _ => grind [FileTree.step, destination, Lets]

theorem leads_of_walkWith
    {goOn : Location → Octets → Bool → List Component → Except HostError Location}
    (follows : ∀ start target isMarked rest, goOn start target isMarked rest = .ok place →
      tree.Leads isPassable start ((stepsOf ⟨target⟩).1 ++ rest) place) (steps : List Component) :
    ∀ start isMarked, tree.walkWith .content goOn start isMarked steps = .ok place →
      tree.Leads isPassable start steps place := by
  induction steps with
  | nil =>
      intro start isMarked walked
      rw [walkWith] at walked
      split at walked
      · rw [eq_of_step_current walked]
        exact .done
      · rw [Except.ok.inj walked]
        exact .done
  | cons move rest ih =>
      intro start isMarked walked
      obtain ⟨-, next, stepped, onward⟩ := walkWith_cons_iff.mp walked
      obtain ⟨rfl, allowed⟩ := lets_of_step stepped
      rcases onward with ⟨target, link, ⟨stays, -⟩ | ⟨-, followed⟩⟩ | ⟨notLink, walkedOn⟩
      · exact absurd stays (not_staysAtLink_content _ _)
      · exact .link allowed link (follows _ _ _ _ followed)
      · exact .step allowed notLink (ih _ isMarked walkedOn)

theorem leads_of_walk (links : Nat) : ∀ start isMarked steps,
    tree.walk .content links start isMarked steps = .ok place →
      tree.Leads isPassable start steps place := by
  induction links with
  | zero =>
      intro start isMarked steps walked
      refine leads_of_walkWith ?_ steps start isMarked walked
      intro start target isMarked rest followed
      cases followed
  | succ links ih =>
      intro start isMarked steps walked
      exact leads_of_walkWith (fun _ _ _ _ followed => ih _ _ _ followed) steps start isMarked walked

theorem walkWith_names
    (goOn : Location → Octets → Bool → List Component → Except HostError Location)
    {names : List Octets} (doubled : ∀ name ∈ names, name ≠ [Path.dot, Path.dot])
    (short : ∀ name ∈ names, name.length ≤ nameLimit)
    (directories : tree.HasDirectories isPassable names) (isMarked : Bool) :
    ∀ rest, tree.walkWith .content goOn start isMarked
        (.root :: names.map Path.componentOf ++ rest) =
      tree.walkWith .content goOn names isMarked rest := by
  induction names using List.reverseRecOn with
  | nil =>
      intro rest
      simp [walkWith, FileTree.step, node?]
  | append_singleton names name ih =>
      intro rest
      have single : Path.componentOf name = .named name := if_neg (doubled name (by simp))
      have fits : ¬ nameLimit < name.length := Nat.not_lt.mpr (short name (by simp))
      obtain ⟨mode, present, passable⟩ := directories names (List.prefix_append names [name])
      obtain ⟨below, there, -⟩ := directories _ (List.prefix_refl (names ++ [name]))
      have before := ih (fun other member => doubled other (by simp [member]))
        (fun other member => short other (by simp [member]))
        (directories.of_prefix (List.prefix_append names [name]))
        (.named name :: rest)
      rw [List.map_append, List.map_singleton, single, List.cons_append, List.append_assoc,
        List.singleton_append, ← List.cons_append, before]
      simp [walkWith, FileTree.step, present, passable, fits, there]

theorem walk_names {names : List Octets} (doubled : ∀ name ∈ names, name ≠ [Path.dot, Path.dot])
    (short : ∀ name ∈ names, name.length ≤ nameLimit)
    (directories : tree.HasDirectories isPassable names) (isMarked : Bool) (links : Nat)
    (rest : List Component) :
    tree.walk .content links start isMarked (.root :: names.map Path.componentOf ++ rest) =
      tree.walk .content links names isMarked rest := by
  cases links with
  | zero => exact walkWith_names _ doubled short directories isMarked rest
  | succ links => exact walkWith_names _ doubled short directories isMarked rest

end

/-! What stands in the way of a directory. -/

/-- Somewhere along the steps there is something that is no directory, a directory that cannot be
passed, or one that lacks the next name and cannot get it. -/
inductive IsBlocked (tree : FileTree) (start : Location) : List Component → Prop
  | occupied {place node first} {names : List Octets} : tree.Leads anyMode start first place →
      tree.node? place = some node → isDirectory node = false →
      IsBlocked tree start (first ++ names.map Path.componentOf)
  | impassable {place mode first name} {names : List Octets} :
      tree.Leads anyMode start first place → tree.node? place = some (.directory mode) →
      ¬ isPassable mode → IsBlocked tree start (first ++ (name :: names).map Path.componentOf)
  | unwritable {place mode first name} {names : List Octets} :
      tree.Leads anyMode start first place → tree.node? place = some (.directory mode) →
      allows mode writeBit = false → tree.node? (place ++ [name]) = none →
      IsBlocked tree start (first ++ .named name :: names.map Path.componentOf)

theorem absent_makeDirectories {tree : FileTree} {place : Location} {mode : Nat}
    (present : tree.node? place.dropLast = some (.directory mode))
    (unwritable : allows mode writeBit = false) (absent : tree.node? place = none)
    (directory : Location) (path : Path) :
    (tree.makeDirectories directory path).2.node? place = none := by
  let Related (tree next : FileTree) := tree.Extends next ∧
    (tree.node? place.dropLast = some (.directory mode) → tree.node? place = none →
      next.node? place = none)
  have related : Related tree (tree.makeDirectories directory path).2 := by
    refine related_makeDirectories (fun tree => ⟨tree.extends_refl, fun _ absent => absent⟩) ?_ ?_
      tree directory path
    · intro tree next later before after
      refine ⟨before.1.trans after.1, fun present absent => ?_⟩
      exact after.2 (before.1.kept _ _ present) (before.2 present absent)
    · intro tree next directory path made madeOne
      refine ⟨extends_makeDirectory madeOne, fun present absent => ?_⟩
      unfold makeDirectory at madeOne
      split at madeOne
      · cases madeOne
      · split at madeOne
        · cases madeOne
        · next location _ free =>
            split at madeOne
            · next may =>
                obtain rfl := Except.ok.inj madeOne
                rw [tree.node?_put (ne_nil_of_node?_eq_none free), if_neg]
                · exact absent
                · rintro rfl
                  simp [mayChange, present, unwritable] at may
            · cases madeOne
  exact related.2 present absent

section

variable {tree later : FileTree} {directory start place : Location} {path : Path} {mode : Nat}

theorem Leads.of_current {fits : Nat → Prop} (leads : tree.Leads fits start [.current] place) :
    place = start := by
  cases leads with
  | step _ _ onward =>
      cases onward
      rfl
  | link allowed link _ =>
      obtain other | ⟨mode, present, -⟩ := allowed
      · cases other
      · cases present.symm.trans link

theorem leads_of_holdsDirectory (holds : tree.holdsDirectory directory path = true) :
    ∃ place mode, tree.Leads isPassable directory path.components place ∧
      tree.node? place = some (.directory mode) := by
  obtain ⟨place, mode, followed, present⟩ := (holdsDirectory_iff _ _ _).mp holds
  obtain ⟨-, -, -, walked⟩ := (follow_eq_ok_iff _ _ _ _ _).mp followed
  obtain ⟨between, leads, onward⟩ := (leads_of_walk _ _ _ _ walked).split
  refine ⟨place, mode, ?_, present⟩
  split at onward
  · rwa [onward.of_current]
  · cases onward
    exact leads

theorem Leads.exists_directory {fits : Nat → Prop} {name : Octets} {rest : List Component}
    (leads : tree.Leads fits start (Path.componentOf name :: rest) place) :
    ∃ mode, tree.node? start = some (.directory mode) ∧ fits mode := by
  have named : Path.componentOf name ≠ .root := by
    unfold Path.componentOf
    split <;> simp
  cases leads with
  | step allowed _ _ => exact allowed.resolve_left named
  | link allowed _ _ => exact allowed.resolve_left named

theorem Leads.exists_directory_of_names {fits : Nat → Prop} {names : List Octets}
    (leads : tree.Leads fits start (names.map Path.componentOf) place)
    (present : tree.node? place = some (.directory mode)) :
    ∃ mode, tree.node? start = some (.directory mode) := by
  cases names with
  | nil =>
      cases leads
      exact ⟨mode, present⟩
  | cons name names =>
      obtain ⟨mode, here, -⟩ := leads.exists_directory
      exact ⟨mode, here⟩

/-- Steps to a directory that is there in the end were not blocked. -/
theorem IsBlocked.false_of_leads {steps : List Component} (blocked : tree.IsBlocked start steps)
    (grown : tree.Extends later)
    (closed : ∀ place mode, tree.node? place.dropLast = some (.directory mode) →
      allows mode writeBit = false → tree.node? place = none → later.node? place = none)
    (leads : later.Leads isPassable start steps place)
    (present : later.node? place = some (.directory mode)) : False := by
  -- The steps still lead to what is in the way, and on from there.
  have passes {first : List Component} {rest : List Component} {other : Location}
      (obstacle : tree.Leads FileTree.anyMode start first other)
      (leads : later.Leads isPassable start (first ++ rest) place) :
      later.Leads isPassable other rest place := by
    obtain ⟨between, toObstacle, onward⟩ := leads.split
    rwa [← toObstacle.anyMode.unique (obstacle.extends grown)]
  cases blocked with
  | occupied obstacle node notDirectory =>
      obtain ⟨mode, here⟩ := (passes obstacle leads).exists_directory_of_names present
      obtain rfl := Option.some.inj ((grown.kept _ _ node).symm.trans here)
      cases notDirectory
  | impassable obstacle directory impassable =>
      obtain ⟨mode, here, passable⟩ := (passes obstacle leads).exists_directory
      have same := (grown.kept _ _ directory).symm.trans here
      obtain rfl := Node.directory.inj (Option.some.inj same)
      exact impassable passable
  | @unwritable other _ _ name names obstacle directory unwritable absent =>
      have missing := closed (other ++ [name]) _ (by rwa [List.dropLast_concat]) unwritable absent
      cases passes obstacle leads with
      | step _ _ onward =>
          obtain ⟨mode, here⟩ := onward.exists_directory_of_names present
          exact nomatch missing.symm.trans here
      | link _ link _ => exact nomatch missing.symm.trans link

/-- A directory that is blocked cannot be made. -/
theorem error_of_isBlocked (home : ∃ mode, tree.node? directory = some (.directory mode))
    (blocked : tree.IsBlocked directory path.components) :
    ∃ cause, (tree.makeDirectories directory path).1 = .error cause := by
  rcases made : tree.makeDirectories directory path with ⟨cause | _, next⟩
  · exact ⟨cause, rfl⟩
  · exfalso
    have grown := tree.extends_makeDirectories directory path
    have closed : ∀ place mode, tree.node? place.dropLast = some (.directory mode) →
        allows mode writeBit = false → tree.node? place = none → next.node? place = none := by
      intro place mode present unwritable absent
      have still := absent_makeDirectories present unwritable absent directory path
      rwa [made] at still
    rw [made] at grown
    unfold makeDirectories at made
    by_cases empty : path.octets.isEmpty = true
    · rw [if_pos empty] at made
      obtain ⟨-, rfl⟩ := Prod.mk.inj made
      obtain ⟨mode, present⟩ := home
      have nothing : path = Path.empty := congrArg Path.mk (by simpa using empty)
      rw [nothing] at blocked
      exact blocked.false_of_leads grown closed .done present
    · rw [if_neg empty] at made
      obtain ⟨before, ensured⟩ := exists_ensureDirectory _ made
      obtain ⟨place, mode, leads, present⟩ :=
        leads_of_holdsDirectory (holds_of_ensureDirectory (by simpa using empty) ensured)
      exact blocked.false_of_leads grown closed leads present

end

end ArtifactTools.FileTree
