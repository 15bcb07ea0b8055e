import ArtifactTools.Host
import ArtifactTools.Proofs.Path

/-! Walks along paths. A walk that succeeds also succeeds, to the same place, where nodes have been
added without a link among them, and walks of different purposes agree where no link is last. -/

namespace ArtifactTools.FileTree

/-- All nodes are kept, and none of those that have been added is a link. -/
structure Extends (tree later : FileTree) : Prop where
  kept : ∀ place node, tree.node? place = some node → later.node? place = some node
  plain : ∀ place target, tree.node? place = none → later.node? place ≠ some (.link target)

namespace Extends

variable {tree later : FileTree} (grown : tree.Extends later)

include grown

theorem link_iff (place : Location) (target : Octets) :
    later.node? place = some (.link target) ↔ tree.node? place = some (.link target) := by
  refine ⟨?_, grown.kept place (.link target)⟩
  intro found
  cases present : tree.node? place with
  | none => exact absurd found (grown.plain place target present)
  | some node => rw [← grown.kept place node present, found]

theorem step {start next : Location} {move : Component} (stepped : tree.step start move = .ok next) :
    later.step start move = .ok next := by
  cases move with
  | root => exact stepped
  | _ =>
      simp only [FileTree.step] at stepped ⊢
      cases present : tree.node? start with
      | none => simp [present] at stepped
      | some node =>
          rw [grown.kept start node present]
          rwa [present] at stepped

end Extends

theorem eq_of_step_current {tree : FileTree} {start next : Location}
    (stepped : tree.step start .current = .ok next) : next = start := by
  simp only [step] at stepped
  split at stepped
  · cases stepped
  · split at stepped
    · cases stepped
    · exact (Except.ok.inj stepped).symm
  · cases stepped

def Purpose.Refuses (purpose : Purpose) (isMarked : Bool) (rest : List Component) : Prop :=
  purpose = .creation ∧ isMarked = true ∧ rest = []

def Purpose.StaysAtLink (purpose : Purpose) (isMarked : Bool) (rest : List Component) : Prop :=
  purpose = .name ∧ isMarked = false ∧ rest = []

theorem walkWith_cons_iff {tree : FileTree} {purpose : Purpose} {isMarked : Bool}
    {goOn : Location → Octets → Bool → List Component → Except HostError Location}
    {start place : Location} {move : Component} {rest : List Component} :
    tree.walkWith purpose goOn start isMarked (move :: rest) = .ok place ↔
      ¬ purpose.Refuses isMarked rest ∧ ∃ next, tree.step start move = .ok next ∧
        ((∃ target, tree.node? next = some (.link target) ∧
          (purpose.StaysAtLink isMarked rest ∧ place = next ∨
            ¬ purpose.StaysAtLink isMarked rest ∧ goOn start target isMarked rest = .ok place)) ∨
        (∀ target, tree.node? next ≠ some (.link target)) ∧
          tree.walkWith purpose goOn next isMarked rest = .ok place) := by
  rw [walkWith]
  by_cases refuses : purpose.Refuses isMarked rest
  · obtain ⟨rfl, rfl, rfl⟩ := refuses
    cases tree.step start .current <;> simp [Purpose.Refuses, Except.bind]
  · have passes : (purpose = .creation && isMarked && rest.isEmpty) = false := by
      simpa [Purpose.Refuses] using refuses
    simp only [passes, Bool.false_eq_true, if_false, refuses, not_false_iff, true_and]
    cases tree.step start move with
    | error error => simp
    | ok next =>
        simp only [Except.ok.injEq, exists_eq_left']
        by_cases link : ∃ target, tree.node? next = some (.link target)
        · obtain ⟨target, link⟩ := link
          by_cases stays : purpose.StaysAtLink isMarked rest
          · have condition : (purpose = .name && !isMarked && rest.isEmpty) = true := by
              simpa [Purpose.StaysAtLink, and_assoc] using stays
            simp [link, stays, condition, eq_comm]
          · have condition : (purpose = .name && !isMarked && rest.isEmpty) = false := by
              simpa [Purpose.StaysAtLink] using stays
            simp [link, stays, condition]
        · have notLink : ∀ target, tree.node? next ≠ some (.link target) := not_exists.mp link
          split
          · next target found => exact absurd found (notLink target)
          · simp [notLink]

theorem not_refuses_content (isMarked : Bool) (rest : List Component) :
    ¬ Purpose.content.Refuses isMarked rest := by
  simp [Purpose.Refuses]

theorem not_staysAtLink_content (isMarked : Bool) (rest : List Component) :
    ¬ Purpose.content.StaysAtLink isMarked rest := by
  simp [Purpose.StaysAtLink]

structure Purpose.Relaxed (purpose other : Purpose) : Prop where
  refuses : ∀ isMarked rest, other.Refuses isMarked rest → purpose.Refuses isMarked rest
  stays : ∀ isMarked rest, other.StaysAtLink isMarked rest ↔ purpose.StaysAtLink isMarked rest

theorem Purpose.Relaxed.refl (purpose : Purpose) : purpose.Relaxed purpose := by
  constructor
  · exact fun _ _ => id
  · exact fun _ _ => Iff.rfl

theorem relaxed_creation_content : Purpose.creation.Relaxed .content := by
  constructor
  · intro isMarked rest refuses
    exact absurd refuses (not_refuses_content isMarked rest)
  · simp [Purpose.StaysAtLink]

section

variable {tree later : FileTree} (grown : tree.Extends later)
  {goOn goLater : Location → Octets → Bool → List Component → Except HostError Location}

include grown

theorem Extends.walkWith {purpose other : Purpose} (relaxed : purpose.Relaxed other)
    {place : Location} (follows : ∀ start target isMarked rest,
      goOn start target isMarked rest = .ok place →
        goLater start target isMarked rest = .ok place) (steps : List Component) :
    ∀ start isMarked, tree.walkWith purpose goOn start isMarked steps = .ok place →
      later.walkWith other goLater start isMarked steps = .ok place := by
  -- On the steps that remain; what happens behind a link is up to `goOn`, and for `walk` that is the
  -- induction on the links.
  induction steps with
  | nil =>
      intro start isMarked walked
      rw [FileTree.walkWith] at walked ⊢
      split
      · next marked =>
          rw [if_pos marked] at walked
          exact grown.step walked
      · next plain => rwa [if_neg plain] at walked
  | cons move rest ih =>
      intro start isMarked walked
      obtain ⟨passes, next, stepped, onward⟩ := walkWith_cons_iff.mp walked
      refine walkWith_cons_iff.mpr
        ⟨fun refuses => passes (relaxed.refuses _ _ refuses), next, grown.step stepped, ?_⟩
      rcases onward with ⟨target, link, ⟨stays, rfl⟩ | ⟨leaves, followed⟩⟩ | ⟨notLink, walkedOn⟩
      · exact Or.inl ⟨target, grown.kept _ _ link, Or.inl ⟨(relaxed.stays _ _).mpr stays, rfl⟩⟩
      · refine Or.inl ⟨target, grown.kept _ _ link, Or.inr ⟨?_, follows _ _ _ _ followed⟩⟩
        exact fun stays => leaves ((relaxed.stays _ _).mp stays)
      · refine Or.inr ⟨?_, ih next isMarked walkedOn⟩
        exact fun target link => notLink target ((grown.link_iff next target).mp link)

theorem Extends.walk {purpose other : Purpose} (relaxed : purpose.Relaxed other)
    {place : Location} (links : Nat) : ∀ start isMarked steps,
    tree.walk purpose links start isMarked steps = .ok place →
      later.walk other links start isMarked steps = .ok place := by
  induction links with
  | zero =>
      intro start isMarked steps walked
      refine grown.walkWith relaxed ?_ steps start isMarked walked
      exact fun _ _ _ _ followed => followed
  | succ links ih =>
      intro start isMarked steps walked
      refine grown.walkWith relaxed ?_ steps start isMarked walked
      exact fun start target isMarked rest followed => ih start _ _ followed

theorem Extends.walkWith_content {place : Location} {mode : Nat}
    (absent : tree.node? place = none) (present : later.node? place = some (.directory mode))
    (passable : allows mode passBit = true) {isMarked : Bool}
    (follows : ∀ start target rest, rest ≠ [] → goOn start target false rest = .ok place →
      goLater start target isMarked rest = .ok place) (steps : List Component) :
    ∀ start, tree.walkWith .name goOn start false steps = .ok place →
      later.walkWith .content goLater start isMarked steps = .ok place := by
  induction steps with
  | nil =>
      intro start walked
      obtain rfl : start = place := Except.ok.inj walked
      cases isMarked with
      | false => rfl
      | true => simp [FileTree.walkWith, FileTree.step, present, passable]
  | cons move rest ih =>
      intro start walked
      obtain ⟨-, next, stepped, onward⟩ := walkWith_cons_iff.mp walked
      refine walkWith_cons_iff.mpr ⟨not_refuses_content _ _, next, grown.step stepped, ?_⟩
      rcases onward with ⟨target, link, ⟨-, rfl⟩ | ⟨leaves, followed⟩⟩ | ⟨notLink, walkedOn⟩
      -- The name cannot end at a link, as there is nothing yet.
      · rw [absent] at link
        cases link
      · have more : rest ≠ [] := fun last => leaves ⟨rfl, rfl, last⟩
        exact Or.inl ⟨target, grown.kept _ _ link,
          Or.inr ⟨not_staysAtLink_content _ _, follows _ _ _ more followed⟩⟩
      · refine Or.inr ⟨?_, ih next walkedOn⟩
        exact fun target link => notLink target ((grown.link_iff next target).mp link)

theorem Extends.walk_content {place : Location} {mode : Nat} (absent : tree.node? place = none)
    (present : later.node? place = some (.directory mode)) (passable : allows mode passBit = true)
    (isMarked : Bool) (links : Nat) : ∀ start steps,
    tree.walk .name links start false steps = .ok place →
      later.walk .content links start isMarked steps = .ok place := by
  induction links with
  | zero =>
      intro start steps walked
      refine grown.walkWith_content absent present passable ?_ steps start walked
      intro start target rest _ followed
      cases followed
  | succ links ih =>
      intro start steps walked
      refine grown.walkWith_content absent present passable ?_ steps start walked
      intro start target rest more followed
      have notLast : rest.isEmpty = false := by simpa using more
      simp only [notLast, Bool.and_false, Bool.or_false] at followed ⊢
      exact ih start _ followed

end

section

variable {tree : FileTree}
  {goOn goByName : Location → Octets → Bool → List Component → Except HostError Location}

def Holds (tree : FileTree) (place : Location) : Prop := ∃ node, tree.node? place = some node

theorem walkWith_name {place : Location} (holds : tree.Holds place) {isMarked : Bool}
    (follows : ∀ start target rest, rest ≠ [] → goOn start target isMarked rest = .ok place →
      ∃ named, goByName start target false rest = .ok named ∧ tree.Holds named)
    (steps : List Component) :
    ∀ start, tree.walkWith .content goOn start isMarked steps = .ok place →
      ∃ named, tree.walkWith .name goByName start false steps = .ok named ∧ tree.Holds named := by
  induction steps with
  | nil =>
      intro start walked
      refine ⟨start, rfl, ?_⟩
      rw [walkWith] at walked
      split at walked
      · rwa [← eq_of_step_current walked]
      · rwa [Except.ok.inj walked]
  | cons move rest ih =>
      intro start walked
      obtain ⟨-, next, stepped, onward⟩ := walkWith_cons_iff.mp walked
      have passes : ¬ Purpose.name.Refuses false rest := by simp [Purpose.Refuses]
      rcases onward with ⟨target, link, ⟨stays, -⟩ | ⟨-, followed⟩⟩ | ⟨notLink, walkedOn⟩
      · exact absurd stays (not_staysAtLink_content _ _)
      · by_cases last : rest = []
        · refine ⟨next, ?_, .link target, link⟩
          exact walkWith_cons_iff.mpr ⟨passes, next, stepped,
            Or.inl ⟨target, link, Or.inl ⟨⟨rfl, rfl, last⟩, rfl⟩⟩⟩
        · obtain ⟨named, walkedByName, holdsNamed⟩ := follows start target rest last followed
          refine ⟨named, ?_, holdsNamed⟩
          exact walkWith_cons_iff.mpr ⟨passes, next, stepped,
            Or.inl ⟨target, link, Or.inr ⟨fun stays => last stays.2.2, walkedByName⟩⟩⟩
      · obtain ⟨named, walkedByName, holdsNamed⟩ := ih next walkedOn
        refine ⟨named, ?_, holdsNamed⟩
        exact walkWith_cons_iff.mpr ⟨passes, next, stepped, Or.inr ⟨notLink, walkedByName⟩⟩

theorem walk_name {place : Location} (holds : tree.Holds place) (isMarked : Bool) (links : Nat) :
    ∀ start steps, tree.walk .content links start isMarked steps = .ok place →
      ∃ named, tree.walk .name links start false steps = .ok named ∧ tree.Holds named := by
  induction links with
  | zero =>
      intro start steps walked
      refine walkWith_name holds ?_ steps start walked
      intro start target rest _ followed
      cases followed
  | succ links ih =>
      intro start steps walked
      refine walkWith_name holds ?_ steps start walked
      intro start target rest more followed
      have notLast : rest.isEmpty = false := by simpa using more
      simp only [notLast, Bool.and_false, Bool.or_false] at followed ⊢
      exact ih start _ followed

end

end ArtifactTools.FileTree
