import ArtifactTools.Proofs.Registry.Serials
import ArtifactTools.Registry.Builder

/-! The registries that a process creates, and what it asks them in any order. Whatever it does,
registries stay where they are and only grow, no number is used twice, and every reference that was
ever handed out still points to the place of its transformer. -/

namespace ArtifactTools

/-- A reference that was handed out, by which registry in the order of their creation, and whether
for a registration. -/
structure Issue where
  place : Nat
  ref : Ref
  fresh : Bool

structure Registries where
  members : List Registry
  numbering : Numbering
  issued : List Issue

inductive Event where
  | create
  | ask (place : Nat) (request : Registry.Request)

namespace Registries

def vacant : Registries := ⟨[], .first, []⟩

def create (registries : Registries) : Registries :=
  { registries with
    members := registries.members ++ [.empty registries.numbering.registry]
    numbering := { registries.numbering with registry := registries.numbering.registry + 1 } }

def ask (registries : Registries) (place : Nat) (request : Registry.Request) : Registries :=
  match registries.members[place]? with
  | none => registries
  | some registry =>
      let serial := registries.numbering.serial
      let numbered := request.numbered serial
      let (refs, next) := registry.serve numbered
      { members := registries.members.set place next
        numbering := { registries.numbering with serial := serial + request.attempts }
        issued := registries.issued ++
          refs.map fun ref => ⟨place, ref, registry.admits numbered⟩ }

def step (registries : Registries) : Event → Registries
  | .create => registries.create
  | .ask place request => registries.ask place request

def run (registries : Registries) (events : List Event) : Registries :=
  events.foldl step registries

def Has (registries : Registries) (place : Nat) (registry : Registry) : Prop :=
  registries.members[place]? = some registry

theorem has_create_iff (registries : Registries) (place : Nat) (registry : Registry) :
    registries.create.Has place registry ↔ registries.Has place registry ∨
      (place = registries.members.length ∧ registry = .empty registries.numbering.registry) := by
  simp only [Has, create, List.getElem?_append]
  by_cases within : place < registries.members.length
  · have different : place ≠ registries.members.length := by omega
    simp [within, different]
  · have outside : registries.members[place]? = none := by simpa using within
    rw [outside, List.getElem?_singleton]
    simp only [within, if_false]
    split
    · next last => simp [show place = registries.members.length by omega, eq_comm]
    · next beyond => simp; omega

section

variable {registries : Registries} {place : Nat} {registry : Registry}

theorem Has.lt_length (has : registries.Has place registry) : place < registries.members.length :=
  (List.getElem?_eq_some_iff.mp has).1

theorem Has.unique {other : Registry} (has : registries.Has place registry)
    (too : registries.Has place other) : registry = other :=
  Option.some.inj (has.symm.trans too)

theorem ask_of_has (has : registries.Has place registry) (request : Registry.Request) :
    let numbered := request.numbered registries.numbering.serial
    registries.ask place request =
      { members := registries.members.set place (registry.serve numbered).2
        numbering := { registries.numbering with
          serial := registries.numbering.serial + request.attempts }
        issued := registries.issued ++
          (registry.serve numbered).1.map fun ref => ⟨place, ref, registry.admits numbered⟩ } := by
  have member : registries.members[place]? = some registry := has
  simp only [ask, member]

theorem ask_of_not_has (missing : ∀ registry, ¬ registries.Has place registry)
    (request : Registry.Request) : registries.ask place request = registries := by
  have outside : registries.members[place]? = none := by
    rw [Option.eq_none_iff_forall_ne_some]
    exact missing
  simp only [ask, outside]

theorem has_ask_iff (has : registries.Has place registry) (request : Registry.Request)
    (position : Nat) (other : Registry) : (registries.ask place request).Has position other ↔
      (position = place ∧
        other = (registry.serve (request.numbered registries.numbering.serial)).2) ∨
      (position ≠ place ∧ registries.Has position other) := by
  have bound := has.lt_length
  rw [ask_of_has has]
  simp only [Has, List.getElem?_set]
  by_cases same : position = place
  · simp [same, bound, eq_comm]
  · simp [same, Ne.symm same]

end

theorem exists_has_step {registries : Registries} {place : Nat} {registry : Registry}
    (has : registries.Has place registry) (event : Event) :
    ∃ later, (registries.step event).Has place later ∧ later.number = registry.number ∧
      registry.serials <+: later.serials := by
  cases event with
  | create => exact ⟨registry, (has_create_iff _ _ _).mpr (Or.inl has), rfl, List.prefix_refl _⟩
  | ask asked request =>
      by_cases known : ∃ member, registries.Has asked member
      · obtain ⟨member, there⟩ := known
        by_cases same : place = asked
        · subst same
          obtain rfl := has.unique there
          refine ⟨_, (has_ask_iff there request _ _).mpr (Or.inl ⟨rfl, rfl⟩),
            Registry.number_serve _ _, ?_⟩
          rw [Registry.serials_serve]
          exact List.prefix_append _ _
        · exact ⟨registry, (has_ask_iff there request _ _).mpr (Or.inr ⟨same, has⟩), rfl,
            List.prefix_refl _⟩
      · rw [step, ask_of_not_has (not_exists.mp known)]
        exact ⟨registry, has, rfl, List.prefix_refl _⟩

/-- A registry stays at its place, and only comes by more entries. -/
theorem exists_has_run (events : List Event) : ∀ {registries : Registries} {place : Nat}
    {registry : Registry}, registries.Has place registry →
      ∃ later, (registries.run events).Has place later ∧ later.number = registry.number ∧
        registry.serials <+: later.serials := by
  induction events with
  | nil => intro registries place registry has; exact ⟨registry, has, rfl, List.prefix_refl _⟩
  | cons event rest ih =>
      intro registries place registry has
      obtain ⟨next, stays, number, longer⟩ := exists_has_step has event
      obtain ⟨later, there, sameNumber, evenLonger⟩ := ih stays
      exact ⟨later, there, sameNumber.trans number, longer.trans evenLonger⟩

/-- Registries are numbered in the order of their creation and entries in the order of their
registration, no number is used twice, and what was handed out points to its place. -/
structure Consistent (registries : Registries) : Prop where
  next : registries.numbering.registry = UInt32.ofNat registries.members.length
  numbers : ∀ place registry, registries.Has place registry →
    registry.number = UInt32.ofNat place
  used : ∀ place registry, registries.Has place registry → ∀ serial ∈ registry.serials,
    serial < registries.numbering.serial
  increasing : ∀ place registry, registries.Has place registry →
    registry.serials.Pairwise (· < ·)
  apart : ∀ place registry, registries.Has place registry →
    ∀ position other, registries.Has position other →
      ∀ serial ∈ registry.serials, serial ∈ other.serials → place = position
  points : ∀ issue ∈ registries.issued, ∃ registry index,
    registries.Has issue.place registry ∧ registry.Points index issue.ref
  admitted : ∀ place registry, registries.Has place registry → ∀ serial ∈ registry.serials,
    ∃ issue ∈ registries.issued, issue.fresh = true ∧ issue.place = place ∧
      issue.ref.transformer.serial = serial
  ordered : (registries.issued.filter (·.fresh)).Pairwise fun first second =>
    first.ref.transformer.serial < second.ref.transformer.serial

theorem consistent_vacant : vacant.Consistent := by
  constructor <;> simp [vacant, Has, Numbering.first]

theorem Consistent.create {registries : Registries} (consistent : registries.Consistent) :
    registries.create.Consistent := by
  have old : ∀ place registry, registries.create.Has place registry →
      ∀ serial ∈ registry.serials, registries.Has place registry := by
    intro place registry has serial member
    rcases (has_create_iff registries place registry).mp has with before | ⟨-, rfl⟩
    · exact before
    · simp [Registry.serials, Registry.empty] at member
  constructor
  · simp [Registries.create, consistent.next]
  · intro place registry has
    rcases (has_create_iff registries place registry).mp has with before | ⟨rfl, rfl⟩
    · exact consistent.numbers place registry before
    · exact consistent.next
  · intro place registry has serial member
    exact consistent.used place registry (old place registry has serial member) serial member
  · intro place registry has
    rcases (has_create_iff registries place registry).mp has with before | ⟨-, rfl⟩
    · exact consistent.increasing place registry before
    · exact List.Pairwise.nil
  · intro place registry has position other too serial member common
    exact consistent.apart place registry (old place registry has serial member) position other
      (old position other too serial common) serial member common
  · intro issue issued
    obtain ⟨registry, index, has, points⟩ := consistent.points issue issued
    exact ⟨registry, index, (has_create_iff _ _ _).mpr (Or.inl has), points⟩
  · intro place registry has serial member
    exact consistent.admitted place registry (old place registry has serial member) serial member
  · exact consistent.ordered

section

variable {registries : Registries} {place : Nat} {registry : Registry}
  (has : registries.Has place registry) (request : Registry.Request)

include has

theorem mem_serials_ask {position : Nat} {other : Registry}
    (later : (registries.ask place request).Has position other) {serial : Nat}
    (member : serial ∈ other.serials) :
    (∃ old, registries.Has position old ∧ serial ∈ old.serials) ∨
      (position = place ∧ serial = registries.numbering.serial ∧
        registry.admits (request.numbered registries.numbering.serial) = true) := by
  rcases (has_ask_iff has request position other).mp later with ⟨rfl, rfl⟩ | ⟨-, before⟩
  · rw [Registry.serials_serve, List.mem_append] at member
    rcases member with old | new
    · exact Or.inl ⟨registry, has, old⟩
    · split at new
      · next admitted => exact Or.inr ⟨rfl, List.mem_singleton.mp new, admitted⟩
      · simp at new
  · exact Or.inl ⟨other, before, member⟩

theorem mem_issued_ask_iff (issue : Issue) : issue ∈ (registries.ask place request).issued ↔
    issue ∈ registries.issued ∨
      ∃ ref ∈ (registry.serve (request.numbered registries.numbering.serial)).1,
        issue = ⟨place, ref, registry.admits (request.numbered registries.numbering.serial)⟩ := by
  rw [ask_of_has has]
  simp [eq_comm]

end

theorem Consistent.issued_lt {registries : Registries} (consistent : registries.Consistent)
    {issue : Issue} (issued : issue ∈ registries.issued) :
    issue.ref.transformer.serial < registries.numbering.serial := by
  obtain ⟨registry, index, has, points⟩ := consistent.points issue issued
  exact consistent.used issue.place registry has _ points.mem_serials

theorem fresh_issues (registry : Registry) (place serial : Nat) (request : Registry.Request) :
    let numbered := request.numbered serial
    let fresh := ((registry.serve numbered).1.map fun ref =>
      (⟨place, ref, registry.admits numbered⟩ : Issue)).filter (·.fresh)
    fresh = [] ∨ ∃ ref, ref.transformer.serial = serial ∧ fresh = [⟨place, ref, true⟩] := by
  by_cases admitted : registry.admits (request.numbered serial) = true
  · obtain ⟨ref, handed, number⟩ := Registry.serve_of_admits admitted
    exact Or.inr ⟨ref, number, by simp [handed, admitted]⟩
  · exact Or.inl (by simp [admitted])

section

variable {registries : Registries} (consistent : registries.Consistent) {place : Nat}
  {registry : Registry} (has : registries.Has place registry) (request : Registry.Request)
  {position : Nat} {other : Registry}
  (later : (registries.ask place request).Has position other)

include consistent has

theorem Consistent.points_ask {issue : Issue}
    (issued : issue ∈ (registries.ask place request).issued) : ∃ registry index,
      (registries.ask place request).Has issue.place registry ∧
        registry.Points index issue.ref := by
  rcases (mem_issued_ask_iff has request issue).mp issued with before | ⟨ref, handed, rfl⟩
  · obtain ⟨old, index, there, points⟩ := consistent.points issue before
    obtain ⟨later, stays, number, longer⟩ := exists_has_step there (.ask place request)
    exact ⟨later, index, stays, points.of_prefix number longer⟩
  · obtain ⟨index, points⟩ := Registry.points_of_mem_serve handed
    exact ⟨_, index, (has_ask_iff has request _ _).mpr (Or.inl ⟨rfl, rfl⟩), points⟩

theorem Consistent.ordered_ask :
    ((registries.ask place request).issued.filter (·.fresh)).Pairwise fun first second =>
      first.ref.transformer.serial < second.ref.transformer.serial := by
  rw [ask_of_has has, List.filter_append, List.pairwise_append]
  rcases fresh_issues registry place registries.numbering.serial request with nothing | one
  · rw [nothing]
    exact ⟨consistent.ordered, List.Pairwise.nil, by simp⟩
  · obtain ⟨ref, last, single⟩ := one
    rw [single]
    refine ⟨consistent.ordered, List.pairwise_singleton _ _, ?_⟩
    intro first before second new
    rw [List.mem_singleton.mp new, last]
    exact consistent.issued_lt (List.mem_of_mem_filter before)

include later

theorem Consistent.number_ask : other.number = UInt32.ofNat position := by
  rcases (has_ask_iff has request position other).mp later with ⟨rfl, rfl⟩ | ⟨-, before⟩
  · rw [Registry.number_serve]
    exact consistent.numbers position registry has
  · exact consistent.numbers position other before

theorem Consistent.increasing_ask : other.serials.Pairwise (· < ·) := by
  rcases (has_ask_iff has request position other).mp later with ⟨rfl, rfl⟩ | ⟨-, before⟩
  · rw [Registry.serials_serve, List.pairwise_append]
    refine ⟨consistent.increasing position registry has, by split <;> simp, ?_⟩
    intro serial member new fresh
    have bound := consistent.used position registry has serial member
    split at fresh
    · rwa [List.mem_singleton.mp fresh]
    · simp at fresh
  · exact consistent.increasing position other before

variable {serial : Nat} (member : serial ∈ other.serials)

include member

theorem Consistent.used_ask : serial < (registries.ask place request).numbering.serial := by
  have counted : (registries.ask place request).numbering.serial =
      registries.numbering.serial + request.attempts := by rw [ask_of_has has]
  rw [counted]
  rcases mem_serials_ask has request later member with ⟨old, before, within⟩ | ⟨-, rfl, admitted⟩
  · have bound := consistent.used position old before serial within
    omega
  · rw [Registry.attempts_of_admits admitted]
    omega

theorem Consistent.apart_ask {elsewhere : Nat} {second : Registry}
    (too : (registries.ask place request).Has elsewhere second)
    (common : serial ∈ second.serials) : position = elsewhere := by
  rcases mem_serials_ask has request later member with ⟨old, before, within⟩ | ⟨rfl, rfl, -⟩
  · rcases mem_serials_ask has request too common with ⟨young, also, inside⟩ | ⟨-, rfl, -⟩
    · exact consistent.apart position old before elsewhere young also serial within inside
    · exact absurd (consistent.used position old before _ within) (Nat.lt_irrefl _)
  · rcases mem_serials_ask has request too common with ⟨young, also, inside⟩ | ⟨rfl, -, -⟩
    · exact absurd (consistent.used elsewhere young also _ inside) (Nat.lt_irrefl _)
    · rfl

theorem Consistent.admitted_ask : ∃ issue ∈ (registries.ask place request).issued,
    issue.fresh = true ∧ issue.place = position ∧ issue.ref.transformer.serial = serial := by
  rcases mem_serials_ask has request later member with ⟨old, before, within⟩ | ⟨rfl, rfl, new⟩
  · obtain ⟨issue, issued, rest⟩ := consistent.admitted position old before serial within
    exact ⟨issue, (mem_issued_ask_iff has request issue).mpr (Or.inl issued), rest⟩
  · obtain ⟨ref, handed, serial⟩ := Registry.serve_of_admits new
    refine ⟨⟨position, ref, _⟩, (mem_issued_ask_iff has request _).mpr (Or.inr ⟨ref, ?_, rfl⟩),
      new, rfl, serial⟩
    rw [handed]
    exact List.mem_singleton.mpr rfl

end

theorem Consistent.ask {registries : Registries} (consistent : registries.Consistent)
    (place : Nat) (request : Registry.Request) : (registries.ask place request).Consistent := by
  by_cases known : ∃ registry, registries.Has place registry
  · obtain ⟨registry, has⟩ := known
    constructor
    · rw [ask_of_has has, List.length_set]
      exact consistent.next
    · exact fun _ _ later => consistent.number_ask has request later
    · exact fun _ _ later _ member => consistent.used_ask has request later member
    · exact fun _ _ later => consistent.increasing_ask has request later
    · exact fun _ _ later _ _ too _ member common =>
        consistent.apart_ask has request later member too common
    · exact fun _ issued => consistent.points_ask has request issued
    · exact fun _ _ later _ member => consistent.admitted_ask has request later member
    · exact consistent.ordered_ask has request
  · rw [ask_of_not_has (not_exists.mp known)]
    exact consistent

theorem Consistent.step {registries : Registries} (consistent : registries.Consistent)
    (event : Event) : (registries.step event).Consistent := by
  cases event with
  | create => exact consistent.create
  | ask place request => exact consistent.ask place request

theorem Consistent.run {registries : Registries} (consistent : registries.Consistent)
    (events : List Event) : (registries.run events).Consistent := by
  induction events generalizing registries with
  | nil => exact consistent
  | cons event rest ih => exact ih (consistent.step event)

theorem run_append (registries : Registries) (earlier later : List Event) :
    registries.run (earlier ++ later) = (registries.run earlier).run later :=
  List.foldl_append

theorem issued_step (registries : Registries) (event : Event) :
    registries.issued <+: (registries.step event).issued := by
  cases event with
  | create => exact List.prefix_refl _
  | ask place request =>
      by_cases known : ∃ registry, registries.Has place registry
      · obtain ⟨registry, has⟩ := known
        rw [step, ask_of_has has]
        exact List.prefix_append _ _
      · have unchanged := ask_of_not_has (not_exists.mp known) request
        simp [step, unchanged]

theorem issued_run (events : List Event) : ∀ registries : Registries,
    registries.issued <+: (registries.run events).issued := by
  induction events with
  | nil => intro registries; exact List.prefix_refl _
  | cons event rest ih =>
      intro registries
      exact (issued_step registries event).trans (ih (registries.step event))

end Registries

end ArtifactTools
