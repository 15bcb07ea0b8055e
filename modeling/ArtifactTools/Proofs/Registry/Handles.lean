import ArtifactTools.Proofs.Registry.Creation

/-! A handle names one transformer for good: references are the same just if they hold the same
transformer, a handle leads to its transformer in its own registry at any later time and nowhere in
another, and handles stand in the order of creation and of registration. -/

namespace ArtifactTools

namespace Registries

structure Fits (registries : Registries) : Prop where
  members : registries.members.length < UInt32.size
  entries : ∀ registry ∈ registries.members, registry.size < UInt32.size

instance (registries : Registries) : Decidable registries.Fits :=
  decidable_of_iff (registries.members.length < UInt32.size ∧
      ∀ registry ∈ registries.members, registry.size < UInt32.size)
    ⟨fun ⟨members, entries⟩ => ⟨members, entries⟩, fun fits => ⟨fits.members, fits.entries⟩⟩

/-- What handles and references from an earlier time are good for now. -/
structure Dependable (earlier now : Registries) : Prop where
  identity : ∀ first ∈ now.issued, ∀ second ∈ now.issued,
    first.ref.isSame second.ref = first.ref.isSameInstance second.ref
  follow : ∀ issue ∈ earlier.issued, ∃ registry, now.Has issue.place registry ∧
    ∃ ref, registry.get? issue.ref.handle = some ref ∧ ref.handle = issue.ref.handle ∧
      ref.isSameInstance issue.ref = true
  stray : ∀ issue ∈ earlier.issued, ∀ place registry, now.Has place registry →
    place ≠ issue.place → registry.get? issue.ref.handle = none
  origin : ∀ issue ∈ now.issued, ∃ origin ∈ now.issued, origin.fresh = true ∧
    origin.place = issue.place ∧ origin.ref.isSame issue.ref = true
  registration : (now.issued.filter (·.fresh)).Pairwise fun first second =>
    first.place = second.place → first.ref.handle.compare second.ref.handle = .lt
  creation : ∀ first ∈ now.issued, ∀ second ∈ now.issued, first.place < second.place →
    first.ref.handle.compare second.ref.handle = .lt

/-! Numbers that fit keep their order and stay apart. -/

theorem compare_ofNat {first second : Nat} (below : first < second)
    (fits : second < UInt32.size) :
    compare (UInt32.ofNat first) (UInt32.ofNat second) = .lt := by
  have lower : UInt32.ofNat first < UInt32.ofNat second := by
    rw [UInt32.lt_iff_toNat_lt, UInt32.toNat_ofNat_of_lt' fits,
      UInt32.toNat_ofNat_of_lt' (Nat.lt_trans below fits)]
    exact below
  exact Std.compare_eq_lt.mpr lower

theorem eq_of_ofNat_eq {first second : Nat} (firstFits : first < UInt32.size)
    (secondFits : second < UInt32.size) (same : UInt32.ofNat first = UInt32.ofNat second) :
    first = second := by
  rw [← UInt32.toNat_ofNat_of_lt' firstFits, same, UInt32.toNat_ofNat_of_lt' secondFits]

theorem Fits.place_lt {registries : Registries} (fits : registries.Fits) {place : Nat}
    {registry : Registry} (has : registries.Has place registry) : place < UInt32.size :=
  Nat.lt_trans has.lt_length fits.members

theorem Fits.index_lt {registries : Registries} (fits : registries.Fits) {place index : Nat}
    {registry : Registry} {ref : Ref} (has : registries.Has place registry)
    (points : registry.Points index ref) : index < UInt32.size :=
  Nat.lt_trans points.lt_size (fits.entries registry (List.mem_of_getElem? has))

namespace Consistent

variable {registries : Registries} (consistent : registries.Consistent)

include consistent

theorem index_lt_iff {place first second : Nat} {registry : Registry} {one other : Ref}
    (has : registries.Has place registry) (firstPoints : registry.Points first one)
    (secondPoints : registry.Points second other) :
    first < second ↔ one.transformer.serial < other.transformer.serial := by
  have increasing := List.pairwise_iff_getElem.mp (consistent.increasing place registry has)
  obtain ⟨firstBound, firstEntry⟩ := List.getElem?_eq_some_iff.mp firstPoints.2
  obtain ⟨secondBound, secondEntry⟩ := List.getElem?_eq_some_iff.mp secondPoints.2
  rw [← firstEntry, ← secondEntry]
  constructor
  · exact increasing first second firstBound secondBound
  · intro below
    rcases Nat.lt_trichotomy first second with lower | same | higher
    · exact lower
    · subst same
      exact absurd below (Nat.lt_irrefl _)
    · exact absurd below (Nat.lt_asymm (increasing second first secondBound firstBound higher))

theorem handle_eq_iff (fits : registries.Fits) {first second : Issue}
    (firstIssued : first ∈ registries.issued) (secondIssued : second ∈ registries.issued) :
    first.ref.handle = second.ref.handle ↔
      first.ref.transformer.serial = second.ref.transformer.serial := by
  obtain ⟨one, here, firstHas, firstPoints⟩ := consistent.points first firstIssued
  obtain ⟨other, there, secondHas, secondPoints⟩ := consistent.points second secondIssued
  rw [firstPoints.1, secondPoints.1, Handle.mk.injEq,
    consistent.numbers first.place one firstHas, consistent.numbers second.place other secondHas]
  constructor
  · rintro ⟨sameNumber, sameIndex⟩
    have samePlace := eq_of_ofNat_eq (fits.place_lt firstHas) (fits.place_lt secondHas) sameNumber
    obtain rfl := firstHas.unique (samePlace ▸ secondHas)
    have same := eq_of_ofNat_eq (fits.index_lt firstHas firstPoints)
      (fits.index_lt secondHas secondPoints) sameIndex
    subst same
    exact Option.some.inj (firstPoints.2.symm.trans secondPoints.2)
  · intro same
    have samePlace := consistent.apart first.place one firstHas second.place other secondHas _
      firstPoints.mem_serials (same ▸ secondPoints.mem_serials)
    obtain rfl := firstHas.unique (samePlace ▸ secondHas)
    have notBefore := (consistent.index_lt_iff firstHas firstPoints secondPoints).not
    have notAfter := (consistent.index_lt_iff firstHas secondPoints firstPoints).not
    rw [samePlace, show here = there by omega]
    exact ⟨rfl, rfl⟩

theorem compare_of_serial_lt (fits : registries.Fits) {first second : Issue}
    (firstIssued : first ∈ registries.issued) (secondIssued : second ∈ registries.issued)
    (samePlace : first.place = second.place)
    (below : first.ref.transformer.serial < second.ref.transformer.serial) :
    first.ref.handle.compare second.ref.handle = .lt := by
  obtain ⟨one, here, firstHas, firstPoints⟩ := consistent.points first firstIssued
  obtain ⟨other, there, secondHas, secondPoints⟩ := consistent.points second secondIssued
  obtain rfl := firstHas.unique (samePlace ▸ secondHas)
  have lower := (consistent.index_lt_iff firstHas firstPoints secondPoints).mpr below
  have bound := fits.index_lt secondHas secondPoints
  simp only [Handle.compare, firstPoints.1, secondPoints.1, compare_ofNat lower bound,
    Std.ReflCmp.compare_self, Ordering.then]

theorem compare_of_place_lt (fits : registries.Fits) {first second : Issue}
    (firstIssued : first ∈ registries.issued) (secondIssued : second ∈ registries.issued)
    (below : first.place < second.place) :
    first.ref.handle.compare second.ref.handle = .lt := by
  obtain ⟨one, here, firstHas, firstPoints⟩ := consistent.points first firstIssued
  obtain ⟨other, there, secondHas, secondPoints⟩ := consistent.points second secondIssued
  have bound := fits.place_lt secondHas
  simp only [Handle.compare, firstPoints.1, secondPoints.1,
    consistent.numbers first.place one firstHas, consistent.numbers second.place other secondHas,
    compare_ofNat below bound, Ordering.then]

theorem get?_handle (fits : registries.Fits) {issue : Issue} (issued : issue ∈ registries.issued) :
    ∃ registry, registries.Has issue.place registry ∧
      ∃ ref, registry.get? issue.ref.handle = some ref ∧ ref.handle = issue.ref.handle ∧
        ref.isSameInstance issue.ref = true := by
  obtain ⟨registry, index, has, points⟩ := consistent.points issue issued
  obtain ⟨transformer, entry, number⟩ : ∃ transformer, registry.Holds index transformer ∧
      transformer.serial = issue.ref.transformer.serial := by
    have known := points.2
    rw [Registry.serials, List.getElem?_map] at known
    exact Option.map_eq_some_iff.mp known
  have bound := fits.index_lt has points
  refine ⟨registry, has, registry.refOf index transformer, ?_, points.1.symm, ?_⟩
  · rw [points.1]
    exact Registry.get?_refOf_of_lt entry bound
  · simp [Ref.isSameInstance, Registry.refOf, number]

theorem get?_handle_of_ne (fits : registries.Fits) {issue : Issue}
    (issued : issue ∈ registries.issued) {place : Nat} {registry : Registry}
    (has : registries.Has place registry) (different : place ≠ issue.place) :
    registry.get? issue.ref.handle = none := by
  obtain ⟨own, index, ownHas, points⟩ := consistent.points issue issued
  have foreign : issue.ref.handle.registry ≠ registry.number := by
    rw [points.1, consistent.numbers issue.place own ownHas, consistent.numbers place registry has]
    intro same
    exact different (eq_of_ofNat_eq (fits.place_lt ownHas) (fits.place_lt has) same).symm
  simp [Registry.get?, foreign]

theorem exists_origin {issue : Issue} (fits : registries.Fits)
    (issued : issue ∈ registries.issued) : ∃ origin ∈ registries.issued,
      origin.fresh = true ∧ origin.place = issue.place ∧ origin.ref.isSame issue.ref = true := by
  obtain ⟨registry, index, has, points⟩ := consistent.points issue issued
  obtain ⟨origin, known, fresh, place, number⟩ :=
    consistent.admitted issue.place registry has _ points.mem_serials
  have same := (consistent.handle_eq_iff fits known issued).mpr number
  exact ⟨origin, known, fresh, place, by simp [Ref.isSame, same]⟩

end Consistent

/-- Whatever registries a process creates and asks, in any order: while the numbers fit, handles
and references are good for what they are meant for at any later time. -/
theorem handles_dependable (earlier later : List Event)
    (fits : (vacant.run (earlier ++ later)).Fits) :
    Dependable (vacant.run earlier) (vacant.run (earlier ++ later)) := by
  have consistent := consistent_vacant.run (earlier ++ later)
  have kept : ∀ issue ∈ (vacant.run earlier).issued,
      issue ∈ (vacant.run (earlier ++ later)).issued := by
    rw [run_append]
    exact (issued_run later (vacant.run earlier)).subset
  constructor
  · intro first firstIssued second secondIssued
    exact decide_eq_decide.mpr (consistent.handle_eq_iff fits firstIssued secondIssued)
  · intro issue issued
    exact consistent.get?_handle fits (kept issue issued)
  · intro issue issued place registry has different
    exact consistent.get?_handle_of_ne fits (kept issue issued) has different
  · intro issue issued
    exact consistent.exists_origin fits issued
  · refine consistent.ordered.imp_of_mem ?_
    intro first second firstFresh secondFresh below samePlace
    exact consistent.compare_of_serial_lt fits (List.mem_of_mem_filter firstFresh)
      (List.mem_of_mem_filter secondFresh) samePlace below
  · intro first firstIssued second secondIssued below
    exact consistent.compare_of_place_lt fits firstIssued secondIssued below

/-- Two registries of transformers alike, asked in turn. -/
theorem handles_dependable_twins :
    let twin : Draft :=
      ⟨"hex", "Hex", .other, [], fun _ => true, fun _ _ services => (.unsupported, services)⟩
    let other : Draft := { twin with id := "text", name := "Text" }
    let earlier : List Event := [.create, .create, .ask 1 (.register 0 twin),
      .ask 0 (.register 0 twin), .ask 0 (.register 0 twin)]
    let later : List Event := [.ask 0 (.register 0 other), .ask 0 (.findById "hex"),
      .ask 1 (.select fun _ => true), .ask 0 (.follow ⟨0, 1⟩)]
    let now := vacant.run (earlier ++ later)
    now.Fits ∧ Dependable (vacant.run earlier) now ∧
      now.issued.map (fun issue => (issue.place, issue.ref.handle, issue.ref.transformer.serial)) =
        [(1, ⟨1, 0⟩, 0), (0, ⟨0, 0⟩, 1), (0, ⟨0, 1⟩, 3), (0, ⟨0, 0⟩, 1), (1, ⟨1, 0⟩, 0),
          (0, ⟨0, 1⟩, 3)] := by
  intro twin other earlier later now
  have fits : now.Fits := by decide +kernel
  exact ⟨fits, handles_dependable earlier later fits, by decide +kernel⟩

end Registries

end ArtifactTools
