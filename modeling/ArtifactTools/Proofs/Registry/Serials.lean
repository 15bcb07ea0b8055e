import ArtifactTools.Proofs.Registry.Requests

/-! What a registry keeps of a transformer whatever it is asked: its place and its serial number. A
request adds at most one entry, at the end, and what it hands out points to its place. -/

namespace ArtifactTools

namespace Registry

def serials (registry : Registry) : List Nat := registry.entries.map (·.serial)

theorem length_serials (registry : Registry) : registry.serials.length = registry.size := by
  simp [serials, size]

theorem serials_of_bare_eq {registry next : Registry} (same : next.bare = registry.bare) :
    next.serials = registry.serials := by
  have bare : ∀ any : Registry, any.bare.serials = any.serials := by
    intro any
    simp [serials, Registry.bare, Transformer.bare]
  rw [← bare next, same, bare registry]

def Points (registry : Registry) (index : Nat) (ref : Ref) : Prop :=
  ref.handle = ⟨registry.number, UInt32.ofNat index⟩ ∧
    registry.serials[index]? = some ref.transformer.serial

theorem Holds.points {registry : Registry} {index : Nat} {transformer : Transformer}
    (holds : registry.Holds index transformer) :
    registry.Points index (registry.refOf index transformer) := by
  have entry : registry.entries[index]? = some transformer := holds
  exact ⟨rfl, by simp [serials, entry, refOf]⟩

theorem Points.lt_size {registry : Registry} {index : Nat} {ref : Ref}
    (points : registry.Points index ref) : index < registry.size := by
  rw [← length_serials]
  exact (List.getElem?_eq_some_iff.mp points.2).1

theorem Points.mem_serials {registry : Registry} {index : Nat} {ref : Ref}
    (points : registry.Points index ref) : ref.transformer.serial ∈ registry.serials :=
  List.mem_of_getElem? points.2

theorem Points.of_prefix {registry next : Registry} {index : Nat} {ref : Ref}
    (points : registry.Points index ref) (number : next.number = registry.number)
    (longer : registry.serials <+: next.serials) : next.Points index ref := by
  obtain ⟨more, same⟩ := longer
  refine ⟨number ▸ points.1, ?_⟩
  rw [← same, List.getElem?_append_left (List.getElem?_eq_some_iff.mp points.2).1]
  exact points.2

theorem mem_selectFrom_iff (registry : Registry) (accepts : Transformer → Bool) (ref : Ref)
    (entries : List Transformer) : ∀ start, ref ∈ registry.selectFrom accepts start entries ↔
      ∃ index transformer, entries[index]? = some transformer ∧ accepts transformer = true ∧
        ref = registry.refOf (start + index) transformer := by
  induction entries with
  | nil => intro start; simp [selectFrom]
  | cons first rest ih =>
      intro start
      have places : ∀ index, start + 1 + index = start + (index + 1) := by omega
      rw [← Nat.or_exists_add_one]
      simp only [List.getElem?_cons_zero, List.getElem?_cons_succ, selectFrom]
      by_cases accepted : accepts first = true
      · simp [accepted, ih, places]
      · simp [accepted, ih, places]

theorem mem_allMatching_iff (registry : Registry) (accepts : Transformer → Bool) (ref : Ref) :
    ref ∈ registry.allMatching accepts ↔ ∃ index transformer, registry.Holds index transformer ∧
      accepts transformer = true ∧ ref = registry.refOf index transformer := by
  rw [allMatching, mem_selectFrom_iff]
  simp only [Nat.zero_add]
  rfl

def Request.numbered (serial : Nat) : Request → Request
  | .register _ draft => .register serial draft
  | request => request

theorem number_serve (registry : Registry) (request : Request) :
    (registry.serve request).2.number = registry.number := by
  cases request with
  | register serial draft =>
      simp only [serve]
      split
      · next ref next registered =>
          obtain ⟨transformer, -, inserted⟩ := register_eq_ok registered
          obtain ⟨-, -, -, rfl⟩ := (insert_eq_ok_iff _ _ _ _).mp inserted
          rfl
      · rfl
  | settings index call => exact congrArg (·.number) (bare_stepSettings registry index call)
  | importSettings persisted => exact congrArg (·.number) (bare_importSettings persisted registry)
  | findById id => rfl
  | findByName name => rfl
  | follow handle => rfl
  | select accepts => rfl

/-- The entries only ever get one more at the end, which a registration with this number admits. -/
theorem serials_serve (registry : Registry) (serial : Nat) (request : Request) :
    (registry.serve (request.numbered serial)).2.serials = registry.serials ++
      if registry.admits (request.numbered serial) then [serial] else [] := by
  cases request with
  | register given draft =>
      cases registered : registry.register serial draft with
      | error error => simp [Request.numbered, serve, admits, registered]
      | ok result =>
          obtain ⟨ref, next⟩ := result
          simp only [Request.numbered, serve, admits, registered, if_true]
          obtain ⟨transformer, built, inserted⟩ := register_eq_ok registered
          obtain ⟨-, -, store, -, rfl⟩ := (Draft.build_eq_ok_iff _ _ _).mp built
          obtain ⟨-, -, -, rfl⟩ := (insert_eq_ok_iff _ _ _ _).mp inserted
          simp [serials]
  | settings index call =>
      simp [Request.numbered, serve, admits, serials_of_bare_eq (bare_stepSettings _ index call)]
  | importSettings persisted =>
      simp [Request.numbered, serve, admits, serials_of_bare_eq (bare_importSettings persisted _)]
  | findById id => simp [Request.numbered, serve, admits]
  | findByName name => simp [Request.numbered, serve, admits]
  | follow handle => simp [Request.numbered, serve, admits]
  | select accepts => simp [Request.numbered, serve, admits]

theorem exists_holds_of_mem_serve {registry : Registry} {request : Request} {ref : Ref}
    (handed : ref ∈ (registry.serve request).1) :
    ∃ index transformer, (registry.serve request).2.Holds index transformer ∧
      ref = (registry.serve request).2.refOf index transformer := by
  have looked {index : Nat} (found : registry.refAt? index = some ref) :
      ∃ index transformer, registry.Holds index transformer ∧
        ref = registry.refOf index transformer := by
    obtain ⟨transformer, holds, rfl⟩ := Option.map_eq_some_iff.mp found
    exact ⟨index, transformer, holds, rfl⟩
  cases request with
  | register serial draft =>
      simp only [serve] at handed ⊢
      cases registered : registry.register serial draft with
      | error error => simp [registered] at handed
      | ok result =>
          obtain ⟨issued, next⟩ := result
          simp only [registered, List.mem_singleton] at handed ⊢
          subst handed
          obtain ⟨transformer, -, inserted⟩ := register_eq_ok registered
          obtain ⟨-, -, rfl, rfl⟩ := (insert_eq_ok_iff _ _ _ _).mp inserted
          exact ⟨registry.size, transformer, by simp [Holds, size], rfl⟩
  | findById id =>
      obtain ⟨index, -, found⟩ := Option.bind_eq_some_iff.mp (Option.mem_toList.mp handed)
      exact looked found
  | findByName name =>
      obtain ⟨index, -, found⟩ := Option.bind_eq_some_iff.mp (Option.mem_toList.mp handed)
      exact looked found
  | follow handle =>
      have found := Option.mem_toList.mp handed
      simp only [get?] at found
      split at found
      · exact looked found
      · simp at found
  | select accepts =>
      obtain ⟨index, transformer, holds, -, rfl⟩ := (mem_allMatching_iff _ _ _).mp handed
      exact ⟨index, transformer, holds, rfl⟩
  | settings index call => simp [serve] at handed
  | importSettings persisted => simp [serve] at handed

theorem points_of_mem_serve {registry : Registry} {request : Request} {ref : Ref}
    (handed : ref ∈ (registry.serve request).1) :
    ∃ index, (registry.serve request).2.Points index ref := by
  obtain ⟨index, transformer, holds, rfl⟩ := exists_holds_of_mem_serve handed
  exact ⟨index, holds.points⟩

theorem serve_of_admits {registry : Registry} {serial : Nat} {request : Request}
    (admitted : registry.admits (request.numbered serial) = true) :
    ∃ ref, (registry.serve (request.numbered serial)).1 = [ref] ∧
      ref.transformer.serial = serial := by
  cases request with
  | register given draft =>
      simp only [Request.numbered, admits, serve] at admitted ⊢
      cases registered : registry.register serial draft with
      | error error => simp [registered] at admitted
      | ok result =>
          obtain ⟨ref, next⟩ := result
          obtain ⟨transformer, built, inserted⟩ := register_eq_ok registered
          obtain ⟨-, -, store, -, rfl⟩ := (Draft.build_eq_ok_iff _ _ _).mp built
          obtain ⟨-, -, rfl, -⟩ := (insert_eq_ok_iff _ _ _ _).mp inserted
          exact ⟨_, rfl, rfl⟩
  | findById id => simp [Request.numbered, admits] at admitted
  | findByName name => simp [Request.numbered, admits] at admitted
  | follow handle => simp [Request.numbered, admits] at admitted
  | select accepts => simp [Request.numbered, admits] at admitted
  | settings index call => simp [Request.numbered, admits] at admitted
  | importSettings persisted => simp [Request.numbered, admits] at admitted

def Request.attempts : Request → Nat
  | .register _ _ => 1
  | _ => 0

theorem attempts_of_admits {registry : Registry} {serial : Nat} {request : Request}
    (admitted : registry.admits (request.numbered serial) = true) : request.attempts = 1 := by
  cases request with
  | register given draft => rfl
  | _ => simp [Request.numbered, admits] at admitted

end Registry

end ArtifactTools
