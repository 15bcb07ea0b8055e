import ArtifactTools.Proofs.Registry.Creation

/-! Building a registry is a course of creating it, asking it for registrations and giving it
settings to import, so that what holds of every such course holds of registries that are built. -/

namespace ArtifactTools

namespace Registries

theorem run_cons (registries : Registries) (event : Event) (events : List Event) :
    registries.run (event :: events) = (registries.step event).run events := rfl

theorem set_of_has {registries : Registries} {place : Nat} {registry : Registry}
    (has : registries.Has place registry) : registries.members.set place registry =
      registries.members := by
  obtain ⟨bound, entry⟩ := List.getElem?_eq_some_iff.mp has
  rw [← entry, List.set_getElem_self]

theorem exists_run_registerAll (drafts : List Draft) : ∀ {registries : Registries} {place : Nat}
    {registry : Registry}, registries.Has place registry →
      ∃ events, let outcome := registry.registerAll registries.numbering.serial drafts
        (registries.run events).numbering = ⟨registries.numbering.registry, outcome.2⟩ ∧
        ∀ next, outcome.1 = .ok next →
          (registries.run events).members = registries.members.set place next := by
  induction drafts with
  | nil =>
      intro registries place registry has
      refine ⟨[], rfl, ?_⟩
      intro next same
      simp only [Registry.registerAll, Except.ok.injEq] at same
      rw [← same, set_of_has has]
      rfl
  | cons draft rest ih =>
      intro registries place registry has
      have asked := ask_of_has has (.register 0 draft)
      simp only [Registry.Request.numbered, Registry.Request.attempts, Registry.serve] at asked
      cases registered : registry.register registries.numbering.serial draft with
      | error error =>
          refine ⟨[.ask place (.register 0 draft)], ?_, ?_⟩
          · simp [run, step, asked, Registry.registerAll, registered]
          · simp [Registry.registerAll, registered]
      | ok result =>
          obtain ⟨ref, next⟩ := result
          simp only [registered] at asked
          have there : (registries.ask place (.register 0 draft)).Has place next := by
            simp [asked, Has, has.lt_length]
          obtain ⟨events, numbering, members⟩ := ih there
          refine ⟨.ask place (.register 0 draft) :: events, ?_, ?_⟩
          · simpa [run_cons, step, Registry.registerAll, registered, asked] using numbering
          · intro last finished
            simp only [Registry.registerAll, registered] at finished
            have same := members last (by simpa [asked] using finished)
            rw [run_cons, step, same, asked, List.set_set]

theorem exists_run_registerFamilies (environment : Environment) (families : List Family) :
    ∀ {registries : Registries} {place : Nat} {registry : Registry} (started : Nat),
      registries.Has place registry →
        ∃ events,
          let serial := registries.numbering.serial
          let outcome := Builder.registerFamilies environment registry serial started families
          (registries.run events).numbering = ⟨registries.numbering.registry, outcome.2.1⟩ ∧
          ∀ next, outcome.1 = .ok next →
            (registries.run events).members = registries.members.set place next := by
  induction families with
  | nil =>
      intro registries place registry started has
      refine ⟨[], rfl, ?_⟩
      intro next same
      simp only [Builder.registerFamilies, Except.ok.injEq] at same
      rw [← same, set_of_has has]
      rfl
  | cons family rest ih =>
      intro registries place registry started has
      obtain ⟨events, numbering, members⟩ :=
        exists_run_registerAll (family.drafts environment) has
      simp only [Builder.registerFamilies]
      cases registered :
          registry.registerAll registries.numbering.serial (family.drafts environment) with
      | mk outcome serial =>
          rw [registered] at numbering members
          cases outcome with
          | error error => exact ⟨events, numbering, by simp⟩
          | ok next =>
              have built := members next rfl
              have there : (registries.run events).Has place next := by
                simp [Has, built, has.lt_length]
              obtain ⟨more, lastNumbering, lastMembers⟩ := ih (started + 1) there
              rw [numbering] at lastNumbering lastMembers
              refine ⟨events ++ more, ?_, ?_⟩
              · rw [run_append]
                exact lastNumbering
              · intro last finished
                rw [run_append, lastMembers last finished, built, List.set_set]

theorem numbering_ask_importSettings (registries : Registries) (place : Nat)
    (persisted : Settings.Persisted) :
    (registries.ask place (.importSettings persisted)).numbering = registries.numbering := by
  by_cases known : ∃ registry, registries.Has place registry
  · obtain ⟨registry, has⟩ := known
    rw [ask_of_has has]
    rfl
  · rw [ask_of_not_has (not_exists.mp known)]

theorem exists_run_build (builder : Builder) (environment : Environment)
    (registries : Registries) : ∃ events,
      let build := builder.build environment registries.numbering
      (registries.run events).numbering = build.numbering ∧
      ∀ registry, build.result = .ok registry →
        (registries.run events).members = registries.members ++ [registry] := by
  have created := (has_create_iff registries _ _).mpr (Or.inr ⟨rfl, rfl⟩)
  obtain ⟨events, numbering, members⟩ :=
    exists_run_registerFamilies environment builder.families 0 created
  let importing : Event :=
    .ask registries.members.length (.importSettings environment.config.settings)
  have course : registries.run (.create :: (events ++ [importing])) =
      (registries.create.run events).step importing :=
    run_append registries.create events [importing]
  refine ⟨.create :: (events ++ [importing]), ?_, ?_⟩
  · rw [course]
    exact (numbering_ask_importSettings _ _ _).trans numbering
  · intro registry finished
    obtain ⟨built, registered, imported⟩ : ∃ built, (Builder.registerFamilies environment
        (.empty registries.numbering.registry) registries.numbering.serial 0
        builder.families).1 = .ok built ∧
        (built.importSettings environment.config.settings).1 = registry := by
      simp only [Builder.build] at finished
      cases outcome : (Builder.registerFamilies environment
          (.empty registries.numbering.registry) registries.numbering.serial 0
          builder.families).1 with
      | error error => simp [outcome, Except.map] at finished
      | ok built => exact ⟨built, rfl, by simpa [outcome, Except.map] using finished⟩
    have full : (registries.create.run events).members = registries.members ++ [built] :=
      (members built registered).trans (by simp [create])
    have there : (registries.create.run events).Has registries.members.length built := by
      simp [Has, full]
    rw [course, step, ask_of_has there]
    simp only [full, Registry.Request.numbered, Registry.serve, imported]
    simp

end Registries

end ArtifactTools
