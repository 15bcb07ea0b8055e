import ArtifactTools.Proofs.Registry.Builtin
import ArtifactTools.Registry.Shared

/-! Publishing the registry that a process shares. Any number of callers propose a registry or ask
for the shared one, a step at a time, and what has been published may be used at any time. In every
order one registry at most is published and never replaced, by one caller at most, and whoever is
given a registry is given that one. -/

namespace ArtifactTools

abbrev Contribution := Environment → Registry → Nat → Except TransformerError Registry × Nat

def Family.contribution (family : Family) : Contribution := fun environment registry serial =>
  registry.registerAll serial (family.drafts environment)

structure Proposal where
  contributions : List Contribution
  environment : Environment

namespace Proposal

def contribute (environment : Environment) (registry : Registry) (serial : Nat) :
    List Contribution → Except TransformerError Registry × Nat
  | [] => (.ok registry, serial)
  | contribution :: rest =>
      match contribution environment registry serial with
      | (.error error, serial) => (.error error, serial)
      | (.ok registry, serial) => contribute environment registry serial rest

def build (proposal : Proposal) (numbering : Numbering) :
    Except TransformerError Registry × Numbering :=
  let (result, serial) := contribute proposal.environment (.empty numbering.registry)
    numbering.serial proposal.contributions
  (result.map fun registry =>
      (registry.importSettings proposal.environment.config.settings).1,
    ⟨numbering.registry + 1, serial⟩)

def MayGive (proposal : Proposal) (result : Except TransformerError Registry) : Prop :=
  ∃ numbering, (proposal.build numbering).1 = result

end Proposal

namespace Builder

def proposal (builder : Builder) (environment : Environment) : Proposal :=
  ⟨builder.families.map Family.contribution, environment⟩

theorem contribute_eq (environment : Environment) (families : List Family) :
    ∀ (registry : Registry) (serial started : Nat),
      let outcome := registerFamilies environment registry serial started families
      Proposal.contribute environment registry serial (families.map Family.contribution) =
        (outcome.1, outcome.2.1) := by
  induction families with
  | nil => intro registry serial started; rfl
  | cons family rest ih =>
      intro registry serial started
      simp only [List.map_cons, Proposal.contribute, Family.contribution, registerFamilies]
      rcases registry.registerAll serial (family.drafts environment) with ⟨_ | next, free⟩
      · rfl
      · exact ih next free (started + 1)

theorem build_proposal (builder : Builder) (environment : Environment) (numbering : Numbering) :
    (builder.proposal environment).build numbering =
      ((builder.build environment numbering).result,
        (builder.build environment numbering).numbering) := by
  simp only [Proposal.build, proposal, contribute_eq environment builder.families _ _ 0, build]

end Builder

namespace Shared

inductive Call where
  | checks (proposal : Proposal)
  | builds (proposal : Proposal)
  | publishes (proposal : Proposal) (registry : Registry)
  | takes (proposal : Proposal)
  | started (proposal : Proposal) (answer : Except TransformerError Registry)
  | obtains
  | obtained (answer : Except TransformerError Registry)

def Keeps (shared : Shared) (requests : List Registry.Request) (next : Shared) : Prop :=
  ∀ registry, shared.published = some registry → next.published = some (registry.run requests)

theorem Keeps.refl (shared : Shared) : shared.Keeps [] shared := fun _ published => published

theorem Keeps.trans {first second third : Shared} {requests more : List Registry.Request}
    (one : first.Keeps requests second) (other : second.Keeps more third) :
    first.Keeps (requests ++ more) third := by
  intro registry published
  have later := other _ (one registry published)
  rwa [Registry.run, List.foldl_append]

theorem Keeps.of_vacant {shared : Shared} (vacant : shared.published = none) (next : Shared) :
    shared.Keeps [] next := by
  intro registry published
  rw [vacant] at published
  cases published

theorem checkVacant_of_published {shared : Shared} (published : shared.published.isSome) :
    shared.checkVacant = .error .alreadyInitialized := by
  obtain ⟨registry, same⟩ := Option.isSome_iff_exists.mp published
  rw [checkVacant, same]

theorem publish_of_published {shared : Shared} (published : shared.published.isSome)
    (registry : Registry) : shared.publish registry = .error .alreadyInitialized := by
  obtain ⟨other, same⟩ := Option.isSome_iff_exists.mp published
  rw [publish, same]

theorem publish_of_vacant {shared : Shared} (vacant : shared.published = none)
    (registry : Registry) :
    shared.publish registry = .ok { shared with published := registry } := by
  rw [publish, vacant]

section

variable (host : Host) (launcher : Config → Launcher)

theorem obtain_of_published {shared : Shared} {registry : Registry}
    (published : shared.published = some registry) :
    shared.obtain host launcher = (.ok registry, shared) := by
  rw [Shared.obtain, published]

/-- Nobody who asks for the shared registry goes away without it. -/
theorem obtain_eq (shared : Shared) : ∃ registry next,
    shared.obtain host launcher = (.ok registry, next) ∧ next.published = some registry ∧
      shared.Keeps [] next := by
  cases vacant : shared.published with
  | some registry =>
      exact ⟨registry, shared, obtain_of_published host launcher vacant, vacant, .refl shared⟩
  | none =>
      let config := defaultConfig host
      let build := Builder.builtin.build ⟨config, launcher config⟩ shared.numbering
      obtain ⟨fresh, -, built⟩ :=
        Builder.exists_build_builtin ⟨config, launcher config⟩ shared.numbering
      have answer : shared.obtain host launcher =
          (.ok (fresh.importSettings config.settings).1,
            ⟨some (fresh.importSettings config.settings).1, build.numbering⟩) := by
        simp only [Shared.obtain, vacant, start, checkVacant, built, publish, config, build]
      exact ⟨_, _, answer, rfl, .of_vacant vacant _⟩

def Call.step (shared : Shared) : Call → Shared × Call
  | .checks proposal =>
      match shared.checkVacant with
      | .error error => (shared, .started proposal (.error error))
      | .ok () => (shared, .builds proposal)
  | .builds proposal =>
      let (result, numbering) := proposal.build shared.numbering
      match result with
      | .error error => ({ shared with numbering }, .started proposal (.error error))
      | .ok registry => ({ shared with numbering }, .publishes proposal registry)
  | .publishes proposal registry =>
      match shared.publish registry with
      | .error error => (shared, .started proposal (.error error))
      | .ok shared => (shared, .takes proposal)
  | .takes proposal =>
      let (answer, shared) := shared.obtain host launcher
      (shared, .started proposal answer)
  | .obtains =>
      let (answer, shared) := shared.obtain host launcher
      (shared, .obtained answer)
  | .started proposal answer => (shared, .started proposal answer)
  | .obtained answer => (shared, .obtained answer)

inductive Steps (shared : Shared) : Call → Shared → Call → Prop
  | goesOn {proposal} : shared.published = none →
      Steps shared (.checks proposal) shared (.builds proposal)
  | comesLate {proposal} : shared.published.isSome →
      Steps shared (.checks proposal) shared (.started proposal (.error .alreadyInitialized))
  | builds {proposal registry numbering} :
      proposal.build shared.numbering = (.ok registry, numbering) →
      Steps shared (.builds proposal) { shared with numbering } (.publishes proposal registry)
  | breaks {proposal error numbering} :
      proposal.build shared.numbering = (.error error, numbering) →
      Steps shared (.builds proposal) { shared with numbering } (.started proposal (.error error))
  | publishes {proposal registry} : shared.published = none →
      Steps shared (.publishes proposal registry) { shared with published := registry }
        (.takes proposal)
  | loses {proposal registry} : shared.published.isSome →
      Steps shared (.publishes proposal registry) shared
        (.started proposal (.error .alreadyInitialized))
  | takes {proposal registry next} : next.published = some registry → shared.Keeps [] next →
      Steps shared (.takes proposal) next (.started proposal (.ok registry))
  | obtains {registry next} : next.published = some registry → shared.Keeps [] next →
      Steps shared .obtains next (.obtained (.ok registry))
  | rests {proposal answer} :
      Steps shared (.started proposal answer) shared (.started proposal answer)
  | stays {answer} : Steps shared (.obtained answer) shared (.obtained answer)

theorem Call.steps (shared : Shared) (call : Call) :
    shared.Steps call (call.step host launcher shared).1 (call.step host launcher shared).2 := by
  cases call with
  | checks proposal =>
      cases known : shared.published with
      | none =>
          simp only [step, checkVacant, known]
          exact .goesOn known
      | some registry =>
          have published : shared.published.isSome := by rw [known]; rfl
          rw [step, checkVacant_of_published published]
          exact .comesLate published
  | builds proposal =>
      simp only [step]
      rcases built : proposal.build shared.numbering with ⟨error | registry, numbering⟩
      · exact .breaks built
      · exact .builds built
  | publishes proposal registry =>
      cases known : shared.published with
      | none =>
          rw [step, publish_of_vacant known]
          exact .publishes known
      | some other =>
          have published : shared.published.isSome := by rw [known]; rfl
          rw [step, publish_of_published published]
          exact .loses published
  | takes proposal =>
      obtain ⟨registry, next, answer, published, keeps⟩ := obtain_eq host launcher shared
      rw [step, answer]
      exact .takes published keeps
  | obtains =>
      obtain ⟨registry, next, answer, published, keeps⟩ := obtain_eq host launcher shared
      rw [step, answer]
      exact .obtains published keeps
  | started proposal answer => exact .rests
  | obtained answer => exact .stays

def Call.course (shared : Shared) (call : Call) : Nat → Shared × Call
  | 0 => (shared, call)
  | steps + 1 =>
      let (next, later) := call.step host launcher shared
      later.course next steps

theorem course_of_vacant {shared : Shared} (vacant : shared.published = none)
    (proposal : Proposal) :
    (Call.checks proposal).course host launcher shared 4 =
      match proposal.build shared.numbering with
      | (.error error, numbering) =>
          ({ shared with numbering }, .started proposal (.error error))
      | (.ok registry, numbering) =>
          (⟨some registry, numbering⟩, .started proposal (.ok registry)) := by
  rcases built : proposal.build shared.numbering with ⟨error | registry, numbering⟩
  · simp only [Call.course, Call.step, checkVacant, vacant, built]
  · simp only [Call.course, Call.step, checkVacant, vacant, built, publish, Shared.obtain]

/-- Alone, a proposal takes the course of starting. -/
theorem course_proposal (shared : Shared) (builder : Builder) (environment : Environment) :
    let proposal := builder.proposal environment
    let (answer, next) := shared.start builder environment
    (Call.checks proposal).course host launcher shared 4 = (next, .started proposal answer) := by
  intro proposal
  cases known : shared.published with
  | some registry =>
      simp only [Call.course, Call.step, start, checkVacant, known]
  | none =>
      rw [course_of_vacant host launcher known, Builder.build_proposal]
      simp only [start, checkVacant, known]
      cases (builder.build environment shared.numbering).result with
      | error error => rfl
      | ok registry => simp only [publish]

end

theorem Steps.keeps {shared next : Shared} {call later : Call}
    (steps : shared.Steps call next later) : shared.Keeps [] next := by
  cases steps with
  | goesOn vacant => exact .refl shared
  | comesLate published => exact .refl shared
  | builds built => exact .refl shared
  | breaks broken => exact .refl shared
  | publishes vacant => exact .of_vacant vacant _
  | loses published => exact .refl shared
  | takes published keeps => exact keeps
  | obtains published keeps => exact keeps
  | rests => exact .refl shared
  | stays => exact .refl shared

def Issued (shared : Shared) (asked : List Registry.Request) (registry : Registry) : Prop :=
  ∃ requests, requests <:+ asked ∧ shared.published = some (registry.run requests)

theorem issued_of_published {shared : Shared} {registry : Registry}
    (published : shared.published = some registry) (asked : List Registry.Request) :
    shared.Issued asked registry := ⟨[], List.nil_suffix, published⟩

section

variable {shared next : Shared} {asked requests : List Registry.Request} {registry : Registry}
  {call later : Call}

theorem Issued.isSome (issued : shared.Issued asked registry) : shared.published.isSome := by
  obtain ⟨requests, -, published⟩ := issued
  rw [published]
  rfl

theorem Issued.keep (issued : shared.Issued asked registry) (keeps : shared.Keeps requests next) :
    next.Issued (asked ++ requests) registry := by
  obtain ⟨since, ⟨older, rfl⟩, published⟩ := issued
  refine ⟨since ++ requests, ⟨older, (List.append_assoc older since requests).symm⟩, ?_⟩
  rw [keeps _ published, Registry.run, Registry.run, Registry.run, List.foldl_append]

theorem Keeps.isSome (keeps : shared.Keeps requests next) (published : shared.published.isSome) :
    next.published.isSome := by
  obtain ⟨registry, same⟩ := Option.isSome_iff_exists.mp published
  rw [keeps registry same]
  rfl

def Call.Wins : Call → Prop
  | .takes _ => True
  | .started _ (.ok _) => True
  | _ => False

def Call.Looks (proposal : Proposal) : Call → Prop
  | .checks other => other = proposal
  | .publishes other _ => other = proposal
  | _ => False

def Call.Fits (shared : Shared) (asked : List Registry.Request) : Call → Prop
  | .checks _ => True
  | .builds _ => True
  | .publishes proposal registry => proposal.MayGive (.ok registry)
  | .takes proposal => ∃ built, proposal.MayGive (.ok built) ∧ shared.Issued asked built
  | .started proposal (.ok registry) => shared.Issued asked registry ∧
      ∃ built, proposal.MayGive (.ok built) ∧ shared.Issued asked built
  | .started proposal (.error error) =>
      error = .alreadyInitialized ∧ shared.published.isSome ∨ proposal.MayGive (.error error)
  | .obtains => True
  | .obtained (.ok registry) => shared.Issued asked registry
  | .obtained (.error _) => False

theorem Call.Fits.keep (fits : call.Fits shared asked) (keeps : shared.Keeps requests next) :
    call.Fits next (asked ++ requests) := by
  cases call with
  | checks proposal => trivial
  | builds proposal => trivial
  | publishes proposal registry => exact fits
  | takes proposal =>
      obtain ⟨built, mayGive, issued⟩ := fits
      exact ⟨built, mayGive, issued.keep keeps⟩
  | started proposal answer =>
      cases answer with
      | error error => exact fits.imp_left fun late => ⟨late.1, keeps.isSome late.2⟩
      | ok registry =>
          obtain ⟨given, built, mayGive, issued⟩ := fits
          exact ⟨given.keep keeps, built, mayGive, issued.keep keeps⟩
  | obtains => trivial
  | obtained answer =>
      cases answer with
      | error error => exact fits
      | ok registry => exact Issued.keep fits keeps

theorem Call.Fits.isSome_of_wins (fits : call.Fits shared asked) (wins : call.Wins) :
    shared.published.isSome := by
  cases call with
  | takes proposal =>
      obtain ⟨built, -, issued⟩ := fits
      exact issued.isSome
  | started proposal answer =>
      cases answer with
      | error error => exact wins.elim
      | ok registry => exact fits.1.isSome
  | _ => exact wins.elim

theorem Steps.fits (steps : shared.Steps call next later) (fits : call.Fits shared asked) :
    later.Fits next asked := by
  cases steps with
  | goesOn vacant => trivial
  | comesLate published => exact Or.inl ⟨rfl, published⟩
  | builds built => exact ⟨shared.numbering, by rw [built]⟩
  | breaks broken => exact Or.inr ⟨shared.numbering, by rw [broken]⟩
  | publishes vacant => exact ⟨_, fits, issued_of_published rfl asked⟩
  | loses published => exact Or.inl ⟨rfl, published⟩
  | takes published keeps =>
      obtain ⟨built, mayGive, issued⟩ := fits
      exact ⟨issued_of_published published asked, built, mayGive, by simpa using issued.keep keeps⟩
  | obtains published keeps => exact issued_of_published published asked
  | rests => exact fits
  | stays => exact fits

theorem Steps.looks {proposal : Proposal} (steps : shared.Steps call next later)
    (published : shared.published.isSome) (looks : call.Looks proposal) :
    later = .started proposal (.error .alreadyInitialized) := by
  cases steps with
  | goesOn vacant => simp [vacant] at published
  | comesLate => rw [show _ = proposal from looks]
  | publishes vacant => simp [vacant] at published
  | loses => rw [show _ = proposal from looks]
  | _ => exact looks.elim

theorem Steps.publisher (steps : shared.Steps call next later)
    (vacant : shared.published = none) (published : next.published = some registry)
    (fits : call.Fits shared asked) :
    (∃ proposal, call = .publishes proposal registry ∧ later = .takes proposal) ∨
      (call = .obtains ∧ later = .obtained (.ok registry)) := by
  cases steps with
  | publishes =>
      obtain rfl := Option.some.inj published
      exact Or.inl ⟨_, rfl, rfl⟩
  | takes =>
      obtain ⟨built, -, issued⟩ := fits
      have contrary := issued.isSome
      simp [vacant] at contrary
  | obtains answer =>
      obtain rfl := Option.some.inj (published.symm.trans answer)
      exact Or.inr ⟨rfl, rfl⟩
  | _ =>
      rw [vacant] at published
      cases published

theorem Steps.wins (steps : shared.Steps call next later) (wins : later.Wins) :
    call.Wins ∨ shared.published = none := by
  cases steps with
  | publishes vacant => exact Or.inr vacant
  | takes published keeps => exact Or.inl trivial
  | rests => exact Or.inl wins
  | _ => cases wins

end

/-- The shared registry with all who have called so far. -/
structure Traffic where
  shared : Shared
  calls : List Call

inductive Move where
  | propose (proposal : Proposal)
  | obtain
  | advance (position : Nat) (host : Host)
  | use (request : Registry.Request)

def Move.requests : Move → List Registry.Request
  | .propose _ => []
  | .obtain => []
  | .advance _ _ => []
  | .use request => [request]

def requested (moves : List Move) : List Registry.Request := moves.flatMap Move.requests

namespace Traffic

def opened (numbering : Numbering) : Traffic := ⟨⟨none, numbering⟩, []⟩

section

variable (launcher : Config → Launcher)

def step (traffic : Traffic) : Move → Traffic
  | .propose proposal => { traffic with calls := traffic.calls ++ [.checks proposal] }
  | .obtain => { traffic with calls := traffic.calls ++ [.obtains] }
  | .advance position host =>
      match traffic.calls[position]? with
      | none => traffic
      | some call =>
          let (shared, later) := call.step host launcher traffic.shared
          ⟨shared, traffic.calls.set position later⟩
  | .use request =>
      match traffic.shared.published with
      | none => traffic
      | some registry =>
          { traffic with shared := traffic.shared.update (registry.serve request).2 }

def run (traffic : Traffic) (moves : List Move) : Traffic := moves.foldl (step launcher) traffic

end

def WinsAt (traffic : Traffic) (position : Nat) : Prop :=
  ∃ call, traffic.calls[position]? = some call ∧ call.Wins

structure Governed (asked : List Registry.Request) (traffic : Traffic) : Prop where
  fits : ∀ call ∈ traffic.calls, call.Fits traffic.shared asked
  single : ∀ position other, traffic.WinsAt position → traffic.WinsAt other → position = other

theorem governed_opened (numbering : Numbering) : (opened numbering).Governed [] := by
  constructor
  · simp [opened]
  · rintro position other ⟨call, here, -⟩
    simp [opened] at here

section

variable {launcher : Config → Launcher} {asked : List Registry.Request} {traffic : Traffic}

theorem keeps_step (move : Move) :
    traffic.shared.Keeps move.requests (traffic.step launcher move).shared := by
  cases move with
  | propose proposal => exact .refl _
  | obtain => exact .refl _
  | advance position host =>
      simp only [step]
      split
      · exact .refl _
      · next call here => exact (call.steps host launcher traffic.shared).keeps
  | use request =>
      intro registry published
      simp only [step, published, update]
      rfl

theorem Governed.isSome_of_winsAt (governed : traffic.Governed asked) {position : Nat}
    (winsAt : traffic.WinsAt position) : traffic.shared.published.isSome := by
  obtain ⟨call, here, wins⟩ := winsAt
  exact (governed.fits call (List.mem_of_getElem? here)).isSome_of_wins wins

theorem Governed.arrive (governed : traffic.Governed asked) {call : Call}
    (fits : call.Fits traffic.shared asked) (fresh : ¬ call.Wins) :
    Governed asked { traffic with calls := traffic.calls ++ [call] } := by
  have before : ∀ position, WinsAt { traffic with calls := traffic.calls ++ [call] } position →
      traffic.WinsAt position := by
    rintro position ⟨other, here, wins⟩
    rw [List.getElem?_append] at here
    split at here
    · exact ⟨other, here, wins⟩
    · obtain rfl : other = call := by simpa using List.mem_of_getElem? here
      exact absurd wins fresh
  constructor
  · intro other member
    rcases List.mem_append.mp member with old | new
    · exact governed.fits other old
    · rw [List.mem_singleton.mp new]
      exact fits
  · exact fun position other first second =>
      governed.single position other (before position first) (before other second)

theorem Governed.advance (governed : traffic.Governed asked) {position : Nat} {call later : Call}
    {next : Shared} (here : traffic.calls[position]? = some call)
    (steps : traffic.shared.Steps call next later) :
    Governed asked ⟨next, traffic.calls.set position later⟩ := by
  have before : ∀ place, WinsAt ⟨next, traffic.calls.set position later⟩ place →
      traffic.WinsAt place ∨ (place = position ∧ traffic.shared.published = none) := by
    rintro place ⟨other, there, wins⟩
    by_cases same : place = position
    · subst same
      obtain rfl : later = other := by simpa [(List.getElem?_eq_some_iff.mp here).1] using there
      exact (steps.wins wins).imp (fun won => ⟨call, here, won⟩) fun vacant => ⟨rfl, vacant⟩
    · rw [List.getElem?_set_ne (Ne.symm same)] at there
      exact Or.inl ⟨other, there, wins⟩
  constructor
  · intro other member
    rcases List.mem_or_eq_of_mem_set member with old | rfl
    · simpa using (governed.fits other old).keep steps.keeps
    · exact steps.fits (governed.fits call (List.mem_of_getElem? here))
  · intro place other first second
    rcases before place first with one | ⟨rfl, vacant⟩
    · rcases before other second with two | ⟨rfl, vacant⟩
      · exact governed.single place other one two
      · have published := governed.isSome_of_winsAt one
        simp [vacant] at published
    · rcases before other second with two | ⟨rfl, -⟩
      · have published := governed.isSome_of_winsAt two
        simp [vacant] at published
      · rfl

theorem Governed.step (governed : traffic.Governed asked) (move : Move) :
    (traffic.step launcher move).Governed (asked ++ move.requests) := by
  cases move with
  | propose proposal =>
      rw [Move.requests, List.append_nil]
      exact governed.arrive trivial id
  | obtain =>
      rw [Move.requests, List.append_nil]
      exact governed.arrive trivial id
  | advance position host =>
      rw [Move.requests, List.append_nil]
      simp only [Traffic.step]
      split
      · exact governed
      · next call here => exact governed.advance here (call.steps host launcher traffic.shared)
  | use request =>
      have keeps : traffic.shared.Keeps [request] (traffic.step launcher (.use request)).shared :=
        keeps_step (.use request)
      have same : (traffic.step launcher (.use request)).calls = traffic.calls := by
        simp only [Traffic.step]
        split <;> rfl
      constructor
      · intro call member
        rw [same] at member
        exact (governed.fits call member).keep keeps
      · simpa only [WinsAt, same] using governed.single

theorem keeps_run (moves : List Move) : ∀ traffic : Traffic,
    traffic.shared.Keeps (requested moves) (traffic.run launcher moves).shared := by
  induction moves with
  | nil => intro traffic; exact .refl _
  | cons move rest ih =>
      intro traffic
      exact (keeps_step move).trans (ih (traffic.step launcher move))

theorem Governed.run (moves : List Move) : ∀ {asked : List Registry.Request} {traffic : Traffic},
    traffic.Governed asked →
      (traffic.run launcher moves).Governed (asked ++ requested moves) := by
  induction moves with
  | nil => intro asked traffic governed; simpa [requested, Traffic.run] using governed
  | cons move rest ih =>
      intro asked traffic governed
      simpa [requested, Traffic.run] using ih (governed.step move)

/-- Once a registry is published, what a call has come to by then and cannot lose in its own steps
holds on. -/
theorem run_at {holds : Call → Prop}
    (stays : ∀ {shared next : Shared} {call later : Call}, shared.published.isSome →
      shared.Steps call next later → holds call → holds later) (moves : List Move) :
    ∀ {traffic : Traffic} {position : Nat} {call : Call}, traffic.shared.published.isSome →
      traffic.calls[position]? = some call → holds call →
        ∃ later, (traffic.run launcher moves).calls[position]? = some later ∧ holds later := by
  induction moves with
  | nil => intro traffic position call _ here true; exact ⟨call, here, true⟩
  | cons move rest ih =>
      intro traffic position call published here true
      have bound := (List.getElem?_eq_some_iff.mp here).1
      have later : ∃ later, (traffic.step launcher move).calls[position]? = some later ∧
          holds later := by
        cases move with
        | propose proposal => exact ⟨call, (List.getElem?_append_left bound).trans here, true⟩
        | obtain => exact ⟨call, (List.getElem?_append_left bound).trans here, true⟩
        | advance place host =>
            simp only [Traffic.step]
            split
            · exact ⟨call, here, true⟩
            · next other there =>
                by_cases same : place = position
                · subst same
                  obtain rfl := Option.some.inj (there.symm.trans here)
                  exact ⟨(other.step host launcher traffic.shared).2, by simp [bound],
                    stays published (other.steps host launcher traffic.shared) true⟩
                · exact ⟨call, by rw [List.getElem?_set_ne same, here], true⟩
        | use request =>
            refine ⟨call, ?_, true⟩
            simp only [Traffic.step]
            split <;> exact here
      obtain ⟨next, there, still⟩ := later
      exact ih ((keeps_step move).isSome published) there still

end

/-- Whoever has yet to look when a registry is published will find it. -/
theorem overtaken {launcher : Config → Launcher} {traffic : Traffic}
    (published : traffic.shared.published.isSome) (moves : List Move) {position : Nat}
    {call : Call} (here : traffic.calls[position]? = some call) {proposal : Proposal}
    (looks : call.Looks proposal) :
    (traffic.run launcher moves).calls[position]? = some call ∨
      (traffic.run launcher moves).calls[position]? =
        some (.started proposal (.error .alreadyInitialized)) := by
  let holds : Call → Prop := fun later =>
    later = call ∨ later = .started proposal (.error .alreadyInitialized)
  have stays {shared next : Shared} {earlier later : Call} (known : shared.published.isSome)
      (steps : shared.Steps earlier next later) (before : holds earlier) : holds later := by
    rcases before with rfl | rfl
    · exact Or.inr (steps.looks known looks)
    · cases steps
      exact Or.inr rfl
  obtain ⟨later, there, rfl | rfl⟩ : ∃ later,
      (traffic.run launcher moves).calls[position]? = some later ∧ holds later :=
    run_at stays moves published here (Or.inl rfl)
  · exact Or.inl there
  · exact Or.inr there

structure Orderly (launcher : Config → Launcher) (asked : List Registry.Request)
    (traffic : Traffic) : Prop where
  single : ∀ (position other : Nat) proposal rival registry published,
    traffic.calls[position]? = some (.started proposal (.ok registry)) →
      traffic.calls[other]? = some (.started rival (.ok published)) → position = other
  winner : ∀ (position : Nat) proposal registry,
    traffic.calls[position]? = some (.started proposal (.ok registry)) →
      traffic.shared.Issued asked registry ∧
        ∃ built, proposal.MayGive (.ok built) ∧ traffic.shared.Issued asked built
  asker : ∀ (position : Nat) answer, traffic.calls[position]? = some (.obtained answer) →
    ∃ registry, answer = .ok registry ∧ traffic.shared.Issued asked registry
  loser : ∀ (position : Nat) proposal error,
    traffic.calls[position]? = some (.started proposal (.error error)) →
      error = .alreadyInitialized ∧ traffic.shared.published.isSome ∨
        proposal.MayGive (.error error)
  builder : ∀ (position : Nat) proposal host,
    traffic.calls[position]? = some (.builds proposal) →
      let next := traffic.step launcher (.advance position host)
      next.shared.published = traffic.shared.published ∧
        next.calls[position]? = some (
          match (proposal.build traffic.shared.numbering).1 with
          | .ok registry => .publishes proposal registry
          | .error error => .started proposal (.error error))
  publisher : ∀ move registry, traffic.shared.published = none →
    let next := traffic.step launcher move
    next.shared.published = some registry → ∃ position host, move = .advance position host ∧
      ((∃ proposal, traffic.calls[position]? = some (.publishes proposal registry) ∧
          next.calls[position]? = some (.takes proposal)) ∨
        (traffic.calls[position]? = some .obtains ∧
          next.calls[position]? = some (.obtained (.ok registry))))
  proposer : ∀ proposal registry host, traffic.shared.published = none →
    (proposal.build traffic.shared.numbering).1 = .ok registry →
      let place := traffic.calls.length
      let next := traffic.run launcher
        (.propose proposal :: List.replicate 4 (.advance place host))
      next.shared.published = some registry ∧
        next.calls[place]? = some (.started proposal (.ok registry))
  taker : ∀ (position : Nat) proposal host,
    traffic.calls[position]? = some (.takes proposal) →
      let next := traffic.step launcher (.advance position host)
      ∃ registry, next.shared.published = some registry ∧
        next.calls[position]? = some (.started proposal (.ok registry))
  visitor : ∀ (position : Nat) host, traffic.calls[position]? = some .obtains →
    let next := traffic.step launcher (.advance position host)
    ∃ registry, next.shared.published = some registry ∧
      next.calls[position]? = some (.obtained (.ok registry))

section

variable (launcher : Config → Launcher) (host : Host) {traffic : Traffic} {position : Nat}

theorem step_advance {call : Call} (here : traffic.calls[position]? = some call) :
    traffic.step launcher (.advance position host) =
      ⟨(call.step host launcher traffic.shared).1,
        traffic.calls.set position (call.step host launcher traffic.shared).2⟩ := by
  simp only [step, here]

theorem run_cons (traffic : Traffic) (move : Move) (moves : List Move) :
    traffic.run launcher (move :: moves) = (traffic.step launcher move).run launcher moves := rfl

theorem run_advance (steps : Nat) : ∀ {traffic : Traffic} {call : Call},
    traffic.calls[position]? = some call →
      traffic.run launcher (List.replicate steps (.advance position host)) =
        ⟨(call.course host launcher traffic.shared steps).1,
          traffic.calls.set position (call.course host launcher traffic.shared steps).2⟩ := by
  induction steps with
  | zero =>
      intro traffic call here
      obtain ⟨bound, rfl⟩ := List.getElem?_eq_some_iff.mp here
      simp [run, Call.course]
  | succ steps ih =>
      intro traffic call here
      have bound := (List.getElem?_eq_some_iff.mp here).1
      have there : (traffic.step launcher (.advance position host)).calls[position]? =
          some (call.step host launcher traffic.shared).2 := by
        simp [step_advance launcher host here, bound]
      rw [List.replicate_succ, run_cons, ih there, step_advance launcher host here]
      simp only [Call.course, List.set_set]

variable {asked : List Registry.Request}

theorem propose_of_vacant (vacant : traffic.shared.published = none) {proposal : Proposal}
    {registry : Registry} (built : (proposal.build traffic.shared.numbering).1 = .ok registry) :
    let place := traffic.calls.length
    let next := traffic.run launcher (.propose proposal :: List.replicate 4 (.advance place host))
    next.shared.published = some registry ∧
      next.calls[place]? = some (.started proposal (.ok registry)) := by
  intro place next
  have here : (traffic.step launcher (.propose proposal)).calls[place]? =
      some (.checks proposal) := by simp [step, place]
  rcases outcome : proposal.build traffic.shared.numbering with ⟨result, numbering⟩
  obtain rfl : result = .ok registry := by simpa [outcome] using built
  have course : (Call.checks proposal).course host launcher traffic.shared 4 =
      (⟨some registry, numbering⟩, .started proposal (.ok registry)) := by
    rw [course_of_vacant host launcher vacant, outcome]
  have alone : next = ⟨⟨some registry, numbering⟩,
      (traffic.calls ++ [Call.checks proposal]).set place (.started proposal (.ok registry))⟩ := by
    rw [show next = _ from run_cons launcher traffic _ _, run_advance launcher host 4 here]
    simp only [step, course]
  rw [alone]
  exact ⟨rfl, by simp [place]⟩

theorem taker_of_takes {proposal : Proposal}
    (here : traffic.calls[position]? = some (.takes proposal)) :
    let next := traffic.step launcher (.advance position host)
    ∃ registry, next.shared.published = some registry ∧
      next.calls[position]? = some (.started proposal (.ok registry)) := by
  have bound := (List.getElem?_eq_some_iff.mp here).1
  obtain ⟨registry, next, answer, published, -⟩ := obtain_eq host launcher traffic.shared
  rw [step_advance launcher host here, Call.step, answer]
  exact ⟨registry, published, by simp [bound]⟩

theorem visitor_of_obtains (here : traffic.calls[position]? = some .obtains) :
    let next := traffic.step launcher (.advance position host)
    ∃ registry, next.shared.published = some registry ∧
      next.calls[position]? = some (.obtained (.ok registry)) := by
  have bound := (List.getElem?_eq_some_iff.mp here).1
  obtain ⟨registry, next, answer, published, -⟩ := obtain_eq host launcher traffic.shared
  rw [step_advance launcher host here, Call.step, answer]
  exact ⟨registry, published, by simp [bound]⟩

end

theorem Governed.publisher {launcher : Config → Launcher} {asked : List Registry.Request}
    {traffic : Traffic} (governed : traffic.Governed asked)
    (vacant : traffic.shared.published = none) {move : Move} {registry : Registry}
    (published : (traffic.step launcher move).shared.published = some registry) :
    ∃ position host, move = .advance position host ∧
      ((∃ proposal, traffic.calls[position]? = some (.publishes proposal registry) ∧
          (traffic.step launcher move).calls[position]? = some (.takes proposal)) ∨
        (traffic.calls[position]? = some .obtains ∧
          (traffic.step launcher move).calls[position]? = some (.obtained (.ok registry)))) := by
  cases move with
  | propose proposal => simp [Traffic.step, vacant] at published
  | obtain => simp [Traffic.step, vacant] at published
  | use request => simp [Traffic.step, vacant] at published
  | advance position host =>
      cases here : traffic.calls[position]? with
      | none => simp [Traffic.step, here, vacant] at published
      | some call =>
          have bound := (List.getElem?_eq_some_iff.mp here).1
          have fits := governed.fits call (List.mem_of_getElem? here)
          have steps := call.steps host launcher traffic.shared
          rw [step_advance launcher host here] at published ⊢
          refine ⟨position, host, rfl, ?_⟩
          rcases steps.publisher vacant published fits with ⟨proposal, rfl, later⟩ | ⟨rfl, later⟩
          · exact Or.inl ⟨proposal, here, by simp [bound, later]⟩
          · exact Or.inr ⟨here, by simp [bound, later]⟩

theorem Governed.orderly {asked : List Registry.Request} {traffic : Traffic}
    (governed : traffic.Governed asked) (launcher : Config → Launcher) :
    traffic.Orderly launcher asked := by
  have fits {position : Nat} {call : Call} (here : traffic.calls[position]? = some call) :
      call.Fits traffic.shared asked := governed.fits call (List.mem_of_getElem? here)
  constructor
  · intro position other proposal rival registry published here there
    exact governed.single position other ⟨_, here, trivial⟩ ⟨_, there, trivial⟩
  · intro position proposal registry here
    exact fits here
  · intro position answer here
    cases answer with
    | error error => exact (fits here).elim
    | ok registry => exact ⟨registry, rfl, fits here⟩
  · intro position proposal error here
    exact fits here
  · intro position proposal host here
    have bound := (List.getElem?_eq_some_iff.mp here).1
    rw [step_advance launcher host here]
    rcases built : proposal.build traffic.shared.numbering with ⟨error | registry, numbering⟩
    · simp [Call.step, built, bound]
    · simp [Call.step, built, bound]
  · intro move registry vacant next published
    exact governed.publisher vacant published
  · intro proposal registry host vacant built
    exact propose_of_vacant launcher host vacant built
  · intro position proposal host here
    exact taker_of_takes launcher host here
  · intro position host here
    exact visitor_of_obtains launcher host here

/-- However many callers there are, in whatever order they and the users of the published registry
take their turns, it has been orderly at any time, what has been published by then stays published
and changes by requests alone, and whoever has yet to look for it will find it. -/
theorem orderly_run (launcher : Config → Launcher) (numbering : Numbering)
    (earlier later : List Move) :
    let before := (opened numbering).run launcher earlier
    let now := before.run launcher later
    before.Orderly launcher (requested earlier) ∧
      before.shared.Keeps (requested later) now.shared ∧
      (before.shared.published.isSome → ∀ (position : Nat) call proposal,
        before.calls[position]? = some call → call.Looks proposal →
          now.calls[position]? = some call ∨
            now.calls[position]? = some (.started proposal (.error .alreadyInitialized))) := by
  intro before now
  have governed : before.Governed (requested earlier) :=
    (governed_opened numbering).run earlier
  refine ⟨governed.orderly launcher, keeps_run later before, ?_⟩
  intro published position call proposal here looks
  exact overtaken published later here looks

end Traffic

end Shared

end ArtifactTools
