import ArtifactTools.Proofs.Registry.Insertion

/-! Registrations that race. Any number of threads insert transformers into one registry, a check or
a write at a time, and who is not holding the lock has to wait for it. Which transformers come in
depends on the order in which the lock is taken. In every order each insertion comes to what it
would have come to at once, and what comes in is a choice without clashes that nothing can be added
to. -/

namespace ArtifactTools

def Transformer.Clashes (first second : Transformer) : Prop :=
  first.id = second.id ∨ first.name = second.name

structure LockHolder where
  thread : Nat
  transformer : Transformer
  insertion : Registry.Insertion

/-- Threads that have yet to insert some transformers each, and what came of the insertions that are
over, in the order in which they had the lock. -/
structure Race where
  registry : Registry
  waiting : List (List Transformer)
  holder : Option LockHolder
  outcomes : List (Transformer × Except TransformerError Ref)

namespace Race

def opened (registry : Registry) (threads : List (List Transformer)) : Race :=
  ⟨registry, threads, none, []⟩

def step (race : Race) (thread : Nat) : Race :=
  match race.holder with
  | none =>
      match race.waiting[thread]? with
      | some (transformer :: rest) =>
          { race with
            waiting := race.waiting.set thread rest
            holder := some ⟨thread, transformer, .checksId⟩ }
      | _ => race
  | some holder =>
      if holder.thread = thread then
        match holder.insertion with
        | .ended answer =>
            { race with
              holder := none
              outcomes := race.outcomes ++ [(holder.transformer, answer)] }
        | insertion =>
            let (registry, insertion) := insertion.step holder.transformer race.registry
            { race with registry, holder := some { holder with insertion } }
      else race

def run (race : Race) (schedule : List Nat) : Race := schedule.foldl step race

def accepted (outcomes : List (Transformer × Except TransformerError Ref)) : List Transformer :=
  outcomes.filterMap fun
    | (transformer, .ok _) => some transformer
    | (_, .error _) => none

theorem accepted_append_ok (outcomes : List (Transformer × Except TransformerError Ref))
    (transformer : Transformer) (ref : Ref) :
    accepted (outcomes ++ [(transformer, .ok ref)]) = accepted outcomes ++ [transformer] := by
  simp [accepted]

theorem accepted_append_error (outcomes : List (Transformer × Except TransformerError Ref))
    (transformer : Transformer) (error : TransformerError) :
    accepted (outcomes ++ [(transformer, .error error)]) = accepted outcomes := by
  simp [accepted]

theorem accepted_subset (outcomes : List (Transformer × Except TransformerError Ref)) :
    accepted outcomes ⊆ outcomes.map (·.1) := by
  intro transformer member
  obtain ⟨⟨other, answer⟩, known, same⟩ := List.mem_filterMap.mp member
  cases answer with
  | error error => cases same
  | ok ref =>
      cases same
      exact List.mem_map.mpr ⟨_, known, rfl⟩

/-- Insertions made whole, one after the other, and what came of each. -/
inductive InTurn (start : Registry) :
    Registry → List (Transformer × Except TransformerError Ref) → Prop
  | nil : InTurn start start []
  | refused {base outcomes transformer error} : InTurn start base outcomes →
      base.insert transformer = .error error →
      InTurn start base (outcomes ++ [(transformer, .error error)])
  | accepted {base outcomes transformer ref next} : InTurn start base outcomes →
      base.insert transformer = .ok (ref, next) →
      InTurn start next (outcomes ++ [(transformer, .ok ref)])

structure Records (start base : Registry)
    (outcomes : List (Transformer × Except TransformerError Ref)) : Prop where
  knows : base.Knows
  entries : base.entries = start.entries ++ accepted outcomes
  issued : ∀ transformer ref, (transformer, .ok ref) ∈ outcomes → ∃ index,
    base.Holds index transformer ∧ ref = base.refOf index transformer
  apart : (accepted outcomes).Pairwise fun first second => ¬ first.Clashes second
  fresh : ∀ transformer ∈ accepted outcomes, ∀ old ∈ start.entries, ¬ transformer.Clashes old
  refused : ∀ transformer error, (transformer, .error error) ∈ outcomes →
    ∃ other ∈ start.entries ++ accepted outcomes,
      (error = .duplicateIdentifier transformer.id ∧ transformer.id = other.id) ∨
        (error = .duplicateName transformer.name ∧ transformer.name = other.name)

section

variable {start base next : Registry} {transformer : Transformer}
  {outcomes : List (Transformer × Except TransformerError Ref)}

theorem records_start (knows : start.Knows) : Records start start [] := by
  constructor
  · exact knows
  · simp [accepted]
  · simp
  · simp [accepted]
  · simp [accepted]
  · simp

theorem Records.refuse (records : Records start base outcomes) {error : TransformerError}
    (refused : base.insert transformer = .error error) :
    Records start base (outcomes ++ [(transformer, .error error)]) := by
  have same := accepted_append_error outcomes transformer error
  constructor
  · exact records.knows
  · rw [same]
    exact records.entries
  · intro other ref known
    exact records.issued other ref (by simpa using known)
  · rw [same]
    exact records.apart
  · rw [same]
    exact records.fresh
  · intro other cause known
    rw [same]
    rcases List.mem_append.mp known with before | last
    · exact records.refused other cause before
    · obtain ⟨rfl, rfl⟩ : other = transformer ∧ cause = error := by simpa using last
      rw [← records.entries]
      rcases records.knows.insert_cases other with ⟨taken, answer⟩ | ⟨-, taken, answer⟩ |
        ⟨-, -, answer⟩
      · rw [refused, Except.error.injEq] at answer
        obtain ⟨entry, member, same⟩ := List.mem_map.mp taken
        exact ⟨entry, member, Or.inl ⟨answer, same.symm⟩⟩
      · rw [refused, Except.error.injEq] at answer
        obtain ⟨entry, member, same⟩ := List.mem_map.mp taken
        exact ⟨entry, member, Or.inr ⟨answer, same.symm⟩⟩
      · rw [refused] at answer
        cases answer

theorem Records.accept (records : Records start base outcomes) {ref : Ref}
    (inserted : base.insert transformer = .ok (ref, next)) :
    Records start next (outcomes ++ [(transformer, .ok ref)]) := by
  obtain ⟨freshId, freshName, rfl, rfl⟩ := records.knows.of_insert inserted
  have apart : ∀ old ∈ base.entries, ¬ transformer.Clashes old := by
    rintro old member (sameId | sameName)
    · exact freshId (List.mem_map.mpr ⟨old, member, sameId.symm⟩)
    · exact freshName (List.mem_map.mpr ⟨old, member, sameName.symm⟩)
  rw [records.entries] at apart
  have more := accepted_append_ok outcomes transformer (base.refOf base.size transformer)
  constructor
  · exact records.knows.extended transformer
  · rw [more, ← List.append_assoc, ← records.entries]
    rfl
  · intro other ref known
    rcases List.mem_append.mp known with before | last
    · obtain ⟨index, holds, issued⟩ := records.issued other ref before
      refine ⟨index, ?_, issued⟩
      exact (List.getElem?_append_left holds.lt_size).trans holds
    · obtain ⟨rfl, rfl⟩ : other = transformer ∧ ref = base.refOf base.size transformer := by
        simpa using last
      exact ⟨base.size, by simp [Registry.Holds, Registry.extended, Registry.size], rfl⟩
  · rw [more, List.pairwise_append]
    refine ⟨records.apart, List.pairwise_singleton _ _, ?_⟩
    intro first before second last
    rw [List.mem_singleton.mp last]
    have clear := apart first (List.mem_append_right _ before)
    exact fun clash => clear (clash.imp Eq.symm Eq.symm)
  · rw [more]
    intro other member old there
    rcases List.mem_append.mp member with before | last
    · exact records.fresh other before old there
    · rw [List.mem_singleton.mp last]
      exact apart old (List.mem_append_left _ there)
  · intro other error known
    have before : (other, Except.error error) ∈ outcomes := by simpa using known
    obtain ⟨entry, member, reason⟩ := records.refused other error before
    rw [more, ← List.append_assoc]
    exact ⟨entry, List.mem_append_left _ member, reason⟩

theorem InTurn.records (inTurn : InTurn start base outcomes) (knows : start.Knows) :
    Records start base outcomes := by
  induction inTurn with
  | nil => exact records_start knows
  | refused _ refused ih => exact ih.refuse refused
  | accepted _ inserted ih => exact ih.accept inserted

end

def seen (race : Race) : List Transformer :=
  race.outcomes.map (·.1) ++ ((race.holder.map (·.transformer)).toList ++ race.waiting.flatten)

structure Follows (start : Registry) (threads : List (List Transformer)) (base : Registry)
    (race : Race) : Prop where
  inTurn : InTurn start base race.outcomes
  free : race.holder = none → race.registry = base
  held : ∀ holder, race.holder = some holder →
    Registry.Insertion.Reaches holder.transformer base race.registry holder.insertion
  seen : race.seen.Perm threads.flatten

theorem follows_opened (start : Registry) (threads : List (List Transformer)) :
    Follows start threads start (opened start threads) := by
  constructor
  · exact .nil
  · intro _
    rfl
  · simp [opened]
  · simp [seen, opened]

theorem perm_flatten_set {waiting : List (List Transformer)} {thread : Nat}
    {transformer : Transformer} {rest : List Transformer}
    (next : waiting[thread]? = some (transformer :: rest)) :
    (transformer :: (waiting.set thread rest).flatten).Perm waiting.flatten := by
  induction waiting generalizing thread with
  | nil => simp at next
  | cons first others ih =>
      cases thread with
      | zero =>
          obtain rfl : first = transformer :: rest := by simpa using next
          simp
      | succ thread =>
          have later := ih (by simpa using next)
          simp only [List.set_cons_succ, List.flatten_cons]
          exact List.perm_middle.symm.trans (later.append_left first)

section

variable {start base : Registry} {threads : List (List Transformer)} {race : Race}
  (follows : Follows start threads base race)

include follows

theorem Follows.take (vacant : race.holder = none) {thread : Nat} {transformer : Transformer}
    {rest : List Transformer} (next : race.waiting[thread]? = some (transformer :: rest)) :
    Follows start threads base { race with
      waiting := race.waiting.set thread rest
      holder := some ⟨thread, transformer, .checksId⟩ } := by
  constructor
  · exact follows.inTurn
  · simp
  · intro holder same
    obtain rfl := Option.some.inj same
    rw [follows.free vacant]
    exact .checksId
  · have known := follows.seen
    simp only [Race.seen, vacant, Option.map_none, Option.toList_none, List.nil_append] at known
    exact ((perm_flatten_set next).append_left _).trans known

theorem Follows.release {holder : LockHolder} (held : race.holder = some holder)
    {answer : Except TransformerError Ref} (ended : holder.insertion = .ended answer) :
    ∃ base, Follows start threads base { race with
      holder := none
      outcomes := race.outcomes ++ [(holder.transformer, answer)] } := by
  have known : (race.outcomes.map (·.1) ++ ([holder.transformer] ++ race.waiting.flatten)).Perm
      threads.flatten := by
    have all := follows.seen
    simpa only [Race.seen, held, Option.map_some, Option.toList_some] using all
  have reaches := follows.held holder held
  rw [ended] at reaches
  rcases reaches.ended with ⟨error, refused, rfl, same⟩ | ⟨ref, inserted, rfl⟩
  · refine ⟨base, follows.inTurn.refused refused, fun _ => same, by simp, ?_⟩
    simpa [Race.seen] using known
  · refine ⟨race.registry, follows.inTurn.accepted inserted, fun _ => rfl, by simp, ?_⟩
    simpa [Race.seen] using known

theorem Follows.goOn {holder : LockHolder} (held : race.holder = some holder) :
    let next := holder.insertion.step holder.transformer race.registry
    Follows start threads base { race with
      registry := next.1
      holder := some { holder with insertion := next.2 } } := by
  constructor
  · exact follows.inTurn
  · simp
  · intro later same
    obtain rfl := Option.some.inj same
    exact (follows.held holder held).step
  · have all := follows.seen
    simpa only [Race.seen, held, Option.map_some] using all

theorem Follows.step (thread : Nat) : ∃ base, Follows start threads base (race.step thread) := by
  unfold Race.step
  split
  · next vacant =>
      split
      · next transformer rest next => exact ⟨base, follows.take vacant next⟩
      · exact ⟨base, follows⟩
  · next holder held =>
      split
      · split
        · next answer ended => exact follows.release held ended
        · exact ⟨base, follows.goOn held⟩
      · exact ⟨base, follows⟩

end

theorem Follows.run {start : Registry} {threads : List (List Transformer)} (schedule : List Nat) :
    ∀ {base : Registry} {race : Race}, Follows start threads base race →
      ∃ base, Follows start threads base (race.run schedule) := by
  induction schedule with
  | nil => intro base race follows; exact ⟨base, follows⟩
  | cons thread rest ih =>
      intro base race follows
      obtain ⟨next, later⟩ := follows.step thread
      exact ih later

structure Fits (start : Registry) (choice : List Transformer) : Prop where
  fresh : ∀ transformer ∈ choice, ∀ old ∈ start.entries, ¬ transformer.Clashes old
  apart : ∀ first ∈ choice, ∀ second ∈ choice, first.Clashes second → first = second

structure Settled (start : Registry) (threads : List (List Transformer)) (race : Race) : Prop where
  /-- In the order of the lock, each insertion came to what `insert` says. -/
  inTurn : InTurn start race.registry race.outcomes
  complete : (race.outcomes.map (·.1) ++ race.waiting.flatten).Perm threads.flatten
  entries : race.registry.entries = start.entries ++ accepted race.outcomes
  issued : ∀ transformer ref, (transformer, .ok ref) ∈ race.outcomes → ∃ index,
    race.registry.Holds index transformer ∧ ref = race.registry.refOf index transformer
  apart : (accepted race.outcomes).Pairwise fun first second =>
    first.id ≠ second.id ∧ first.name ≠ second.name
  fresh : ∀ transformer ∈ accepted race.outcomes,
    transformer.id ∉ start.ids ∧ transformer.name ∉ start.names
  refused : ∀ transformer error, (transformer, .error error) ∈ race.outcomes →
    ∃ other ∈ start.entries ++ accepted race.outcomes,
      (error = .duplicateIdentifier transformer.id ∧ transformer.id = other.id) ∨
        (error = .duplicateName transformer.name ∧ transformer.name = other.name)
  maximal : ∀ choice, Fits start choice → accepted race.outcomes ⊆ choice →
    choice ⊆ race.outcomes.map (·.1) → choice ⊆ accepted race.outcomes
  /-- Of transformers that all have one new id, and new names, one comes in. -/
  single : ∀ id, id ∉ start.ids →
    (∀ transformer ∈ threads.flatten, transformer.id = id ∧ transformer.name ∉ start.names) →
      race.outcomes ≠ [] → ∃ winner, accepted race.outcomes = [winner] ∧
        race.registry.size = start.size + 1

section

variable {start base : Registry} {outcomes : List (Transformer × Except TransformerError Ref)}
  (records : Records start base outcomes)

include records

theorem Records.not_mem_names {transformer : Transformer}
    (member : transformer ∈ accepted outcomes) :
    transformer.id ∉ start.ids ∧ transformer.name ∉ start.names := by
  constructor
  · intro taken
    obtain ⟨old, there, same⟩ := List.mem_map.mp taken
    exact records.fresh transformer member old there (Or.inl same.symm)
  · intro taken
    obtain ⟨old, there, same⟩ := List.mem_map.mp taken
    exact records.fresh transformer member old there (Or.inr same.symm)

theorem Records.maximal {choice : List Transformer} (fits : Fits start choice)
    (whole : accepted outcomes ⊆ choice) (seen : choice ⊆ outcomes.map (·.1)) :
    choice ⊆ accepted outcomes := by
  intro transformer member
  obtain ⟨⟨other, answer⟩, known, rfl⟩ := List.mem_map.mp (seen member)
  cases answer with
  | ok ref => exact List.mem_filterMap.mpr ⟨_, known, rfl⟩
  | error error =>
      obtain ⟨entry, there, reason⟩ := records.refused other error known
      have clash : other.Clashes entry := reason.imp And.right And.right
      rcases List.mem_append.mp there with old | new
      · exact absurd clash (fits.fresh other member entry old)
      · obtain rfl := fits.apart other member entry (whole new) clash
        exact new

/-- Whoever had the lock first comes in, as nothing clashes with it, and all others share its id. -/
theorem Records.single {id : String} (new : id ∉ start.ids)
    (alike : ∀ transformer ∈ outcomes.map (·.1),
      transformer.id = id ∧ transformer.name ∉ start.names)
    (begun : outcomes ≠ []) : ∃ winner, accepted outcomes = [winner] := by
  have sameId : ∀ transformer ∈ accepted outcomes, transformer.id = id := fun transformer member =>
    (alike transformer (accepted_subset outcomes member)).1
  rcases same : accepted outcomes with _ | ⟨winner, _ | ⟨other, rest⟩⟩
  · obtain ⟨⟨transformer, answer⟩, more, rfl⟩ := List.exists_cons_of_ne_nil begun
    obtain ⟨hasId, freeName⟩ := alike transformer (by simp)
    cases answer with
    | ok ref => simp [accepted] at same
    | error error =>
        obtain ⟨old, there, reason⟩ := records.refused transformer error (by simp)
        rw [same, List.append_nil] at there
        rcases reason with ⟨-, clash⟩ | ⟨-, clash⟩
        · exact absurd (List.mem_map.mpr ⟨old, there, clash.symm.trans hasId⟩) new
        · exact absurd (List.mem_map.mpr ⟨old, there, clash.symm⟩) freeName
  · exact ⟨winner, rfl⟩
  · have apart := records.apart
    rw [same] at apart sameId
    have clash : winner.Clashes other := Or.inl ((sameId winner (by simp)).trans
      (sameId other (by simp)).symm)
    exact absurd clash (List.rel_of_pairwise_cons apart (by simp))

end

theorem Follows.settled {start base : Registry} {threads : List (List Transformer)} {race : Race}
    (follows : Follows start threads base race) (knows : start.Knows)
    (free : race.holder = none) : Settled start threads race := by
  have records := follows.inTurn.records knows
  have same := follows.free free
  have complete : (race.outcomes.map (·.1) ++ race.waiting.flatten).Perm threads.flatten := by
    simpa [Race.seen, free] using follows.seen
  constructor
  · rw [same]
    exact follows.inTurn
  · exact complete
  · rw [same]
    exact records.entries
  · rw [same]
    exact records.issued
  · exact records.apart.imp fun clear => not_or.mp clear
  · exact fun transformer member => records.not_mem_names member
  · exact records.refused
  · exact fun choice fits whole seen => records.maximal fits whole seen
  · intro id new alike begun
    have among : ∀ transformer ∈ race.outcomes.map (·.1),
        transformer.id = id ∧ transformer.name ∉ start.names := fun transformer member =>
      alike transformer (complete.subset (List.mem_append_left _ member))
    obtain ⟨winner, alone⟩ := records.single new among begun
    refine ⟨winner, alone, ?_⟩
    rw [same, Registry.size, records.entries, alone, List.length_append]
    rfl

/-- A thread that finds the lock free and is not disturbed makes its next insertion whole. -/
theorem exists_run_alone {race : Race} (vacant : race.holder = none) {thread : Nat}
    {transformer : Transformer} {rest : List Transformer}
    (next : race.waiting[thread]? = some (transformer :: rest)) :
    ∃ steps answer registry, InTurn race.registry registry [(transformer, answer)] ∧
      race.run (List.replicate steps thread) =
        { race with
          registry
          waiting := race.waiting.set thread rest
          outcomes := race.outcomes ++ [(transformer, answer)] } := by
  cases takenId : race.registry.containsId transformer.id with
  | true =>
      refine ⟨3, _, _, .refused .nil (Registry.Insertion.insert_of_takenId takenId), ?_⟩
      simp [run, step, List.replicate, vacant, next, Registry.Insertion.step, takenId]
  | false =>
      cases takenName : race.registry.containsName transformer.name with
      | true =>
          refine ⟨4, _, _, .refused .nil
            (Registry.Insertion.insert_of_takenName takenId takenName), ?_⟩
          simp [run, step, List.replicate, vacant, next, Registry.Insertion.step, takenId,
            takenName]
      | false =>
          have passes : Registry.Insertion.Passes transformer race.registry :=
            ⟨takenId, takenName⟩
          refine ⟨7, _, _, .accepted .nil passes.insert, ?_⟩
          simp [run, step, List.replicate, vacant, next, Registry.Insertion.step, takenId,
            takenName, Registry.extended, Registry.refOf]

/-- However many threads race on a registry that began empty and has served any requests, and
however their checks and writes are scheduled: whenever the lock is free, the race is settled. -/
theorem race_settled (number : UInt32) (requests : List Registry.Request)
    (threads : List (List Transformer)) (schedule : List Nat) :
    let start := (Registry.empty number).run requests
    let race := (opened start threads).run schedule
    race.holder = none → Settled start threads race := by
  intro start race free
  have knows := (Registry.sound_run_empty number requests).toIndexed.knows
  obtain ⟨base, follows⟩ := (follows_opened start threads).run schedule
  exact follows.settled knows free

/-- The second of three threads is the fastest, and keeps both of the others out. -/
theorem race_settled_chain :
    let named (id name : String) : Transformer :=
      ⟨0, id, name, .other, .empty, fun _ => true, fun _ _ services => (.unsupported, services)⟩
    let start := (Registry.empty 0).run []
    let threads := [[named "hex" "Hex"], [named "hex" "Text"], [named "text" "Text"]]
    let schedule := [1, 0, 2] ++ List.replicate 7 1 ++ List.replicate 4 2 ++ List.replicate 3 0
    let race := (opened start threads).run schedule
    race.holder = none ∧ Settled start threads race ∧
      (accepted race.outcomes).map (fun winner => (winner.id, winner.name)) = [("hex", "Text")] := by
  intro named start threads schedule race
  have free : race.holder = none := Option.isNone_iff_eq_none.mp (by decide +kernel)
  exact ⟨free, race_settled 0 [] threads schedule free, by decide +kernel⟩

end Race

end ArtifactTools
