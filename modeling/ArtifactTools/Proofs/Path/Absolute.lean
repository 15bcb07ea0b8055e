import ArtifactTools.Host
import ArtifactTools.Proofs.Path

/-! Absolute forms of paths. Such a form is written with a slash at its head, or two where just these
were given, then names between single slashes, and a slash at the end where one was given. Its own
absolute form is the same from any working directory. From a working directory that begins with a
slash, every form begins with one. -/

namespace ArtifactTools.Path

structure IsLeading (part : Octets) : Prop where
  moves : isIdle part = false
  plain : slash ∉ part

def names (path : Path) : List Octets := (segments path.octets).filter fun part => !isIdle part

def head (isDouble : Bool) : Octets := if isDouble then [slash, slash] else [slash]

/-- A path written out from its names: whether two slashes stand at its head, and whether one follows
the last name. -/
def spell (isDouble : Bool) (names : List Octets) (isMarked : Bool) : Path :=
  ⟨head isDouble ++ joinSegments (if isMarked && !names.isEmpty then names ++ [[]] else names)⟩

/-! Parts and slashes. -/

theorem plain_of_mem_segments (octets : Octets) : ∀ part ∈ segments octets, slash ∉ part := by
  induction octets with
  | nil => simp [segments]
  | cons octet rest ih =>
      rw [segments]
      split
      · simpa using ih
      · next visible =>
          split
          · simpa using Ne.symm visible
          · next first others parts =>
              rw [parts] at ih
              have plain := ih first List.mem_cons_self
              refine List.forall_mem_cons.mpr ⟨?_, fun part member => ih part (.tail _ member)⟩
              simpa using ⟨Ne.symm visible, plain⟩

theorem isLeading_of_mem_names {path : Path} {name : Octets} (member : name ∈ path.names) :
    IsLeading name := by
  obtain ⟨part, moves⟩ := List.mem_filter.mp member
  exact ⟨by simpa using moves, plain_of_mem_segments _ _ part⟩

theorem segments_of_plain {part : Octets} (plain : slash ∉ part) : segments part = [part] := by
  induction part with
  | nil => rfl
  | cons octet rest ih =>
      obtain ⟨visible, plainRest⟩ := not_or.mp (List.mem_cons.not.mp plain)
      rw [segments, if_neg (Ne.symm visible), ih plainRest]

theorem segments_append {part : Octets} (plain : slash ∉ part) (rest : Octets) :
    segments (part ++ slash :: rest) = part :: segments rest := by
  induction part with
  | nil => rfl
  | cons octet others ih =>
      obtain ⟨visible, plainOthers⟩ := not_or.mp (List.mem_cons.not.mp plain)
      rw [List.cons_append, segments, if_neg (Ne.symm visible), ih plainOthers]

theorem joinSegments_singleton (part : Octets) : joinSegments [part] = part := by
  simp [joinSegments]

theorem joinSegments_cons (part : Octets) {parts : List Octets} (more : parts ≠ []) :
    joinSegments (part :: parts) = part ++ slash :: joinSegments parts := by
  cases parts with
  | nil => exact absurd rfl more
  | cons next others => simp [joinSegments, List.intersperse]

theorem joinSegments_append {parts more : List Octets} (nonempty : parts ≠ [])
    (others : more ≠ []) :
    joinSegments (parts ++ more) = joinSegments parts ++ slash :: joinSegments more := by
  induction parts with
  | nil => exact absurd rfl nonempty
  | cons part rest ih =>
      by_cases last : rest = []
      · subst last
        rw [List.singleton_append, joinSegments_cons part others, joinSegments_singleton]
      · have joined : rest ++ more ≠ [] := by simp [last]
        rw [List.cons_append, joinSegments_cons part joined, ih last, joinSegments_cons part last,
          List.append_assoc, List.cons_append]

theorem segments_joinSegments {parts : List Octets} (nonempty : parts ≠ [])
    (plain : ∀ part ∈ parts, slash ∉ part) : segments (joinSegments parts) = parts := by
  induction parts with
  | nil => exact absurd rfl nonempty
  | cons part rest ih =>
      have plainPart := plain part List.mem_cons_self
      by_cases last : rest = []
      · subst last
        rw [joinSegments_singleton, segments_of_plain plainPart]
      · rw [joinSegments_cons part last, segments_append plainPart,
          ih last fun part member => plain part (.tail _ member)]

theorem leading_segments_joinSegments {parts : List Octets}
    (plain : ∀ part ∈ parts, slash ∉ part) :
    leading (segments (joinSegments parts)) = leading parts := by
  rcases eq_or_ne parts [] with rfl | nonempty
  · rfl
  · rw [segments_joinSegments nonempty plain]

theorem leading_of_isLeading {names : List Octets} (lead : ∀ name ∈ names, IsLeading name) :
    leading names = names.map componentOf := by
  rw [leading, List.filter_eq_self.mpr]
  intro name member
  simp [(lead name member).moves]

theorem leading_segments (path : Path) :
    leading (segments path.octets) = path.names.map componentOf := rfl

theorem text_componentOf (part : Octets) : (componentOf part).text = part := by
  unfold componentOf
  split
  · next double => exact double.symm
  · rfl

theorem IsLeading.ne_nil {name : Octets} (lead : IsLeading name) : name ≠ [] := by
  rintro rfl
  exact absurd lead.moves (by simp [isIdle])

/-! Paths that are written out. -/

theorem octets_spell_marked {names : List Octets} (nonempty : names ≠ []) (isDouble : Bool) :
    (spell isDouble names true).octets = (spell isDouble names false).octets ++ [slash] := by
  have listed : names.isEmpty = false := by simpa using nonempty
  simp only [spell, listed, Bool.not_false, Bool.and_self, if_true, Bool.false_and,
    Bool.false_eq_true, if_false]
  rw [joinSegments_append nonempty (by simp), joinSegments_singleton, List.append_assoc]

theorem spell_nil (isDouble isMarked : Bool) : spell isDouble [] isMarked = ⟨head isDouble⟩ := by
  simp [spell, joinSegments]

theorem isAbsolute_spell (isDouble : Bool) (names : List Octets) (isMarked : Bool) :
    (spell isDouble names isMarked).isAbsolute = true := by
  cases isDouble <;> simp [isAbsolute, spell, head]

section

variable {names : List Octets} (lead : ∀ name ∈ names, IsLeading name)

include lead

theorem exists_end_joinSegments (nonempty : names ≠ []) :
    ∃ before last, last ≠ slash ∧ joinSegments names = before ++ [last] := by
  induction names with
  | nil => exact absurd rfl nonempty
  | cons name rest ih =>
      by_cases last : rest = []
      · subst last
        have leadName := lead name List.mem_cons_self
        have written := List.dropLast_append_getLast leadName.ne_nil
        refine ⟨name.dropLast, name.getLast leadName.ne_nil, ?_, ?_⟩
        · exact fun same => leadName.plain (same ▸ List.getLast_mem leadName.ne_nil)
        · rw [joinSegments_singleton, written]
      · obtain ⟨before, octet, visible, joined⟩ :=
          ih (fun name member => lead name (.tail _ member)) last
        refine ⟨name ++ slash :: before, octet, visible, ?_⟩
        rw [joinSegments_cons name last, joined, List.append_assoc, List.cons_append]

theorem exists_start_joinSegments (nonempty : names ≠ []) :
    ∃ first after, first ≠ slash ∧ joinSegments names = first :: after := by
  obtain ⟨name, rest, rfl⟩ := List.exists_cons_of_ne_nil nonempty
  have leadName := lead name List.mem_cons_self
  obtain ⟨first, others, rfl⟩ := List.exists_cons_of_ne_nil leadName.ne_nil
  have visible : first ≠ slash := fun same => leadName.plain (by simp [same])
  by_cases last : rest = []
  · exact ⟨first, others, visible, by rw [last, joinSegments_singleton]⟩
  · exact ⟨first, _, visible, joinSegments_cons _ last⟩

theorem endsWithSlash_spell (nonempty : names ≠ []) (isDouble isMarked : Bool) :
    (spell isDouble names isMarked).endsWithSlash = isMarked := by
  cases isMarked with
  | true => simp [endsWithSlash, octets_spell_marked nonempty]
  | false =>
      obtain ⟨before, last, visible, joined⟩ := exists_end_joinSegments lead nonempty
      simp [spell, endsWithSlash, joined, visible]

theorem beginsWithTwoSlashes_spell (isDouble isMarked : Bool) :
    (spell isDouble names isMarked).beginsWithTwoSlashes = isDouble := by
  rcases eq_or_ne names [] with rfl | nonempty
  · rw [spell_nil]
    cases isDouble <;> rfl
  · obtain ⟨first, after, visible, joined⟩ := exists_start_joinSegments lead nonempty
    cases isMarked <;> cases isDouble <;>
      simp [beginsWithTwoSlashes, spell, head, nonempty, joined, visible, joinSegments_append]

theorem components_spell (isDouble isMarked : Bool) :
    (spell isDouble names isMarked).components = .root :: names.map componentOf := by
  let parts := if isMarked && !names.isEmpty then names ++ [[]] else names
  have plain : ∀ part ∈ parts, slash ∉ part := by
    intro part member
    have listed : part ∈ names ∨ part = [] := by
      simp only [parts] at member
      split at member
      · simpa using member
      · exact Or.inl member
    rcases listed with listed | rfl
    · exact (lead part listed).plain
    · exact List.not_mem_nil
  have leads : leading parts = names.map componentOf := by
    rw [← leading_of_isLeading lead]
    simp only [parts]
    split
    · simp [leading, isIdle]
    · rfl
  have headed : leading (segments (spell isDouble names isMarked).octets) = leading parts := by
    rw [← leading_segments_joinSegments plain]
    cases isDouble <;> simp [spell, head, parts, segments, leading, isIdle]
  rw [components, if_pos (isAbsolute_spell isDouble names isMarked), headed, leads]

/-! Names that are added. -/

theorem join_spell {name : Octets} (leadName : IsLeading name) (isDouble : Bool) :
    (spell isDouble names false).join ⟨name⟩ = spell isDouble (names ++ [name]) false := by
  have relative : (Path.mk name).isAbsolute = false := by
    obtain ⟨first, rest, rfl⟩ := List.exists_cons_of_ne_nil leadName.ne_nil
    have visible : first ≠ slash := fun same => leadName.plain (by simp [same])
    simp [isAbsolute, visible]
  rcases eq_or_ne names [] with rfl | nonempty
  · cases isDouble <;> simp [join, relative, endsWithSlash, spell, head, joinSegments]
  · have unslashed := endsWithSlash_spell lead nonempty isDouble false
    have written : (spell isDouble names false).octets.isEmpty = false := by
      cases isDouble <;> simp [spell, head]
    simp only [join, relative, unslashed, written, Bool.or_false, Bool.false_eq_true, if_false]
    simp [spell, joinSegments_append nonempty, joinSegments_singleton]

theorem join_spell_empty (isDouble : Bool) :
    (spell isDouble names false).join empty = spell isDouble names true := by
  have relative : empty.isAbsolute = false := rfl
  rcases eq_or_ne names [] with rfl | nonempty
  · cases isDouble <;> simp [join, isAbsolute, spell_nil, endsWithSlash, head, empty]
  · have unslashed := endsWithSlash_spell lead nonempty isDouble false
    have written : (spell isDouble names false).octets.isEmpty = false := by
      cases isDouble <;> simp [spell, head]
    simp only [join, relative, unslashed, written, Bool.or_false, Bool.false_eq_true, if_false]
    rw [empty, ← octets_spell_marked nonempty isDouble]

end

theorem joinComponents_spell {more : List Octets} (leadMore : ∀ name ∈ more, IsLeading name)
    (isDouble : Bool) : ∀ {names : List Octets}, (∀ name ∈ names, IsLeading name) →
      (spell isDouble names false).joinComponents (more.map componentOf) =
        spell isDouble (names ++ more) false := by
  induction more with
  | nil => intro names _; simp [joinComponents]
  | cons name rest ih =>
      intro names lead
      obtain ⟨leadName, leadRest⟩ := List.forall_mem_cons.mp leadMore
      have longer : ∀ other ∈ names ++ [name], IsLeading other :=
        List.forall_mem_append.mpr ⟨lead, List.forall_mem_singleton.mpr leadName⟩
      have onward := ih leadRest longer
      rw [List.append_assoc, List.singleton_append] at onward
      rw [← onward, List.map_cons, joinComponents, List.foldl_cons, text_componentOf,
        join_spell lead leadName, joinComponents]

/-! Absolute forms. -/

/-- A path that is its own absolute form: the names of a working directory have no say in it. -/
theorem absolute_spell {names : List Octets} (lead : ∀ name ∈ names, IsLeading name)
    (isDouble isMarked : Bool) (workingDirectory : Path) :
    absolute workingDirectory (spell isDouble names isMarked) = spell isDouble names isMarked := by
  have written : (spell isDouble names isMarked).octets.isEmpty = false := by
    cases isDouble <;> simp [spell, head]
  have full : (if isDouble then
      joinComponents ⟨[slash, slash]⟩ (names.map componentOf)
      else joinComponents empty (.root :: names.map componentOf)) = spell isDouble names false := by
    have joined := @joinComponents_spell names lead isDouble [] (by simp)
    rw [List.nil_append, spell_nil] at joined
    cases isDouble with
    | true => exact joined
    | false => exact joined
  simp only [absolute, written, components_spell lead, beginsWithTwoSlashes_spell lead,
    isAbsolute_spell, dropCurrent, List.drop_one, List.tail_cons, if_true, full,
    Bool.false_eq_true, if_false]
  rcases eq_or_ne names [] with rfl | nonempty
  · rw [join_spell_empty lead]
    simp only [spell_nil, ite_self]
  · rw [endsWithSlash_spell lead nonempty]
    cases isMarked with
    | true => exact join_spell_empty lead isDouble
    | false => rfl

def namesFrom (place : Location) (path : Path) : List Octets :=
  if path.isAbsolute then path.names else place ++ path.names

theorem pathOf_eq_spell (place : Location) : Host.pathOf place = spell false place false := by
  cases place with
  | nil => simp [Host.pathOf, spell_nil, head]
  | cons name rest =>
      have written : ∀ {names : List Octets}, names ≠ [] →
          names.flatMap (fun name => slash :: name) = slash :: joinSegments names := by
        intro names nonempty
        induction names with
        | nil => exact absurd rfl nonempty
        | cons name rest ih =>
            by_cases last : rest = []
            · subst last
              simp [joinSegments]
            · rw [List.flatMap_cons, ih last, joinSegments_cons name last, List.cons_append]
      rw [Host.pathOf, if_neg (by simp), written (by simp)]
      rfl

theorem dropCurrent_map_componentOf (names : List Octets) :
    dropCurrent (names.map componentOf) = names.map componentOf := by
  cases names with
  | nil => rfl
  | cons name rest =>
      rw [List.map_cons, componentOf]
      split <;> rfl

theorem components_of_isAbsolute {path : Path} (rooted : path.isAbsolute = true) :
    path.components = .root :: path.names.map componentOf := by
  rw [components, if_pos rooted, leading_segments]

theorem dropCurrent_components {path : Path} (relative : path.isAbsolute = false) :
    dropCurrent path.components = path.names.map componentOf := by
  simp only [components, relative, Bool.false_eq_true, if_false, leading_segments]
  split
  · rfl
  · exact dropCurrent_map_componentOf path.names

theorem isAbsolute_of_beginsWithTwoSlashes {path : Path}
    (double : path.beginsWithTwoSlashes = true) : path.isAbsolute = true := by
  unfold beginsWithTwoSlashes at double
  split at double
  · next first second rest written =>
      simp only [Bool.and_eq_true, decide_eq_true_eq] at double
      simp [isAbsolute, written, double.1.1]
  · cases double

theorem absolute_eq_spell {place : Location} (lead : ∀ name ∈ place, IsLeading name) {path : Path}
    (written : path.octets ≠ []) : absolute (Host.pathOf place) path =
      spell path.beginsWithTwoSlashes (path.namesFrom place) path.endsWithSlash := by
  have leadPath : ∀ name ∈ path.names, IsLeading name := fun _ => isLeading_of_mem_names
  have leadAll : ∀ name ∈ path.namesFrom place, IsLeading name := by
    unfold namesFrom
    split
    · exact leadPath
    · exact List.forall_mem_append.mpr ⟨lead, leadPath⟩
  have fromHead (isDouble : Bool) : joinComponents ⟨head isDouble⟩ (path.names.map componentOf) =
      spell isDouble path.names false := by
    rw [← spell_nil isDouble false, joinComponents_spell leadPath isDouble (by simp),
      List.nil_append]
  have full : (if path.beginsWithTwoSlashes then
        joinComponents ⟨[slash, slash]⟩ ((dropCurrent path.components).drop 1)
      else if path.isAbsolute then joinComponents empty (dropCurrent path.components)
      else joinComponents (Host.pathOf place) (dropCurrent path.components)) =
        spell path.beginsWithTwoSlashes (path.namesFrom place) false := by
    by_cases rooted : path.isAbsolute = true
    · rw [components_of_isAbsolute rooted]
      simp only [rooted, if_true, namesFrom]
      cases path.beginsWithTwoSlashes with
      | true => exact fromHead true
      | false => exact fromHead false
    · have relative := Bool.eq_false_iff.mpr rooted
      have single : path.beginsWithTwoSlashes = false :=
        Bool.eq_false_iff.mpr fun double => rooted (isAbsolute_of_beginsWithTwoSlashes double)
      simp only [single, relative, Bool.false_eq_true, if_false, namesFrom]
      rw [dropCurrent_components relative, pathOf_eq_spell,
        joinComponents_spell leadPath false lead]
  have nonempty : path.octets.isEmpty = false := by simpa using written
  simp only [absolute, nonempty, Bool.false_eq_true, if_false, full]
  cases path.endsWithSlash with
  | true => exact join_spell_empty leadAll _
  | false => rfl

/-! Where the octets of an absolute form come from: from the path, from the working directory, or
they are slashes between the names of these. -/

theorem isAbsolute_joinComponents (steps : List Component) : ∀ {base : Path},
    base.isAbsolute = true → (base.joinComponents steps).isAbsolute = true := by
  induction steps with
  | nil => exact fun rooted => rooted
  | cons step rest ih => exact fun rooted => ih (isAbsolute_join rooted _)

theorem mem_of_mem_join {base addition : Path} {octet : UInt8}
    (member : octet ∈ (base.join addition).octets) :
    octet ∈ base.octets ∨ octet = slash ∨ octet ∈ addition.octets := by
  unfold join at member
  split at member
  · exact .inr (.inr member)
  · split at member
    · rcases List.mem_append.mp member with before | after
      · exact .inl before
      · exact .inr (.inr after)
    · simpa using member

theorem mem_of_mem_joinComponents {octet : UInt8} (steps : List Component) : ∀ {base : Path},
    octet ∈ (base.joinComponents steps).octets →
      octet ∈ base.octets ∨ octet = slash ∨ ∃ step ∈ steps, octet ∈ step.text := by
  induction steps with
  | nil => exact fun member => .inl member
  | cons step rest ih =>
      intro base member
      rcases ih member with joined | between | ⟨later, listed, within⟩
      · rcases mem_of_mem_join joined with before | between | within
        · exact .inl before
        · exact .inr (.inl between)
        · exact .inr (.inr ⟨step, List.mem_cons_self, within⟩)
      · exact .inr (.inl between)
      · exact .inr (.inr ⟨later, List.mem_cons_of_mem _ listed, within⟩)

theorem mem_of_mem_segments {octet : UInt8} {part : Octets} (octets : Octets)
    (listed : part ∈ segments octets) (within : octet ∈ part) : octet ∈ octets := by
  induction octets generalizing part with
  | nil => simp_all [segments]
  | cons first rest ih =>
      rw [segments] at listed
      split at listed
      · rcases List.mem_cons.mp listed with rfl | later
        · exact absurd within List.not_mem_nil
        · exact List.mem_cons_of_mem _ (ih later within)
      · split at listed
        · simp_all
        · next head others parts =>
            rw [parts] at ih
            rcases List.mem_cons.mp listed with rfl | later
            · rcases List.mem_cons.mp within with rfl | after
              · exact List.mem_cons_self
              · exact List.mem_cons_of_mem _ (ih List.mem_cons_self after)
            · exact List.mem_cons_of_mem _ (ih (List.mem_cons_of_mem _ later) within)

theorem mem_of_mem_components {path : Path} {step : Component} {octet : UInt8}
    (listed : step ∈ path.components) (within : octet ∈ step.text) :
    octet = slash ∨ octet ∈ path.octets := by
  have leads : step ∈ leading (segments path.octets) → octet ∈ path.octets := by
    intro lead
    obtain ⟨part, kept, rfl⟩ := List.mem_map.mp lead
    rw [text_componentOf] at within
    exact mem_of_mem_segments path.octets (List.mem_filter.mp kept).1 within
  unfold components at listed
  simp only at listed
  split at listed
  · rcases List.mem_cons.mp listed with rfl | lead
    · exact .inl (List.mem_singleton.mp within)
    · exact .inr (leads lead)
  · split at listed
    · next dotted =>
        rcases List.mem_cons.mp listed with rfl | lead
        · exact .inr (mem_of_mem_segments path.octets (List.mem_of_mem_head? dotted) within)
        · exact .inr (leads lead)
    · exact .inr (leads listed)

theorem mem_of_mem_dropCurrent {step : Component} {steps : List Component}
    (listed : step ∈ dropCurrent steps) : step ∈ steps := by
  unfold dropCurrent at listed
  split at listed
  · exact List.mem_cons_of_mem _ listed
  · exact listed

theorem exists_absolute_eq (workingDirectory : Path) {path : Path} (written : path.octets ≠ []) :
    ∃ base steps, (base = ⟨[slash]⟩ ∨ base = ⟨[slash, slash]⟩ ∨ base = workingDirectory) ∧
      (∀ step ∈ steps, step ∈ path.components) ∧
      absolute workingDirectory path =
        if path.endsWithSlash then (joinComponents base steps).join empty
        else joinComponents base steps := by
  have nonempty : path.octets.isEmpty = false := by simpa using written
  have listed : ∀ step ∈ dropCurrent path.components, step ∈ path.components :=
    fun _ => mem_of_mem_dropCurrent
  simp only [absolute, nonempty, Bool.false_eq_true, if_false]
  by_cases double : path.beginsWithTwoSlashes = true
  · refine ⟨_, (dropCurrent path.components).drop 1, .inr (.inl rfl), ?_, by rw [if_pos double]⟩
    exact fun step member => listed step (List.mem_of_mem_drop member)
  · rw [if_neg double]
    by_cases rooted : path.isAbsolute = true
    · rw [if_pos rooted, components_of_isAbsolute rooted]
      refine ⟨_, path.names.map componentOf, .inl rfl, ?_, rfl⟩
      exact fun step member => List.mem_cons_of_mem _ member
    · rw [if_neg rooted]
      exact ⟨_, dropCurrent path.components, .inr (.inr rfl), listed, rfl⟩

/-- Nothing but slashes is added to the octets of the two paths. -/
theorem mem_of_mem_absolute {workingDirectory path : Path} {octet : UInt8}
    (written : path.octets ≠ [])
    (member : octet ∈ (absolute workingDirectory path).octets) :
    octet ∈ workingDirectory.octets ∨ octet = slash ∨ octet ∈ path.octets := by
  obtain ⟨base, steps, source, listed, form⟩ := exists_absolute_eq workingDirectory written
  have joined : octet = slash ∨ octet ∈ (joinComponents base steps).octets := by
    rw [form] at member
    split at member
    · rcases mem_of_mem_join member with before | between | inEmpty
      · exact .inr before
      · exact .inl between
      · exact absurd inEmpty List.not_mem_nil
    · exact .inr member
  rcases joined with between | joined
  · exact .inr (.inl between)
  · rcases mem_of_mem_joinComponents steps joined with first | between | ⟨step, there, within⟩
    · rcases source with rfl | rfl | rfl
      · exact .inr (.inl (List.mem_singleton.mp first))
      · exact .inr (.inl (by simpa using first))
      · exact .inl first
    · exact .inr (.inl between)
    · exact .inr (mem_of_mem_components (listed step there) within)

theorem isAbsolute_absolute {workingDirectory : Path}
    (rooted : workingDirectory.isAbsolute = true) {path : Path} (written : path.octets ≠ []) :
    (absolute workingDirectory path).isAbsolute = true := by
  obtain ⟨base, steps, source, -, form⟩ := exists_absolute_eq workingDirectory written
  have first : base.isAbsolute = true := by
    rcases source with rfl | rfl | rfl
    · rfl
    · rfl
    · exact rooted
  have joined := isAbsolute_joinComponents steps first
  rw [form]
  split
  · exact isAbsolute_join joined _
  · exact joined

end ArtifactTools.Path
