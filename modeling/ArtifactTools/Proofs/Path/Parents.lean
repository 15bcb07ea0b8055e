import ArtifactTools.Proofs.Path.Absolute

/-! The path around the last step of another: it has the same steps but for the last. -/

namespace ArtifactTools.Path

theorem joinSegments_segments (octets : Octets) : joinSegments (segments octets) = octets := by
  induction octets with
  | nil => rfl
  | cons octet rest ih =>
      rw [segments]
      split
      · next isSlash => rw [joinSegments_cons _ (segments_ne_nil rest), ih, isSlash, List.nil_append]
      · split
        · next nothing => exact absurd nothing (segments_ne_nil rest)
        · next first others parts =>
            rw [parts] at ih
            by_cases last : others = []
            · rw [last, joinSegments_singleton] at ih ⊢
              rw [ih]
            · rw [joinSegments_cons _ last] at ih ⊢
              rw [List.cons_append, ih]

def opening (path : Path) : List Component :=
  if path.isAbsolute then [.root]
  else if (segments path.octets).head? = some [dot] then [.current]
  else []

theorem components_eq (path : Path) :
    path.components = path.opening ++ path.names.map componentOf := by
  unfold components opening
  simp only [leading_segments]
  split
  · rfl
  · split <;> rfl

theorem leading_idle {part : Octets} (idle : isIdle part = true) (parts : List Octets) :
    leading (part :: parts) = leading parts := by
  simp [leading, idle]

theorem leading_append_idle {part : Octets} (idle : isIdle part = true) (parts : List Octets) :
    leading (parts ++ [part]) = leading parts := by
  simp [leading, idle]

theorem leading_trim (parts : List Octets) :
    leading (parts.reverse.dropWhile isIdle).reverse = leading parts := by
  induction parts using List.reverseRecOn with
  | nil => rfl
  | append_singleton front last ih =>
      rw [List.reverse_append, List.reverse_singleton, List.singleton_append]
      by_cases idle : isIdle last = true
      · rw [List.dropWhile_cons_of_pos idle, ih, leading_append_idle idle]
      · rw [List.dropWhile_cons_of_neg idle, List.reverse_cons, List.reverse_reverse]

def init (parts : List Octets) : List Octets :=
  (((parts.reverse.dropWhile isIdle).drop 1).dropWhile isIdle).reverse

theorem leading_init (parts : List Octets) : leading (init parts) = (leading parts).dropLast := by
  induction parts using List.reverseRecOn with
  | nil => rfl
  | append_singleton front last ih =>
      rw [init, List.reverse_append, List.reverse_singleton, List.singleton_append]
      by_cases idle : isIdle last = true
      · rw [List.dropWhile_cons_of_pos idle, leading_append_idle idle, ← ih, init]
      · rw [List.dropWhile_cons_of_neg idle, List.drop_one, List.tail_cons, leading_trim]
        simp [leading, idle]

theorem init_within (parts : List Octets) : init parts <+: parts := by
  rw [← List.reverse_suffix, init, List.reverse_reverse]
  exact ((List.dropWhile_suffix _).trans (List.drop_suffix _ _)).trans (List.dropWhile_suffix _)

/-! Beginnings of a path that end between two of its parts. They open as the path does. -/

section

variable {kept : List Octets} (plain : ∀ part ∈ kept, slash ∉ part)

include plain

theorem components_root :
    (Path.mk (slash :: joinSegments kept)).components = .root :: leading kept := by
  have rooted : (Path.mk (slash :: joinSegments kept)).isAbsolute = true := by simp [isAbsolute]
  rw [components, if_pos rooted, segments, if_pos rfl, leading_idle rfl,
    leading_segments_joinSegments plain]

theorem components_current (begins : ∀ first, kept.head? = some first → first = []) :
    (Path.mk (dot :: joinSegments kept)).components = .current :: leading kept := by
  have alone : (Path.mk [dot]).components = [.current] := rfl
  cases kept with
  | nil => exact alone
  | cons first rest =>
      obtain rfl := begins first rfl
      rw [leading_idle rfl]
      by_cases last : rest = []
      · rw [last]
        exact alone
      · have plainRest : ∀ part ∈ rest, slash ∉ part :=
          fun part member => plain part (.tail _ member)
        have plainDot : slash ∉ [dot] := by decide
        have parts : segments (dot :: slash :: joinSegments rest) = [dot] :: rest := by
          have apart := segments_append plainDot (joinSegments rest)
          rwa [segments_joinSegments last plainRest] at apart
        have relative : (Path.mk (dot :: slash :: joinSegments rest)).isAbsolute = false := by
          simp [isAbsolute, dot, slash]
        rw [joinSegments_cons _ last, List.nil_append]
        simp only [components, relative, parts, List.head?_cons, Bool.false_eq_true, if_false,
          if_true]
        rw [leading_idle (by decide)]

theorem components_name (begins : ∀ first, kept.head? = some first → isIdle first = false) :
    (Path.mk (joinSegments kept)).components = leading kept := by
  cases kept with
  | nil => rfl
  | cons first rest =>
      have moves := begins first rfl
      have parts := segments_joinSegments (List.cons_ne_nil first rest) plain
      have relative : (Path.mk (joinSegments (first :: rest))).isAbsolute = false := by
        have leadFirst : IsLeading first := ⟨moves, plain first List.mem_cons_self⟩
        obtain ⟨octet, others, rfl⟩ := List.exists_cons_of_ne_nil leadFirst.ne_nil
        have visible : octet ≠ slash := fun same => leadFirst.plain (by simp [same])
        by_cases last : rest = []
        · simp [last, joinSegments_singleton, isAbsolute, visible]
        · simp [joinSegments_cons _ last, isAbsolute, visible]
      have undotted : first ≠ [dot] := by
        rintro rfl
        cases moves
      simp [components, relative, parts, undotted]

end

def parts (path : Path) : List Octets := segments (path.octets.drop path.headLength)

theorem opens_dotted {octets : Octets} (dotted : (segments octets).head? = some [dot]) :
    octets.take 1 = [dot] ∧ (segments (octets.drop 1)).head? = some [] := by
  obtain ⟨others, divided⟩ := List.head?_eq_some_iff.mp dotted
  have whole := joinSegments_segments octets
  rw [divided] at whole
  by_cases last : others = []
  · rw [last, joinSegments_singleton] at whole
    rw [← whole]
    exact ⟨rfl, rfl⟩
  · rw [joinSegments_cons _ last] at whole
    rw [← whole]
    simp [segments]

theorem opens_named {path : Path} (written : path.octets ≠ []) (rooted : ¬ path.isAbsolute = true)
    (dotted : ¬ (segments path.octets).head? = some [dot]) {part : Octets}
    (first : (segments path.octets).head? = some part) : isIdle part = false := by
  obtain ⟨others, divided⟩ := List.head?_eq_some_iff.mp first
  have whole := joinSegments_segments path.octets
  rw [divided] at whole
  have undotted : part ≠ [dot] := fun same => dotted (same ▸ first)
  have filled : part ≠ [] := by
    rintro rfl
    by_cases last : others = []
    · rw [last, joinSegments_singleton] at whole
      exact written whole.symm
    · rw [joinSegments_cons _ last] at whole
      exact rooted (by simp [isAbsolute, ← whole])
  simp [isIdle, filled, undotted]

theorem components_reopened {path : Path} (written : path.octets ≠ []) {kept : List Octets}
    (initial : kept <+: path.parts) :
    (Path.mk (path.octets.take path.headLength ++ joinSegments kept)).components =
      path.opening ++ leading kept := by
  have plain : ∀ part ∈ kept, slash ∉ part := fun part member =>
    plain_of_mem_segments _ part (initial.subset member)
  have first : ∀ part, kept.head? = some part → path.parts.head? = some part := by
    intro part here
    obtain ⟨rest, rfl⟩ := List.head?_eq_some_iff.mp here
    obtain ⟨after, whole⟩ := initial
    rw [← whole, List.cons_append, List.head?_cons]
  by_cases rooted : path.isAbsolute = true
  · have length : path.headLength = 1 := by simp [headLength, rooted]
    obtain ⟨rest, whole⟩ : ∃ rest, path.octets = slash :: rest := by
      simpa [isAbsolute, List.head?_eq_some_iff] using rooted
    rw [length, whole, opening, if_pos rooted]
    exact components_root plain
  · by_cases dotted : (segments path.octets).head? = some [dot]
    · have length : path.headLength = 1 := by simp [headLength, dotted]
      obtain ⟨head, next⟩ := opens_dotted dotted
      rw [opening, if_neg rooted, if_pos dotted, length, head]
      refine components_current plain ?_
      intro part here
      have begins := first part here
      rw [parts, length, next] at begins
      exact (Option.some.inj begins).symm
    · have length : path.headLength = 0 := by simp [headLength, rooted, dotted]
      rw [opening, if_neg rooted, if_neg dotted, length, List.take_zero, List.nil_append,
        List.nil_append]
      refine components_name plain ?_
      intro part here
      have begins := first part here
      rw [parts, length, List.drop_zero] at begins
      exact opens_named written rooted dotted begins

theorem components_parts {path : Path} (written : path.octets ≠ []) :
    path.components = path.opening ++ leading path.parts := by
  have whole := components_reopened written (List.prefix_refl path.parts)
  rwa [parts, joinSegments_segments, List.take_append_drop] at whole

theorem ne_of_mem_leading {parts : List Octets} {step : Component}
    (member : step ∈ leading parts) : step ≠ .root ∧ step ≠ .current := by
  obtain ⟨part, -, rfl⟩ := List.mem_map.mp member
  unfold componentOf
  split <;> simp

theorem opening_cases (path : Path) :
    path.opening = [.root] ∨ path.opening = [.current] ∨ path.opening = [] := by
  unfold opening
  split
  · exact Or.inl rfl
  · split
    · exact Or.inr (Or.inl rfl)
    · exact Or.inr (Or.inr rfl)

theorem opening_of_relative {path : Path} (relative : path.isAbsolute = false) :
    path.opening = [.current] ∨ path.opening = [] := by
  unfold opening
  rw [relative]
  split
  · contradiction
  · split
    · exact Or.inl rfl
    · exact Or.inr rfl

theorem octets_ne_nil {path : Path} (steps : path.components ≠ []) : path.octets ≠ [] := by
  intro nothing
  have empty : path = Path.empty := congrArg Path.mk nothing
  rw [empty] at steps
  exact steps rfl

theorem ne_dot {path : Path} (steps : path.components ≠ [.current]) : path ≠ ⟨[dot]⟩ := by
  rintro rfl
  exact steps rfl

/-- What is around a path has its components but for the last. -/
theorem components_parent {path parent : Path} (around : path.parent? = some parent) :
    parent.components = path.components.dropLast := by
  have written : path.octets ≠ [] :=
    octets_ne_nil fun empty => by simp [parent?, empty] at around
  have whole := components_parts written
  unfold parent? at around
  split at around
  · cases around
  · cases around
  · next stays =>
      obtain rfl := Option.some.inj around
      have alone : leading path.parts = [] := by
        by_contra followed
        rw [whole, List.getLast?_append_of_ne_nil _ followed] at stays
        exact (ne_of_mem_leading (List.mem_of_getLast? stays)).2 rfl
      rw [whole, alone, List.append_nil]
      rcases path.opening_cases with opens | opens | opens <;> rw [opens] <;> rfl
  · next step notRoot notCurrent last =>
      obtain rfl := Option.some.inj around
      have followed : leading path.parts ≠ [] := by
        intro alone
        rw [whole, alone, List.append_nil] at last
        rcases path.opening_cases with opens | opens | opens <;> rw [opens] at last
        · exact notRoot (Option.some.inj last).symm
        · exact notCurrent (Option.some.inj last).symm
        · cases last
      rw [whole, List.dropLast_append_of_ne_nil followed, ← leading_init]
      exact components_reopened written (init_within path.parts)

theorem parent?_of_root {path : Path} (root : path.components = [.root]) : path.parent? = none := by
  simp [parent?, root]

theorem exists_parent {path : Path} (nonempty : path.names ≠ []) :
    ∃ parent, path.parent? = some parent := by
  have named : path.names.map componentOf ≠ [] := by simpa using nonempty
  have last : path.components.getLast? = some ((path.names.map componentOf).getLast named) := by
    rw [components_eq, List.getLast?_append_of_ne_nil _ named, List.getLast?_eq_some_getLast]
  have member : (path.names.map componentOf).getLast named ∈ leading (segments path.octets) := by
    rw [leading_segments]
    exact List.getLast_mem named
  unfold parent?
  rw [last]
  split
  · next last => cases last
  · next root => exact absurd (Option.some.inj root) (ne_of_mem_leading member).1
  · exact ⟨_, rfl⟩
  · exact ⟨_, rfl⟩

/-! The path around another ends with a name, where it has one. -/

theorem segments_append_slash_append (octets more : Octets) :
    segments (octets ++ slash :: more) = segments octets ++ segments more := by
  induction octets with
  | nil => rfl
  | cons octet rest ih =>
      rw [List.cons_append, segments, segments, ih]
      split
      · rfl
      · cases parts : segments rest with
        | nil => exact absurd parts (segments_ne_nil rest)
        | cons first others => rfl

theorem stepsOf_named {octets name : Octets} (lead : IsLeading name)
    (ending : octets = name ∨ ∃ front, octets = front ++ slash :: name) :
    FileTree.stepsOf ⟨octets⟩ = ((Path.mk octets).components, false) := by
  have written : (!name.isEmpty) = true := by simpa using lead.ne_nil
  have undotted : name ≠ [dot] := by
    rintro rfl
    exact absurd lead.moves (by decide)
  have last : (Path.mk octets).lastSegment? = some name := by
    rcases ending with rfl | ⟨front, rfl⟩
    · simp [lastSegment?, segments_of_plain lead.plain, written]
    · simp [lastSegment?, segments_append_slash_append, segments_of_plain lead.plain, written]
  have unslashed : (Path.mk octets).endsWithSlash = false := by
    have visible : name.getLast lead.ne_nil ≠ slash :=
      fun same => lead.plain (same ▸ List.getLast_mem lead.ne_nil)
    have final : octets.getLast? = some (name.getLast lead.ne_nil) := by
      rw [← List.getLast?_eq_some_getLast lead.ne_nil]
      rcases ending with rfl | ⟨front, rfl⟩
      · rfl
      · rw [← List.singleton_append, ← List.append_assoc,
          List.getLast?_append_of_ne_nil _ lead.ne_nil]
    simp [endsWithSlash, final, visible]
  simp [FileTree.stepsOf, last, undotted, unslashed]

theorem moves_of_init {parts front : List Octets} {name : Octets}
    (ends : init parts = front ++ [name]) : isIdle name = false := by
  have reversed := congrArg List.reverse ends
  rw [init, List.reverse_reverse, List.reverse_append, List.reverse_singleton,
    List.singleton_append] at reversed
  have notIdle := List.head?_dropWhile_not isIdle ((parts.reverse.dropWhile isIdle).drop 1)
  rw [reversed] at notIdle
  simpa using notIdle

theorem take_headLength (path : Path) : path.octets.take path.headLength = [slash] ∨
    path.octets.take path.headLength = [dot] ∧ path.parts.head? = some [] ∨
      path.octets.take path.headLength = [] := by
  by_cases rooted : path.isAbsolute = true
  · obtain ⟨rest, whole⟩ : ∃ rest, path.octets = slash :: rest := by
      simpa [isAbsolute, List.head?_eq_some_iff] using rooted
    exact .inl (by simp [headLength, rooted, whole])
  · by_cases dotted : (segments path.octets).head? = some [dot]
    · have length : path.headLength = 1 := by simp [headLength, dotted]
      obtain ⟨head, next⟩ := opens_dotted dotted
      exact .inr (.inl ⟨by rw [length, head], by rw [parts, length, next]⟩)
    · exact .inr (.inr (by simp [headLength, rooted, dotted]))

/-- The steps of a path around another are its components, unless it is a lone dot. -/
theorem stepsOf_parent {path parent : Path} (around : path.parent? = some parent) :
    parent = ⟨[dot]⟩ ∨ FileTree.stepsOf parent = (parent.components, false) := by
  unfold parent? at around
  split at around
  · cases around
  · cases around
  · obtain rfl := Option.some.inj around
    exact .inr rfl
  · have form : parent = ⟨path.octets.take path.headLength ++ joinSegments (init path.parts)⟩ :=
      (Option.some.inj around).symm
    rw [form]
    rcases List.eq_nil_or_concat (init path.parts) with nothing | ⟨front, name, ends⟩
    · rw [nothing]
      rcases path.take_headLength with opens | ⟨opens, -⟩ | opens <;> rw [opens]
      · exact .inr rfl
      · exact .inl rfl
      · exact .inr rfl
    · right
      have within := init_within path.parts
      rw [List.concat_eq_append] at ends
      have lead : IsLeading name := ⟨moves_of_init ends,
        plain_of_mem_segments _ name (within.subset (by simp [ends]))⟩
      refine stepsOf_named lead ?_
      rw [ends]
      by_cases alone : front = []
      · rw [alone, List.nil_append, joinSegments_singleton]
        rcases path.take_headLength with opens | ⟨-, begins⟩ | opens
        · exact .inr ⟨[], by rw [opens]; rfl⟩
        -- After a lone dot comes a part that is empty, so that the name is not the first.
        · rw [ends, alone, List.nil_append] at within
          obtain ⟨after, whole⟩ := within
          rw [← whole, List.singleton_append, List.head?_cons] at begins
          exact absurd (Option.some.inj begins) lead.ne_nil
        · exact .inl (by rw [opens, List.nil_append])
      · refine .inr ⟨path.octets.take path.headLength ++ joinSegments front, ?_⟩
        rw [joinSegments_append alone (by simp), joinSegments_singleton, List.append_assoc]

end ArtifactTools.Path
