import ArtifactTools.CommandLine.Program
import ArtifactTools.Proofs.Json.Meaning
import ArtifactTools.Proofs.Registry.Selections

/-! The command that lists transformers. It shows those that its filters select, one by one and in
the order of their registration. -/

namespace ArtifactTools

theorem TransformerType.read?_text (type : TransformerType) : read? type.text = some type := by
  cases type <;> rfl

namespace CommandLine

/-! The ids in a document of summaries. -/

def shownId? : Json.Value → Option String
  | .object members =>
      match members.lookup "id" with
      | some (.string id) => some id
      | _ => none
  | _ => none

def shownIds? : Json.Value → Option (List String)
  | .array elements => elements.mapM shownId?
  | _ => none

theorem shownId?_summary (ref : Ref) : shownId? (summary ref) = some ref.transformer.id := by
  have other : ("id" : String) ≠ "has_settings" := by decide
  simp [summary, summaryMembers, shownId?, List.lookup_cons, beq_false_of_ne other]

theorem shownIds?_summaries (refs : List Ref) :
    shownIds? (.array (refs.map summary)) = some (refs.map (·.transformer.id)) := by
  simp only [shownIds?]
  induction refs with
  | nil => rfl
  | cons ref rest ih =>
      rw [List.map_cons, List.mapM_cons, shownId?_summary, ih]
      rfl

theorem legible_summary (ref : Ref) (budget : Nat) : (summary ref).Legible (budget + 1) := by
  constructor
  · have keys : (["has_settings", "id", "name", "type"] : List String).Pairwise (· < ·) := by
      decide +kernel
    exact List.pairwise_map.mp keys
  · intro member kept
    simp only [summaryMembers, List.cons_append, List.nil_append, List.mem_cons,
      List.not_mem_nil, or_false] at kept
    rcases kept with rfl | rfl | rfl | rfl
    · exact .bool budget _
    · exact .string budget _
    · exact .string budget _
    · exact .string budget _

theorem doubleFree_summary (ref : Ref) : (summary ref).DoubleFree := by
  constructor
  intro member kept
  simp only [summaryMembers, List.cons_append, List.nil_append, List.mem_cons,
    List.not_mem_nil, or_false] at kept
  rcases kept with rfl | rfl | rfl | rfl
  · exact .bool _
  · exact .string _
  · exact .string _
  · exact .string _

theorem parseValue?_summaries (refs : List Ref) :
    Json.parseValue? (Json.Value.array (refs.map summary)).prettyText =
      some (.array (refs.map summary)) := by
  have free : (Json.Value.array (refs.map summary)).DoubleFree := by
    constructor
    intro element member
    obtain ⟨ref, -, rfl⟩ := List.mem_map.mp member
    exact doubleFree_summary ref
  have legible : (Json.Value.array (refs.map summary)).Legible Json.nestingLimit := by
    refine .array ?_
    intro element member
    obtain ⟨ref, -, rfl⟩ := List.mem_map.mp member
    exact legible_summary ref 125
  rw [Json.parseValue?, free.read?_prettyText, Option.bind_some, legible.value?_document free]

/-! What the command shows. -/

inductive Shows (before : Terminal) (refs : List Ref) : Bool → Terminal → Prop
  | document {text} :
      (Json.parseValue? text).bind shownIds? = some (refs.map (·.transformer.id)) →
      Shows before refs true (before.printLine text)
  | nothing : refs = [] →
      Shows before refs false (before.printLine (before.style.yellow "No matching transformers."))
  | table : refs ≠ [] →
      Shows before refs false (before.printLines
        (before.style.bold "Transformers:" :: refs.map (listLine before.style)))

theorem exists_shows_of_runList (session : Session) (type : TransformerType) (name : String)
    (asJson : Bool) (terminal : Terminal) : ∃ after,
      runList session (some type.text) (some name) asJson terminal = (after, .ok 0) ∧
      Shows terminal (session.registry.allMatching fun transformer =>
        decide (transformer.type = type) && transformer.accepts name) asJson after := by
  have test : listTest (some type) (some name) = fun transformer =>
      decide (transformer.type = type) && transformer.accepts name := by
    funext transformer
    simp [listTest]
  simp only [runList, readType, type.read?_text, test]
  generalize session.registry.allMatching _ = refs
  cases asJson with
  | true =>
      refine ⟨_, rfl, .document ?_⟩
      rw [parseValue?_summaries, Option.bind_some, shownIds?_summaries]
  | false =>
      rcases eq_or_ne refs [] with rfl | nonempty
      · exact ⟨_, rfl, .nothing rfl⟩
      · have listed : refs.isEmpty = false := by simpa using nonempty
        simp only [listed, Bool.false_eq_true, if_false]
        exact ⟨_, rfl, .table nonempty⟩

end CommandLine

namespace Registry

open CommandLine

/-- Whatever a registry has been asked, its queries select what passes their test, each entry with
its own place. The command with both of its filters shows what is of the type and applicable. -/
theorem queries_select (number : UInt32) (requests : List Request) :
    let registry := (empty number).run requests
    (∀ accepts, registry.Selects accepts (registry.allMatching accepts)) ∧
    (∀ type, registry.Selects (fun transformer => transformer.type = type)
      (registry.ofType type)) ∧
    (∀ name, registry.Selects (fun transformer => transformer.accepts name)
      (registry.applicableTo name)) ∧
    ∀ config path type name asJson terminal, ∃ refs after,
      runCommand ⟨config, path, registry⟩ terminal
        (.list (some type.text) (some name) asJson) = (after, .ok 0) ∧
      Shows terminal refs asJson after ∧
      registry.Selects (fun transformer => transformer.type = type && transformer.accepts name)
        refs ∧
      ∀ ref, ref ∈ refs ↔ ref ∈ registry.ofType type ∧ ref ∈ registry.applicableTo name := by
  intro registry
  have indexed : registry.Indexed := (sound_run_empty number requests).toIndexed
  refine ⟨indexed.selects, fun type => indexed.selects _, fun name => indexed.selects _, ?_⟩
  intro config path type name asJson terminal
  obtain ⟨after, ran, shows⟩ :=
    exists_shows_of_runList ⟨config, path, registry⟩ type name asJson terminal
  exact ⟨_, after, ran, shows, indexed.selects _, mem_allMatching_and_iff registry _ _⟩

end Registry

end ArtifactTools
