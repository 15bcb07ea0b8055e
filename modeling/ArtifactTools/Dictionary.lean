/-! Dictionaries keyed by text. The entries stand in ascending order of their keys, code point by
code point, and no key occurs twice, so that equal contents are equal dictionaries. -/

namespace ArtifactTools

variable {α : Type}

def Dictionary.Ordered (entries : List (String × α)) : Prop :=
  entries.Pairwise fun first second => first.1 < second.1

@[ext]
structure Dictionary (α : Type) where
  entries : List (String × α)
  ordered : Dictionary.Ordered entries

namespace Dictionary

instance : CoeOut (Dictionary α) (List (String × α)) := ⟨entries⟩

def empty : Dictionary α := ⟨[], .nil⟩

def place (key : String) (value : α) : List (String × α) → List (String × α)
  | [] => [(key, value)]
  | (other, old) :: rest =>
      if key < other then (key, value) :: (other, old) :: rest
      else if key = other then (key, value) :: rest
      else (other, old) :: place key value rest

theorem mem_place {key : String} {value : α} {entries : List (String × α)} {entry : String × α}
    (member : entry ∈ place key value entries) : entry = (key, value) ∨ entry ∈ entries := by
  induction entries with
  | nil => exact Or.inl (List.mem_singleton.mp member)
  | cons first rest ih =>
      obtain ⟨other, old⟩ := first
      simp only [place] at member
      split at member
      · rcases List.mem_cons.mp member with new | later
        · exact Or.inl new
        · exact Or.inr later
      · split at member
        · rcases List.mem_cons.mp member with new | later
          · exact Or.inl new
          · exact Or.inr (List.mem_cons_of_mem _ later)
        · rcases List.mem_cons.mp member with same | later
          · exact Or.inr (same ▸ List.mem_cons_self)
          · rcases ih later with new | old
            · exact Or.inl new
            · exact Or.inr (List.mem_cons_of_mem _ old)

theorem ordered_place {entries : List (String × α)} (ordered : Ordered entries) (key : String)
    (value : α) : Ordered (place key value entries) := by
  induction entries with
  | nil => exact List.pairwise_singleton _ _
  | cons first rest ih =>
      obtain ⟨other, old⟩ := first
      obtain ⟨least, restOrdered⟩ := List.pairwise_cons.mp ordered
      simp only [place]
      split
      · next less =>
          refine List.pairwise_cons.mpr ⟨?_, ordered⟩
          intro entry member
          rcases List.mem_cons.mp member with rfl | later
          · exact less
          · exact String.lt_trans less (least entry later)
      · next notLess =>
          split
          · next same =>
              subst same
              exact List.pairwise_cons.mpr ⟨least, restOrdered⟩
          · next different =>
              refine List.pairwise_cons.mpr ⟨?_, ih restOrdered⟩
              intro entry member
              rcases mem_place member with rfl | old
              · exact String.not_le.mp fun le =>
                  different (String.le_antisymm le (String.not_lt.mp notLess))
              · exact least entry old

def insert (key : String) (value : α) (dictionary : Dictionary α) : Dictionary α :=
  ⟨place key value dictionary.entries, ordered_place dictionary.ordered key value⟩

def get? (key : String) (dictionary : Dictionary α) : Option α := dictionary.entries.lookup key

def keys (dictionary : Dictionary α) : List String := dictionary.entries.map Prod.fst

/-- The dictionary of a list of entries, where the last one under a key counts. -/
def ofList (entries : List (String × α)) : Dictionary α :=
  entries.foldl (fun dictionary entry => dictionary.insert entry.1 entry.2) empty

end Dictionary

end ArtifactTools
