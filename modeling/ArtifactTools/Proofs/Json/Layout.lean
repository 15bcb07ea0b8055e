import ArtifactTools.Json.Printer

/-! The two printers of JSON differ only in where they place blanks. Their texts are one text, in
two layouts. -/

namespace ArtifactTools.Json

/-! Blanks. -/

def AllBlank (characters : List Char) : Prop := ∀ character ∈ characters, isBlank character = true

theorem allBlank_nil : AllBlank [] := by
  simp [AllBlank]

theorem skipBlank_append {blanks : List Char} (blank : AllBlank blanks) (rest : List Char) :
    skipBlank (blanks ++ rest) = skipBlank rest :=
  List.dropWhile_append_of_pos blank

theorem skipBlank_cons {first : Char} (visible : isBlank first = false) (rest : List Char) :
    skipBlank (first :: rest) = first :: rest := by
  simp [skipBlank, visible]

/-- How a printer places blanks: after what opens an array or an object and after a comma, before
what closes it, and after a colon. -/
structure Layout where
  inside : Nat → List Char
  close : Nat → List Char
  colon : List Char
  inside_blank : ∀ level, AllBlank (inside level)
  close_blank : ∀ level, AllBlank (close level)
  colon_blank : AllBlank colon

namespace Layout

def compact : Layout where
  inside _ := []
  close _ := []
  colon := []
  inside_blank _ := allBlank_nil
  close_blank _ := allBlank_nil
  colon_blank := allBlank_nil

theorem newline_blank (level : Nat) : AllBlank (newline level) := by
  intro character member
  rcases List.mem_cons.mp member with rfl | later
  · decide
  · rw [List.eq_of_mem_replicate later]
    decide

def pretty : Layout where
  inside level := newline (level + 1)
  close := newline
  colon := [' ']
  inside_blank level := newline_blank (level + 1)
  close_blank := newline_blank
  colon_blank := by simp [AllBlank, isBlank]

end Layout

mutual

def Value.laid (layout : Layout) (level : Nat) : Value → List Char
  | .array (element :: rest) =>
      '[' :: (layout.inside level ++ (element.laid layout (level + 1) ++
        laidElements layout level rest))
  | .object ((key, value) :: rest) =>
      '\x7b' :: (layout.inside level ++ (quote key ++ ':' :: (layout.colon ++
        (value.laid layout (level + 1) ++ laidMembers layout level rest))))
  | value => value.compact

def laidElements (layout : Layout) (level : Nat) : List Value → List Char
  | [] => layout.close level ++ [']']
  | element :: rest =>
      ',' :: (layout.inside level ++ (element.laid layout (level + 1) ++
        laidElements layout level rest))

def laidMembers (layout : Layout) (level : Nat) : List (String × Value) → List Char
  | [] => layout.close level ++ ['\x7d']
  | (key, value) :: rest =>
      ',' :: (layout.inside level ++ (quote key ++ ':' :: (layout.colon ++
        (value.laid layout (level + 1) ++ laidMembers layout level rest))))

end

inductive Value.DoubleFree : Value → Prop
  | null : DoubleFree .null
  | bool (value) : DoubleFree (.bool value)
  | whole (value) : DoubleFree (.number (.whole value))
  | string (text) : DoubleFree (.string text)
  | array {elements} : (∀ element ∈ elements, DoubleFree element) → DoubleFree (.array elements)
  | object {members} : (∀ member ∈ members, DoubleFree member.2) → DoubleFree (.object members)

/-! The printers are two layouts. -/

structure Prints (layout : Layout) (print : Nat → Value → List Char)
    (printElements : Nat → List Value → List Char)
    (printMembers : Nat → List (String × Value) → List Char) : Prop where
  scalar : ∀ level value, (∀ elements, value ≠ .array elements) →
    (∀ members, value ≠ .object members) → print level value = value.compact
  emptyArray : ∀ level, print level (.array []) = ['[', ']']
  emptyObject : ∀ level, print level (.object []) = ['\x7b', '\x7d']
  array : ∀ level element rest, print level (.array (element :: rest)) =
    '[' :: (layout.inside level ++ (print (level + 1) element ++ printElements level rest))
  object : ∀ level key value rest, print level (.object ((key, value) :: rest)) =
    '\x7b' :: (layout.inside level ++ (quote key ++ ':' :: (layout.colon ++
      (print (level + 1) value ++ printMembers level rest))))
  lastElement : ∀ level, printElements level [] = layout.close level ++ [']']
  nextElement : ∀ level element rest, printElements level (element :: rest) =
    ',' :: (layout.inside level ++ (print (level + 1) element ++ printElements level rest))
  lastMember : ∀ level, printMembers level [] = layout.close level ++ ['\x7d']
  nextMember : ∀ level key value rest, printMembers level ((key, value) :: rest) =
    ',' :: (layout.inside level ++ (quote key ++ ':' :: (layout.colon ++
      (print (level + 1) value ++ printMembers level rest))))

namespace Prints

variable {layout : Layout} {print : Nat → Value → List Char}
  {printElements : Nat → List Value → List Char}
  {printMembers : Nat → List (String × Value) → List Char}
  (prints : Prints layout print printElements printMembers)

include prints

theorem laidElements_eq (level : Nat) {elements : List Value}
    (alike : ∀ element ∈ elements, ∀ level, element.laid layout level = print level element) :
    laidElements layout level elements = printElements level elements := by
  induction elements with
  | nil => rw [laidElements, prints.lastElement]
  | cons element rest ih =>
      rw [laidElements, prints.nextElement, alike element List.mem_cons_self,
        ih fun other member => alike other (List.mem_cons_of_mem _ member)]

theorem laidMembers_eq (level : Nat) {members : List (String × Value)}
    (alike : ∀ member ∈ members, ∀ level, member.2.laid layout level = print level member.2) :
    laidMembers layout level members = printMembers level members := by
  induction members with
  | nil => rw [laidMembers, prints.lastMember]
  | cons member rest ih =>
      obtain ⟨key, value⟩ := member
      rw [laidMembers, prints.nextMember, alike (key, value) List.mem_cons_self,
        ih fun other later => alike other (List.mem_cons_of_mem _ later)]

theorem laid_eq {value : Value} (free : value.DoubleFree) :
    ∀ level, value.laid layout level = print level value := by
  induction free with
  | null => exact fun level => (prints.scalar level .null nofun nofun).symm
  | bool value => exact fun level => (prints.scalar level (.bool value) nofun nofun).symm
  | whole value =>
      exact fun level => (prints.scalar level (.number (.whole value)) nofun nofun).symm
  | string text => exact fun level => (prints.scalar level (.string text) nofun nofun).symm
  | @array elements _ ih =>
      intro level
      cases elements with
      | nil => exact (prints.emptyArray level).symm
      | cons element rest =>
          rw [Value.laid, prints.array, ih element List.mem_cons_self,
            prints.laidElements_eq level fun other member => ih other (List.mem_cons_of_mem _ member)]
  | @object members _ ih =>
      intro level
      cases members with
      | nil => exact (prints.emptyObject level).symm
      | cons member rest =>
          obtain ⟨key, value⟩ := member
          rw [Value.laid, prints.object, ih (key, value) List.mem_cons_self,
            prints.laidMembers_eq level fun other later => ih other (List.mem_cons_of_mem _ later)]

end Prints

theorem prints_compact : Prints .compact (fun _ => Value.compact) (fun _ => compactElements)
    (fun _ => compactMembers) := by
  constructor
  case scalar => exact fun _ _ _ _ => rfl
  all_goals simp [Layout.compact, Value.compact, compactElements, compactMembers]

theorem prints_pretty :
    Prints .pretty (fun level => Value.pretty level) prettyElements prettyMembers := by
  constructor
  case scalar =>
    intro level value noArray noObject
    cases value with
    | array elements => exact absurd rfl (noArray elements)
    | object members => exact absurd rfl (noObject members)
    | _ => rfl
  all_goals simp [Layout.pretty, Value.pretty, Value.compact, prettyElements, prettyMembers]

theorem Value.DoubleFree.laid_compact {value : Value} (free : value.DoubleFree) (level : Nat) :
    value.laid .compact level = value.compact :=
  prints_compact.laid_eq free level

theorem Value.DoubleFree.laid_pretty {value : Value} (free : value.DoubleFree) (level : Nat) :
    value.laid .pretty level = value.pretty level :=
  prints_pretty.laid_eq free level

end ArtifactTools.Json
