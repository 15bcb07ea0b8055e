import ArtifactTools.Proofs.Json.Layout
import ArtifactTools.Proofs.Json.Tokens

/-! What is written for a value without doubles, in whatever layout, a reader takes up to its last
character, as the document that the value stands for. -/

namespace ArtifactTools.Json

/-! The document of a value. -/

def Number.numeral (number : Number) : Numeral :=
  ((readNumeral? number.text).map (·.1)).getD (wholeNumeral 0)

theorem Number.numeral_whole (value : Int) :
    (Number.whole value).numeral = wholeNumeral value := by
  have ends : Ends [] := trivial
  have reads := readNumeral?_intDigits value ends
  rw [List.append_nil] at reads
  simp [Number.numeral, Number.text, reads]

mutual

def Value.document : Value → Document
  | .null => .null
  | .bool value => .bool value
  | .number value => .number value.numeral
  | .string text => .string (some text)
  | .array elements => .array (elementDocuments elements)
  | .object members => .object (memberDocuments members)

def elementDocuments : List Value → List Document
  | [] => []
  | element :: rest => element.document :: elementDocuments rest

def memberDocuments : List (String × Value) → List (Option String × Document)
  | [] => []
  | (key, value) :: rest => (some key, value.document) :: memberDocuments rest

end

/-! What stands between the tokens. -/

theorem ends_of_separated {first : Char} {blanks : List Char} (blank : AllBlank blanks)
    (apart : Decimal.isDigit first = false ∧ first ≠ '.' ∧ first ≠ 'e' ∧ first ≠ 'E')
    (rest : List Char) : Ends (blanks ++ first :: rest) := by
  cases blanks with
  | nil => exact apart
  | cons next others =>
      have blankNext := blank next List.mem_cons_self
      simp only [isBlank, Bool.or_eq_true, decide_eq_true_eq] at blankNext
      rcases blankNext with ((rfl | rfl) | rfl) | rfl <;> simp [Ends, Decimal.isDigit]

theorem ends_laidElements (layout : Layout) (level : Nat) (elements : List Value)
    (rest : List Char) : Ends (laidElements layout level elements ++ rest) := by
  cases elements with
  | nil =>
      rw [laidElements, List.append_assoc]
      exact ends_of_separated (layout.close_blank level) (by decide) rest
  | cons element others =>
      rw [laidElements, List.cons_append]
      exact ends_of_separated allBlank_nil (by decide) _

theorem ends_laidMembers (layout : Layout) (level : Nat) (members : List (String × Value))
    (rest : List Char) : Ends (laidMembers layout level members ++ rest) := by
  cases members with
  | nil =>
      rw [laidMembers, List.append_assoc]
      exact ends_of_separated (layout.close_blank level) (by decide) rest
  | cons member others =>
      rw [laidMembers, List.cons_append]
      exact ends_of_separated allBlank_nil (by decide) _

def Begins (characters : List Char) : Prop :=
  ∃ first rest, characters = first :: rest ∧ isBlank first = false ∧ first ≠ ']'

theorem isBlank_of_isDigit {character : Char} (digit : Decimal.isDigit character = true) :
    isBlank character = false := by
  cases blank : isBlank character with
  | false => rfl
  | true =>
      simp only [isBlank, Bool.or_eq_true, decide_eq_true_eq] at blank
      rcases blank with ((rfl | rfl) | rfl) | rfl <;> exact absurd digit (by decide)

theorem begins_intDigits (value : Int) : Begins (Decimal.intDigits value) := by
  unfold Decimal.intDigits
  split
  · exact ⟨'-', _, rfl, by decide, by decide⟩
  · obtain ⟨first, others, written, digit⟩ := exists_head_digits value.natAbs
    refine ⟨first, others, written, isBlank_of_isDigit digit, ?_⟩
    rintro rfl
    exact absurd digit (by decide)

theorem Value.DoubleFree.begins {value : Value} (free : value.DoubleFree) (layout : Layout)
    (level : Nat) : Begins (value.laid layout level) := by
  cases free with
  | null => exact ⟨'n', _, rfl, by decide, by decide⟩
  | bool value => cases value <;> exact ⟨_, _, rfl, by decide, by decide⟩
  | whole value => exact begins_intDigits value
  | string text => exact ⟨'"', _, rfl, by decide, by decide⟩
  | @array elements _ =>
      cases elements <;> exact ⟨'[', _, rfl, by decide, by decide⟩
  | @object members _ =>
      cases members <;> exact ⟨'\x7b', _, rfl, by decide, by decide⟩

/-! Reading what was written. -/

/-- The text of a value, with blanks before it, is read to its end wherever a value may end. -/
def Value.Returns (layout : Layout) (value : Value) : Prop :=
  ∀ level fuel blanks rest, AllBlank blanks → (value.laid layout level).length ≤ fuel → Ends rest →
    readValue fuel (blanks ++ (value.laid layout level ++ rest)) = some (value.document, rest)

theorem readValue_intDigits (value : Int) {fuel : Nat} {blanks rest : List Char}
    (blank : AllBlank blanks) (enough : 0 < fuel) (ends : Ends rest) :
    readValue fuel (blanks ++ (Decimal.intDigits value ++ rest)) =
      some (.number (wholeNumeral value), rest) := by
  have reads := readNumeral?_intDigits value ends
  obtain ⟨first, others, written, visible, _⟩ := begins_intDigits value
  have leading : first = '-' ∨ Decimal.isDigit first = true := by
    unfold Decimal.intDigits at written
    split at written
    · exact Or.inl (List.cons.inj written).1.symm
    · exact Or.inr (Decimal.isDigit_of_mem_digits value.natAbs first (by simp [written]))
  have notLetter : first ≠ 'n' ∧ first ≠ 't' ∧ first ≠ 'f' ∧ first ≠ '"' ∧ first ≠ '[' ∧
      first ≠ '\x7b' := by
    refine ⟨?_, ?_, ?_, ?_, ?_, ?_⟩ <;>
    · rintro rfl
      exact absurd leading (by decide)
  obtain ⟨fuel, rfl⟩ := Nat.exists_eq_succ_of_ne_zero (Nat.ne_of_gt enough)
  rw [written, List.cons_append] at reads ⊢
  rw [readValue, skipBlank_append blank, skipBlank_cons visible]
  split <;> simp_all

theorem readElements_laid {layout : Layout} (level : Nat) (others : List Value) :
    ∀ {element : Value} (fuel : Nat) {blanks : List Char} (rest : List Char),
      (∀ value ∈ element :: others, value.Returns layout) → AllBlank blanks →
      (element.laid layout (level + 1) ++ laidElements layout level others).length ≤ fuel →
      readElements fuel (blanks ++ (element.laid layout (level + 1) ++
          (laidElements layout level others ++ rest))) =
        some (elementDocuments (element :: others), rest) := by
  induction others with
  | nil =>
      intro element fuel blanks rest returns blank enough
      simp only [laidElements, List.length_append, List.length_cons, List.length_nil] at enough
      obtain ⟨fuel, rfl⟩ := Nat.exists_eq_succ_of_ne_zero (show fuel ≠ 0 by omega)
      have read := returns element List.mem_cons_self (level + 1) fuel blanks _ blank (by omega)
        (ends_laidElements layout level [] rest)
      rw [readElements, read]
      simp only [laidElements, List.append_assoc]
      rw [skipBlank_append (layout.close_blank level), List.singleton_append,
        skipBlank_cons (by decide)]
      rfl
  | cons next others ih =>
      intro element fuel blanks rest returns blank enough
      have size := enough
      simp only [laidElements, List.length_append, List.length_cons] at size
      obtain ⟨fuel, rfl⟩ := Nat.exists_eq_succ_of_ne_zero (show fuel ≠ 0 by omega)
      have read := returns element List.mem_cons_self (level + 1) fuel blanks _ blank (by omega)
        (ends_laidElements layout level (next :: others) rest)
      have readOthers := ih fuel rest
        (fun value member => returns value (List.mem_cons_of_mem _ member))
        (layout.inside_blank level) (by rw [List.length_append]; omega)
      rw [readElements, read]
      simp only [laidElements, List.cons_append, List.append_assoc]
      rw [skipBlank_cons (by decide)]
      simp only
      rw [readOthers]
      rfl

def afterMember (fuel : Nat) (member : Option String × Document) :
    List Char → Option (List (Option String × Document) × List Char)
  | '\x7d' :: rest => some ([member], rest)
  | ',' :: rest => (readMembers fuel rest).map fun (members, rest) => (member :: members, rest)
  | _ => none

theorem readMembers_member {fuel : Nat} {blanks rest after : List Char} {document : Document}
    (key : String) (blank : AllBlank blanks) (read : readValue fuel rest = some (document, after)) :
    readMembers (fuel + 1) (blanks ++ (quote key ++ ':' :: rest)) =
      afterMember fuel (some key, document) (skipBlank after) := by
  rw [readMembers, skipBlank_append blank]
  simp only [quote, List.cons_append, List.append_assoc, List.nil_append]
  rw [skipBlank_cons (by decide)]
  simp only
  rw [readString_quoted]
  simp only
  rw [skipBlank_cons (by decide)]
  simp only
  rw [read]
  rfl

theorem readMembers_laid {layout : Layout} (level : Nat) (others : List (String × Value)) :
    ∀ {key : String} {value : Value} (fuel : Nat) {blanks : List Char} (rest : List Char),
      (∀ member ∈ (key, value) :: others, member.2.Returns layout) → AllBlank blanks →
      (quote key ++ ':' :: (layout.colon ++ (value.laid layout (level + 1) ++
        laidMembers layout level others))).length ≤ fuel →
      readMembers fuel (blanks ++ (quote key ++ ':' :: (layout.colon ++
          (value.laid layout (level + 1) ++ (laidMembers layout level others ++ rest))))) =
        some (memberDocuments ((key, value) :: others), rest) := by
  induction others with
  | nil =>
      intro key value fuel blanks rest returns blank enough
      simp only [laidMembers, List.length_append, List.length_cons, List.length_nil] at enough
      obtain ⟨fuel, rfl⟩ := Nat.exists_eq_succ_of_ne_zero (show fuel ≠ 0 by omega)
      have returned : value.Returns layout := returns (key, value) List.mem_cons_self
      have read := returned (level + 1) fuel layout.colon _ layout.colon_blank (by omega)
        (ends_laidMembers layout level [] rest)
      rw [readMembers_member key blank read]
      simp only [laidMembers, List.append_assoc]
      rw [skipBlank_append (layout.close_blank level), List.singleton_append,
        skipBlank_cons (by decide)]
      rfl
  | cons next others ih =>
      obtain ⟨nextKey, nextValue⟩ := next
      intro key value fuel blanks rest returns blank enough
      simp only [laidMembers, List.length_append, List.length_cons] at enough
      obtain ⟨fuel, rfl⟩ := Nat.exists_eq_succ_of_ne_zero (show fuel ≠ 0 by omega)
      have returned : value.Returns layout := returns (key, value) List.mem_cons_self
      have read := returned (level + 1) fuel layout.colon _ layout.colon_blank (by omega)
        (ends_laidMembers layout level ((nextKey, nextValue) :: others) rest)
      have readOthers := ih fuel rest
        (fun member later => returns member (List.mem_cons_of_mem _ later))
        (layout.inside_blank level)
        (by simp only [List.length_append, List.length_cons]; omega)
      rw [readMembers_member key blank read]
      simp only [laidMembers, List.cons_append, List.append_assoc]
      rw [skipBlank_cons (by decide), afterMember, readOthers]
      rfl

theorem readValue_elements {fuel : Nat} {blanks inside text : List Char} (blank : AllBlank blanks)
    (blankInside : AllBlank inside) (begins : Begins text) :
    readValue (fuel + 1) (blanks ++ '[' :: (inside ++ text)) =
      (readElements fuel text).map fun (elements, rest) => (.array elements, rest) := by
  obtain ⟨first, more, written, visible, notClosing⟩ := begins
  rw [readValue, skipBlank_append blank, skipBlank_cons (by decide)]
  simp only
  rw [skipBlank_append blankInside, written, skipBlank_cons visible]
  split
  · next same => exact absurd (List.cons.inj same).1 notClosing
  · rfl

theorem readValue_members {fuel : Nat} {blanks inside : List Char} (key : String)
    (rest : List Char) (blank : AllBlank blanks) (blankInside : AllBlank inside) :
    readValue (fuel + 1) (blanks ++ '\x7b' :: (inside ++ (quote key ++ rest))) =
      (readMembers fuel (quote key ++ rest)).map fun (members, rest) =>
        (.object members, rest) := by
  rw [readValue, skipBlank_append blank, skipBlank_cons (by decide)]
  simp only
  rw [skipBlank_append blankInside]
  simp only [quote, List.cons_append]
  rw [skipBlank_cons (by decide)]
  rfl

theorem Value.DoubleFree.exists_fuel {value : Value} (free : value.DoubleFree) {layout : Layout}
    {level fuel : Nat} (enough : (value.laid layout level).length ≤ fuel) :
    ∃ less, fuel = less + 1 := by
  obtain ⟨first, more, written, _⟩ := free.begins layout level
  rw [written, List.length_cons] at enough
  exact ⟨fuel - 1, by omega⟩

theorem readValue_quoted (fuel : Nat) {blanks : List Char} (blank : AllBlank blanks)
    (text : String) (rest : List Char) :
    readValue (fuel + 1) (blanks ++ (quote text ++ rest)) = some (.string (some text), rest) := by
  rw [readValue, skipBlank_append blank]
  simp only [quote, List.cons_append, List.append_assoc, List.nil_append]
  rw [skipBlank_cons (by decide)]
  simp only
  rw [readString_quoted]
  rfl

theorem returns_array {layout : Layout} {elements : List Value}
    (free : ∀ element ∈ elements, element.DoubleFree)
    (returns : ∀ element ∈ elements, element.Returns layout) :
    (Value.array elements).Returns layout := by
  intro level fuel blanks rest blank enough _
  obtain ⟨fuel, rfl⟩ := (Value.DoubleFree.array free).exists_fuel enough
  cases elements with
  | nil =>
      change readValue _ (blanks ++ '[' :: ']' :: rest) = _
      rw [readValue, skipBlank_append blank]
      rfl
  | cons element others =>
      simp only [Value.laid, List.length_append, List.length_cons] at enough
      obtain ⟨first, more, written, visible⟩ :=
        (free element List.mem_cons_self).begins layout (level + 1)
      have read := readElements_laid level others fuel rest returns allBlank_nil
        (by rw [List.length_append]; omega)
      simp only [Value.laid, List.cons_append, List.append_assoc]
      rw [readValue_elements blank (layout.inside_blank level)
        ⟨first, _, by rw [written, List.cons_append], visible⟩]
      rw [List.nil_append] at read
      rw [read]
      rfl

theorem returns_object {layout : Layout} {members : List (String × Value)}
    (free : ∀ member ∈ members, member.2.DoubleFree)
    (returns : ∀ member ∈ members, member.2.Returns layout) :
    (Value.object members).Returns layout := by
  intro level fuel blanks rest blank enough _
  obtain ⟨fuel, rfl⟩ := (Value.DoubleFree.object free).exists_fuel enough
  cases members with
  | nil =>
      change readValue _ (blanks ++ '\x7b' :: '\x7d' :: rest) = _
      rw [readValue, skipBlank_append blank]
      rfl
  | cons member others =>
      obtain ⟨key, value⟩ := member
      simp only [Value.laid, List.length_append, List.length_cons] at enough
      have read := readMembers_laid level others fuel rest returns allBlank_nil
        (by simp only [List.length_append, List.length_cons]; omega)
      simp only [Value.laid, List.cons_append, List.append_assoc]
      rw [readValue_members key _ blank (layout.inside_blank level)]
      rw [List.nil_append] at read
      rw [read]
      rfl

theorem Value.DoubleFree.returns {value : Value} (free : value.DoubleFree) (layout : Layout) :
    value.Returns layout := by
  -- Of `null` and the two truth values the reader compares the letters, so their texts are spelled
  -- out.
  induction free with
  | null =>
      intro level fuel blanks rest blank enough _
      obtain ⟨fuel, rfl⟩ := Value.DoubleFree.null.exists_fuel enough
      change readValue _ (blanks ++ 'n' :: 'u' :: 'l' :: 'l' :: rest) = _
      rw [readValue, skipBlank_append blank]
      rfl
  | bool value =>
      intro level fuel blanks rest blank enough _
      obtain ⟨fuel, rfl⟩ := (Value.DoubleFree.bool value).exists_fuel enough
      cases value with
      | false =>
          change readValue _ (blanks ++ 'f' :: 'a' :: 'l' :: 's' :: 'e' :: rest) = _
          rw [readValue, skipBlank_append blank]
          rfl
      | true =>
          change readValue _ (blanks ++ 't' :: 'r' :: 'u' :: 'e' :: rest) = _
          rw [readValue, skipBlank_append blank]
          rfl
  | whole value =>
      intro level fuel blanks rest blank enough ends
      obtain ⟨fuel, rfl⟩ := (Value.DoubleFree.whole value).exists_fuel enough
      rw [Value.document, Number.numeral_whole]
      exact readValue_intDigits value blank (Nat.succ_pos fuel) ends
  | string text =>
      intro level fuel blanks rest blank enough _
      obtain ⟨fuel, rfl⟩ := (Value.DoubleFree.string text).exists_fuel enough
      exact readValue_quoted fuel blank text rest
  | array free returns => exact returns_array free returns
  | object free returns => exact returns_object free returns

def Value.textIn (layout : Layout) (value : Value) : String :=
  String.ofList (value.laid layout 0)

theorem Value.DoubleFree.read?_textIn {value : Value} (free : value.DoubleFree)
    (layout : Layout) : read? (value.textIn layout) = some value.document := by
  have read := free.returns layout 0 (2 * (value.laid layout 0).length + 2) [] []
    allBlank_nil (by omega) trivial
  simp only [List.nil_append, List.append_nil] at read
  unfold read? Value.textIn
  simp only [String.toList_ofList]
  rw [read]
  rfl

theorem Value.DoubleFree.textIn_compact {value : Value} (free : value.DoubleFree) :
    value.textIn .compact = value.compactText := by
  rw [Value.textIn, free.laid_compact, Value.compactText]

theorem Value.DoubleFree.textIn_pretty {value : Value} (free : value.DoubleFree) :
    value.textIn .pretty = value.prettyText := by
  rw [Value.textIn, free.laid_pretty, Value.prettyText]

theorem Value.DoubleFree.read?_prettyText {value : Value} (free : value.DoubleFree) :
    read? value.prettyText = some value.document := by
  rw [← free.textIn_pretty, free.read?_textIn]

end ArtifactTools.Json
