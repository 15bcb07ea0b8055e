import ArtifactTools.Shell.Pattern

/-! Patterns of the extended dialect. A mark before parentheses says how often one of the patterns
between them may stand there; a caret may take the place of an exclamation mark between brackets. -/

namespace ArtifactTools.Shell

inductive Shape where
  | item (item : PatternItem)
  | group (mark : Char) (choices : List (List Shape))

namespace Shape

mutual

def read : Nat → Bool → Bool → List Glyph → List Shape × List Glyph
  | 0, _, _, rest => ([], rest)
  | _ + 1, _, _, [] => ([], [])
  | fuel + 1, hasGroups, isInside, glyph :: rest =>
      let goOn (shape : Shape) (rest : List Glyph) : List Shape × List Glyph :=
        let (others, rest) := read fuel hasGroups isInside rest
        (shape :: others, rest)
      let active := glyph.active?
      if isInside && (active = some '|' || active = some ')') then ([], glyph :: rest)
      else
        let opens := hasGroups && active.any ("?*+@!".contains ·) &&
          rest.head?.any fun next => next.active? = some '('
        match if opens then choices fuel (rest.drop 1) else none with
        | some (found, rest) => goOn (.group (active.getD '@') found) rest
        | none =>
            match active, rest with
            | some '\\', next :: others =>
                match next.character? with
                | some character => goOn (.item (.exactly character)) others
                | none => read fuel hasGroups isInside (glyph :: others)
            | some '*', _ => goOn (.item .anyText) rest
            | some '?', _ => goOn (.item .anyCharacter) rest
            | some '[', next :: others =>
                let negated := next.active?.any ("!^".contains ·)
                match Pattern.members true (rest.length + 1) (if negated then others else rest) with
                | some (found, rest) => goOn (.item (.oneOf negated found)) rest
                | none => goOn (.item (.exactly '[')) rest
            | _, _ =>
                match glyph.character? with
                | some character => goOn (.item (.exactly character)) rest
                | none => read fuel hasGroups isInside rest

def choices : Nat → List Glyph → Option (List (List Shape) × List Glyph)
  | 0, _ => none
  | fuel + 1, glyphs =>
      let (first, rest) := read fuel true true glyphs
      match rest with
      | [] => none
      | glyph :: rest =>
          if glyph.active? = some ')' then some ([first], rest)
          else (choices fuel rest).map fun (others, rest) => (first :: others, rest)

termination_by structural fuel => fuel
end

def ofGlyphs (hasGroups : Bool) (glyphs : List Glyph) : List Shape :=
  (read (2 * glyphs.length + 2) hasGroups false glyphs).1

def reached (next : Nat → List Nat) : Nat → List Nat → List Nat → List Nat
  | 0, known, _ => known
  | fuel + 1, known, fresh =>
      let found := (fresh.flatMap next).eraseDups.filter fun count => !known.contains count
      if found.isEmpty then known else reached next fuel (known ++ found) found

def counts : Nat → List Shape → Text → List Nat
  | 0, _, _ => []
  | _ + 1, [], _ => [0]
  | fuel + 1, .item .anyText :: rest, text =>
      ((List.range (text.length + 1)).flatMap fun taken =>
        (counts fuel rest (text.drop taken)).map (· + taken)).eraseDups
  | _ + 1, .item _ :: _, [] => []
  | fuel + 1, .item single :: rest, character :: text =>
      if Pattern.PatternItem.accepts single character then (counts fuel rest text).map (· + 1) else []
  | fuel + 1, .group mark choices :: rest, text =>
      let once (taken : Nat) : List Nat :=
        (choices.flatMap fun choice => counts fuel choice (text.drop taken)).map (· + taken)
      let found : List Nat :=
        match mark with
        | '@' => once 0
        | '?' => 0 :: once 0
        | '*' => reached once (text.length + 1) [0] [0]
        | '+' =>
            let start := (once 0).eraseDups
            reached once (text.length + 1) start start
        | _ =>
            let excluded := once 0
            (List.range (text.length + 1)).filter fun taken => !excluded.contains taken
      (found.eraseDups.flatMap fun taken =>
        (counts fuel rest (text.drop taken)).map (· + taken)).eraseDups

def fits (shapes : List Shape) (fuel : Nat) (text : Text) : Bool :=
  (counts fuel shapes text).contains text.length

end Shape

/-- The test whether a text fits a pattern of the extended dialect, where letters of both kinds may
count as alike. -/
def Pattern.extendedTest (hasGroups ignoresCase : Bool) (glyphs : List Glyph) : Text → Bool :=
  let lowered : Glyph → Glyph
    | .bare character => .bare character.toLower
    | .loose character => .loose character.toLower
    | .exact character => .exact character.toLower
    | glyph => glyph
  let shapes := Shape.ofGlyphs hasGroups (if ignoresCase then glyphs.map lowered else glyphs)
  let fuel := 2 * glyphs.length + 4
  fun text => Shape.fits shapes fuel (if ignoresCase then text.map Char.toLower else text)

end ArtifactTools.Shell
