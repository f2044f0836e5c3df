import RuleIntake.Pattern.Escape

/-!
# Openings of groups

An opening parenthesis starts a group that is counted, one with a name, one with flags for what is
in it, or it stands for nothing but a change of flags up to the end of the group around it.
-/

namespace RuleIntake.Pattern

/-- What an opening parenthesis turns out to start. -/
inductive GroupOpening
  | flags (span : Span) (settings : FlagSettings)
  | group (capturing : Bool) (settings : FlagSettings)

/-! ## Flags -/

def flagLetter? (c : Char) : Option Flag :=
  match c with
  | 'i' => some .caseInsensitive
  | 'm' => some .multiLine
  | 's' => some .dotMatchesNewLine
  | 'U' => some .swapGreed
  | 'u' => some .unicode
  | 'R' => some .crlf
  | 'x' => some .ignoreBlanks
  | _ => none

structure FlagList where
  /-- The flags so far, the last one first. -/
  seen : List (Flag × Span)
  settings : FlagSettings
  /-- The sign of negation, if there was one. -/
  negation : Option Span
  /-- Whether the sign of negation was the last that came. -/
  dangling : Bool

/-- One letter or sign of a list of flags. -/
def FlagList.push (l : FlagList) (c : Char) (span : Span) : Except FaultAt FlagList :=
  if c = '-' then
    match l.negation with
    | some before => refuse (.repeatedNegation before) span
    | none => .ok { l with negation := some span, dangling := true }
  else
    match flagLetter? c with
    | none => refuse .unknownFlag span
    | some flag =>
      match l.seen.lookup flag with
      | some before => refuse (.duplicateFlag before) span
      | none =>
        .ok { l with
          seen := (flag, span) :: l.seen
          settings := l.settings ++ [(flag, l.negation.isNone)]
          dangling := false }

/-- Flags up to a colon or a closing parenthesis, which is left in front. -/
def readFlags (l : FlagList) : Nat → Scan → Parsed FlagSettings
  | 0, s => refuse .endInFlags s.spanHere
  | fuel + 1, s =>
    match s.next? with
    | none => refuse .endInFlags s.spanHere
    | some c =>
      if c = ':' || c = ')' then
        match l.negation, l.dangling with
        | some span, true => refuse .danglingNegation span
        | _, _ => .ok (l.settings, s)
      else
        match l.push c s.spanNext with
        | .error e => .error e
        | .ok l => readFlags l fuel s.bump

/-! ## Names -/

/-- Whether a character may stand in a name, first or later. -/
def isNameChar (first : Bool) (c : Char) : Bool :=
  if first then c == '_' || Unicode.Property.alphabetic.contains c.toNat
  else
    c == '_' || c == '.' || c == '[' || c == ']' || Unicode.alphanumeric.contains c.toNat

/-- A name up to its closing angle bracket, behind those characters in `before`, which are in
reverse. -/
def readNameChars (before : List Char) : Nat → Scan → Parsed String
  | 0, s => refuse .unclosedName s.spanHere
  | fuel + 1, s =>
    match s.next? with
    | none => refuse .unclosedName s.spanHere
    | some c =>
      if c = '>' then .ok (String.ofList before.reverse, s)
      else if isNameChar before.isEmpty c then readNameChars (c :: before) fuel s.bump
      else refuse .invalidNameCharacter s.spanNext

/-- A name with its closing angle bracket. No name may occur twice. -/
def readName (s : Scan) : Except FaultAt Scan :=
  match readNameChars [] (s.rest.length + 1) s with
  | .error e => .error e
  | .ok (name, stop) =>
    let span : Span := ⟨s.place, stop.place⟩
    if name.isEmpty then refuse .emptyName (.emptyAt s.place)
    else
      match s.names.lookup name with
      | some before => refuse (.duplicateName before) span
      | none => .ok { stop.bump with names := (name, span) :: stop.names }

/-! ## Openings -/

def lookAround? (s : Scan) : Option Scan :=
  ["?=", "?!", "?<=", "?<!"].findSome? s.after?

/-- What starts with the parenthesis at the scan. -/
def readGroupOpening (s : Scan) : Parsed GroupOpening :=
  let paren := s.spanNext
  let inside := s.bumpSkip
  match lookAround? inside with
  | some after => refuse .lookAround ⟨s.place, after.place⟩
  | none =>
    match (inside.after? "?P<").or (inside.after? "?<") with
    | some name => (readName name).map fun after => (.group true [], after)
    | none =>
      match inside.after? "?" with
      | none => .ok (.group true [], inside)
      | some flags =>
        if flags.atEnd then refuse .unclosedGroup paren
        else
          match readFlags ⟨[], [], none, false⟩ (flags.rest.length + 1) flags with
          | .error e => .error e
          | .ok (settings, stop) =>
            let after := stop.bump
            if stop.startsWith ':' then .ok (.group false settings, after)
            else if settings.isEmpty then refuse .missingExpression inside.spanHere
            else .ok (.flags ⟨s.place, after.place⟩ settings, after)

end RuleIntake.Pattern
