import Triage.Pattern.Error
import Triage.Pattern.Node
import Triage.Pattern.Token
import Triage.Text.Alphanumeric
import Triage.Text.CharacterName
import Triage.Text.Identifier
import Triage.Text.Integer

/-!
# Reading a pattern

`parse` turns the text of a pattern into its syntax tree and its global flags, or says what is wrong
with it and where. The reader looks one token ahead; a backslash at the very end of the pattern is an
error as soon as it comes into view, before anything else that is wrong further left but not yet
looked at.

* `Reader`: the rest of the pattern together with what is known of its groups.
* `sequence`, `alternatives`: the two levels of the grammar. A token costs them at most five steps, so
  the fuel that `parse` gives them, five for each token and five more, is never used up.
-/

namespace Triage.Pattern

open Triage.Text

/-- Repetition counts stay below this number. -/
def countLimit : Nat := 4294967295

/-- Group numbers stay below this number. -/
def groupLimit : Nat := 1073741823

/-- The state of reading a pattern. -/
structure Reader where
  /-- The tokens from the one in view on. -/
  rest : List Token
  /-- The position of the token in view. -/
  position : Nat
  /-- Whether the pattern ends in a lone backslash. -/
  dangles : Bool
  flags : Flags
  /-- The named groups and their numbers. -/
  names : List (String × Nat) := []
  /-- The widths of the groups opened so far, from group 1 on; `none` while a group is open. -/
  widths : Array (Option Width) := #[]
  /-- Inside a lookbehind, the number of groups there were before the outermost one. -/
  lookbehindGroups : Option Nat := none
  /-- The numbers that conditions refer to, each with the first place. -/
  conditions : List (Nat × Nat) := []

/-- Reading with a state and a possible failure. -/
abbrev Parser := StateT Reader (Except Failure)

namespace Parser

/-- Fails with a fault that lies `offset` characters before the token in view. -/
def fail {α : Type} (cause : Cause) (offset : Nat := 0) : Parser α := do
  throw (.malformed cause (some ((← get).position - offset)))

/-- The token in view. -/
def peek : Parser (Option Token) := do
  return (← get).rest.head?

/-- Whether the unescaped character is in view. -/
def sees (c : Char) : Parser Bool := do
  return (← peek).any (·.is c)

/-- Brings the next token into view and returns the one that was. -/
def take : Parser (Option Token) := do
  let r ← get
  match r.rest with
  | [] => return none
  | t :: ts =>
    let position := r.position + t.length
    if ts.isEmpty && r.dangles then throw (.malformed .danglingEscape (some position))
    set { r with rest := ts, position := position }
    return some t

/-- Takes the unescaped character if it is in view, and tells whether it was. -/
def accept (c : Char) : Parser Bool := do
  if ← sees c then
    discard take
    return true
  return false

/-- Takes at most `n` unescaped characters of the class. -/
def takeUpTo (p : Char → Bool) : Nat → Parser (List Char)
  | 0 => return []
  | n + 1 => do
    match (← peek).bind Token.plain? with
    | some c =>
      if p c then
        discard take
        return c :: (← takeUpTo p n)
      return []
    | none => return []

/-- Takes unescaped characters as long as they are of the class. -/
def takeWhile (p : Char → Bool) : Parser (List Char) := do
  takeUpTo p (← get).rest.length

/-- Takes tokens up to a terminator and the terminator itself; the text between may not be empty. -/
def takeUntil (terminator : Char) (what : String) : Parser String := do
  go terminator what (← get).rest.length []
where
  /-- The loop of `takeUntil`, with the text so far. -/
  go (terminator : Char) (what : String) : Nat → List Char → Parser String
    | 0, found => atEnd terminator what found
    | fuel + 1, found => do
      match ← take with
      | none => atEnd terminator what found
      | some t =>
        if t.is terminator then
          if found.isEmpty then fail (.missingName what) 1
          else return String.ofList found
        else go terminator what fuel (found ++ t.chars)
  /-- What is wrong if the pattern ends before the terminator. -/
  atEnd (terminator : Char) (what : String) (found : List Char) : Parser String :=
    if found.isEmpty then fail (.missingName what)
    else fail (.unterminatedName terminator.toString) found.length

/-- Reads decimal digits as a number. -/
def number (ds : List Char) : Parser Nat := do
  if ds.length > Text.maxDigits then throw (.tooManyDigits ds.length)
  return natOfText 10 ds

/-- The group with the number, if it is closed. -/
def closedGroup? (g : Nat) : Parser (Option Width) := do
  return ((← get).widths[g - 1]?).join

/-- Inside a lookbehind only groups from before it can be referred to. -/
def checkLookbehind (g : Nat) : Parser Unit := do
  if let some n := (← get).lookbehindGroups then
    if (← closedGroup? g).isNone then fail .openGroup
    if g > n then fail .groupInSameLookbehind

/-- Opens a group and returns its number. -/
def openGroup (name : Option String) : Parser Nat := do
  let r ← get
  let g := r.widths.size + 1
  match name with
  | none => set { r with widths := r.widths.push none }
  | some n =>
    if let some was := r.names.lookup n then
      fail (.groupRedefined n g was) (n.length + 1)
    set { r with widths := r.widths.push none, names := (n, g) :: r.names }
  return g

/-- The widths of the closed groups. -/
def groupWidth (r : Reader) (g : Nat) : Width :=
  (r.widths[g - 1]?).join.getD .zero

/-- Closes a group on its content. -/
def closeGroup (g : Nat) (body : List Node) : Parser Unit := do
  modify fun r =>
    { r with widths := r.widths.setIfInBounds (g - 1) (some (Node.widthOfList (groupWidth r) body)) }

/-- Checks that a group name is an identifier; the name ended `offset` characters before the token in
view. -/
def checkName (name : String) (offset : Nat) : Parser Unit := do
  if !isIdentifier name then fail (.badGroupName name) (name.length + offset)

/-- The control characters that have an escape of their own. -/
def controlEscape? : Char → Option Nat
  | 'a' => some 7
  | 'b' => some 8
  | 'f' => some 12
  | 'n' => some 10
  | 'r' => some 13
  | 't' => some 9
  | 'v' => some 11
  | '\\' => some 92
  | _ => none

/-- The classes that have an escape of their own. -/
def kindEscape? : Char → Option SetItem
  | 'd' => some (.kind .digit false)
  | 'D' => some (.kind .digit true)
  | 's' => some (.kind .space false)
  | 'S' => some (.kind .space true)
  | 'w' => some (.kind .word false)
  | 'W' => some (.kind .word true)
  | _ => none

/-- The conditions that have an escape of their own. -/
def anchorEscape? : Char → Option Anchor
  | 'A' => some .textStart
  | 'Z' => some .textEnd
  | 'b' => some .boundary
  | 'B' => some .notBoundary
  | _ => none

/-- The number of hexadecimal digits after the letter of a numeric escape. -/
def hexEscapeLength? : Char → Option Nat
  | 'x' => some 2
  | 'u' => some 4
  | 'U' => some 8
  | _ => none

/-- Reads the digits of a numeric escape of `n` digits whose letter has been taken. -/
def hexEscape (letter : Char) (n : Nat) : Parser Nat := do
  let ds ← takeUpTo isHexDigit n
  let escape := String.ofList ('\\' :: letter :: ds)
  if ds.length != n then fail (.incompleteEscape escape) escape.length
  let value := natOfText 16 ds
  if value > 0x7fffffff then throw .codePointTooLarge
  if value > 0x10ffff then fail (.badEscape escape) escape.length
  return value

/-- Reads the name of a character escape whose letter has been taken. -/
def nameEscape : Parser Nat := do
  if !(← accept '{') then fail .missingBrace
  let name ← takeUntil '}' "character name"
  match characterNamed? name with
  | some c => return c.toNat
  | none => fail (.unknownCharacterName name) (name.length + 4)

/-- The value of an octal escape. -/
def octalEscape (digits : List Char) : Parser Nat := do
  let value := natOfText 8 digits
  if value > 0o377 then
    fail (.octalTooLarge (String.ofList ('\\' :: digits))) (digits.length + 1)
  return value

/-- The escapes of one character that mean the same in and outside of a set: numbers, names, and
characters without a meaning of their own. -/
def characterEscape (c : Char) : Parser Nat := do
  if let some n := hexEscapeLength? c then hexEscape c n
  else if c == 'N' then nameEscape
  else if c.isAlphanum then fail (.badEscape (Token.escape c).text) 2
  else return c.toNat

/-- A member of a set that is written as an escape. -/
def setEscape (c : Char) : Parser SetItem := do
  if let some n := controlEscape? c then return .literal n
  if let some item := kindEscape? c then return item
  if isOctalDigit c then return .literal (← octalEscape (c :: (← takeUpTo isOctalDigit 2)))
  return .literal (← characterEscape c)

/-- A group reference by number. -/
def numberedBackref (digits : List Char) : Parser Node := do
  let g := natOfText 10 digits
  if g ≤ (← get).widths.size then
    if (← closedGroup? g).isNone then fail .openGroup (digits.length + 1)
    checkLookbehind g
    return .backref g
  fail (.noSuchGroup g) digits.length

/-- An escape outside of a set whose first digit has been taken: an octal number if it begins with a
zero or has three octal digits, else a group. -/
def digitEscape (c : Char) : Parser Node := do
  if c == '0' then
    return .literal (natOfText 8 (c :: (← takeUpTo isOctalDigit 2)))
  match ← takeUpTo Char.isDigit 1 with
  | [d] =>
    if isOctalDigit c && isOctalDigit d then
      match ← takeUpTo isOctalDigit 1 with
      | [e] => return .literal (← octalEscape [c, d, e])
      | _ => numberedBackref [c, d]
    else numberedBackref [c, d]
  | _ => numberedBackref [c]

/-- An escape outside of a set. -/
def escape (c : Char) : Parser Node := do
  if let some a := anchorEscape? c then return .anchor a
  if let some item := kindEscape? c then return .set false [item]
  if let some n := controlEscape? c then return .literal n
  if c.isDigit then digitEscape c
  else return .literal (← characterEscape c)

/-- One end of a range or a member by itself. -/
def setMember : Token → Parser SetItem
  | .plain c => return .literal c.toNat
  | .escape c => setEscape c

/-- Reads the members of a set up to its closing bracket, which is an ordinary member in first place.
`start` is the position of the opening bracket. -/
def setItems (start : Nat) : Nat → List SetItem → Parser (List SetItem)
  | 0, _ => fail .unterminatedSet
  | fuel + 1, found => do
    let unterminated : Parser (List SetItem) := do
      throw (.malformed .unterminatedSet (some start))
    match ← take with
    | none => unterminated
    | some first =>
      if first.is ']' && !found.isEmpty then return found
      let item ← setMember first
      if ← accept '-' then
        match ← take with
        | none => unterminated
        | some last =>
          if last.is ']' then return found ++ [item, .literal '-'.toNat]
          match item, ← setMember last with
          | .literal a, .literal b =>
            if b < a then
              fail (.badRange first.text last.text) (first.length + 1 + last.length)
            setItems start fuel (found ++ [.range a b])
          | _, _ => fail (.badRange first.text last.text) (first.length + 1 + last.length)
      else setItems start fuel (found ++ [item])

/-- Reads a set whose opening bracket has been taken. A set of one character is that character. -/
def set : Parser Node := do
  let start := (← get).position - 1
  let negated ← accept '^'
  match (← setItems start ((← get).rest.length + 1) []).eraseDups with
  | [.literal n] => return if negated then .notLiteral n else .literal n
  | items => return .set negated items

/-- Reads the bounds of a counted repetition whose opening brace has been taken; `none` if the brace
stands for itself. `start` is the position after the brace. -/
def bounds (start : Nat) : Parser (Option (Nat × Option Nat)) := do
  let before ← get
  if ← sees '}' then return none
  let lo ← takeWhile Char.isDigit
  let hi ← if ← accept ',' then takeWhile Char.isDigit else pure lo
  if !(← accept '}') then
    MonadStateOf.set before
    return none
  let least ← if lo.isEmpty then pure 0 else number lo
  if least ≥ countLimit then throw .countTooLarge
  if hi.isEmpty then return some (least, none)
  let most ← number hi
  if most ≥ countLimit then throw .countTooLarge
  if most < least then throw (.malformed .bounds (some start))
  return some (least, some most)

/-- What a repetition takes for its body: a plain group is taken apart. -/
def repeatable : Node → List Node
  | .group none add del body =>
    if add == .none && del == .none then body else [.group none add del body]
  | n => [n]

/-- Reads how a repetition goes about its count: the sign for it comes last, and there is at most one. -/
def appetite : Parser Appetite := do
  if ← accept '?' then return .lazy
  if ← accept '+' then return .possessive
  return .greedy

/-- Replaces the last node by its repetition. `start` is where the quantifier begins. -/
def repeatLast (start least : Nat) (most : Option Nat) (nodes : List Node) : Parser (List Node) := do
  match nodes.getLast? with
  | none | some (.anchor _) => throw (.malformed .nothingToRepeat (some start))
  | some (.repeated ..) => throw (.malformed .multipleRepeat (some start))
  | some n =>
    return nodes.dropLast ++ [.repeated least most (← appetite) (repeatable n)]

/-- The flag of a letter. -/
def flag? : Char → Option Flags
  | 'i' => some { ignoreCase := true }
  | 'm' => some { multiline := true }
  | 's' => some { dotAll := true }
  | 'x' => some { verbose := true }
  | 'a' => some { ascii := true }
  | 't' => some { template := true }
  | 'u' => some { unicode := true }
  | _ => none

/-- Whether the token is a flag letter; the letter of the locale flag counts although the flag is
refused. -/
def isFlag (t : Token) : Bool :=
  t.plain?.any fun c => c == 'L' || (flag? c).isSome

/-- What is wrong with a token that stands where a flag or one of some characters should be. -/
def flagFault (t : Token) (expected : String) : FlagFault :=
  if t.plain?.any isLetter then .unknown else .missing expected

/-- Reads the letters of flags to turn on, from the one just taken to the character that ends them. -/
def flagsOn : Nat → Char → Flags → Parser (Flags × Char)
  | 0, _, _ => fail (.flags (.missing "-, : or )"))
  | fuel + 1, c, on => do
    match flag? c with
    | none => fail (.flags .localeInText)
    | some f =>
      let on := on.union f
      if f.hasType && on.ascii && on.unicode then fail (.flags .incompatibleTypes)
      match ← take with
      | none => fail (.flags (.missing "-, : or )"))
      | some t =>
        match t.plain? with
        | some d =>
          if d == ')' || d == '-' || d == ':' then return (on, d)
          if isFlag t then flagsOn fuel d on
          else fail (.flags (flagFault t "-, : or )")) t.length
        | none => fail (.flags (flagFault t "-, : or )")) t.length

/-- Reads the letters of flags to turn off, from the one just taken to the colon. -/
def flagsOff : Nat → Char → Flags → Parser Flags
  | 0, _, _ => fail (.flags (.missing ":"))
  | fuel + 1, c, off => do
    match flag? c with
    | none => fail (.flags .typeTurnedOff)
    | some f =>
      if f.hasType then fail (.flags .typeTurnedOff)
      let off := off.union f
      match ← take with
      | none => fail (.flags (.missing ":"))
      | some t =>
        if t.is ':' then return off
        match t.plain? with
        | some d =>
          if isFlag t then flagsOff fuel d off
          else fail (.flags (flagFault t ":")) t.length
        | none => fail (.flags (flagFault t ":")) t.length

/-- Reads the flags of a group from the first letter on. `none` means that they hold for the whole
pattern; they are then in force. -/
def inlineFlags (first : Char) : Parser (Option (Flags × Flags)) := do
  let fuel := (← get).rest.length + 1
  let (on, last) ← if first == '-' then pure (.none, '-') else flagsOn fuel first .none
  if last == ')' then
    modify fun r => { r with flags := r.flags.union on }
    return none
  if on.template then fail (.flags .globalTurnedOn) 1
  let mut off := Flags.none
  if last == '-' then
    match ← take with
    | none => fail (.flags (.missing "flag"))
    | some t =>
      match t.plain? with
      | some c =>
        if isFlag t then off ← flagsOff fuel c .none
        else fail (.flags (flagFault t "flag")) t.length
      | none => fail (.flags (flagFault t "flag")) t.length
  if off.template then fail (.flags .globalTurnedOff) 1
  if on.meets off then fail (.flags .onAndOff) 1
  return some (on, off)

/-- Passes over a comment group whose opening has been taken. -/
def comment (start : Nat) : Nat → Parser Unit
  | 0 => throw (.malformed .unterminatedComment (some start))
  | fuel + 1 => do
    match ← take with
    | none => throw (.malformed .unterminatedComment (some start))
    | some t => if t.is ')' then return () else comment start fuel

/-- Passes over a comment that runs to the end of the line. -/
def lineComment : Nat → Parser Unit
  | 0 => return ()
  | fuel + 1 => do
    match ← take with
    | none => return ()
    | some t => if t.is '\n' then return () else lineComment fuel

/-- A group reference by name. -/
def namedBackref : Parser Node := do
  let name ← takeUntil ')' "group name"
  checkName name 1
  match (← get).names.lookup name with
  | none => fail (.unknownGroupName name) (name.length + 1)
  | some g =>
    if (← closedGroup? g).isNone then fail .openGroup (name.length + 1)
    checkLookbehind g
    return .backref g

/-- The group that a condition asks about, by name or number. A number may also name a group that comes
later; whether it does is checked at the end. -/
def conditionGroup : Parser Nat := do
  let name ← takeUntil ')' "group name"
  let offset := name.length + 1
  let g ←
    if isIdentifier name then
      match (← get).names.lookup name with
      | none => fail (.unknownGroupName name) offset
      | some g => pure g
    else
      match integer? name with
      | some (.ofNat 0) => fail .badGroupNumber offset
      | some (.ofNat g) =>
        if name.length > Text.maxDigits then fail (.badGroupName name) offset
        if g ≥ groupLimit then fail (.noSuchGroup g) offset
        modify fun r =>
          if r.conditions.any (·.1 == g) then r
          else { r with conditions := r.conditions ++ [(g, r.position - offset)] }
        pure g
      | _ => fail (.badGroupName name) offset
  checkLookbehind g
  return g

/-- Ends a group that began at `start`. -/
def closeParenthesis (start : Nat) : Parser Unit := do
  if !(← accept ')') then throw (.malformed .unterminatedGroup (some start))

/-- Takes plain groups apart. -/
def unpack (nodes : List Node) : List Node :=
  nodes.flatMap repeatable

/-- Splits off the leaves that all alternatives begin with. -/
def commonStart : List Node → List (List Node) → List Node × List Node × List (List Node)
  | [], others => ([], [], others)
  | n :: rest, others =>
    if others.all fun o => o.head?.any n.sameLeaf then
      let (shared, rest, others) := commonStart rest (others.map List.tail)
      (n :: shared, rest, others)
    else ([], n :: rest, others)

/-- The members of a set, if the alternative is a single character or set. -/
def setMembers? : List Node → Option (List SetItem)
  | [.literal n] => some [.literal n]
  | [.set false items] => some items
  | _ => none

/-- The node list of some alternatives: what they share in front, then one set if each alternative is a
character or a set, else a branch. -/
def joinAlternatives : List (List Node) → List Node
  | [] => []
  | [only] => only
  | first :: others =>
    let (shared, first, others) := commonStart first others
    let choices := first :: others
    match choices.mapM setMembers? with
    | some members => shared ++ [.set false members.flatten.eraseDups]
    | none => shared ++ [.branch choices]

mutual

/-- Reads alternatives up to a closing parenthesis or the end. `nested` tells whether they stand in a
group, `found` are the alternatives before. -/
def alternatives (verbose nested : Bool) : Nat → List (List Node) → Parser (List Node)
  | 0, _ => fail .unexpectedEnd
  | fuel + 1, found => do
    let nodes ← sequence verbose (!nested && found.isEmpty) fuel []
    let found := found ++ [nodes]
    if ← accept '|' then
      let flags := (← get).flags
      let verbose := if nested then verbose else flags.verbose
      alternatives verbose nested fuel found
    else return joinAlternatives found

/-- Reads a sequence up to a bar, a closing parenthesis or the end. `first` tells whether it begins the
pattern, `found` are the nodes before. -/
def sequence (verbose first : Bool) : Nat → List Node → Parser (List Node)
  | 0, _ => fail .unexpectedEnd
  | fuel + 1, found => do
    match ← peek with
    | none => return unpack found
    | some t =>
      if t.is '|' || t.is ')' then return unpack found
      discard take
      match t with
      | .escape c => sequence verbose first fuel (found ++ [← escape c])
      | .plain c =>
        if verbose && isAsciiBlank c then sequence verbose first fuel found
        else if verbose && c == '#' then
          lineComment fuel
          sequence verbose first fuel found
        else if c == '[' then sequence verbose first fuel (found ++ [← set])
        else if c == '.' then sequence verbose first fuel (found ++ [.any])
        else if c == '^' then sequence verbose first fuel (found ++ [.anchor .lineStart])
        else if c == '$' then sequence verbose first fuel (found ++ [.anchor .lineEnd])
        else if c == '?' || c == '*' || c == '+' then
          let start := (← get).position - 1
          let least := if c == '+' then 1 else 0
          let most := if c == '?' then some 1 else none
          sequence verbose first fuel (← repeatLast start least most found)
        else if c == '{' then
          let start := (← get).position
          match ← bounds start with
          | none => sequence verbose first fuel (found ++ [.literal c.toNat])
          | some (least, most) =>
            sequence verbose first fuel (← repeatLast (start - 1) least most found)
        else if c == '(' then
          let start := (← get).position - 1
          match ← group verbose (first && found.isEmpty) start fuel with
          | .inl nodes => sequence verbose first fuel (found ++ nodes)
          | .inr verbose => sequence verbose first fuel found
        else sequence verbose first fuel (found ++ [.literal c.toNat])

/-- Reads what follows an opening parenthesis: the nodes of a group, or the new verbosity after flags
for the whole pattern, which are allowed only where `atStart`. -/
def group (verbose atStart : Bool) (start : Nat) : Nat → Parser (List Node ⊕ Bool)
  | 0 => fail .unexpectedEnd
  | fuel + 1 => do
    if !(← accept '?') then
      return .inl [← capture verbose none start fuel]
    match ← take with
    | none => fail .unexpectedEnd
    | some t =>
      match t.plain? with
      | none => fail (.unknownExtension t.text) (t.length + 1)
      | some c =>
        if c == 'P' then
          if ← accept '<' then
            let name ← takeUntil '>' "group name"
            checkName name 1
            return .inl [← capture verbose (some name) start fuel]
          else if ← accept '=' then return .inl [← namedBackref]
          else
            match ← take with
            | none => fail .unexpectedEnd
            | some u => fail (.unknownExtension ("P" ++ u.text)) (u.length + 2)
        else if c == ':' then
          let body ← alternatives verbose true fuel []
          closeParenthesis start
          return .inl [.group none .none .none body]
        else if c == '#' then
          comment start fuel
          return .inl []
        else if c == '=' || c == '!' then
          let body ← alternatives verbose true fuel []
          closeParenthesis start
          return .inl [.look false (c == '!') body]
        else if c == '<' then
          match ← take with
          | none => fail .unexpectedEnd
          | some u =>
            if u.is '=' || u.is '!' then
              let before := (← get).lookbehindGroups
              if before.isNone then
                modify fun r => { r with lookbehindGroups := some r.widths.size }
              let body ← alternatives verbose true fuel []
              if before.isNone then
                modify fun r => { r with lookbehindGroups := none }
              closeParenthesis start
              return .inl [.look true (u.is '!') body]
            else fail (.unknownExtension ("<" ++ u.text)) (u.length + 2)
        else if c == '(' then
          let g ← conditionGroup
          let yes ← sequence verbose false fuel []
          if ← accept '|' then
            let no ← sequence verbose false fuel []
            if ← sees '|' then fail .tooManyBranches
            closeParenthesis start
            return .inl [.ifGroup g yes (some no)]
          else
            closeParenthesis start
            return .inl [.ifGroup g yes none]
        else if c == '>' then
          let body ← alternatives verbose true fuel []
          closeParenthesis start
          return .inl [.atomic body]
        else if isFlag t || c == '-' then
          match ← inlineFlags c with
          | none =>
            if !atStart then throw (.malformed .flagsNotAtStart (some start))
            return .inr (← get).flags.verbose
          | some (on, off) =>
            let body ← alternatives ((verbose || on.verbose) && !off.verbose) true fuel []
            closeParenthesis start
            return .inl [.group none on off body]
        else fail (.unknownExtension t.text) (t.length + 1)

/-- Reads the content of a capturing group and its closing parenthesis. -/
def capture (verbose : Bool) (name : Option String) (start : Nat) : Nat → Parser Node
  | 0 => fail .unexpectedEnd
  | fuel + 1 => do
    let g ← openGroup name
    let body ← alternatives verbose true fuel []
    closeParenthesis start
    closeGroup g body
    return .group (some g) .none .none body

end

/-- Reads a whole pattern: alternatives, then nothing, with every condition on a group that exists. -/
def pattern (fuel : Nat) : Parser (List Node) := do
  let nodes ← alternatives false false fuel []
  let r ← get
  if r.flags.ascii && r.flags.unicode then throw .conflictingTypes
  if !r.rest.isEmpty then fail .unbalancedParenthesis
  if let some (g, position) := r.conditions.find? (·.1 > r.widths.size) then
    throw (.malformed (.noSuchGroup g) (some position))
  return nodes

end Parser

/-- What reading a pattern gives. -/
structure Parsed where
  nodes : List Node
  /-- The flags of the whole pattern. -/
  flags : Flags
  /-- The widths of the groups, from group 1 on. -/
  widths : Array (Option Width)

/-- The width of a group. -/
def Parsed.groupWidth (p : Parsed) (g : Nat) : Width :=
  (p.widths[g - 1]?).join.getD .zero

/-- Reads a pattern. Patterns ignore case, and mean the full repertoire of characters unless a flag
asks for ASCII. -/
def parse (pattern : String) : Except Failure Parsed := do
  let cs := pattern.toList
  let tokens := Token.ofChars cs
  let dangles := Token.dangles cs
  if tokens.isEmpty && dangles then throw (.malformed .danglingEscape (some 0))
  let reader : Reader := ⟨tokens, 0, dangles, { ignoreCase := true }, [], #[], none, []⟩
  let (nodes, r) ← (Parser.pattern (5 * (tokens.length + 1))).run reader
  return ⟨nodes, { r.flags with unicode := !r.flags.ascii }, r.widths⟩

end Triage.Pattern
