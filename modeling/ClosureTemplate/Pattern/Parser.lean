import ClosureTemplate.Number.Digits
import ClosureTemplate.Pattern.Expr

/-!
Reading a pattern. Groups may be named or carry flags, classes may be nested and combined, and
anything that would need backtracking (look-around, back references) is refused.
-/

namespace ClosureTemplate.Pattern

inductive Fault where
  | unclosedGroup
  | unopenedGroup
  | groupName
  | groupFlags
  | lookAround
  | backReference
  | nothingToRepeat
  | repetitionCount
  | escape
  | unclosedClass
  | classRange
  | classItem
  | unknownProperty
  | notUtf8
  | tooDeep
  | tooLarge
  deriving DecidableEq, Repr

def Fault.message : Fault → String
  | .unclosedGroup => "unclosed group"
  | .unopenedGroup => "unopened group"
  | .groupName => "invalid capture group name"
  | .groupFlags => "invalid flags"
  | .lookAround => "look-around is not supported"
  | .backReference => "backreferences are not supported"
  | .nothingToRepeat => "repetition operator missing expression"
  | .repetitionCount => "invalid repetition count"
  | .escape => "invalid escape sequence"
  | .unclosedClass => "unclosed character class"
  | .classRange => "invalid character class range"
  | .classItem => "invalid escape sequence in character class"
  | .unknownProperty => "property not found"
  | .notUtf8 => "pattern can match invalid UTF-8"
  | .tooDeep => "pattern is nested too deeply"
  | .tooLarge => "pattern is too large"

structure Flags where
  caseless : Bool := false
  multiLine : Bool := false
  dotAll : Bool := false
  crlf : Bool := false
  isUnicode : Bool := true
  verbose : Bool := false
  deriving DecidableEq, Repr

structure Nested where
  expr : Expr
  depth : Nat := 0

structure Reader where
  rest : Text
  flags : Flags := {}
  names : List Text := []

abbrev Read := StateT Reader (Except Fault)

namespace Read

def fail {α : Type} (fault : Fault) : Read α := throw fault

def rest : Read Text := return (← get).rest

def setRest (rest : Text) : Read Unit := modify fun reader => { reader with rest }

def flags : Read Flags := return (← get).flags

def setFlags (flags : Flags) : Read Unit := modify fun reader => { reader with flags }

def afterBlanks (text : Text) : Text :=
  match text with
  | [] => []
  | c :: cs =>
    if Text.isBlank c then afterBlanks cs
    else if c = '#' then afterBlanks (cs.dropWhile (· != '\n'))
    else c :: cs
  termination_by text.length
  decreasing_by
    · simp
    · have := (List.dropWhile_sublist (· != '\n') (l := cs)).length_le
      simp only [List.length_cons]
      omega

def skipBlanks : Read Unit := do
  if (← flags).verbose then setRest (afterBlanks (← rest))

inductive Atom where
  | literal (c : Char)
  | members (set : CharSet)
  | look (condition : Look)

def isMeta (c : Char) : Bool := "\\.+*?()|[]\x7b\x7d^$#&-~".toList.contains c

/-- ASCII characters other than letters, digits and angle brackets may be escaped. -/
def isEscapable (c : Char) : Bool :=
  isMeta c || (c.toNat < 128 && !(c.isAlphanum || c == '<' || c == '>'))

def hexValue? (digits : Text) : Option Nat :=
  digits.foldlM (fun total c => (Number.digit? 16 c).map (total * 16 + ·)) 0

def charOf (code : Nat) : Read Char :=
  if code.isValidChar then return Char.ofNat code else fail .escape

def hexCode (width : Nat) : Read Char := do
  skipBlanks
  match ← rest with
  | '\x7b' :: cs =>
    let digits := cs.takeWhile (· != '\x7d')
    let after := cs.dropWhile (· != '\x7d')
    if digits.isEmpty || after.isEmpty then fail .escape
    setRest (after.drop 1)
    match hexValue? digits with
    | some code => if digits.length ≤ 64 then charOf code else fail .escape
    | none => fail .escape
  | cs =>
    let digits := cs.take width
    if digits.length < width then fail .escape
    setRest (cs.drop width)
    match hexValue? digits with
    | some code => charOf code
    | none => fail .escape

def property (isNegated : Bool) : Read Atom := do
  skipBlanks
  let found ← match ← rest with
    | [] => fail .escape
    | '\x7b' :: cs =>
      let name := cs.takeWhile (· != '\x7d')
      let after := cs.dropWhile (· != '\x7d')
      if after.isEmpty then fail .escape
      setRest (after.drop 1)
      match Text.before? "!=".toList name with
      | some left =>
        pure ((Property.valued? left (name.drop (left.length + 2))).map CharSet.complement)
      | none =>
        let left := name.takeWhile fun c => c != ':' && c != '='
        if left.length < name.length then
          pure (Property.valued? left (name.drop (left.length + 1)))
        else pure (Property.named? name)
    | c :: cs =>
      if c = '\\' then fail .escape
      setRest cs
      pure (Property.category? (Property.normalize [c]))
  match found with
  | some set =>
    if !(← flags).isUnicode then fail .notUtf8
    let set := if (← flags).caseless then set.foldClosure else set
    return .members (if isNegated then set.complement else set)
  | none => fail .unknownProperty

def shorthand (c : Char) : Read Atom := do
  let isUnicode := (← flags).isUnicode
  let set := match Property.lowerAscii c with
    | 'd' => if isUnicode then Property.digits else Property.asciiDigits
    | 's' => if isUnicode then Property.blanks else Property.asciiBlanks
    | _ => if isUnicode then Property.wordChars else Property.asciiWordChars
  if c.isLower then return .members set
  else if isUnicode then return .members set.complement
  else fail .notUtf8

def isBoundaryName (c : Char) : Bool := c.isAlpha || c == '-'

def wordBoundary : Read Look := do
  let isUnicode := (← flags).isUnicode
  match ← rest with
  | '\x7b' :: cs =>
    let verbose := (← flags).verbose
    let body := if verbose then afterBlanks cs else cs
    match body with
    | [] => fail .escape
    | c :: _ =>
      if isBoundaryName c then
        let name := body.takeWhile isBoundaryName
        let after := body.dropWhile isBoundaryName
        let after := if verbose then afterBlanks after else after
        if after.head? != some '\x7d' then fail .escape
        setRest (after.drop 1)
        match String.ofList name with
        | "start" => return .word isUnicode (some false) (some true)
        | "end" => return .word isUnicode (some true) (some false)
        | "start-half" => return .word isUnicode (some false) none
        | "end-half" => return .word isUnicode none (some false)
        | _ => fail .escape
      else return .boundary isUnicode false
  | _ => return .boundary isUnicode false

def escaped : Read Atom := do
  match ← rest with
  | [] => fail .escape
  | c :: cs =>
    setRest cs
    let isUnicode := (← flags).isUnicode
    if c.isDigit then fail .backReference
    else match c with
      | 'x' => return .literal (← hexCode 2)
      | 'u' => return .literal (← hexCode 4)
      | 'U' => return .literal (← hexCode 8)
      | 'p' => property false
      | 'P' => property true
      | 'd' | 's' | 'w' | 'D' | 'S' | 'W' => shorthand c
      | 'a' => return .literal '\x07'
      | 'f' => return .literal '\x0c'
      | 't' => return .literal '\t'
      | 'n' => return .literal '\n'
      | 'r' => return .literal '\r'
      | 'v' => return .literal '\x0b'
      | 'A' => return .look .textStart
      | 'z' => return .look .textEnd
      | 'b' => return .look (← wordBoundary)
      | 'B' => return .look (.boundary isUnicode true)
      | '<' => return .look (.word isUnicode (some false) (some true))
      | '>' => return .look (.word isUnicode (some true) (some false))
      | _ => if isEscapable c then return .literal c else fail .escape

def folded (set : CharSet) : Read CharSet := do
  let flags ← flags
  if flags.caseless then
    return if flags.isUnicode then set.foldClosure else set.asciiFoldClosure
  else return set

def negated (isNegated : Bool) (set : CharSet) : Read CharSet := do
  if isNegated then
    if (← flags).isUnicode then return set.complement else fail .notUtf8
  else return set

def literalSet (c : Char) : Read CharSet := do
  if !(← flags).isUnicode && 128 ≤ c.toNat then fail .notUtf8
  folded (CharSet.single c)

def classAtom : Read Atom := do
  match ← rest with
  | [] => fail .unclosedClass
  | '\\' :: cs => setRest cs; escaped
  | c :: cs => setRest cs; return .literal c

def atomSet : Atom → Read CharSet
  | .literal c => literalSet c
  | .members set => return set
  | .look _ => fail .classItem

def classRange : Read CharSet := do
  let low ← classAtom
  skipBlanks
  match ← rest with
  | [] => fail .unclosedClass
  | '-' :: cs =>
    let next := if (← flags).verbose then afterBlanks cs else cs
    match next with
    | [] => fail .unclosedClass
    | ']' :: _ => atomSet low
    | '-' :: _ => atomSet low
    | _ =>
      setRest next
      match low, ← classAtom with
      | .literal a, .literal b =>
        if b < a then fail .classRange
        if !(← flags).isUnicode && 128 ≤ b.toNat then fail .notUtf8
        folded [(a.toNat, b.toNat)]
      | _, _ => fail .classRange
  | _ => atomSet low

def asciiClass? : Read (Option CharSet) := do
  match ← rest with
  | '[' :: ':' :: cs =>
    let isNegated := cs.head? = some '^'
    let body := if isNegated then cs.drop 1 else cs
    let name := body.takeWhile (· != ':')
    match body.dropWhile (· != ':'), Property.asciiClass? (String.ofList name) with
    | ':' :: ']' :: after, some set =>
      setRest after
      return some (← negated isNegated (← folded set))
    | _, _ => return none
  | _ => return none

inductive SetOperator where
  | inter
  | diff
  | symmDiff

def SetOperator.apply : SetOperator → CharSet → CharSet → CharSet
  | .inter => CharSet.inter
  | .diff => CharSet.diff
  | .symmDiff => CharSet.symmDiff

structure OpenClass where
  isNegated : Bool
  left : Option (CharSet × SetOperator) := none
  items : CharSet := []
  depth : Nat := 1

def OpenClass.add (reading : OpenClass) (set : CharSet) (depth : Nat) : OpenClass :=
  { reading with items := CharSet.union reading.items set, depth := max reading.depth depth }

def OpenClass.value (reading : OpenClass) : CharSet :=
  match reading.left with
  | some (set, operator) => operator.apply set reading.items
  | none => reading.items

def OpenClass.operator (reading : OpenClass) (operator : SetOperator) : OpenClass :=
  { reading with left := some (reading.value, operator), items := [], depth := reading.depth + 1 }

/-- The head of a class behind its bracket: a caret, then hyphens or a bracket that count as
characters. -/
def classHead : Read OpenClass := do
  skipBlanks
  let isNegated := (← rest).head? = some '^'
  if isNegated then
    setRest ((← rest).drop 1)
    skipBlanks
  let hyphens := (← rest).takeWhile (· == '-')
  setRest ((← rest).drop hyphens.length)
  skipBlanks
  let items := if hyphens.isEmpty then [] else CharSet.single '-'
  match ← rest with
  | [] => fail .unclosedClass
  | ']' :: cs =>
    if hyphens.isEmpty then
      setRest cs
      return { isNegated, items := CharSet.single ']' }
    else return { isNegated, items }
  | _ => return { isNegated, items }

def classBody : Nat → OpenClass → List OpenClass → Read (CharSet × Nat)
  | 0, _, _ => fail .unclosedClass
  | fuel + 1, current, outer => do
    skipBlanks
    match ← rest with
    | [] => fail .unclosedClass
    | '[' :: cs =>
      match ← asciiClass? with
      | some set => classBody fuel (current.add set 0) outer
      | none =>
        setRest cs
        classBody fuel (← classHead) (current :: outer)
    | ']' :: cs =>
      setRest cs
      let set ← negated current.isNegated current.value
      match outer with
      | [] => return (set, current.depth)
      | parent :: others => classBody fuel (parent.add set (current.depth + 1)) others
    | '&' :: '&' :: cs => setRest cs; classBody fuel (current.operator .inter) outer
    | '-' :: '-' :: cs => setRest cs; classBody fuel (current.operator .diff) outer
    | '~' :: '~' :: cs => setRest cs; classBody fuel (current.operator .symmDiff) outer
    | _ => classBody fuel (current.add (← classRange) 0) outer

def applyFlag (flags : Flags) (c : Char) (on : Bool) : Option Flags :=
  match c with
  | 'i' => some { flags with caseless := on }
  | 'm' => some { flags with multiLine := on }
  | 's' => some { flags with dotAll := on }
  | 'R' => some { flags with crlf := on }
  | 'u' => some { flags with isUnicode := on }
  | 'x' => some { flags with verbose := on }
  | 'U' => some flags
  | _ => none

/-- Flags up to the `:` or `)` behind them. Each may be given once, and a minus has to be followed
by one. -/
def readFlags (flags : Flags) (seen : Text) : Text → Except Fault (Flags × Text × Text)
  | [] => .error .groupFlags
  | c :: cs =>
    if c = ':' || c = ')' then
      if seen.head? = some '-' then .error .groupFlags else .ok (flags, seen, c :: cs)
    else if seen.contains c then .error .groupFlags
    else if c = '-' then readFlags flags (c :: seen) cs
    else match applyFlag flags c (!seen.contains '-') with
      | some flags => readFlags flags (c :: seen) cs
      | none => .error .groupFlags

def isNameHead (c : Char) : Bool :=
  c == '_' || Text.inRanges (Text.gapRanges Text.alphabeticRows) c.toNat

def isNameTail (c : Char) : Bool :=
  isNameHead c || c == '.' || c == '[' || c == ']' ||
    ["Nd", "Nl", "No"].contains (Text.category c)

def groupName : Read Unit := do
  let text ← rest
  let name := text.takeWhile (· != '>')
  let after := text.dropWhile (· != '>')
  match name with
  | [] => fail .groupName
  | c :: cs =>
    if after.isEmpty || !isNameHead c || !cs.all isNameTail then fail .groupName
    if (← get).names.contains name then fail .groupName
    setRest (after.drop 1)
    modify fun reader => { reader with names := name :: reader.names }

inductive GroupHead where
  | body (flags : Flags)
  | flagsOnly (flags : Flags)

def groupHead : Read GroupHead := do
  skipBlanks
  match ← rest with
  | '?' :: '=' :: _ | '?' :: '!' :: _ | '?' :: '<' :: '=' :: _ | '?' :: '<' :: '!' :: _ =>
    fail .lookAround
  | '?' :: 'P' :: '<' :: cs | '?' :: '<' :: cs =>
    setRest cs
    groupName
    return .body (← flags)
  | '?' :: cs =>
    match readFlags (← flags) [] cs with
    | .error fault => fail fault
    | .ok (flags, seen, ':' :: after) => setRest after; let _ := seen; return .body flags
    | .ok (flags, seen, after) =>
      if seen.isEmpty then fail .nothingToRepeat
      setRest (after.drop 1)
      return .flagsOnly flags
  | _ => return .body (← flags)

def maxCount : Nat := Nat.pow 2 32 - 1

def count? : Read (Option Nat) := do
  let text := (← rest).dropWhile Text.isBlank
  let digits := text.takeWhile Char.isDigit
  setRest ((text.dropWhile Char.isDigit).dropWhile Text.isBlank)
  if digits.isEmpty then return none
  let value := Text.decimal digits
  if value ≤ maxCount then return some value else fail .repetitionCount

def bounds : Read (Nat × Option Nat) := do
  skipBlanks
  let low ← count?
  skipBlanks
  let result ← match low, ← rest with
    | some low, ',' :: cs =>
      setRest cs
      skipBlanks
      if (← rest).head? = some '\x7d' then pure (low, none)
      else match ← count? with
        | some high => if low ≤ high then pure (low, some high) else fail .repetitionCount
        | none => fail .repetitionCount
    | some low, _ => pure (low, some low)
    | none, _ => fail .repetitionCount
  skipBlanks
  match ← rest with
  | '\x7d' :: cs => setRest cs; return result
  | _ => fail .repetitionCount

def skipLazy : Read Unit := do
  skipBlanks
  match ← rest with
  | '?' :: cs => setRest cs
  | _ => return ()

/-- The parts of an expression that is being read: the alternatives so far, the parts of the
current one with the last part first, and the flags to return to when the group closes. -/
structure Level where
  alternatives : List Nested := []
  parts : List (Option Nested) := []
  outerFlags : Flags := {}

def catAll : List Nested → Nested
  | [] => ⟨.empty, 0⟩
  | [part] => part
  | parts =>
    ⟨parts.foldr (fun part expr => .cat part.expr expr) .empty,
      parts.foldl (fun depth part => max depth (part.depth + 1)) 1⟩

def altAll : List Nested → Nested
  | [] => ⟨.empty, 0⟩
  | [part] => part
  | part :: parts =>
    ⟨parts.foldl (fun expr part => .alt expr part.expr) part.expr,
      (part :: parts).foldl (fun depth part => max depth (part.depth + 1)) 1⟩

def Level.current (level : Level) : Nested := catAll (level.parts.reverse.filterMap id)

def Level.value (level : Level) : Nested := altAll ((level.current :: level.alternatives).reverse)

def Level.add (level : Level) (part : Nested) : Level :=
  { level with parts := some part :: level.parts }

def Level.repeated (level : Level) (low : Nat) (high : Option Nat) : Read Level :=
  match level.parts with
  | some part :: parts =>
    return { level with parts := some ⟨.copies part.expr low high, part.depth + 1⟩ :: parts }
  | _ => fail .nothingToRepeat

def lineLook (flags : Flags) (isStart : Bool) : Look :=
  match flags.multiLine, isStart with
  | false, true => .textStart
  | false, false => .textEnd
  | true, true => .lineStart flags.crlf
  | true, false => .lineEnd flags.crlf

def dotSet (flags : Flags) : CharSet :=
  if flags.dotAll then [(0, CharSet.maxCode)]
  else if flags.crlf then CharSet.complement [(10, 10), (13, 13)]
  else CharSet.complement [(10, 10)]

def atomExpr : Atom → Read Expr
  | .literal c => return .char (← literalSet c)
  | .members set => return .char set
  | .look condition => return .look condition

def body : Nat → Level → List Level → Read Nested
  | 0, _, _ => fail .tooLarge
  | fuel + 1, level, outer => do
    skipBlanks
    let flags ← flags
    match ← rest with
    | [] => if outer.isEmpty then return level.value else fail .unclosedGroup
    | '(' :: cs =>
      setRest cs
      match ← groupHead with
      | .body inner =>
        setFlags inner
        body fuel { outerFlags := flags } (level :: outer)
      | .flagsOnly inner =>
        setFlags inner
        body fuel { level with parts := none :: level.parts } outer
    | ')' :: cs =>
      match outer with
      | [] => fail .unopenedGroup
      | parent :: others =>
        setRest cs
        setFlags level.outerFlags
        let group := level.value
        body fuel (parent.add ⟨group.expr, group.depth + 1⟩) others
    | '|' :: cs =>
      setRest cs
      let alternatives := level.current :: level.alternatives
      body fuel { level with alternatives, parts := [] } outer
    | '*' :: cs => setRest cs; skipLazy; body fuel (← level.repeated 0 none) outer
    | '+' :: cs => setRest cs; skipLazy; body fuel (← level.repeated 1 none) outer
    | '?' :: cs => setRest cs; skipLazy; body fuel (← level.repeated 0 (some 1)) outer
    | '\x7b' :: cs =>
      setRest cs
      let (low, high) ← bounds
      skipLazy
      body fuel (← level.repeated low high) outer
    | '^' :: cs => setRest cs; body fuel (level.add ⟨.look (lineLook flags true), 0⟩) outer
    | '$' :: cs => setRest cs; body fuel (level.add ⟨.look (lineLook flags false), 0⟩) outer
    | '.' :: cs =>
      setRest cs
      if !flags.isUnicode then fail .notUtf8
      body fuel (level.add ⟨.char (dotSet flags), 0⟩) outer
    | '[' :: cs =>
      setRest cs
      let (set, depth) ← classBody (cs.length + 1) (← classHead) []
      body fuel (level.add ⟨.char set, depth⟩) outer
    | '\\' :: cs =>
      setRest cs
      body fuel (level.add ⟨← atomExpr (← escaped), 0⟩) outer
    | c :: cs =>
      setRest cs
      body fuel (level.add ⟨← atomExpr (.literal c), 0⟩) outer

end Read

def maxDepth : Nat := 250

def maxSize : Nat := 10 * 1024 * 1024

/-- The number of states that read one character of a set: one for each byte of a single character
and one for an ASCII set; any other set branches by the length of its characters, and then for
each of its ranges. -/
def CharSet.states (set : CharSet) : Nat :=
  match set with
  | [(low, high)] => if low = high then (Char.ofNat low).utf8Size else if high < 128 then 1 else 13
  | set => if set.isAscii then 1 else 12 + (set.filter fun range => 128 ≤ range.2).length

/-- The size of the machine for an expression in bytes, 32 for each of its states. A repetition
copies its body, and each copy that may be left out takes a branch. -/
def Expr.size : Expr → Nat
  | .empty => 32
  | .char set => 32 * set.states
  | .look _ => 32
  | .cat first second => first.size + second.size
  | .alt first second => first.size + second.size + 40
  | .copies body low high =>
    let most := high.getD low
    body.size * max 1 most + 40 * (most - low) + 64

def parse (pattern : Text) : Except Fault Expr := do
  let (nested, _) ← (Read.body (pattern.length + 1) {} []).run { rest := pattern }
  if maxDepth < nested.depth then .error .tooDeep
  else if maxSize < nested.expr.size then .error .tooLarge
  else .ok nested.expr

end ClosureTemplate.Pattern
