/-
This file tells which texts are patterns for the values of fields.  A pattern has classes, groups,
alternatives and repetitions.  It is matched without tables of Unicode, so that named classes and
matching without regard to case exist for ASCII alone.
-/

import RpcDispatch.Text.Blank
import RpcDispatch.Text.Letter

namespace RpcDispatch.Log.Pattern

inductive Fault where
  | malformed
  | wordBoundary
  deriving DecidableEq

def Fault.message : Fault → String
  | .malformed => "error building NFA"
  | .wordBoundary =>
    "unsupported regex feature for DFAs: cannot build DFAs for regexes with Unicode word "
      ++ "boundaries; switch to ASCII word boundaries, or heuristically enable Unicode word "
      ++ "boundaries or use a different regex engine"

/-- How a pattern is read from some place on. -/
structure Mode where
  ignoresCase : Bool
  isUnicode : Bool
  /-- Blanks and comments between the items have no meaning. -/
  isSpaced : Bool

namespace Mode

def standard : Mode := ⟨false, true, false⟩

/-- The text after blanks and comments, which end with their line. -/
def afterBlanks : (inComment : Bool) → List Char → List Char
  | _, [] => []
  | true, character :: rest => afterBlanks (character ≠ '\n') rest
  | false, character :: rest =>
    if Text.isBlank character then afterBlanks false rest
    else if character = '#' then afterBlanks true rest
    else character :: rest

/-- The text from the next item on. -/
def next (mode : Mode) (text : List Char) : List Char :=
  if mode.isSpaced then afterBlanks false text else text

/-- Switches one flag. -/
def set (mode : Mode) (flag : Char) (value : Bool) : Mode :=
  match flag with
  | 'i' => { mode with ignoresCase := value }
  | 'u' => { mode with isUnicode := value }
  | 'x' => { mode with isSpaced := value }
  | _ => mode

end Mode

/-! ### Escapes -/

/-- What is written as one character or with a backslash.  A byte is a character that is written
with two digits. -/
inductive Item where
  | literal (character : Char) (isByte : Bool)
  | namedClass (isNegated : Bool)
  | boundary
  | anchor

/-- Adds hexadecimal digits to a code. -/
def readDigits (mode : Mode) : (count : Nat) → (code : Nat) → List Char → Option (Nat × List Char)
  | 0, code, text => some (code, text)
  | count + 1, code, text =>
    match mode.next text with
    | [] => none
    | character :: rest =>
      if character.isDigit then
        readDigits mode count (code * 16 + (character.toNat - 48)) rest
      else if 'a' ≤ character.toLower && character.toLower ≤ 'f' then
        readDigits mode count (code * 16 + (character.toLower.toNat - 87)) rest
      else none

/-- A character that is written as `count` hexadecimal digits. -/
def readCode (mode : Mode) (count : Nat) (text : List Char) : Option (Item × List Char) :=
  match readDigits mode count 0 text with
  | none => none
  | some (code, rest) =>
    if code.isValidChar then some (.literal (Char.ofNat code) (count = 2), rest) else none

/-- The letters that stand for control characters. -/
def controls : List (Char × Char) :=
  [('a', '\x07'), ('f', '\x0c'), ('n', '\n'), ('r', '\r'), ('t', '\t'), ('v', '\x0b')]

/-- What follows a backslash.  There are no classes by property. -/
def readEscape (mode : Mode) : List Char → Option (Item × List Char)
  | [] => none
  | 'x' :: rest => readCode mode 2 rest
  | 'u' :: rest => readCode mode 4 rest
  | 'U' :: rest => readCode mode 8 rest
  | character :: rest =>
    if ['d', 's', 'w'].contains character then some (.namedClass false, rest)
    else if ['D', 'S', 'W'].contains character then some (.namedClass true, rest)
    else if ['b', 'B', '<', '>'].contains character then some (.boundary, rest)
    else if ['A', 'z'].contains character then some (.anchor, rest)
    else if let some control := controls.lookup character then some (.literal control false, rest)
    else if character.isAlphanum || '\x7f' < character then none
    else some (.literal character false, rest)

/-- The next item. -/
def readItem (mode : Mode) : List Char → Option (Item × List Char)
  | [] => none
  | '\\' :: rest => readEscape mode rest
  | character :: rest => some (.literal character false, rest)

/-! ### Classes -/

/-- The named classes of ASCII. -/
def asciiClasses : List String :=
  ["alnum", "alpha", "ascii", "blank", "cntrl", "digit", "graph", "lower", "print", "punct",
    "space", "upper", "word", "xdigit"]

/-- What follows the bracket of a named class of ASCII, with whether the class is negated. -/
def readAsciiClass : List Char → Option (Bool × List Char)
  | ':' :: text =>
    let isNegated := text.head? = some '^'
    let text := if isNegated then text.drop 1 else text
    let name := String.ofList (text.takeWhile (· ≠ ':'))
    match text.dropWhile (· ≠ ':') with
    | ':' :: ']' :: rest => if asciiClasses.contains name then some (isNegated, rest) else none
    | _ => none
  | _ => none

/-- What follows the bracket that opens a class.  Dashes and a closing bracket stand for themselves
there.  Negation takes in characters that are no ASCII. -/
def openClass (mode : Mode) (text : List Char) : Option (List Char) :=
  let text := mode.next text
  let isNegated := text.head? = some '^'
  let text := if isNegated then mode.next (text.drop 1) else text
  if isNegated && !mode.isUnicode then none
  else
    match text with
    | ']' :: rest => some rest
    | text => some (afterDashes text text.length)
where
  afterDashes : List Char → (fuel : Nat) → List Char
    | '-' :: rest, fuel + 1 => afterDashes (mode.next rest) fuel
    | text, _ => text

/-- A character may stand in a class, or be the end of a range, unless only ASCII is known. -/
def isClassLiteral (mode : Mode) (character : Char) : Bool :=
  mode.isUnicode || character ≤ '\x7f'

/-- One item of a class, or a range of characters. -/
def readRange (mode : Mode) (text : List Char) : Option (List Char) :=
  match readItem mode text with
  | some (.namedClass isNegated, rest) =>
    if mode.isUnicode || isNegated then none
    else
      match mode.next rest with
      | '-' :: after =>
        if (mode.next after).head?.any [']', '-'].contains then some ('-' :: after) else none
      | rest => some rest
  | some (.literal first _, rest) =>
    if !isClassLiteral mode first then none
    else
      match mode.next rest with
      | '-' :: after =>
        let after := mode.next after
        if after.head?.any [']', '-'].contains then some ('-' :: after)
        else
          match readItem mode after with
          | some (.literal last _, rest) =>
            if isClassLiteral mode last && first ≤ last then some rest else none
          | _ => none
      | rest => some rest
  | _ => none

/-- The items of a class up to its closing bracket, where `depth` classes around it are open. -/
def readClass (mode : Mode) : (fuel : Nat) → (depth : Nat) → List Char → Option (List Char)
  | 0, _, _ => none
  | fuel + 1, depth, text =>
    match mode.next text with
    | [] => none
    | ']' :: rest =>
      match depth with
      | 0 => some rest
      | depth + 1 => readClass mode fuel depth rest
    | '&' :: '&' :: rest => readClass mode fuel depth rest
    | '-' :: '-' :: rest => readClass mode fuel depth rest
    | '~' :: '~' :: rest => readClass mode fuel depth rest
    | '[' :: rest =>
      match readAsciiClass rest with
      | some (isNegated, rest) =>
        if isNegated && !mode.isUnicode then none else readClass mode fuel depth rest
      | none => (openClass mode rest).bind (readClass mode fuel (depth + 1))
    | text => (readRange mode text).bind (readClass mode fuel depth)

/-! ### Groups -/

/-- The flags of a group, up to a colon or a closing parenthesis.  A flag stands there once, and
those after a dash are switched off. -/
def readFlags (mode : Mode) : (seen : List Char) → List Char → Option (Mode × List Char)
  | _, [] => none
  | seen, character :: rest =>
    if character = ':' || character = ')' then
      if seen.head? = some '-' || character = ')' && seen.isEmpty then none
      else some (mode, character :: rest)
    else if ['-', 'i', 'm', 's', 'R', 'U', 'u', 'x'].contains character
        && !seen.contains character then
      readFlags (mode.set character !(seen.contains '-')) (character :: seen) rest
    else none

/-- The name of a group starts with a letter and ends before an angle bracket. -/
def readName (text : List Char) : Option (List Char × List Char) :=
  let name := text.takeWhile (· ≠ '>')
  match text.dropWhile (· ≠ '>') with
  | '>' :: rest =>
    match name with
    | [] => none
    | first :: later =>
      if (first = '_' || Text.isLetter first) && later.all fun character =>
          ['_', '.', '[', ']'].contains character || Text.isLetterOrNumeral character then
        some (name, rest)
      else none
  | _ => none

/-! ### Patterns -/

/-- A pattern as far as it has been read. -/
structure Progress where
  mode : Mode
  /-- The modes around the open groups, the innermost first. -/
  outer : List Mode
  names : List (List Char)
  /-- The last item can be repeated. -/
  isRepeatable : Bool
  hasBoundary : Bool

namespace Progress

/-- What follows the parenthesis that opens a group, or that sets flags for the rest of one. -/
def openGroup (progress : Progress) (text : List Char) : Option (Progress × List Char) :=
  let opened := { progress with outer := progress.mode :: progress.outer, isRepeatable := false }
  let named (text : List Char) : Option (Progress × List Char) :=
    match readName text with
    | none => none
    | some (name, rest) =>
      if progress.names.contains name then none
      else some ({ opened with names := name :: progress.names }, rest)
  match progress.mode.next text with
  | '?' :: 'P' :: '<' :: rest => named rest
  | '?' :: '<' :: rest => named rest
  | '?' :: rest =>
    match readFlags progress.mode [] rest with
    | some (mode, ':' :: rest) => some ({ opened with mode }, rest)
    | some (mode, _ :: rest) => some ({ progress with mode, isRepeatable := false }, rest)
    | _ => none
  | rest => some (opened, rest)

/-- An item outside a class.  In a mode without Unicode it may hold no byte beyond ASCII. -/
def takeItem (progress : Progress) : Item → Option Progress
  | .literal character isByte =>
    let mode := progress.mode
    if (if mode.isUnicode then mode.ignoresCase else isByte && '\x7f' < character) then none
    else some { progress with isRepeatable := true }
  | .namedClass isNegated =>
    if progress.mode.isUnicode || isNegated then none
    else some { progress with isRepeatable := true }
  | .boundary =>
    some { progress with
      isRepeatable := true, hasBoundary := progress.hasBoundary || progress.mode.isUnicode }
  | .anchor => some { progress with isRepeatable := true }

/-- Reads what stands next.  No count of repetitions is complete without its closing brace. -/
def step (progress : Progress) (text : List Char) : Option (Progress × List Char) :=
  match text with
  | [] => none
  | '(' :: rest => progress.openGroup rest
  | ')' :: rest =>
    match progress.outer with
    | [] => none
    | mode :: outer => some ({ progress with mode, outer, isRepeatable := true }, rest)
  | '|' :: rest => some ({ progress with isRepeatable := false }, rest)
  | '[' :: rest =>
    if progress.mode.isUnicode && progress.mode.ignoresCase then none
    else
      ((openClass progress.mode rest).bind (readClass progress.mode rest.length 0)).map
        ({ progress with isRepeatable := true }, ·)
  | '{' :: _ => none
  | '.' :: rest =>
    if progress.mode.isUnicode then some ({ progress with isRepeatable := true }, rest) else none
  | character :: rest =>
    if ['?', '*', '+'].contains character then
      if progress.isRepeatable then
        some (progress, if rest.head? = some '?' then rest.drop 1 else rest)
      else none
    else if ['^', '$'].contains character then
      some ({ progress with isRepeatable := true }, rest)
    else do
      let (item, rest) ← readItem progress.mode text
      return (← progress.takeItem item, rest)

/-- Reads a pattern to its end, where no group is open. -/
def finish (progress : Progress) : (fuel : Nat) → List Char → Option Progress
  | fuel, text =>
    match progress.mode.next text, fuel with
    | [], _ => if progress.outer.isEmpty then some progress else none
    | _, 0 => none
    | text, fuel + 1 =>
      match progress.step text with
      | none => none
      | some (progress, rest) => progress.finish fuel rest

end Progress

/-- Whether a text is a pattern.  Boundaries of words would need tables of Unicode. -/
def check (text : String) : Except Fault Unit :=
  match (Progress.mk Mode.standard [] [] false false).finish text.length text.toList with
  | none => .error .malformed
  | some progress => if progress.hasBoundary then .error .wordBoundary else .ok ()

end RpcDispatch.Log.Pattern
