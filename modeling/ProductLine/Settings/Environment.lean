import ProductLine.Datum.Json
import ProductLine.Settings.Reading

/-!
# Settings from the environment

Settings may also come from the variables of the environment and from a text of variable lines. A name
counts in any case and with a fixed beginning; what is given directly wins over the environment, and that
over the text. The order of the features is given as JSON, everything else as it is.
-/

namespace ProductLine

namespace Settings

/-- How the names of variables begin. -/
def namePrefix : String := "famrel_"

/-- The settings that variables can give, and whether they are given as JSON. -/
def variableKinds : List (String × Bool) :=
  [("variable_order", true), ("terminal_precision", false), ("dynamic_reordering", false),
    ("export_label", false)]

/-- The value of a variable, the last one if its name occurs several times. -/
def valueOf? (environment : List (String × String)) (name : String) : Option String :=
  (environment.reverse.find? fun v =>
    v.1.toList.map Char.toLower = (namePrefix ++ name).toList).map Prod.snd

/-- What a source of variables says about settings. -/
def ofVariables (source : String) (environment : List (String × String)) :
    List (String × Bool) → Except Error (List (Datum × Datum))
  | [] => .ok []
  | (name, isJson) :: rest =>
    match valueOf? environment name with
    | none => ofVariables source environment rest
    | some value =>
      if isJson then
        match Datum.ofJson? value with
        | none => .error (.unreadableSetting name source)
        | some .null => ofVariables source environment rest
        | some d => (ofVariables source environment rest).map ((.text name, d) :: ·)
      else (ofVariables source environment rest).map ((.text name, .text value) :: ·)

/-- Whether a character ends a line. -/
def isLineEnd (c : Char) : Bool := c = '\n' || c = '\r'

/-- Whether a character is blank inside a line. -/
def isInnerBlank (c : Char) : Bool := Text.isBlank c && !isLineEnd c

/-- The rest of a text behind a line end, unless something else comes first. -/
def afterLine (cs : List Char) : Option (List Char) :=
  let rest := cs.dropWhile isInnerBlank
  let rest := match rest with
    | '#' :: _ => rest.dropWhile (!isLineEnd ·)
    | _ => rest
  match rest with
  | [] => some []
  | '\r' :: '\n' :: rest => some rest
  | c :: rest => if isLineEnd c then some rest else none

/-- A quoted value up to its closing quote, and what follows. A backslash keeps a quote, and `escapes` says
which letters it stands for. -/
def quotedValue (quote : Char) (escapes : List (Char × Char)) : List Char → Option (List Char × List Char)
  | [] => none
  | '\\' :: c :: rest =>
    match escapes.lookup c with
    | some d => (quotedValue quote escapes rest).map fun (value, rest) => (d :: value, rest)
    | none => (quotedValue quote escapes (c :: rest)).map fun (value, rest) => ('\\' :: value, rest)
  | c :: rest =>
    if c = quote then some ([], rest)
    else (quotedValue quote escapes rest).map fun (value, rest) => (c :: value, rest)

/-- What a backslash stands for between single quotes. -/
def singleEscapes : List (Char × Char) := [('\\', '\\'), ('\'', '\'')]

/-- What a backslash stands for between double quotes. -/
def doubleEscapes : List (Char × Char) :=
  [('\\', '\\'), ('\'', '\''), ('"', '"'), ('a', '\x07'), ('b', '\x08'), ('f', '\x0c'), ('n', '\n'),
    ('r', '\r'), ('t', '\t'), ('v', '\x0b')]

/-- A bare value without a comment that a blank sets off. -/
def bareValue : List Char → List Char
  | [] => []
  | c :: rest =>
    if Text.isBlank c ∧ (rest.dropWhile Text.isBlank).head? = some '#' then [] else c :: bareValue rest

/-- The value behind an equals sign, and what follows. -/
def lineValue : List Char → Option (List Char × List Char)
  | '\'' :: rest => quotedValue '\'' singleEscapes rest
  | '"' :: rest => quotedValue '"' doubleEscapes rest
  | cs => some (Text.trim (bareValue (cs.takeWhile (!isLineEnd ·))), cs.dropWhile (!isLineEnd ·))

/-- The text behind the word that may stand before a name. -/
def afterExport (cs : List Char) : List Char :=
  match cs with
  | 'e' :: 'x' :: 'p' :: 'o' :: 'r' :: 't' :: c :: rest =>
    if isInnerBlank c then rest.dropWhile isInnerBlank else cs
  | _ => cs

/-- A name, and what follows. -/
def lineName (cs : List Char) : Option (List Char × List Char) :=
  match cs with
  | '\'' :: rest =>
    let name := rest.takeWhile (· ≠ '\'')
    match rest.drop name.length with
    | _ :: after => if name = [] then none else some (name, after)
    | [] => none
  | _ =>
    let isNameChar (c : Char) : Bool := c != '=' && c != '#' && !Text.isBlank c
    let name := cs.takeWhile isNameChar
    if name = [] then none else some (name, cs.drop name.length)

/-- The variable that the first line sets, if it sets one, and what follows the line. -/
def line (cs : List Char) : Option (Option (String × String) × List Char) :=
  match cs with
  | '#' :: _ => (afterLine cs).map fun rest => (none, rest)
  | _ => do
    let (name, rest) ← lineName (afterExport cs)
    match rest.dropWhile isInnerBlank with
    | '=' :: rest =>
      let (value, rest) ← lineValue (rest.dropWhile isInnerBlank)
      return (some (String.ofList name, String.ofList value), ← afterLine rest)
    | rest => return (none, ← afterLine rest)

/-- The variables that at most `fuel` lines set. A line that is none is skipped. -/
def lines : (fuel : Nat) → List Char → List (String × String)
  | 0, _ => []
  | fuel + 1, cs =>
    match cs.dropWhile Text.isBlank with
    | [] => []
    | cs =>
      match line cs with
      | some (some v, rest) => v :: lines fuel rest
      | some (none, rest) => lines fuel rest
      | none => lines fuel ((cs.dropWhile (!isLineEnd ·)).drop 1)

/-- The variables that a text sets. -/
def variablesOf (text : String) : List (String × String) := lines (text.length + 1) text.toList

/-- The settings from what is given directly, from the environment and from a text. -/
def gather (values : List (Datum × Datum)) (environment : List (String × String)) (text : String) :
    Except Error Settings :=
  match ofVariables "EnvSettingsSource" environment variableKinds with
  | .error e => .error e
  | .ok fromEnvironment =>
    match ofVariables "DotEnvSettingsSource" (variablesOf text) variableKinds with
    | .error e => .error e
    | .ok fromText =>
      match ofEntries (fromText ++ fromEnvironment ++ values) with
      | .ok settings => .ok settings
      | .error findings => .error (.invalid findings)

end Settings

end ProductLine
