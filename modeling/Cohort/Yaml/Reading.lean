import Cohort.Yaml.Scalar

/-!
# Reading YAML

A document is one node: a collection in brackets, a scalar, or a collection laid out by indentation. Anchors, tags,
directives and explicit keys are refused, and so is a text with more than one document.
-/

namespace Cohort.Yaml

abbrev Node := Cursor → Option (Yaml × Cursor)

/-- What follows a colon in brackets, at the next content: a node, or nothing before a comma or the end. -/
def readFlowValue (node : Node) (c : Cursor) : Option (Yaml × Cursor) :=
  match c.rest with
  | ',' :: _ => some (missing, c)
  | ']' :: _ => some (missing, c)
  | '\x7d' :: _ => some (missing, c)
  | _ => node c

/-- A node in brackets and the value that may follow it after a colon. -/
def readPair (node : Node) (c : Cursor) : Option (Yaml × Option Yaml × Cursor) := do
  let (key, c) ← node c
  let c := c.gap true
  match c.rest with
  | ':' :: _ => do
    let (value, c) ← readFlowValue node ((c.skip 1).gap true)
    some (key, some value, c)
  | _ => some (key, none, c)

/-- The items up to the closing bracket. A pair is a mapping of its own. -/
def readFlowItems (node : Node) : Nat → List Yaml → Cursor → Option (Yaml × Cursor)
  | 0, _, _ => none
  | fuel + 1, items, c => do
    let c := c.gap true
    match c.rest with
    | ']' :: _ => some (.sequence items, c.skip 1)
    | _ =>
      let (key, value, c) ← readPair node c
      let item := match value with
        | some v => .mapping [(key, v)]
        | none => key
      let c := c.gap true
      match c.rest with
      | ',' :: _ => readFlowItems node fuel (items ++ [item]) (c.skip 1)
      | ']' :: _ => some (.sequence (items ++ [item]), c.skip 1)
      | _ => none

/-- The entries up to the closing brace. -/
def readFlowEntries (node : Node) : Nat → List (Yaml × Yaml) → Cursor → Option (Yaml × Cursor)
  | 0, _, _ => none
  | fuel + 1, entries, c => do
    let c := c.gap true
    match c.rest with
    | '\x7d' :: _ => some (.mapping entries, c.skip 1)
    | _ =>
      let (key, value, c) ← readPair node c
      let entries := entries ++ [(key, value.getD missing)]
      let c := c.gap true
      match c.rest with
      | ',' :: _ => readFlowEntries node fuel entries (c.skip 1)
      | '\x7d' :: _ => some (.mapping entries, c.skip 1)
      | _ => none

/-- A node in brackets. -/
def readFlow : Nat → Node
  | 0, _ => none
  | fuel + 1, c =>
    match c.rest with
    | '[' :: _ => readFlowItems (readFlow fuel) c.rest.length [] (c.skip 1)
    | '\x7b' :: _ => readFlowEntries (readFlow fuel) c.rest.length [] (c.skip 1)
    | '\'' :: _ => readQuoted c
    | '"' :: _ => readQuoted c
    | _ => do
      let (line, after) ← readPlainLine true c
      some (continuePlain true (-1) line after)

/-- Reads a node whose content is indented more than `parent`; a collection laid out by indentation may begin
here if `free`. -/
abbrev BlockNode := (parent : Int) → (free : Bool) → Cursor → Option (Yaml × Cursor)

/-- The place after a colon that makes the node before it a key: blanks on the same line may come between. -/
def afterColon? (c : Cursor) : Option Cursor :=
  let blanks := (c.rest.takeWhile isSpace).length
  match c.rest.drop blanks with
  | ':' :: cs => if endsToken cs then some (c.skip (blanks + 1)) else none
  | _ => none

/-- A key on one line, and the place after its colon. -/
def readKey (c : Cursor) : Option (Yaml × Cursor) := do
  let (key, after) ← match c.rest with
    | '\'' :: _ => readQuoted c
    | '"' :: _ => readQuoted c
    | '[' :: _ => readFlow c.rest.length c
    | '\x7b' :: _ => readFlow c.rest.length c
    | _ => (readPlainLine false c).map fun (line, after) => (.scalar true (String.ofList line), after)
  if (c.rest.take (c.rest.length - after.rest.length)).contains '\n' then none
  else (afterColon? after).map (key, ·)

/-- The items of a sequence at a column, at a dash. -/
def readItems (node : BlockNode) (column : Nat) : Nat → List Yaml → Cursor → Option (Yaml × Cursor)
  | 0, _, _ => none
  | fuel + 1, items, c => do
    let (item, c) ← node column true ((c.skip 1).gap false)
    let c := c.gap false
    let items := items ++ [item]
    if c.rest.isEmpty then some (.sequence items, c)
    else if !c.fresh || column < c.column then none
    else if c.column == column && isDash c.rest then readItems node column fuel items c
    else some (.sequence items, c)

/-- The value of a key of a mapping at a column. A sequence may begin at the column itself. -/
def readValue (node : BlockNode) (column : Nat) (c : Cursor) : Option (Yaml × Cursor) :=
  let c := c.gap false
  if c.fresh && c.column == column && isDash c.rest then readItems node column (c.rest.length + 1) [] c
  else node column c.fresh c

/-- The entries of a mapping at a column, from after the colon of a key. -/
def readEntries (node : BlockNode) (column : Nat) : Nat → List (Yaml × Yaml) → Yaml → Cursor → Option (Yaml × Cursor)
  | 0, _, _, _ => none
  | fuel + 1, entries, key, c => do
    let (value, c) ← readValue node column c
    let c := c.gap false
    let entries := entries ++ [(key, value)]
    if c.rest.isEmpty then some (.mapping entries, c)
    else if !c.fresh || column < c.column then none
    else if c.column == column then do
      let (key, c) ← readKey c
      readEntries node column fuel entries key c
    else some (.mapping entries, c)

/-- A scalar or a collection in brackets. -/
def readLeaf (parent : Int) (c : Cursor) : Option (Yaml × Cursor) :=
  match c.rest with
  | '[' :: _ => readFlow c.rest.length c
  | '\x7b' :: _ => readFlow c.rest.length c
  | '\'' :: _ => readQuoted c
  | '"' :: _ => readQuoted c
  | '|' :: _ => readBlock parent c
  | '>' :: _ => readBlock parent c
  | _ => do
    let (line, after) ← readPlainLine false c
    some (continuePlain false parent line after)

/-- A node at the next content, or nothing if that is not indented enough. -/
def readNode : Nat → BlockNode
  | 0, _, _, _ => none
  | fuel + 1, parent, free, c =>
    if c.rest.isEmpty || (c.fresh && c.column ≤ parent) then some (missing, c)
    else if isDash c.rest then
      if free then readItems (readNode fuel) c.column (c.rest.length + 1) [] c else none
    else
      match readKey c with
      | some (key, after) =>
        if free then readEntries (readNode fuel) c.column (c.rest.length + 1) [] key after else none
      | none => readLeaf parent c

/-- Whether a line is a marker of three such characters. -/
def isMarker (sign : Char) (line : List Char) : Bool :=
  line.take 3 == [sign, sign, sign] && endsToken (line.drop 3)

/-- Whether a line holds nothing but a comment. -/
def isIdle (line : List Char) : Bool :=
  match line.dropWhile isSpace with
  | [] => true
  | c :: _ => c == '#'

/-- The lines of the only document of a text, with blanks in the place of the marker that begins it. -/
def documentLines? (lines : List (List Char)) : Option (List (List Char)) :=
  let isEnd (l : List Char) : Bool := isMarker '-' l || isMarker '.' l
  let body := match lines.dropWhile isIdle with
    | l :: rest => if isMarker '-' l then ("   ".toList ++ l.drop 3) :: rest else l :: rest
    | [] => []
  let after := body.dropWhile (!isEnd ·)
  if after.all fun l => isIdle l || isMarker '.' l then some (body.takeWhile (!isEnd ·)) else none

/-- Whether a character may occur in a document. -/
def isAllowed (c : Char) : Bool :=
  let n := c.toNat
  c == '\t' || c == '\n' || 0x20 ≤ n && n ≤ 0x7e || n == 0x85 || 0xa0 ≤ n && n ≤ 0xfffd && n != 0xfeff || 0x10000 ≤ n

/-- Line breaks of every kind as one character. -/
def uniformBreaks : List Char → List Char
  | [] => []
  | '\r' :: '\n' :: cs => '\n' :: uniformBreaks cs
  | c :: cs => (if c == '\r' || c == '\u0085' then '\n' else c) :: uniformBreaks cs

/-- The document in a text. -/
def read? (text : String) : Option Yaml := do
  let cs := uniformBreaks text.toList
  let cs := if cs.head? == some '\ufeff' then cs.drop 1 else cs
  if !cs.all isAllowed then none
  let cs := ['\n'].intercalate (← documentLines? (linesOf cs))
  let (y, c) ← readNode (cs.length + 1) (-1) true ((Cursor.start cs).gap false)
  if (c.gap false).rest.isEmpty then some y else none

end Cohort.Yaml
