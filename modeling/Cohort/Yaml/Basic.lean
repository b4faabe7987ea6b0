import Cohort.Text.Letter

/-!
# YAML documents

A document is a tree of scalars, sequences and mappings. A plain scalar, written without quotes, may stand for
something else than its text, so plain and quoted scalars are kept apart. The readers work on a cursor, which knows
its column and whether the line has had content, because indentation carries meaning.
-/

namespace Cohort

inductive Yaml
  | scalar (plain : Bool) (text : String)
  | sequence (items : List Yaml)
  | mapping (entries : List (Yaml × Yaml))
  deriving Inhabited, Repr

namespace Yaml

/-- What stands where nothing is written. -/
def missing : Yaml := .scalar true ""

/-- A place in the text of a document. -/
structure Cursor where
  rest : List Char
  column : Nat
  /-- Whether the line has had no content yet. -/
  fresh : Bool
  deriving Inhabited, Repr

def isSpace (c : Char) : Bool := c == ' ' || c == '\t'

/-- Whether a blank or the end of the text comes next. -/
def endsToken : List Char → Bool
  | [] => true
  | c :: _ => isSpace c || c == '\n'

namespace Cursor

def start (cs : List Char) : Cursor := ⟨cs, 0, true⟩

/-- The place after some characters. -/
def past (c : Cursor) : List Char → Cursor
  | [] => c
  | d :: ds =>
    let next : Cursor :=
      if d == '\n' then ⟨c.rest.drop 1, 0, true⟩
      else ⟨c.rest.drop 1, c.column + 1, c.fresh && isSpace d⟩
    next.past ds

/-- The place after a number of characters. -/
def skip (c : Cursor) (n : Nat) : Cursor := c.past (c.rest.take n)

/-- The rest of a line from a comment on, if the blanks before it let it be one. -/
def gapFrom (flow : Bool) (c : Cursor) (blankBefore : Bool) : List Char → Cursor
  | [] => c
  | d :: ds =>
    if d == '\n' then gapFrom flow ⟨ds, 0, true⟩ true ds
    else if d == ' ' then gapFrom flow ⟨ds, c.column + 1, c.fresh⟩ true ds
    else if d == '\t' && (flow || !c.fresh) then gapFrom flow ⟨ds, c.column + 1, c.fresh⟩ true ds
    else if d == '#' && blankBefore then inComment ds
    else c
where
  inComment : List Char → Cursor
    | [] => ⟨[], 0, true⟩
    | d :: ds => if d == '\n' then gapFrom flow ⟨ds, 0, true⟩ true ds else inComment ds

/-- Skips blanks, line breaks and comments. Tabs do not indent outside brackets. -/
def gap (flow : Bool) (c : Cursor) : Cursor := gapFrom flow c c.fresh c.rest

end Cursor

/-- Whether a dash for an item of a sequence comes next. -/
def isDash : List Char → Bool
  | '-' :: cs => endsToken cs
  | _ => false

/-- The line breaks of a fold: one is a space, and of several the first is left out. -/
def foldedBreaks (n : Nat) : List Char := if n ≤ 1 then [' '] else List.replicate (n - 1) '\n'

end Yaml

end Cohort
