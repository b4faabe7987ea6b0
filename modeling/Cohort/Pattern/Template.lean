import Cohort.Pattern.Basic

/-!
# Templates

A template is text in which `$1`, `$2` and so on stand for what the groups of a match hold.
-/

namespace Cohort.Pattern

/-- Puts a text in the place of every occurrence of another one; the next `skipped` characters belong to the last
occurrence. -/
def substitute (needle text : List Char) (skipped : Nat) : List Char → List Char
  | [] => []
  | c :: cs =>
    match skipped with
    | n + 1 => substitute needle text n cs
    | 0 =>
      if needle.isPrefixOf (c :: cs) then text ++ substitute needle text (needle.length - 1) cs
      else c :: substitute needle text 0 cs

/-- Fills the place of one group; a group without a text leaves nothing. -/
def fillGroup (m : Match) (template : List Char) (index : Nat) : List Char :=
  substitute ('$' :: Nat.toDigits 10 index) ((m.lookup index).getD []) 0 template

/-- Fills the places of the groups of a pattern, one group after the other, and of the number after the last one.
Text without places is as it was; filled text has no blanks around it. -/
def fill (p : Pattern) (m : Match) (template : String) : String :=
  if template.toList.contains '$' then
    let indices := (List.range (p.groupCount + 1)).map (· + 1)
    String.ofList (Text.trim (indices.foldl (fillGroup m) template.toList))
  else template

end Cohort.Pattern
