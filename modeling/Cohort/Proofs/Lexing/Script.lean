import Cohort.Proofs.Lexing.Token

/-!
# Legible scripts

A script is legible before some text if the lexer takes its tokens and blanks off one by one, each exactly as it was
written, and arrives at that text. A legible script has its own tokens, and neither a comment nor anything else that
was not written as a part of the script.
-/

namespace Cohort.Sql

/-- What the lexer takes off in one step. -/
inductive Lexeme
  | token (t : Token)
  | blank
  | comment
  deriving DecidableEq, Repr

namespace Lexeme

/-- The lexeme of a step that began at the character. What yields no token is a comment unless it is a blank. -/
def ofStep (c : Char) : Option Token → Lexeme
  | some t => .token t
  | none => if Text.isBlank c then .blank else .comment

def token? : Lexeme → Option Token
  | .token t => some t
  | _ => none

/-- The lexeme of a part of a script. -/
def ofPart : Option Token → Lexeme
  | some t => .token t
  | none => .blank

@[simp] theorem token?_ofStep (c : Char) (t : Option Token) : (ofStep c t).token? = t := by
  cases t with
  | some t => rfl
  | none =>
    simp only [ofStep]
    split <;> rfl

@[simp] theorem token?_ofPart (p : Option Token) : (ofPart p).token? = p := by cases p <;> rfl

theorem ofPart_ne_comment (p : Option Token) : ofPart p ≠ .comment := by cases p <;> simp [ofPart]

end Lexeme

/-- The lexemes of the text, comments included; `fuel` bounds their number. -/
def lexemesWithin : Nat → List Char → Except GrammarFault (List Lexeme)
  | _, [] => .ok []
  | 0, _ => .error .token
  | fuel + 1, c :: cs => do
    let (t, rest) ← readToken c cs
    let ls ← lexemesWithin fuel rest
    return Lexeme.ofStep c t :: ls

/-- Everything that a text consists of. -/
def lexemes (cs : List Char) : Except GrammarFault (List Lexeme) := lexemesWithin cs.length cs

/-- The tokens of a text are those among its lexemes. -/
theorem tokenize_eq_lexemes (cs : List Char) :
    tokenize cs = (lexemes cs).map (·.filterMap Lexeme.token?) := by
  unfold tokenize lexemes
  generalize cs.length = fuel
  induction fuel generalizing cs with
  | zero => cases cs <;> rfl
  | succ fuel ih =>
    cases cs with
    | nil => rfl
    | cons c cs =>
      rw [tokensWithin, lexemesWithin]
      cases readToken c cs with
      | error e => rfl
      | ok step =>
        obtain ⟨t, rest⟩ := step
        simp only [bind, Except.bind, ih rest, pure, Except.pure]
        cases lexemesWithin fuel rest with
        | error e => rfl
        | ok ls => cases t <;> simp [Except.map]

namespace Script

theorem chars_cons (p : Option Token) (s : Script) : chars (p :: s) = spellingOf p ++ chars s := by
  cases p <;> rfl

/-- Whether the lexer takes off each part of the script as it was written, before the given text. -/
def Legible : Script → List Char → Prop
  | [], _ => True
  | p :: s, rest => Reads p (chars s ++ rest) ∧ Legible s rest

theorem legible_single {p : Option Token} {rest : List Char} (h : Reads p rest) : Legible [p] rest :=
  ⟨h, trivial⟩

theorem legible_append {s t : Script} {rest : List Char} (hs : Legible s (chars t ++ rest)) (ht : Legible t rest) :
    Legible (s ++ t) rest := by
  induction s with
  | nil => exact ht
  | cons p s ih =>
    obtain ⟨hp, hs⟩ := hs
    refine ⟨?_, ih hs⟩
    change Reads p (chars (s ++ t) ++ rest)
    rw [chars_append, List.append_assoc]
    exact hp

theorem lexemesWithin_chars {s : Script} (h : Legible s []) {fuel : Nat} (hfuel : s.length ≤ fuel) :
    lexemesWithin fuel (chars s) = .ok (s.map Lexeme.ofPart) := by
  induction s generalizing fuel with
  | nil => cases fuel <;> rfl
  | cons p s ih =>
    obtain ⟨⟨c, cs, hspelling, hread⟩, hs⟩ := h
    cases fuel with
    | zero => cases hfuel
    | succ fuel =>
      have hlexeme : Lexeme.ofStep c p = Lexeme.ofPart p := by
        cases p with
        | some t => rfl
        | none =>
          obtain rfl : ' ' = c := (List.cons.inj hspelling).1
          simp [Lexeme.ofStep, Lexeme.ofPart, Text.isBlank, Text.inRanges, Text.blanks]
      rw [List.append_nil] at hread
      rw [chars_cons, hspelling, List.cons_append, lexemesWithin, hread]
      simp only [bind, Except.bind, ih hs (Nat.le_of_succ_le_succ hfuel), pure, Except.pure, List.map_cons, hlexeme]

theorem length_le_length_chars {s : Script} {rest : List Char} (h : Legible s rest) : s.length ≤ (chars s).length := by
  induction s with
  | nil => exact Nat.le_refl _
  | cons p s ih =>
    obtain ⟨⟨c, cs, hspelling, -⟩, hs⟩ := h
    have hlength := ih hs
    rw [chars_cons, hspelling, List.length_append, List.length_cons, List.length_cons]
    omega

/-- A legible script has exactly its own parts as lexemes. -/
theorem lexemes_chars {s : Script} (h : Legible s []) : lexemes (chars s) = .ok (s.map Lexeme.ofPart) :=
  lexemesWithin_chars h (length_le_length_chars h)

theorem tokenize_chars {s : Script} (h : Legible s []) : tokenize (chars s) = .ok (tokens s) := by
  rw [tokenize_eq_lexemes, lexemes_chars h]
  simp only [Except.map, List.filterMap_map, Function.comp_def, Lexeme.token?_ofPart]
  rfl

/-! ## Clear scripts -/

/-- Legible before whatever may follow a term. -/
def Clear (s : Script) : Prop := ∀ rest, Boundary isClosing rest → Legible s rest

/-- Empty or with a blank in front, so that it may follow a term. -/
def Detached (s : Script) : Prop := ∀ p, s.head? = some p → p = none

theorem boundary_chars_of_detached {s : Script} (hs : Detached s) {rest : List Char} (h : Boundary isClosing rest) :
    Boundary isClosing (chars s ++ rest) := by
  cases s with
  | nil => exact h
  | cons p s =>
    obtain rfl := hs p rfl
    exact boundary_cons (by decide) _

theorem clear_nil : Clear [] := fun _ _ => trivial

theorem clear_append {s t : Script} (hs : Clear s) (ht : Clear t) (hdetached : Detached t) : Clear (s ++ t) :=
  fun rest h => legible_append (hs _ (boundary_chars_of_detached hdetached h)) (ht rest h)

/-- A blank separates whatever stands around it. -/
theorem clear_append_blank_append {s t : Script} (hs : Clear s) (ht : Clear t) : Clear (s ++ blank ++ t) := by
  intro rest h
  refine legible_append (legible_append (hs _ ?_) (legible_single (reads_blank _))) (ht rest h)
  exact boundary_cons (by decide) _

theorem detached_nil : Detached [] := fun _ h => nomatch h

theorem detached_blank_append (s : Script) : Detached (blank ++ s) := by
  rintro p hp
  exact (Option.some.inj hp).symm

theorem Detached.append {s : Script} (hs : Detached s) {t : Script} (ht : Detached t) : Detached (s ++ t) := by
  cases s with
  | nil => exact ht
  | cons p s => exact hs

theorem legible_blank (rest : List Char) : Legible blank rest := legible_single (reads_blank rest)

theorem legible_commaBlank (rest : List Char) : Legible commaBlank rest :=
  legible_append (legible_single (reads_comma _)) (legible_blank rest)

theorem clear_string (content : String) : Clear (ofToken (.string content)) := by
  refine fun rest h => legible_single (reads_string content (h.mono fun c hc => ?_))
  rcases eq_of_isClosing hc with rfl | rfl | rfl <;> decide

/-- Words with blanks between them are legible wherever one word is. -/
theorem legible_ofWords {words : List String} (hwords : ∀ w ∈ words, isName w = true) {rest : List Char}
    (h : Boundary isBreak rest) : Legible (ofWords words) rest := by
  induction words with
  | nil => trivial
  | cons w words ih =>
    have hw := hwords w (List.mem_cons_self ..)
    have hlater := ih fun v hv => hwords v (List.mem_cons_of_mem w hv)
    cases words with
    | nil => exact legible_single (reads_plain hw h)
    | cons v words => exact ⟨reads_plain hw (boundary_cons (by decide) _), reads_blank _, hlater⟩

theorem clear_ofWords {words : List String} (hwords : ∀ w ∈ words, isName w = true) : Clear (ofWords words) :=
  fun _ h => legible_ofWords hwords (h.mono isBreak_of_isClosing)

theorem legible_spaced {words : List String} (hwords : ∀ w ∈ words, isName w = true) (rest : List Char) :
    Legible (spaced words) rest := by
  refine legible_append (legible_append (legible_blank _) (legible_ofWords hwords ?_)) (legible_blank rest)
  exact boundary_cons (by decide) _

/-- Words with blanks around them separate whatever stands around them. -/
theorem clear_append_spaced_append {s t : Script} (hs : Clear s) {words : List String}
    (hwords : ∀ w ∈ words, isName w = true) (ht : Clear t) : Clear (s ++ spaced words ++ t) := by
  intro rest h
  refine legible_append (legible_append (hs _ ?_) (legible_spaced hwords _)) (ht rest h)
  exact boundary_cons (by decide) _

theorem detached_spaced_append (words : List String) (s : Script) : Detached (spaced words ++ s) := by
  rw [spaced, List.append_assoc, List.append_assoc]
  exact detached_blank_append _

theorem clear_flatten {scripts : List Script} (h : ∀ s ∈ scripts, Clear s ∧ Detached s) :
    Clear scripts.flatten ∧ Detached scripts.flatten := by
  induction scripts with
  | nil => exact ⟨clear_nil, detached_nil⟩
  | cons s scripts ih =>
    obtain ⟨hs, hscripts⟩ := List.forall_mem_cons.1 h
    obtain ⟨hclear, hdetached⟩ := ih hscripts
    rw [List.flatten_cons]
    exact ⟨clear_append hs.1 hclear hdetached, hs.2.append hdetached⟩

theorem legible_parenthesized {s : Script} (h : Clear s) (rest : List Char) : Legible (parenthesized s) rest := by
  refine legible_append (legible_append (legible_single (reads_leftParen _)) (h _ ?_))
    (legible_single (reads_rightParen rest))
  exact boundary_cons (by decide) _

theorem clear_enclosed {s : Script} (parentheses : Bool) (h : Clear s) : Clear (enclosed parentheses s) := by
  cases parentheses with
  | false => exact h
  | true => exact fun rest _ => legible_parenthesized h rest

/-- A word and something in parentheses right after it. -/
theorem clear_word_parenthesized {w : String} (hw : isName w = true) {s : Script} (h : Clear s) :
    Clear (ofWords [w] ++ parenthesized s) := by
  refine fun rest _ => legible_append (legible_single (reads_plain hw ?_)) (legible_parenthesized h rest)
  exact boundary_cons (by decide) _

/-- Clear scripts with a separator between them that is legible anywhere and may follow a term. -/
theorem clear_join {separator : Script} (hlegible : ∀ rest, Legible separator rest)
    (hboundary : ∀ rest, Boundary isClosing (chars separator ++ rest)) {scripts : List Script}
    (h : ∀ s ∈ scripts, Clear s) : Clear (join separator scripts) := by
  induction scripts with
  | nil => exact clear_nil
  | cons s scripts ih =>
    have hs := h s (List.mem_cons_self ..)
    have hlater := ih fun t ht => h t (List.mem_cons_of_mem s ht)
    cases scripts with
    | nil => exact hs
    | cons t scripts =>
      intro rest hrest
      exact legible_append (legible_append (hs _ (hboundary _)) (hlegible _)) (hlater rest hrest)

theorem clear_join_comma {scripts : List Script} (h : ∀ s ∈ scripts, Clear s) : Clear (join commaBlank scripts) :=
  clear_join legible_commaBlank (fun _ => boundary_cons (by decide) _) h

theorem clear_join_spaced (words : List String) (hwords : ∀ w ∈ words, isName w = true) {scripts : List Script}
    (h : ∀ s ∈ scripts, Clear s) : Clear (join (spaced words) scripts) :=
  clear_join (legible_spaced hwords) (fun _ => boundary_cons (by decide) _) h

end Script

end Cohort.Sql
