import Cohort.Proofs.Number.Numeral
import Cohort.Sql.Lexer
import Cohort.Sql.Rendering

/-!
# Reading tokens back

The lexer reads the spelling of a token back as that token and leaves what follows, provided that what follows cannot
extend the token. Which first characters are safe depends on the kind of the token: a word must not be followed by
another part of a word, a string not by a quote, a number not by a digit, point or letter.
-/

namespace Cohort.Sql

/-- The first character of the text, if there is one, passes the test. -/
def Boundary (p : Char → Bool) (rest : List Char) : Prop := ∀ c, rest.head? = some c → p c = true

theorem boundary_nil (p : Char → Bool) : Boundary p [] := fun _ h => nomatch h

theorem boundary_cons {p : Char → Bool} {c : Char} (h : p c = true) (cs : List Char) : Boundary p (c :: cs) := by
  intro d hd
  rw [← Option.some.inj hd]
  exact h

theorem Boundary.mono {p q : Char → Bool} {rest : List Char} (h : Boundary p rest)
    (hpq : ∀ c, p c = true → q c = true) : Boundary q rest :=
  fun c hc => hpq c (h c hc)

/-- The characters that may stand after a term. -/
def isClosing (c : Char) : Bool := c == ' ' || c == ',' || c == ')'

/-- The characters that may stand after a word. -/
def isBreak (c : Char) : Bool := isClosing c || c == '(' || c == '.'

theorem isBreak_of_isClosing (c : Char) (h : isClosing c = true) : isBreak c = true := by
  simp [isBreak, h]

theorem eq_of_isClosing {c : Char} (h : isClosing c = true) : c = ' ' ∨ c = ',' ∨ c = ')' := by
  simpa [isClosing, or_assoc] using h

theorem eq_of_isBreak {c : Char} (h : isBreak c = true) : c = ' ' ∨ c = ',' ∨ c = ')' ∨ c = '(' ∨ c = '.' := by
  simpa [isBreak, isClosing, or_assoc] using h

/-- A run of characters ends where what follows leaves the class. -/
theorem takeWhile_append_of_boundary {p : Char → Bool} {cs rest : List Char} (hcs : ∀ c ∈ cs, p c = true)
    (hrest : Boundary (fun c => !p c) rest) : (cs ++ rest).takeWhile p = cs := by
  rw [List.takeWhile_append_of_pos hcs]
  cases rest with
  | nil => simp
  | cons d rest =>
    have hd : p d = false := by simpa using hrest d rfl
    simp [hd]

theorem dropWhile_append_of_boundary {p : Char → Bool} {cs rest : List Char} (hcs : ∀ c ∈ cs, p c = true)
    (hrest : Boundary (fun c => !p c) rest) : (cs ++ rest).dropWhile p = rest := by
  rw [List.dropWhile_append_of_pos hcs]
  cases rest with
  | nil => simp
  | cons d rest =>
    have hd : p d = false := by simpa using hrest d rfl
    simp [hd]

/-! ## Reading one token or blank -/

/-- The characters of a token or of a blank. -/
def spellingOf : Option Token → List Char
  | some t => t.spelling
  | none => [' ']

/-- The lexer takes exactly the token or blank from the front of its spelling and the rest. -/
def Reads (p : Option Token) (rest : List Char) : Prop :=
  ∃ c cs, spellingOf p = c :: cs ∧ readToken c (cs ++ rest) = .ok (p, rest)

theorem reads_blank (rest : List Char) : Reads none rest := ⟨' ', [], rfl, rfl⟩

theorem reads_leftParen (rest : List Char) : Reads (some (.symbol .leftParen)) rest := by
  refine ⟨'(', [], rfl, ?_⟩
  have h : readSymbol? ('(' :: rest) = some (.symbol .leftParen, rest) := rfl
  simp [readToken, h, asToken]

theorem reads_rightParen (rest : List Char) : Reads (some (.symbol .rightParen)) rest := by
  refine ⟨')', [], rfl, ?_⟩
  have h : readSymbol? (')' :: rest) = some (.symbol .rightParen, rest) := rfl
  simp [readToken, h, asToken]

theorem reads_comma (rest : List Char) : Reads (some (.symbol .comma)) rest := by
  refine ⟨',', [], rfl, ?_⟩
  have h : readSymbol? (',' :: rest) = some (.symbol .comma, rest) := rfl
  simp [readToken, h, asToken]

theorem reads_mul (rest : List Char) : Reads (some (.symbol .mul)) rest := by
  refine ⟨'*', [], rfl, ?_⟩
  have h : readSymbol? ('*' :: rest) = some (.symbol .mul, rest) := rfl
  simp [readToken, h, asToken]

/-- A period before a digit would begin a number. -/
theorem reads_period {rest : List Char} (h : Boundary (fun c => !c.isDigit) rest) :
    Reads (some (.symbol .period)) rest := by
  refine ⟨'.', [], rfl, ?_⟩
  have htake : rest.takeWhile Char.isDigit = [] :=
    @takeWhile_append_of_boundary _ [] rest (by simp) h
  have hdrop : rest.dropWhile Char.isDigit = rest :=
    @dropWhile_append_of_boundary _ [] rest (by simp) h
  simp [readToken, readNumber, takeFraction, asToken, htake, hdrop]

/-- A minus before another one would begin a comment, and before a closing angle bracket an arrow. -/
theorem reads_minus {rest : List Char} (h : Boundary (fun c => c != '-' && c != '>') rest) :
    Reads (some (.symbol .minus)) rest := by
  refine ⟨'-', [], rfl, ?_⟩
  cases rest with
  | nil => rfl
  | cons c cs =>
    have hc : c ≠ '-' ∧ c ≠ '>' := by simpa using h c rfl
    have hangle : ('>' == c) = false := by simp [hc.2.symm]
    have hsymbol : readSymbol? ('-' :: c :: cs) = some (.symbol .minus, c :: cs) := by
      simp [readSymbol?, symbolTable, Symbol.text, List.isPrefixOf, hangle]
    simp [readToken, hc.1, hsymbol, asToken]

theorem isAlpha_iff {c : Char} :
    c.isAlpha = true ↔
      (65 ≤ c.val.toNat ∧ c.val.toNat ≤ 90) ∨ (97 ≤ c.val.toNat ∧ c.val.toNat ≤ 122) := by
  change (decide (c.val ≥ 'A'.val ∧ c.val ≤ 'Z'.val) || decide (c.val ≥ 'a'.val) && decide (c.val ≤ 'z'.val)) = true ↔ _
  simp only [Bool.or_eq_true, Bool.and_eq_true, decide_eq_true_eq, ge_iff_le, UInt32.le_iff_toNat_le]
  exact Iff.rfl

theorem isWordPart_of_isNamePart {c : Char} (h : isNamePart c = true) : isWordPart c = true := by
  simp only [isNamePart, Char.isAlphanum, Bool.or_eq_true, beq_iff_eq] at h
  rcases h with (halpha | hdigit) | hline
  · have hascii : Text.isAscii c = true := by
      simp only [Text.isAscii, decide_eq_true_eq, Char.toNat]
      rcases isAlpha_iff.1 halpha with ⟨-, h⟩ | ⟨-, h⟩
      · exact Nat.lt_of_le_of_lt h (by decide)
      · exact Nat.lt_of_le_of_lt h (by decide)
    simp [isWordPart, Text.isLetter_of_isAscii hascii, halpha]
  · simp [isWordPart, hdigit]
  · simp [isWordPart, hline]

theorem isNamePart_of_isNameStart {c : Char} (h : isNameStart c = true) : isNamePart c = true := by
  simp only [isNameStart, Bool.or_eq_true] at h
  rcases h with h | h <;> simp [isNamePart, Char.isAlphanum, h]

theorem not_isWordPart_of_isBreak {c : Char} (h : isBreak c = true) : (!isWordPart c) = true := by
  rcases eq_of_isBreak h with rfl | rfl | rfl | rfl | rfl <;> decide

/-- No symbol begins like a name. -/
theorem readSymbol?_of_isNameStart {c : Char} (h : isNameStart c = true) (cs : List Char) :
    readSymbol? (c :: cs) = none := by
  have htable : ∀ e ∈ symbolTable, e.1.head?.any (fun d => !isNameStart d) = true := by decide
  have hnone : symbolTable.find? (fun e => e.1.isPrefixOf (c :: cs)) = none := by
    rw [List.find?_eq_none]
    intro e he
    obtain ⟨d, hd, hstart⟩ := (Option.any_eq_true ..).1 (htable e he)
    obtain ⟨ds, hds⟩ := List.head?_eq_some_iff.1 hd
    have hne : (d == c) = false := by
      rw [beq_eq_false_iff_ne]
      rintro rfl
      rw [h] at hstart
      cases hstart
    simp [hds, List.isPrefixOf, hne]
  simp [readSymbol?, hnone]

/-- The letters of special strings begin ordinary words unless a quote follows. -/
theorem readLettered_of_boundary (c : Char) {cs : List Char}
    (h : ∀ d, cs.head? = some d → d ≠ '\'' ∧ d ≠ '"' ∧ d ≠ '&') :
    readLettered c cs = asToken (readWord [c] cs) := by
  unfold readLettered
  split <;> first
    | rfl
    | (rename_i hcs; exact absurd rfl (by first | exact (h _ rfl).1 | exact (h _ rfl).2.1 | exact (h _ rfl).2.2))

theorem not_isDigit_of_isNameStart {c : Char} (h : isNameStart c = true) : c.isDigit = false := by
  cases hd : c.isDigit with
  | false => rfl
  | true =>
    simp only [Char.isDigit, Bool.and_eq_true, decide_eq_true_eq, UInt32.le_iff_toNat_le, ge_iff_le] at hd
    have hlow : '0'.val.toNat = 48 := rfl
    have hhigh : '9'.val.toNat = 57 := rfl
    rw [isNameStart, Bool.or_eq_true, isAlpha_iff, beq_iff_eq] at h
    rcases h with (h | h) | rfl
    · omega
    · omega
    · exact absurd hd.2 (by decide)

theorem isWordStart_of_isNameStart {c : Char} (h : isNameStart c = true) : isWordStart c = true := by
  have hpart := isWordPart_of_isNamePart (isNamePart_of_isNameStart h)
  have hdollar : c ≠ '$' := by
    rintro rfl
    revert h
    decide
  simp only [isWordPart, not_isDigit_of_isNameStart h, beq_eq_false_iff_ne.2 hdollar, Bool.or_false,
    Bool.or_eq_true] at hpart
  simp only [isWordStart, Bool.or_eq_true]
  rcases hpart with ((h | h) | h) | h <;> simp [h]

theorem readToken_of_isNameStart {c : Char} (hc : isNameStart c = true) {cs : List Char}
    (h : ∀ d, cs.head? = some d → d ≠ '\'' ∧ d ≠ '"' ∧ d ≠ '&') :
    readToken c cs = asToken (readWord [c] cs) := by
  have hother : ∀ d : Char, isNameStart d = false → c ≠ d := by
    rintro d hd rfl
    rw [hc] at hd
    cases hd
  have htick : c.toNat ≠ 0x60 := by
    intro htick
    have : c = Char.ofNat 0x60 := by rw [← htick, Char.ofNat_toNat]
    exact hother _ (by decide) this
  unfold readToken
  rw [if_neg (by
    rintro (rfl | rfl | rfl | rfl) <;> revert hc <;> decide)]
  by_cases hletter : c.toUpper ∈ ['B', 'R', 'N', 'E', 'U', 'X']
  · rw [if_pos hletter]
    exact readLettered_of_boundary c h
  · rw [if_neg hletter, if_neg (hother _ (by decide)), if_neg (by simp [hother '"' (by decide), htick]),
      if_neg (by simp [not_isDigit_of_isNameStart hc, hother '.' (by decide)]),
      if_neg (by simp [hother '-' (by decide)]), if_neg (by simp [hother '/' (by decide)]),
      readSymbol?_of_isNameStart hc]
    simp [hother '#' (by decide), hother '@' (by decide), hother '?' (by decide), isWordStart_of_isNameStart hc]

/-- A word without quotes is read back if it keeps the rule for names. -/
theorem reads_plain {w : String} (hw : isName w = true) {rest : List Char} (h : Boundary isBreak rest) :
    Reads (some (.plain w)) rest := by
  unfold isName at hw
  generalize hcs : w.toList = cs at hw
  match cs, hw with
  | c :: cs, hw =>
    simp only [Bool.and_eq_true, List.all_eq_true] at hw
    obtain ⟨⟨hc, hparts⟩, -⟩ := hw
    refine ⟨c, cs, hcs, ?_⟩
    have hhead : ∀ d, (cs ++ rest).head? = some d → d ≠ '\'' ∧ d ≠ '"' ∧ d ≠ '&' := by
      intro d hd
      cases cs with
      | nil => rcases eq_of_isBreak (h d hd) with rfl | rfl | rfl | rfl | rfl <;> decide
      | cons e cs =>
        have he : isNamePart e = true := hparts e (List.mem_cons_self ..)
        rw [← Option.some.inj hd]
        refine ⟨?_, ?_, ?_⟩ <;> rintro rfl <;> revert he <;> decide
    rw [readToken_of_isNameStart hc hhead, asToken, readWord,
      takeWhile_append_of_boundary (fun d hd => isWordPart_of_isNamePart (hparts d hd))
        (h.mono fun d hd => not_isWordPart_of_isBreak hd),
      dropWhile_append_of_boundary (fun d hd => isWordPart_of_isNamePart (hparts d hd))
        (h.mono fun d hd => not_isWordPart_of_isBreak hd)]
    rw [List.singleton_append, ← hcs, String.ofList_toList]

/-- Content in quotes is read back whatever it is, unless another quote follows. -/
theorem readQuoted_between (q : Char) (content : List Char) {rest : List Char}
    (h : Boundary (fun c => c != q) rest) :
    readQuoted q false (content.flatMap (fun c => if c = q then [q, q] else [c]) ++ q :: rest) =
      some (content, rest) := by
  induction content with
  | nil =>
    cases rest with
    | nil => simp [readQuoted]
    | cons d rest =>
      have hd : d ≠ q := by simpa using h d rfl
      simp [readQuoted, hd]
  | cons c content ih =>
    rw [List.flatMap_cons]
    by_cases hc : c = q
    · subst hc
      simp only [if_true, List.cons_append, List.nil_append]
      rw [readQuoted]
      simp [ih]
    · simp only [hc, if_false, List.cons_append, List.nil_append]
      generalize htail : List.flatMap _ content ++ q :: rest = tail at ih
      match tail with
      | [] => simp at htail
      | d :: tail =>
        rw [readQuoted]
        simp [hc, ih]

theorem reads_quotedWord (w : String) {rest : List Char} (h : Boundary (fun c => c != '"') rest) :
    Reads (some (.word w (some '"'))) rest := by
  refine ⟨'"', _, rfl, ?_⟩
  have hread := readQuoted_between '"' w.toList h
  simp [readToken, hread]

theorem reads_string (s : String) {rest : List Char} (h : Boundary (fun c => c != '\'') rest) :
    Reads (some (.string s)) rest := by
  refine ⟨'\'', _, rfl, ?_⟩
  have hread := readQuoted_between '\'' s.toList h
  simp [readToken, hread]

theorem not_isDigit_of_isClosing {c : Char} (h : isClosing c = true) : (!c.isDigit) = true := by
  rcases eq_of_isClosing h with rfl | rfl | rfl <;> decide

theorem Boundary.not_isDigit {rest : List Char} (h : Boundary isClosing rest) :
    Boundary (fun c => !c.isDigit) rest :=
  h.mono fun _ hc => not_isDigit_of_isClosing hc

theorem takeExponent_append {exponent rest : List Char} (he : IsExponent exponent) (h : Boundary isClosing rest) :
    takeExponent (exponent ++ rest) = (exponent, rest) := by
  cases he with
  | absent =>
    match rest, h with
    | [], _ => rfl
    | [c], _ => rfl
    | c :: d :: rest, h =>
      have hc : c ≠ 'e' ∧ c ≠ 'E' := by
        rcases eq_of_isClosing (h c rfl) with rfl | rfl | rfl <;> decide
      simp [takeExponent, hc]
  | positive ds hne hds =>
    match ds, hne with
    | d :: ds, _ =>
      have hd : d.isDigit = true := hds d (List.mem_cons_self ..)
      have hsign : d ≠ '+' ∧ d ≠ '-' := by
        constructor <;> rintro rfl <;> revert hd <;> decide
      have htake := takeWhile_append_of_boundary hds h.not_isDigit
      have hdrop := dropWhile_append_of_boundary hds h.not_isDigit
      rw [List.cons_append] at htake hdrop
      simp [takeExponent, hsign, hd, htake, hdrop]
  | negative ds hne hds =>
    have htake := takeWhile_append_of_boundary hds h.not_isDigit
    have hdrop := dropWhile_append_of_boundary hds h.not_isDigit
    simp [takeExponent, hne, htake, hdrop]

theorem takeFraction_append {fraction exponent rest : List Char} (hf : IsFraction fraction)
    (he : IsExponent exponent) (h : Boundary isClosing rest) :
    takeFraction (fraction ++ (exponent ++ rest)) = (fraction, exponent ++ rest) := by
  have hboundary : Boundary (fun c => !c.isDigit && c != '.') (exponent ++ rest) := by
    cases he with
    | positive ds _ _ => exact boundary_cons (by decide) _
    | negative ds _ _ => exact boundary_cons (by decide) _
    | absent =>
      apply h.mono
      intro c hc
      rcases eq_of_isClosing hc with rfl | rfl | rfl <;> decide
  cases hf with
  | absent =>
    rw [List.nil_append]
    generalize exponent ++ rest = tail at hboundary
    cases tail with
    | nil => rfl
    | cons c tail =>
      have hc : c ≠ '.' := by
        have := hboundary c rfl
        simp_all
      simp [takeFraction, hc]
  | point ds hds =>
    have hdigit : Boundary (fun c => !c.isDigit) (exponent ++ rest) := hboundary.mono fun c hc => by simp_all
    have htake := takeWhile_append_of_boundary hds hdigit
    have hdrop := dropWhile_append_of_boundary hds hdigit
    simp [takeFraction, htake, hdrop]

/-- What follows the whole part of a numeral does not begin with a digit. -/
theorem boundary_fraction_append {fraction exponent rest : List Char} (hf : IsFraction fraction)
    (he : IsExponent exponent) (h : Boundary isClosing rest) :
    Boundary (fun c => !c.isDigit && c != 'x') (fraction ++ (exponent ++ rest)) := by
  cases hf with
  | point ds _ => exact boundary_cons (by decide) _
  | absent =>
    cases he with
    | positive ds _ _ => exact boundary_cons (by decide) _
    | negative ds _ _ => exact boundary_cons (by decide) _
    | absent =>
      apply h.mono
      intro c hc
      rcases eq_of_isClosing hc with rfl | rfl | rfl <;> decide

theorem readNumber_append {cs rest : List Char} (hcs : IsNumeral cs) (h : Boundary isClosing rest) :
    readNumber (cs ++ rest) = (.number (String.ofList cs) false, rest) := by
  obtain ⟨whole, fraction, exponent, ⟨hne, hwhole⟩, hf, he, rfl⟩ := hcs
  have hboundary := boundary_fraction_append hf he h
  have hdigit : Boundary (fun c => !c.isDigit) (fraction ++ (exponent ++ rest)) :=
    hboundary.mono fun c hc => by simp_all
  have hhex : (fraction ++ (exponent ++ rest)).head? ≠ some 'x' := fun hx => by simpa using hboundary 'x' hx
  have hperiod : ∀ point, whole ++ point ≠ ['.'] := by
    intro point hpoint
    match whole, hne, hwhole with
    | d :: whole, _, hwhole =>
      have hd : d.isDigit = true := hwhole d (List.mem_cons_self ..)
      rw [List.cons_append] at hpoint
      rw [(List.cons.inj hpoint).1] at hd
      revert hd
      decide
  have hlong : ∀ tail, rest ≠ 'L' :: tail := by
    rintro tail rfl
    exact absurd (h 'L' rfl) (by decide)
  have hexponent := takeExponent_append he h
  unfold readNumber
  rw [List.append_assoc, List.append_assoc, takeWhile_append_of_boundary hwhole hdigit,
    dropWhile_append_of_boundary hwhole hdigit]
  simp only [hhex, and_false, if_false, takeFraction_append hf he h, hperiod, hexponent]
  rw [List.append_assoc]

theorem readToken_of_isDigit {c : Char} (hc : c.isDigit = true) (cs : List Char) :
    readToken c cs = asToken (readNumber (c :: cs)) := by
  have hother : ∀ d : Char, d.isDigit = false → c ≠ d := by
    rintro d hd rfl
    rw [hc] at hd
    cases hd
  have hupper : c.toUpper = c := by
    simp only [Char.isDigit, Bool.and_eq_true, decide_eq_true_eq, UInt32.le_iff_toNat_le] at hc
    have hhigh : '9'.val.toNat = 57 := rfl
    have hlower : 'a'.val.toNat = 97 := rfl
    unfold Char.toUpper
    rw [dif_neg]
    simp only [UInt32.le_iff_toNat_le, not_and]
    omega
  have hletter : c.toUpper ∉ ['B', 'R', 'N', 'E', 'U', 'X'] := by
    have hletters : ∀ d ∈ ['B', 'R', 'N', 'E', 'U', 'X'], d.isDigit = false := by
      intro d hd
      simp only [List.mem_cons, List.not_mem_nil, or_false] at hd
      rcases hd with rfl | rfl | rfl | rfl | rfl | rfl <;> rfl
    rw [hupper]
    exact fun hmem => hother c (hletters c hmem) rfl
  have htick : c.toNat ≠ 0x60 := by
    intro htick
    have : c = Char.ofNat 0x60 := by rw [← htick, Char.ofNat_toNat]
    exact hother _ (by decide) this
  unfold readToken
  rw [if_neg (by rintro (rfl | rfl | rfl | rfl) <;> revert hc <;> decide), if_neg hletter,
    if_neg (hother _ (by decide)), if_neg (by simp [hother '"' (by decide), htick]), if_pos (Or.inl hc)]

theorem reads_number {digits : String} (hd : IsNumeral digits.toList) {rest : List Char}
    (h : Boundary isClosing rest) : Reads (some (.number digits false)) rest := by
  have hspelling : spellingOf (some (.number digits false)) = digits.toList := by
    simp [spellingOf, Token.spelling]
  have hread := readNumber_append hd h
  rw [String.ofList_toList] at hread
  obtain ⟨whole, fraction, exponent, ⟨hne, hwhole⟩, -, -, hcs⟩ := hd
  match whole, hne, hwhole with
  | d :: whole, _, hwhole =>
    refine ⟨d, whole ++ (fraction ++ exponent), by rw [hspelling, hcs, List.cons_append], ?_⟩
    rw [hcs, List.cons_append, List.cons_append] at hread
    rw [readToken_of_isDigit (hwhole d (List.mem_cons_self ..)), hread]
    rfl

/-- Operators are read back before a blank, which always follows them. -/
theorem reads_operator (op : Operator) (rest : List Char) : Reads (some op.token) (' ' :: rest) := by
  cases op with
  | and => exact reads_plain (by decide) (boundary_cons (by decide) _)
  | or => exact reads_plain (by decide) (boundary_cons (by decide) _)
  | minus => exact reads_minus (boundary_cons (by decide) _)
  | multiply => exact reads_mul _
  | eq => exact ⟨'=', [], rfl, rfl⟩
  | notEq => exact ⟨'<', ['>'], rfl, rfl⟩
  | lt => exact ⟨'<', [], rfl, rfl⟩
  | ltEq => exact ⟨'<', ['='], rfl, rfl⟩
  | gt => exact ⟨'>', [], rfl, rfl⟩
  | gtEq => exact ⟨'>', ['='], rfl, rfl⟩
  | plus => exact ⟨'+', [], rfl, rfl⟩
  | divide => exact ⟨'/', [], rfl, rfl⟩
  | modulo => exact ⟨'%', [], rfl, rfl⟩

end Cohort.Sql
