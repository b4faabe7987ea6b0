import Cohort.Proofs.Lexing.Token
import Cohort.Proofs.Time.Calendar
import Cohort.Time.Reading

/-!
# Reading instants back

The text of an instant in data is read as that instant. Each part of it is a number in digits, padded to a width that
the reader takes in whole, and the character after it is no digit.
-/

namespace Cohort

open Sql (Boundary boundary_cons takeWhile_append_of_boundary dropWhile_append_of_boundary)

/-- What follows a number is no digit. -/
abbrev EndsDigits (rest : List Char) : Prop := Boundary (fun c => !c.isDigit) rest

theorem digitsValue_zeros_append (n : Nat) (cs : List Char) : digitsValue (Double.zeros n ++ cs) = digitsValue cs := by
  induction n with
  | zero => rfl
  | succ n ih =>
    rw [← ih]
    rfl

theorem toNat_of_isDigit {c : Char} (h : c.isDigit = true) : 48 ≤ c.toNat ∧ c.toNat ≤ 57 := by
  simp only [Char.isDigit, Bool.and_eq_true, decide_eq_true_eq, UInt32.le_iff_toNat_le] at h
  exact h

/-- No visible character of ASCII is a blank. -/
theorem isBlank_of_visible {c : Char} (hlow : 32 < c.toNat) (hhigh : c.toNat < 127) : Text.isBlank c = false := by
  simp [Text.isBlank, Text.inRanges, Text.blanks]
  omega

theorem trimLeft_cons {c : Char} (h : Text.isBlank c = false) (cs : List Char) : Text.trimLeft (c :: cs) = c :: cs := by
  rw [Text.trimLeft, List.dropWhile_cons_of_neg (by rw [h]; decide)]

theorem trimLeft_digits_append {ds : List Char} (hne : ds ≠ []) (hds : AreDigits ds) (rest : List Char) :
    Text.trimLeft (ds ++ rest) = ds ++ rest := by
  cases ds with
  | nil => exact absurd rfl hne
  | cons d ds =>
    obtain ⟨hlow, hhigh⟩ := toNat_of_isDigit (hds d List.mem_cons_self)
    exact trimLeft_cons (isBlank_of_visible (by omega) (by omega)) (ds ++ rest)

namespace Instant

variable {width n : Nat}

theorem toList_padded (width n : Nat) :
    (padded width n).toList = Double.zeros (width - (toString n).length) ++ (toString n).toList := by
  rw [padded, String.toList_append, String.toList_ofList]
  rfl

theorem areDigits_padded (width n : Nat) : AreDigits (padded width n).toList := by
  rw [toList_padded]
  exact (areDigits_zeros _).append (areDigits_toString n)

theorem digitsValue_padded (width n : Nat) : digitsValue (padded width n).toList = n := by
  rw [toList_padded, digitsValue_zeros_append, digitsValue_toString]

theorem padded_ne_nil (width n : Nat) : (padded width n).toList ≠ [] := by
  rw [toList_padded]
  exact List.append_ne_nil_of_right_ne_nil _ (toList_toString_ne_nil n)

theorem length_padded (hwidth : 0 < width) (h : n < tenPow width) : (padded width n).toList.length = width := by
  have hlength : (toString n).length ≤ width := (Nat.length_repr_le_iff hwidth).2 h
  rw [toList_padded, List.length_append, Double.zeros, List.length_replicate, String.length_toList]
  omega

theorem readDigits_append {ds rest : List Char} (hne : ds ≠ []) (hds : AreDigits ds) (hwidth : ds.length ≤ width)
    (h : EndsDigits rest) : readDigits width (ds ++ rest) = some (digitsValue ds, rest) := by
  unfold readDigits
  rw [takeWhile_append_of_boundary hds h, List.take_of_length_le hwidth]
  dsimp only
  rw [if_neg hne, List.drop_left]

theorem readPart_padded {rest : List Char} (hn : n < 100) (h : EndsDigits rest) :
    readPart ((padded 2 n).toList ++ rest) = some (n, rest) := by
  have hlength : (padded 2 n).toList.length ≤ 2 := Nat.le_of_eq (length_padded (by decide) hn)
  rw [readPart, trimLeft_digits_append (padded_ne_nil 2 n) (areDigits_padded 2 n),
    readDigits_append (padded_ne_nil 2 n) (areDigits_padded 2 n) hlength h, digitsValue_padded]

theorem readSeparator_cons {c : Char} (h : Text.isBlank c = false) (cs : List Char) :
    readSeparator c (c :: cs) = some cs := by
  rw [readSeparator, trimLeft_cons h]
  exact if_pos rfl

theorem readYear_digits_append {ds rest : List Char} (hne : ds ≠ []) (hds : AreDigits ds) (hlength : ds.length ≤ 4)
    (h : EndsDigits rest) : readYear (ds ++ rest) = some ((digitsValue ds : Int), rest) := by
  have hfirst {c : Char} {cs : List Char} (hc : c.isDigit = false) : ds ++ rest ≠ c :: cs := by
    intro heq
    cases ds with
    | nil => exact hne rfl
    | cons d ds =>
      have hdigit := hds d List.mem_cons_self
      rw [(List.cons.inj heq).1, hc] at hdigit
      cases hdigit
  unfold readYear
  rw [trimLeft_digits_append hne hds]
  split
  · rename_i heq
    exact absurd heq (hfirst (by decide))
  · rename_i heq
    exact absurd heq (hfirst (by decide))
  · rw [readDigits_append hne hds hlength h, Option.map_some]

/-- A sign allows for any number of digits. -/
theorem readDigits_length_append {ds rest : List Char} (hne : ds ≠ []) (hds : AreDigits ds) (h : EndsDigits rest) :
    readDigits (ds ++ rest).length (ds ++ rest) = some (digitsValue ds, rest) :=
  readDigits_append hne hds (by simp) h

theorem readYear_minus (cs : List Char) :
    readYear ('-' :: cs) = (readDigits cs.length cs).map fun r => (-(r.1 : Int), r.2) := by
  unfold readYear
  rw [trimLeft_cons (isBlank_of_visible (by decide) (by decide))]
  rfl

theorem readYear_plus (cs : List Char) :
    readYear ('+' :: cs) = (readDigits cs.length cs).map fun r => ((r.1 : Int), r.2) := by
  unfold readYear
  rw [trimLeft_cons (isBlank_of_visible (by decide) (by decide))]
  rfl

theorem readYear_yearText (year : Int) {rest : List Char} (h : EndsDigits rest) :
    readYear ((yearText year).toList ++ rest) = some (year, rest) := by
  have hne := padded_ne_nil 4
  have hdigits := areDigits_padded 4
  unfold yearText
  split
  · rename_i hfour
    have hlength : (padded 4 year.toNat).toList.length ≤ 4 :=
      Nat.le_of_eq (length_padded (by decide) (show year.toNat < 10000 by omega))
    rw [readYear_digits_append (hne _) (hdigits _) hlength h, digitsValue_padded, Int.toNat_of_nonneg hfour.1]
  · have hminus (cs : List Char) : "-".toList ++ cs = '-' :: cs := rfl
    have hplus (cs : List Char) : "+".toList ++ cs = '+' :: cs := rfl
    rw [String.toList_append, List.append_assoc]
    have hread := readDigits_length_append (hne year.natAbs) (hdigits year.natAbs) h
    rw [digitsValue_padded] at hread
    by_cases hsign : year < 0
    · have hvalue : -(year.natAbs : Int) = year := by omega
      rw [if_pos hsign, hminus, readYear_minus, hread, Option.map_some, hvalue]
    · have hvalue : (year.natAbs : Int) = year := by omega
      rw [if_neg hsign, hplus, readYear_plus, hread, Option.map_some, hvalue]

theorem readFraction_point {ds rest : List Char} (hne : ds ≠ []) (hds : AreDigits ds) (hlength : ds.length ≤ 9)
    (h : EndsDigits rest) :
    readFraction ('.' :: (ds ++ rest)) = some (digitsValue ds * tenPow (9 - ds.length), rest) := by
  rw [readFraction, takeWhile_append_of_boundary hds h, dropWhile_append_of_boundary hds h,
    List.take_of_length_le hlength]
  exact if_neg hne

/-- A fraction of some digits stands for so many units of its last digit. -/
theorem readFraction_padded {width units : Nat} (hwidth : 0 < width) (hle : width ≤ 9) (hn : units < tenPow width)
    {rest : List Char} (h : EndsDigits rest) :
    readFraction (("." ++ padded width units).toList ++ rest) = some (units * tenPow (9 - width), rest) := by
  have hlength := length_padded hwidth hn
  have hpoint (cs : List Char) : ".".toList ++ cs = '.' :: cs := rfl
  have hread := readFraction_point (padded_ne_nil width units) (areDigits_padded width units) (by rwa [hlength]) h
  rw [String.toList_append, List.append_assoc, hpoint, hread, hlength, digitsValue_padded]

theorem readFraction_fractionText {rest : List Char} (hn : n < nanosPerSecond) (h : EndsDigits ('Z' :: rest)) :
    readFraction ((fractionText n).toList ++ 'Z' :: rest) = some (n, 'Z' :: rest) := by
  change n < 1000000000 at hn
  unfold fractionText
  split
  · rename_i hzero
    rw [hzero]
    rfl
  · split
    · rename_i hmillis
      have hvalue : n / 1000000 * tenPow (9 - 3) = n := Nat.div_mul_cancel (Nat.dvd_of_mod_eq_zero hmillis)
      rw [readFraction_padded (by decide) (by decide) (show n / 1000000 < 1000 by omega) h, hvalue]
    · split
      · rename_i hmicros
        have hvalue : n / 1000 * tenPow (9 - 6) = n := Nat.div_mul_cancel (Nat.dvd_of_mod_eq_zero hmicros)
        rw [readFraction_padded (by decide) (by decide) (show n / 1000 < 1000000 by omega) h, hvalue]
      · have hvalue : n * tenPow (9 - 9) = n := Nat.mul_one n
        rw [readFraction_padded (by decide) (by decide) (show n < 1000000000 from hn) h, hvalue]

/-! ## Reading instants -/

/-- The instants that there are: they lie in a year of the range, and only the last second of a minute may be followed
by a leap second. -/
structure IsRepresentable (t : Instant) : Prop where
  year : hasYear t.date = true
  nanos : t.nanos < 2 * nanosPerSecond
  leap : nanosPerSecond ≤ t.nanos → t.seconds % 60 = 59

variable {t : Instant}

theorem readDate_dateText (t : Instant) {rest : List Char} (h : EndsDigits rest) :
    readDate (t.dateText.toList ++ rest) = some (t.date, rest) := by
  have hvalid : t.date.isValid = true := Date.isValid_ofDays _
  obtain ⟨hmonth, hmonth', hday, hday'⟩ := Date.isValid_iff.1 hvalid
  have hlength := Date.daysInMonth_le t.date.year t.date.month
  have htext : t.dateText.toList ++ rest = (yearText t.date.year).toList ++
      '-' :: ((padded 2 t.date.month.toNat).toList ++ '-' :: ((padded 2 t.date.day.toNat).toList ++ rest)) := by
    simp [dateText, String.toList_append]
  have hblank : Text.isBlank '-' = false := isBlank_of_visible (by decide) (by decide)
  have hstop (cs : List Char) : EndsDigits ('-' :: cs) := boundary_cons rfl cs
  rw [readDate, htext, readYear_yearText _ (hstop _)]
  simp only [Option.bind_eq_bind, Option.bind_some, readSeparator_cons hblank,
    readPart_padded (show t.date.month.toNat < 100 by omega) (hstop _),
    readPart_padded (show t.date.day.toNat < 100 by omega) h]
  rw [Int.toNat_of_nonneg (by omega), Int.toNat_of_nonneg (by omega)]

theorem endsDigits_point (s : String) (rest : List Char) : EndsDigits (("." ++ s).toList ++ rest) := by
  rw [String.toList_append, List.append_assoc]
  exact boundary_cons rfl _

theorem endsDigits_fractionText (n : Nat) {rest : List Char} (h : EndsDigits rest) :
    EndsDigits ((fractionText n).toList ++ rest) := by
  unfold fractionText
  split
  · exact h
  · split
    · exact endsDigits_point _ rest
    · split
      · exact endsDigits_point _ rest
      · exact endsDigits_point _ rest

theorem timeOfDay_eq (t : Instant) : (t.timeOfDay : Int) = t.seconds % 86400 :=
  Int.toNat_of_nonneg (Int.emod_nonneg _ (by decide))

/-- The seconds after the minute are 60 in a leap second only. -/
theorem IsRepresentable.second_cases (h : t.IsRepresentable) :
    t.timeOfDay % 60 + t.nanos / nanosPerSecond = 60 ∧ t.timeOfDay % 60 = 59 ∧
        t.nanos = t.nanos % nanosPerSecond + nanosPerSecond ∨
      t.timeOfDay % 60 + t.nanos / nanosPerSecond < 60 ∧ t.nanos < nanosPerSecond := by
  have htime := t.timeOfDay_eq
  have hnanos := h.nanos
  have hleap := h.leap
  unfold nanosPerSecond at *
  by_cases hlong : 1000000000 ≤ t.nanos
  · have hlast := hleap hlong
    omega
  · omega

/-- The clock is read with whatever fraction follows it. -/
theorem readClock_clockText (h : t.IsRepresentable) {cs rest : List Char} {nanos : Nat} (hcs : EndsDigits cs)
    (hfraction : readFraction cs = some (nanos, rest)) :
    readClock (t.clockText.toList ++ cs) =
      some ((t.timeOfDay / 3600, t.timeOfDay / 60 % 60, t.timeOfDay % 60 + t.nanos / nanosPerSecond, nanos), rest) := by
  have htime := t.timeOfDay_eq
  have hsecond : t.timeOfDay % 60 + t.nanos / nanosPerSecond ≤ 60 := by
    rcases h.second_cases with ⟨hleap, -⟩ | ⟨hlt, -⟩
    · exact Nat.le_of_eq hleap
    · exact Nat.le_of_lt hlt
  have hblank : Text.isBlank ':' = false := isBlank_of_visible (by decide) (by decide)
  have hstop (cs : List Char) : EndsDigits (':' :: cs) := boundary_cons rfl cs
  have htext : t.clockText.toList ++ cs = (padded 2 (t.timeOfDay / 3600)).toList ++
      ':' :: ((padded 2 (t.timeOfDay / 60 % 60)).toList ++
        ':' :: ((padded 2 (t.timeOfDay % 60 + t.nanos / nanosPerSecond)).toList ++ cs)) := by
    simp [clockText, String.toList_append]
  rw [readClock, htext, readPart_padded (by omega) (hstop _)]
  simp only [Option.bind_eq_bind, Option.bind_some, readSeparator_cons hblank,
    readPart_padded (show t.timeOfDay / 60 % 60 < 100 by omega) (hstop _),
    readPart_padded (show t.timeOfDay % 60 + t.nanos / nanosPerSecond < 100 by omega) hcs, hfraction]
  exact if_pos ⟨by omega, by omega, hsecond⟩

/-- The local date and time of an instant, without an offset, are those of the instant. -/
theorem ofLocal_date (h : t.IsRepresentable) :
    ofLocal t.date (t.timeOfDay / 3600, t.timeOfDay / 60 % 60, t.timeOfDay % 60 + t.nanos / nanosPerSecond,
      t.nanos % nanosPerSecond) 0 = some t := by
  have htime := t.timeOfDay_eq
  have hdays : t.date.toDays = t.seconds / 86400 := Date.toDays_ofDays _
  have hvalid : t.date.isValid = true := Date.isValid_ofDays _
  have hseconds : t.date.toDays * secondsPerDay + (t.timeOfDay / 3600 : Nat) * 3600 +
      (t.timeOfDay / 60 % 60 : Nat) * 60 + (t.timeOfDay % 60 : Nat) - 0 = t.seconds := by
    rw [hdays, secondsPerDay]
    omega
  unfold ofLocal
  dsimp only
  rcases h.second_cases with ⟨hleap, hlast, hnanos⟩ | ⟨hlt, hnanos⟩
  · rw [hlast] at hseconds
    rw [hleap, if_pos rfl, if_pos rfl, hseconds, ← hnanos]
    exact if_pos ⟨hvalid, h.year, by decide, h.year⟩
  · have hsecond : t.timeOfDay % 60 + t.nanos / nanosPerSecond = t.timeOfDay % 60 := by
      rw [Nat.div_eq_of_lt hnanos, Nat.add_zero]
    have hne : t.timeOfDay % 60 ≠ 60 := by omega
    rw [hsecond, Nat.mod_eq_of_lt hnanos, if_neg hne, if_neg hne, hseconds]
    exact if_pos ⟨hvalid, h.year, by decide, h.year⟩

theorem readOffset_end : readOffset (Text.trimLeft ['Z']) = some (0, []) := by
  rw [trimLeft_cons (isBlank_of_visible (by decide) (by decide))]
  rfl

/-- An instant is read from its text. -/
theorem ofText?_text (h : t.IsRepresentable) : ofText? t.text = some t := by
  have htext : t.text.toList = t.dateText.toList ++
      'T' :: (t.clockText.toList ++ ((fractionText (t.nanos % nanosPerSecond)).toList ++ 'Z' :: [])) := by
    simp [text, String.toList_append]
  have hend : EndsDigits ('Z' :: []) := boundary_cons rfl []
  have hclock := readClock_clockText h (endsDigits_fractionText _ hend)
    (readFraction_fractionText (Nat.mod_lt t.nanos (by decide)) hend)
  rw [ofText?, htext, readDate_dateText t (boundary_cons rfl _)]
  simp only [Option.bind_eq_bind, Option.bind_some, true_or, if_true, hclock, readOffset_end]
  exact ofLocal_date h

/-- The instant without what it has beyond whole milliseconds. -/
def cut (t : Instant) : Instant := { t with nanos := t.nanos / 1000000 * 1000000 }

@[simp] theorem seconds_cut (t : Instant) : t.cut.seconds = t.seconds := rfl

@[simp] theorem nanos_cut (t : Instant) : t.cut.nanos = t.nanos / 1000000 * 1000000 := rfl

@[simp] theorem date_cut (t : Instant) : t.cut.date = t.date := rfl

@[simp] theorem timeOfDay_cut (t : Instant) : t.cut.timeOfDay = t.timeOfDay := rfl

/-- A second consists of whole milliseconds. -/
theorem nanos_cut_div (t : Instant) : t.cut.nanos / nanosPerSecond = t.nanos / nanosPerSecond := by
  rw [nanos_cut, nanosPerSecond]
  omega

theorem nanos_cut_mod (t : Instant) :
    t.cut.nanos % nanosPerSecond = t.nanos % nanosPerSecond / 1000000 * 1000000 := by
  rw [nanos_cut, nanosPerSecond]
  omega

theorem IsRepresentable.cut (h : t.IsRepresentable) : t.cut.IsRepresentable where
  year := h.year
  nanos := Nat.lt_of_le_of_lt (Nat.div_mul_le_self t.nanos 1000000) h.nanos
  leap hlong := h.leap (Nat.le_trans hlong (Nat.div_mul_le_self t.nanos 1000000))

/-- The text of an instant in queries, taken as universal time, stands for the instant in whole milliseconds. -/
theorem ofText?_queryText (h : t.IsRepresentable) : ofText? (t.queryText ++ "Z") = some t.cut := by
  have htext : (t.queryText ++ "Z").toList = t.dateText.toList ++
      ' ' :: (t.clockText.toList ++
        (("." ++ padded 3 (t.nanos % nanosPerSecond / 1000000)).toList ++ 'Z' :: [])) := by
    simp [queryText, String.toList_append]
  have hmillis : t.nanos % nanosPerSecond / 1000000 < tenPow 3 := by
    change t.nanos % 1000000000 / 1000000 < 1000
    omega
  have hend : EndsDigits ('Z' :: []) := boundary_cons rfl []
  have hclock := readClock_clockText h (endsDigits_point _ _)
    (readFraction_padded (by decide) (by decide) hmillis hend)
  have hunit : tenPow (9 - 3) = 1000000 := rfl
  have hlocal := ofLocal_date h.cut
  rw [hunit] at hclock
  rw [date_cut, timeOfDay_cut, nanos_cut_div, nanos_cut_mod] at hlocal
  rw [ofText?, htext, readDate_dateText t (boundary_cons rfl _)]
  simp only [Option.bind_eq_bind, Option.bind_some, or_true, if_true, hclock, readOffset_end]
  exact hlocal

theorem foldl_digits_lt {ds : List Char} (h : AreDigits ds) (n : Nat) :
    ds.foldl (fun n c => 10 * n + (c.toNat - '0'.toNat)) n < (n + 1) * tenPow ds.length := by
  induction ds generalizing n with
  | nil => simp
  | cons d ds ih =>
    obtain ⟨hd, hds⟩ := List.forall_mem_cons.1 h
    have hnine : d.toNat - '0'.toNat ≤ 9 := Nat.sub_le_sub_right (toNat_of_isDigit hd).2 _
    calc
      _ < (10 * n + (d.toNat - '0'.toNat) + 1) * tenPow ds.length := ih hds _
      _ ≤ (n + 1) * 10 * tenPow ds.length := Nat.mul_le_mul_right _ (by omega)
      _ = (n + 1) * tenPow (d :: ds).length := by
        rw [Nat.mul_assoc, List.length_cons, tenPow_succ, Nat.mul_comm 10]

theorem digitsValue_lt {ds : List Char} (h : AreDigits ds) : digitsValue ds < tenPow ds.length := by
  have hlt := foldl_digits_lt h 0
  rwa [Nat.zero_add, Nat.one_mul] at hlt

theorem readFraction_lt {cs rest : List Char} (h : readFraction cs = some (n, rest)) : n < nanosPerSecond := by
  unfold readFraction at h
  split at h
  · rename_i cs
    dsimp only at h
    split at h
    · cases h
    · cases h
      generalize hds : (cs.takeWhile Char.isDigit).take 9 = ds
      have hdigits : AreDigits ds := fun c hc =>
        List.all_eq_true.1 List.all_takeWhile c (List.mem_of_mem_take (hds ▸ hc))
      have hlength : ds.length ≤ 9 := hds ▸ List.length_take_le 9 _
      calc
        digitsValue ds * tenPow (9 - ds.length) < tenPow ds.length * tenPow (9 - ds.length) :=
          Nat.mul_lt_mul_of_pos_right (digitsValue_lt hdigits) (tenPow_pos _)
        _ = tenPow (ds.length + (9 - ds.length)) := (Nat.pow_add 10 _ _).symm
        _ = nanosPerSecond := by rw [Nat.add_sub_cancel' hlength]; rfl
  · cases h
    decide

/-- Offsets are whole minutes. -/
theorem readOffset_emod {cs rest : List Char} {offset : Int} (h : readOffset cs = some (offset, rest)) :
    offset % 60 = 0 := by
  unfold readOffset at h
  split at h
  · cases h
    rfl
  · split at h
    · cases h
      rfl
    · cases h
      rfl
    · simp only [Option.bind_eq_bind, Option.bind_none, Option.ite_none_left_eq_some, Option.bind_eq_some_iff,
        Option.some.injEq, Prod.mk.injEq] at h
      obtain ⟨-, hours, -, minutes, -, -, rfl, -⟩ := h
      split
      · omega
      · omega
    · cases h

/-- A local date and time with an offset of whole minutes stand for an instant that there is. -/
theorem isRepresentable_of_ofLocal {d : Date} {hour minute second nanos : Nat} {offset : Int}
    (hnanos : nanos < nanosPerSecond) (hoffset : offset % 60 = 0)
    (h : ofLocal d (hour, minute, second, nanos) offset = some t) : t.IsRepresentable := by
  have hdays : d.toDays * secondsPerDay % 60 = 0 := by
    rw [secondsPerDay]
    omega
  have hsecond : nanosPerSecond = 1000000000 := rfl
  unfold ofLocal at h
  dsimp only at h
  by_cases hlast : second = 60
  · simp only [if_pos hlast] at h
    obtain ⟨hvalid, ht⟩ := Option.ite_none_right_eq_some.1 h
    cases ht
    refine ⟨hvalid.2.2.2, ?_, fun _ => ?_⟩
    · change nanos + nanosPerSecond < 2 * nanosPerSecond
      omega
    · change (d.toDays * secondsPerDay + hour * 3600 + minute * 60 + (59 : Nat) - offset) % 60 = 59
      omega
  · simp only [if_neg hlast] at h
    obtain ⟨hvalid, ht⟩ := Option.ite_none_right_eq_some.1 h
    cases ht
    refine ⟨hvalid.2.2.2, ?_, fun hlong => absurd hlong (Nat.not_le_of_lt hnanos)⟩
    change nanos < 2 * nanosPerSecond
    omega

theorem readClock_lt {cs rest : List Char} {hour minute second nanos : Nat}
    (h : readClock cs = some ((hour, minute, second, nanos), rest)) : nanos < nanosPerSecond := by
  unfold readClock at h
  simp only [Option.bind_eq_bind, Option.bind_eq_some_iff, Option.ite_none_right_eq_some, Option.some.injEq,
    Prod.mk.injEq] at h
  obtain ⟨_, -, _, -, _, -, _, -, _, -, fraction, hfraction, -, ⟨-, -, -, rfl⟩, -⟩ := h
  exact readFraction_lt hfraction

/-- What is read is an instant that there is. -/
theorem isRepresentable_of_ofText? {s : String} (h : ofText? s = some t) : t.IsRepresentable := by
  unfold ofText? at h
  obtain ⟨date, -, h⟩ := Option.bind_eq_some_iff.1 h
  dsimp only at h
  split at h
  · split at h
    · obtain ⟨cs, -, h⟩ := Option.bind_eq_some_iff.1 h
      obtain ⟨⟨⟨hour, minute, second, nanos⟩, cs⟩, hclock, h⟩ := Option.bind_eq_some_iff.1 h
      obtain ⟨offset, hoffset, h⟩ := Option.bind_eq_some_iff.1 h
      exact isRepresentable_of_ofLocal (readClock_lt hclock) (readOffset_emod hoffset)
        (Option.ite_none_right_eq_some.1 h).2
    · cases h
  · cases h

/-- The instants that there are are those that are read from their text. -/
theorem isRepresentable_iff : t.IsRepresentable ↔ ofText? t.text = some t :=
  ⟨ofText?_text, isRepresentable_of_ofText?⟩

end Instant

end Cohort
