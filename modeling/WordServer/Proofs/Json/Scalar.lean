import Mathlib.Data.List.TakeDrop
import WordServer.Json.Reader
import WordServer.Json.Writer
import WordServer.Proofs.Text.Numeral

/-!
# Strings and integers read back

A string in quotes reads back character by character: every escape that is written is one the reader
knows (`stringRest_escapedChar`), so the reader stops exactly at the closing quote
(`stringRest_escaped`). An integer of 64 bits, signed or unsigned, reads back as itself and not as a
binary64 number (`number_signedDecimal`), as long as what follows does not go on with the number.
-/

namespace WordServer.Json

/-! ## Strings -/

theorem stringRest_quote (done rest : List Char) :
    stringRest done ('"' :: rest) = some (done.reverse, rest) := by
  rw [stringRest.eq_def]
  rfl

theorem stringRest_plain {c : Char} (hquote : c ≠ '"') (hbackslash : c ≠ '\\')
    (hcontrol : 0x20 ≤ c.toNat) (done rest : List Char) :
    stringRest done (c :: rest) = stringRest (c :: done) rest := by
  rw [stringRest.eq_def]
  simp only [if_neg hquote, if_neg (Nat.not_lt.2 hcontrol), if_neg hbackslash]

theorem stringRest_short {e c : Char} (hu : e ≠ 'u') (he : shortEscape? e = some c)
    (done rest : List Char) :
    stringRest done ('\\' :: e :: rest) = stringRest (c :: done) rest := by
  rw [stringRest.eq_def]
  simp [hu, he]

theorem stringRest_unicode {a b c d : Char} {n : Nat} (hn : hex4? a b c d = some n)
    (hhigh : isHighSurrogate n = false) (hlow : isLowSurrogate n = false) (done rest : List Char) :
    stringRest done ('\\' :: 'u' :: a :: b :: c :: d :: rest) =
      stringRest (Char.ofNat n :: done) rest := by
  rw [stringRest.eq_def]
  simp [hn, hhigh, hlow]

/-- The four digits of a control are two zeros and its two hexadecimal digits. -/
theorem hexadecimal_control : ∀ n < 0x20,
    List.replicate (4 - (Text.hexadecimal n).length) '0' ++ Text.hexadecimal n =
        ['0', '0', (n / 16).digitChar, (n % 16).digitChar] ∧
      hex4? '0' '0' (n / 16).digitChar (n % 16).digitChar = some n ∧
      isHighSurrogate n = false ∧ isLowSurrogate n = false := by
  decide

/-- Every character reads back from the form in which it is written. -/
theorem stringRest_escapedChar (c : Char) (done rest : List Char) :
    stringRest done (escapedChar c ++ rest) = stringRest (c :: done) rest := by
  have hself : Char.ofNat c.toNat = c := Char.ofNat_toNat c
  unfold escapedChar
  split
  · rename_i hquote
    subst hquote
    exact stringRest_short (by decide) (by decide) done rest
  split
  · rename_i hbackslash
    subst hbackslash
    exact stringRest_short (by decide) (by decide) done rest
  split
  · rename_i hquote hbackslash hplain
    exact stringRest_plain hquote hbackslash hplain done rest
  split
  · rename_i hfeed
    subst hfeed
    exact stringRest_short (by decide) (by decide) done rest
  split
  · rename_i hreturn
    subst hreturn
    exact stringRest_short (by decide) (by decide) done rest
  split
  · rename_i htab
    subst htab
    exact stringRest_short (by decide) (by decide) done rest
  split
  · rename_i hbackspace
    rw [hbackspace] at hself
    subst hself
    exact stringRest_short (by decide) (by decide) done rest
  split
  · rename_i hformfeed
    rw [hformfeed] at hself
    subst hself
    exact stringRest_short (by decide) (by decide) done rest
  · rename_i hcontrol _ _ _ _ _
    obtain ⟨hdigits, hvalue, hhigh, hlow⟩ := hexadecimal_control c.toNat (Nat.not_le.1 hcontrol)
    have hread := stringRest_unicode hvalue hhigh hlow done rest
    rw [hself] at hread
    rw [List.append_assoc ['\\', 'u'], hdigits]
    exact hread

/-- **A string in quotes reads back**, and the reader stops behind its closing quote. -/
theorem stringRest_escaped (cs done rest : List Char) :
    stringRest done (cs.flatMap escapedChar ++ '"' :: rest) = some (done.reverse ++ cs, rest) := by
  induction cs generalizing done with
  | nil => simpa using stringRest_quote done rest
  | cons c cs ih =>
    rw [List.flatMap_cons, List.append_assoc, stringRest_escapedChar, ih, List.reverse_cons,
      List.append_assoc, List.singleton_append]

/-! ## Integers -/

/-- The text does not go on with a number. -/
def EndsNumber (rest : List Char) : Prop :=
  ∀ c ∈ rest.head?, c.isDigit = false ∧ c ≠ '.' ∧ c ≠ 'e' ∧ c ≠ 'E'

/-- The integers that are not held as binary64 numbers: those of 64 bits, signed or unsigned. -/
def HasBits64 (n : Int) : Prop := -(Text.signedBound : Int) ≤ n ∧ n < (Text.countBound : Int)

instance (n : Int) : Decidable (HasBits64 n) := inferInstanceAs (Decidable (_ ∧ _))

section

variable {rest : List Char} (hrest : EndsNumber rest)

include hrest

theorem digitRun_append {digits : List Char} (h : ∀ c ∈ digits, c.isDigit = true) :
    digitRun (digits ++ rest) = (digits, rest) := by
  unfold digitRun
  rw [List.span_eq_takeWhile_dropWhile, List.takeWhile_append_of_pos h,
    List.dropWhile_append_of_pos h]
  cases rest with
  | nil => simp
  | cons c rest => simp [(hrest c rfl).1]

theorem wholeDigits_decimal (n : Nat) :
    wholeDigits (Text.decimal n ++ rest) = some (Text.decimal n, rest) := by
  rcases Nat.eq_zero_or_pos n with rfl | hpos
  · rw [show Text.decimal 0 = ['0'] from rfl, List.singleton_append, wholeDigits.eq_def]
    cases rest with
    | nil => rfl
    | cons c rest => simp [(hrest c rfl).1]
  · have hrun := digitRun_append hrest fun c hc => Text.isDigit_of_mem_decimal (n := n) hc
    have hhead := Text.head?_decimal_ne_zero hpos
    obtain ⟨c, digits, hdigits, -⟩ := Text.exists_cons_decimal n
    rw [hdigits] at hrun hhead ⊢
    rw [wholeDigits.eq_def]
    split
    · rename_i hzero
      cases hzero
      exact absurd rfl hhead
    · rw [hrun]

theorem fractionDigits_of_endsNumber : fractionDigits rest = some ([], rest) := by
  cases rest with
  | nil => rfl
  | cons c rest =>
    rw [fractionDigits.eq_def]
    simp [(hrest c rfl).2.1]

theorem exponentPart_of_endsNumber : exponentPart rest = some (none, rest) := by
  cases rest with
  | nil => rfl
  | cons c rest =>
    obtain ⟨-, -, hlower, hupper⟩ := hrest c rfl
    rw [exponentPart.eq_def]
    simp [hlower, hupper]

/-- Digits alone leave it to `number?` which number they are. -/
theorem unsignedNumber_decimal (negative : Bool) (n : Nat) :
    unsignedNumber negative (Text.decimal n ++ rest) =
      (number? negative (Text.decimal n) [] none).map fun value => (value, rest) := by
  unfold unsignedNumber
  rw [wholeDigits_decimal hrest]
  simp only [Option.bind_eq_bind, Option.bind_some, fractionDigits_of_endsNumber hrest,
    exponentPart_of_endsNumber hrest]
  cases number? negative (Text.decimal n) [] none <;> rfl

end

/-- Digits whose value has 64 bits are all leading digits. -/
theorem leadingDigits_of_lt {cs : List Char} {start : Nat}
    (h : cs.foldl (fun n c => 10 * n + Text.digitValue c) start < Text.countBound) :
    leadingDigits start cs = (cs.foldl (fun n c => 10 * n + Text.digitValue c) start, 0) := by
  induction cs generalizing start with
  | nil => rfl
  | cons c cs ih =>
    rw [List.foldl_cons] at h ⊢
    have hle := @Text.le_foldl_digits 10 (by omega) (cs.map Text.digitValue)
      (10 * start + Text.digitValue c)
    rw [List.foldl_map] at hle
    have hnext : start * 10 + Text.digitValue c = 10 * start + Text.digitValue c := by omega
    simp only [leadingDigits, hnext]
    rw [if_pos (Nat.lt_of_le_of_lt hle h), ih h]

theorem leadingDigits_decimal {n : Nat} (h : n < Text.countBound) :
    leadingDigits 0 (Text.decimal n) = (n, 0) := by
  have hvalue : (Text.decimal n).foldl (fun n c => 10 * n + Text.digitValue c) 0 = n :=
    Text.digitsValue_decimal n
  rw [leadingDigits_of_lt (by rwa [hvalue]), hvalue]

/-- **An integer of 64 bits reads back**, where the text does not go on with a number. -/
theorem number_signedDecimal {n : Int} (h : HasBits64 n) {rest : List Char}
    (hrest : EndsNumber rest) :
    number (Text.signedDecimal n ++ rest) = some (.int n, rest) := by
  obtain ⟨hlow, hhigh⟩ := h
  cases n with
  | ofNat n =>
    have hcount : n < Text.countBound := Int.ofNat_lt.1 hhigh
    have hvalue : number? false (Text.decimal n) [] none = some (.int n) := by
      simp [number?, leadingDigits_decimal hcount]
    have hread := unsignedNumber_decimal hrest false n
    rw [hvalue] at hread
    rw [show Text.signedDecimal (.ofNat n) = Text.decimal n from rfl, number.eq_def]
    split
    · -- digits do not begin with a sign
      rename_i htext
      obtain ⟨c, digits, hdigits, hdigit⟩ := Text.exists_cons_decimal n
      rw [hdigits] at htext
      cases htext
      exact absurd hdigit (by decide)
    · exact hread
  | negSucc n =>
    have hsigned : n + 1 ≤ Text.signedBound := by omega
    have hcount : n + 1 < Text.countBound := Nat.lt_of_le_of_lt hsigned (by decide)
    have hvalue : number? true (Text.decimal (n + 1)) [] none = some (.int (.negSucc n)) := by
      rw [Int.negSucc_eq]
      simp [number?, leadingDigits_decimal hcount, hsigned]
    have hread := unsignedNumber_decimal hrest true (n + 1)
    rw [hvalue] at hread
    exact hread

end WordServer.Json
