import WordServer.Proofs.Text.Trim
import WordServer.Text.Decimal
import WordServer.Wire.Charset

/-!
# Numerals and their bytes

`IsNumeral` says which texts write a number: one or more digits behind at most one plus sign. The
bounded reader gives up at the first digit that leads past its bound, and reads exactly the numerals
of numbers below it all the same (`readBelow_eq_some_iff`): a run of digits never gets smaller. What
`decimal` writes is such a numeral (`isNumeral_decimal`), has no blanks, and is ASCII, so its bytes
are its characters.
-/

namespace WordServer.Text

/-- The text is one or more digits behind at most one plus sign, and their value is `n`. -/
def IsNumeral (cs : List Char) (n : Nat) : Prop :=
  ∃ digits : List Char, (cs = digits ∨ cs = '+' :: digits) ∧ digits ≠ [] ∧
    (∀ c ∈ digits, c.isDigit = true) ∧ digitsValue digits = n

/-! ## The bounded reader -/

section Bounded

variable {base bound : Nat}

/-- Digits that follow do not make a value smaller. -/
theorem le_foldl_digits (hbase : 0 < base) (digits : List Nat) (start : Nat) :
    start ≤ digits.foldl (fun n d => base * n + d) start := by
  induction digits generalizing start with
  | nil => exact Nat.le_refl start
  | cons d rest ih =>
    have hmul : start ≤ base * start := Nat.le_mul_of_pos_left start hbase
    exact Nat.le_trans (by omega) (ih (base * start + d))

/-- A reader that gives up at the first value past the bound gives the value of all digits, if that
is below the bound. -/
theorem foldlM_guard_eq_some_iff (hbase : 0 < base) (digits : List Nat) {start n : Nat}
    (hstart : start < bound) :
    digits.foldlM (fun n d => Option.guard (· < bound) (base * n + d)) start = some n ↔
      digits.foldl (fun n d => base * n + d) start = n ∧ n < bound := by
  induction digits generalizing start with
  | nil =>
    simp only [List.foldlM_nil, List.foldl_nil, pure, Option.some.injEq]
    constructor
    · rintro rfl
      exact ⟨rfl, hstart⟩
    · exact fun h => h.1
  | cons d rest ih =>
    rw [List.foldlM_cons, List.foldl_cons]
    by_cases hd : base * start + d < bound
    · rw [Option.guard_eq_some_iff.2 ⟨rfl, by simpa using hd⟩]
      exact ih hd
    · -- the reader has given up, and the digits behind do not lead back below the bound
      rw [show Option.guard (· < bound) (base * start + d) = none by simpa [Option.guard] using hd]
      constructor
      · intro h
        cases h
      · rintro ⟨rfl, hlt⟩
        have := le_foldl_digits hbase rest (base * start + d)
        omega

end Bounded

theorem IsNumeral.eq_plus_or_isDigit {cs : List Char} {n : Nat} (h : IsNumeral cs n) :
    ∀ c ∈ cs, c = '+' ∨ c.isDigit = true := by
  obtain ⟨digits, hcs, -, hdigits, -⟩ := h
  intro c hc
  rcases hcs with rfl | rfl
  · exact Or.inr (hdigits c hc)
  · rcases List.mem_cons.1 hc with rfl | hc
    · exact Or.inl rfl
    · exact Or.inr (hdigits c hc)

theorem IsNumeral.not_mem {cs : List Char} {n : Nat} (h : IsNumeral cs n) {c : Char}
    (hplus : c ≠ '+') (hdigit : c.isDigit = false) : c ∉ cs := by
  intro hc
  rcases h.eq_plus_or_isDigit c hc with rfl | hyes
  · exact hplus rfl
  · rw [hdigit] at hyes
    cases hyes

theorem digitsBelow?_eq_some_iff {bound n : Nat} (hbound : 0 < bound) {cs : List Char} :
    digitsBelow? bound cs = some n ↔
      cs ≠ [] ∧ (∀ c ∈ cs, c.isDigit = true) ∧ digitsValue cs = n ∧ n < bound := by
  unfold digitsBelow?
  split
  · rename_i hbad
    simp only [Bool.or_eq_true, List.isEmpty_iff, Bool.not_eq_true'] at hbad
    constructor
    · intro h
      cases h
    · rintro ⟨hne, hall, -⟩
      rcases hbad with rfl | hbad
      · exact absurd rfl hne
      · rw [List.all_eq_true.2 hall] at hbad
        cases hbad
  · rename_i hgood
    simp only [Bool.or_eq_true, List.isEmpty_iff, Bool.not_eq_true', not_or, Bool.not_eq_false,
      List.all_eq_true] at hgood
    unfold valueBelow?
    rw [foldlM_guard_eq_some_iff (by omega) _ hbound, List.foldl_map]
    exact ⟨fun h => ⟨hgood.1, hgood.2, h⟩, fun h => h.2.2⟩

theorem eq_dropPlus (cs : List Char) : cs = dropPlus cs ∨ cs = '+' :: dropPlus cs := by
  unfold dropPlus
  split
  · exact Or.inr rfl
  · exact Or.inl rfl

theorem dropPlus_eq_self {digits : List Char} (h : ∀ c ∈ digits, c.isDigit = true) :
    dropPlus digits = digits := by
  unfold dropPlus
  split
  · have := h '+' List.mem_cons_self
    exact absurd this (by decide)
  · rfl

/-- **The reader of counts** accepts exactly the numerals of numbers below its bound. -/
theorem readBelow_eq_some_iff {bound n : Nat} (hbound : 0 < bound) {cs : List Char} :
    readBelow bound cs = some n ↔ IsNumeral cs n ∧ n < bound := by
  unfold readBelow
  rw [digitsBelow?_eq_some_iff hbound]
  constructor
  · rintro ⟨hne, hall, hvalue, hlt⟩
    exact ⟨⟨dropPlus cs, eq_dropPlus cs, hne, hall, hvalue⟩, hlt⟩
  · rintro ⟨⟨digits, hcs, hne, hall, hvalue⟩, hlt⟩
    have hdrop : dropPlus cs = digits := by
      rcases hcs with rfl | rfl
      · exact dropPlus_eq_self hall
      · rfl
    rw [hdrop]
    exact ⟨hne, hall, hvalue, hlt⟩

theorem countBound_pos : 0 < countBound := by
  decide

/-! ## What is written reads back -/

theorem isDigit_of_mem_decimal {n : Nat} {c : Char} (h : c ∈ decimal n) : c.isDigit = true :=
  Nat.isDigit_of_mem_toDigits (by omega) (by omega) h

theorem digitsValue_decimal (n : Nat) : digitsValue (decimal n) = n :=
  Nat.ofDigitChars_ten_toDigits

theorem isNumeral_decimal (n : Nat) : IsNumeral (decimal n) n :=
  ⟨decimal n, Or.inl rfl, Nat.toDigits_ne_nil, fun _ h => isDigit_of_mem_decimal h,
    digitsValue_decimal n⟩

theorem exists_cons_decimal (n : Nat) :
    ∃ c digits, decimal n = c :: digits ∧ c.isDigit = true := by
  obtain ⟨c, digits, h⟩ := List.exists_cons_of_ne_nil (Nat.toDigits_ne_nil : decimal n ≠ [])
  have hdecimal : decimal n = c :: digits := h
  exact ⟨c, digits, hdecimal, isDigit_of_mem_decimal (hdecimal ▸ List.mem_cons_self)⟩

/-- Only zero is written with a zero in front. -/
theorem head?_decimal_ne_zero {n : Nat} (h : 0 < n) : (decimal n).head? ≠ some '0' := by
  unfold decimal
  induction n using Nat.strongRecOn with
  | _ n ih =>
    by_cases hlt : n < 10
    · have hdigit : ∀ n < 10, 0 < n → [n.digitChar].head? ≠ some '0' := by decide
      rw [Nat.toDigits_of_lt_base hlt]
      exact hdigit n hlt h
    · have hfront := ih (n / 10) (by omega) (by omega)
      rw [Nat.toDigits_of_base_le (by omega) (by omega), List.head?_append]
      cases hhead : (Nat.toDigits 10 (n / 10)).head? with
      | none => exact absurd (List.head?_eq_none_iff.1 hhead) Nat.toDigits_ne_nil
      | some c => simpa [hhead] using hfront

theorem length_decimal_le {n : Nat} (h : n < countBound) : (decimal n).length ≤ 20 := by
  unfold decimal
  rw [Nat.length_toDigits_le_iff (by omega) (by omega)]
  exact Nat.lt_trans h (by decide)

/-! ## Numerals have no blanks -/

theorem isBlank_eq_false_of_isDigit {c : Char} (h : c.isDigit = true) : isBlank c = false := by
  have hlow : 48 ≤ c.toNat := by
    simp only [Char.isDigit, Bool.and_eq_true, decide_eq_true_eq] at h
    exact UInt32.le_iff_toNat_le.1 h.1
  have hhigh : c.toNat ≤ 57 := by
    simp only [Char.isDigit, Bool.and_eq_true, decide_eq_true_eq] at h
    exact UInt32.le_iff_toNat_le.1 h.2
  simp only [isBlank, Bool.or_eq_false_iff, Bool.and_eq_false_iff, decide_eq_false_iff_not,
    beq_eq_false_iff_ne]
  omega

theorem IsNumeral.isBlank_eq_false {cs : List Char} {n : Nat} (h : IsNumeral cs n) :
    ∀ c ∈ cs, isBlank c = false := by
  intro c hc
  rcases h.eq_plus_or_isDigit c hc with rfl | hdigit
  · decide
  · exact isBlank_eq_false_of_isDigit hdigit

end WordServer.Text
