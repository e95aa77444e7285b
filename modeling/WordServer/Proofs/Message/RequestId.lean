import WordServer.Message.RequestId
import WordServer.Proofs.Json.Scalar

/-!
# The values that identifiers are

A value is read as an identifier by what it is (`RequestId.ofJson?`), or by trying the forms of an
identifier one after the other (`RequestId.read?`). Both find the one canonical identifier that is
written as the value (`ofJson?_eq_some_iff`, `read?_eq_ofJson?`): the signed form comes first in
both, so an integer that has two forms is never unsigned. The values that have an identifier are the
strings and the integers of 64 bits (`isSome_ofJson?_iff`); a number with a fraction or an exponent
has none, whatever its value.
-/

namespace WordServer

/-- The values that name a request: strings, and integers of 64 bits, signed or unsigned. -/
inductive Json.NamesRequest : Json → Prop
  | str (s : String) : NamesRequest (.str s)
  | int {n : Int} (hlow : -0x8000000000000000 ≤ n) (hhigh : n ≤ 0xFFFFFFFFFFFFFFFF) :
      NamesRequest (.int n)

/-- An identifier in the one form that its integer is read as: unsigned only past the signed ones.
-/
def RequestId.IsCanonical : RequestId → Prop
  | .number n => IsSigned n
  | .unsigned n => Text.signedBound ≤ n ∧ n < Text.countBound
  | .text _ => True

instance : (id : RequestId) → Decidable id.IsCanonical
  | .number n => inferInstanceAs (Decidable (RequestId.IsSigned n))
  | .unsigned n => inferInstanceAs (Decidable (Text.signedBound ≤ n ∧ n < Text.countBound))
  | .text _ => isTrue trivial

namespace RequestId

variable {value : Json} {id : RequestId}

theorem ofJson?_toJson (h : id.IsCanonical) : ofJson? id.toJson = some id := by
  cases id with
  | number n =>
    have hsigned : IsSigned n := h
    rw [toJson, ofJson?, if_pos hsigned]
  | unsigned n =>
    obtain ⟨hlow, hhigh⟩ := h
    have hsigned : ¬ IsSigned (n : Int) := by
      rintro ⟨-, hlt⟩
      omega
    have hcount : 0 ≤ (n : Int) ∧ (n : Int) < Text.countBound := by omega
    rw [toJson, ofJson?, if_neg hsigned, if_pos hcount, Int.toNat_natCast]
  | text s => rfl

theorem canonical_of_ofJson? (h : ofJson? value = some id) :
    id.IsCanonical ∧ id.toJson = value := by
  unfold ofJson? at h
  split at h
  · cases h
    exact ⟨trivial, rfl⟩
  · rename_i n
    split at h
    · rename_i hsigned
      cases h
      exact ⟨hsigned, rfl⟩
    · rename_i hsigned
      split at h
      · rename_i hcount
        cases h
        unfold IsSigned at hsigned
        have hbound : 0 ≤ (Text.signedBound : Int) := Int.natCast_nonneg _
        refine ⟨⟨by omega, by omega⟩, ?_⟩
        rw [toJson, Int.toNat_of_nonneg hcount.1]
      · cases h
  · cases h

/-- **A value is read as the canonical identifier that is written as it.** -/
theorem ofJson?_eq_some_iff : ofJson? value = some id ↔ id.IsCanonical ∧ id.toJson = value := by
  constructor
  · exact canonical_of_ofJson?
  · rintro ⟨hcanonical, rfl⟩
    exact ofJson?_toJson hcanonical

theorem isNull_toJson (id : RequestId) : id.toJson.isNull = false := by
  cases id <;> rfl

theorem int64?_int (n : Int) : (Json.int n).int64? = if IsSigned n then some n else none := by
  have hsame : -(Text.signedBound : Int) ≤ n ∧ n ≤ Text.signedBound - 1 ↔ IsSigned n := by
    unfold IsSigned
    omega
  simp only [Json.int64?, Json.intWithin?, hsame]

theorem nat64?_int (n : Int) :
    (Json.int n).nat64? = if 0 ≤ n ∧ n < Text.countBound then some n.toNat else none := by
  have hsame : 0 ≤ n ∧ n ≤ (Text.countBound : Int) - 1 ↔ 0 ≤ n ∧ n < Text.countBound := by
    omega
  simp only [Json.nat64?, Json.intWithin?, hsame]
  split <;> rfl

/-- Both ways to read an identifier agree on every value. -/
theorem read?_eq_ofJson? (value : Json) : read? value = ofJson? value := by
  cases value with
  | int n =>
    rw [read?, ofJson?, int64?_int, nat64?_int]
    by_cases hsigned : IsSigned n
    · rw [if_pos hsigned, if_pos hsigned]
      rfl
    · rw [if_neg hsigned, if_neg hsigned]
      split <;> rfl
  | _ => rfl

theorem exists_of_hasBits64 {n : Int} (h : Json.HasBits64 n) :
    ∃ id, ofJson? (.int n) = some id ∧ id.toJson = .int n := by
  obtain ⟨hlow, hhigh⟩ := h
  by_cases hsigned : IsSigned n
  · refine ⟨.number n, ?_, rfl⟩
    rw [ofJson?, if_pos hsigned]
  · have hcount : 0 ≤ n ∧ n < Text.countBound := by
      unfold IsSigned at hsigned
      have hbound : (0 : Int) ≤ Text.signedBound := Int.natCast_nonneg _
      omega
    refine ⟨.unsigned n.toNat, ?_, ?_⟩
    · rw [ofJson?, if_neg hsigned, if_pos hcount]
    · rw [toJson, Int.toNat_of_nonneg hcount.1]

theorem namesRequest_int_iff {n : Int} : (Json.int n).NamesRequest ↔ Json.HasBits64 n := by
  have hsigned : (Text.signedBound : Int) = 0x8000000000000000 := rfl
  have hcount : (Text.countBound : Int) = 0x10000000000000000 := rfl
  constructor
  · intro h
    cases h with
    | int hlow hhigh => exact ⟨by omega, by omega⟩
  · rintro ⟨hlow, hhigh⟩
    exact .int (by omega) (by omega)

theorem namesRequest_toJson (h : id.IsCanonical) : id.toJson.NamesRequest := by
  have hbounds : Text.signedBound ≤ Text.countBound := by decide
  cases id with
  | number n =>
    obtain ⟨hlow, hhigh⟩ := h
    exact namesRequest_int_iff.2 ⟨hlow, by omega⟩
  | unsigned n =>
    obtain ⟨hlow, hhigh⟩ := h
    exact namesRequest_int_iff.2 ⟨by omega, by omega⟩
  | text s => exact .str s

theorem isSome_ofJson?_iff (value : Json) : (ofJson? value).isSome ↔ value.NamesRequest := by
  constructor
  · intro h
    obtain ⟨id, hid⟩ := Option.isSome_iff_exists.1 h
    obtain ⟨hcanonical, rfl⟩ := ofJson?_eq_some_iff.1 hid
    exact namesRequest_toJson hcanonical
  · intro h
    cases value with
    | str s => rfl
    | int n =>
      obtain ⟨id, hid, -⟩ := exists_of_hasBits64 (namesRequest_int_iff.1 h)
      rw [hid]
      rfl
    | _ => cases h

end RequestId

end WordServer
