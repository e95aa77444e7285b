import WordServer.Proofs.Text.Utf8
import WordServer.Wire.Charset

/-!
# The text of bytes in a charset

Each charset has its names (`ofName?_eq_some_iff`), and each says of bytes which text they are
(`Holds`): in UTF-8 the text that encodes to them, in ASCII and in Latin-1 the characters with their
numbers, where ASCII has no number past 127. Decoding gives that text, and fails exactly on bytes
that are none (`decode_eq_ok_iff`).
-/

namespace WordServer.Wire.Charset

def names : Charset → List String
  | .utf8 => ["utf-8"]
  | .ascii => ["ascii", "us-ascii"]
  | .latin1 => ["iso-8859-1", "latin1", "latin-1"]

/-- The text that bytes are in a charset. -/
inductive Holds : Charset → List UInt8 → List Char → Prop
  | utf8 (text : List Char) : Holds .utf8 (Text.Utf8.encode text) text
  | ascii {bytes : List UInt8} (h : ∀ b ∈ bytes, b.toNat < 0x80) :
      Holds .ascii bytes (byNumber bytes)
  | latin1 (bytes : List UInt8) : Holds .latin1 bytes (byNumber bytes)

theorem ofName?_eq_some_iff {name : String} {charset : Charset} :
    ofName? name = some charset ↔ name ∈ charset.names := by
  unfold ofName?
  constructor
  · intro h
    split at h
    · rename_i hname
      cases h
      simp [names, hname]
    · split at h
      · rename_i hname
        cases h
        simpa [names] using hname
      · split at h
        · rename_i hname
          cases h
          simpa [names] using hname
        · cases h
  · intro h
    cases charset with
    | utf8 =>
      rw [List.mem_singleton.1 h]
      rfl
    | ascii =>
      simp only [names, List.mem_cons, List.not_mem_nil, or_false] at h
      rcases h with rfl | rfl <;> rfl
    | latin1 =>
      simp only [names, List.mem_cons, List.not_mem_nil, or_false] at h
      rcases h with rfl | rfl | rfl <;> rfl

theorem ofName?_eq_none_iff {name : String} :
    ofName? name = none ↔ ∀ charset : Charset, name ∉ charset.names := by
  constructor
  · intro h charset hname
    rw [ofName?_eq_some_iff.2 hname] at h
    cases h
  · intro h
    cases hname : ofName? name with
    | none => rfl
    | some charset => exact absurd (ofName?_eq_some_iff.1 hname) (h charset)

theorem all_isAscii_iff {bytes : List UInt8} :
    bytes.all isAscii = true ↔ ∀ b ∈ bytes, b.toNat < 0x80 := by
  rw [List.all_eq_true]
  constructor
  · intro h b hb
    exact UInt8.lt_iff_toNat_lt.1 (of_decide_eq_true (h b hb))
  · intro h b hb
    exact decide_eq_true (UInt8.lt_iff_toNat_lt.2 (h b hb))

theorem mapError_eq_ok_iff {ε ε' α : Type} {f : ε → ε'} {x : Except ε α} {a : α} :
    x.mapError f = .ok a ↔ x = .ok a := by
  constructor
  · intro h
    cases x with
    | error e => cases h
    | ok b =>
      cases h
      rfl
  · rintro rfl
    rfl

/-- **Bytes decode to a text exactly if they are that text in the charset.** -/
theorem decode_eq_ok_iff {charset : Charset} {bytes : List UInt8} {text : List Char} :
    charset.decode bytes = .ok text ↔ charset.Holds bytes text := by
  constructor
  · intro h
    cases charset with
    | utf8 =>
      obtain rfl := Text.Utf8.decode_eq_ok_iff.1 (mapError_eq_ok_iff.1 h)
      exact .utf8 text
    | ascii =>
      rw [decode] at h
      split at h
      · rename_i hascii
        cases h
        exact .ascii (all_isAscii_iff.1 hascii)
      · cases h
    | latin1 =>
      cases h
      exact .latin1 bytes
  · intro h
    cases h with
    | utf8 => exact mapError_eq_ok_iff.2 (Text.Utf8.decode_encode text)
    | ascii hbytes => rw [decode, if_pos (all_isAscii_iff.2 hbytes)]
    | latin1 => rfl

end WordServer.Wire.Charset
