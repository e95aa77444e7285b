import WordServer.Wire.Charset

/-!
# ASCII text and its bytes

The characters below 128 are their own bytes: UTF-8 writes each of them as one byte
(`encode_of_ascii`), every such byte is ASCII, and reading the bytes by number gives the characters
back (`byNumber_encode`).
-/

namespace WordServer.Text

def IsAscii (cs : List Char) : Prop := ∀ c ∈ cs, c.toNat < 128

instance (cs : List Char) : Decidable (IsAscii cs) :=
  List.decidableBAll (fun c : Char => c.toNat < 128) cs

theorem IsAscii.append {a b : List Char} (ha : IsAscii a) (hb : IsAscii b) : IsAscii (a ++ b) := by
  intro c hc
  rcases List.mem_append.1 hc with hc | hc
  · exact ha c hc
  · exact hb c hc

theorem isAscii_of_isDigit {cs : List Char} (h : ∀ c ∈ cs, c.isDigit = true) : IsAscii cs := by
  intro c hc
  have hdigit := h c hc
  simp only [Char.isDigit, Bool.and_eq_true, decide_eq_true_eq] at hdigit
  exact Nat.lt_of_le_of_lt (UInt32.le_iff_toNat_le.1 hdigit.2) (by decide)

theorem utf8EncodeChar_of_ascii {c : Char} (h : c.toNat < 128) :
    String.utf8EncodeChar c = [UInt8.ofNat c.toNat] := by
  have hsize : c.utf8Size = 1 := by
    rw [Char.utf8Size_eq_one_iff, UInt32.le_iff_toNat_le]
    exact Nat.le_of_lt_succ h
  rw [String.utf8EncodeChar_eq_singleton hsize]
  rfl

/-- ASCII text has a byte for each character. -/
theorem encode_of_ascii {cs : List Char} (h : IsAscii cs) :
    Utf8.encode cs = cs.map fun c => UInt8.ofNat c.toNat := by
  unfold Utf8.encode
  rw [List.map_eq_flatMap, List.flatMap_def, List.flatMap_def]
  exact congrArg List.flatten (List.map_congr_left fun c hc => utf8EncodeChar_of_ascii (h c hc))

theorem toNat_ofNat_of_ascii {c : Char} (h : c.toNat < 128) :
    (UInt8.ofNat c.toNat).toNat = c.toNat := by
  rw [UInt8.toNat_ofNat']
  omega

theorem isAscii_of_mem_encode {cs : List Char} (h : IsAscii cs) {b : UInt8}
    (hb : b ∈ Utf8.encode cs) : Wire.Charset.isAscii b = true := by
  rw [encode_of_ascii h] at hb
  obtain ⟨c, hc, rfl⟩ := List.mem_map.1 hb
  have hlt : (UInt8.ofNat c.toNat).toNat < 128 := by
    rw [toNat_ofNat_of_ascii (h c hc)]
    exact h c hc
  exact decide_eq_true (UInt8.lt_iff_toNat_lt.2 hlt)

/-- The bytes of ASCII text, read by number, are its characters. -/
theorem byNumber_encode {cs : List Char} (h : IsAscii cs) :
    Wire.Charset.byNumber (Utf8.encode cs) = cs := by
  unfold Wire.Charset.byNumber
  rw [encode_of_ascii h, List.map_map]
  conv => rhs; rw [← List.map_id cs]
  refine List.map_congr_left fun c hc => ?_
  simp only [Function.comp_apply, toNat_ofNat_of_ascii (h c hc), id_eq, Char.ofNat_toNat]

theorem length_encode_of_ascii {cs : List Char} (h : IsAscii cs) :
    (Utf8.encode cs).length = cs.length := by
  rw [encode_of_ascii h, List.length_map]

theorem not_mem_encode_of_ascii {cs : List Char} (h : IsAscii cs) {c : Char} (hc : c.toNat < 128)
    (hnot : c ∉ cs) : UInt8.ofNat c.toNat ∉ Utf8.encode cs := by
  rw [encode_of_ascii h]
  intro hmem
  obtain ⟨d, hd, heq⟩ := List.mem_map.1 hmem
  have hnat := congrArg UInt8.toNat heq
  rw [toNat_ofNat_of_ascii (h d hd), toNat_ofNat_of_ascii hc] at hnat
  rw [Char.toNat_inj.1 hnat] at hd
  exact hnot hd

end WordServer.Text
