import WordServer.Text.Utf8

/-!
# Bytes decode to the text that encodes to them

The decoder reads the bytes of a character back as that character and stands between characters
again (`decodeFrom_encodeChar`), so it gives back every text that is encoded (`decode_encode`). A
first byte says how many bytes follow and between which bounds the second lies (`lead_three`,
`lead_four`): a character is never a surrogate and is never encoded with more bytes than it needs,
so the bytes that the encoder writes are within them.

The bounds exclude everything else (`Leads`): what decodes begins with the bytes of a character
(`exists_encodeChar_append`), so no other bytes decode (`decode_eq_ok_iff`).
-/

namespace WordServer.Text.Utf8

theorem toNat_ofNat_byte {n : Nat} (h : n < 256) : (UInt8.ofNat n).toNat = n := by
  rw [UInt8.toNat_ofNat']
  omega

/-- A code point is below the surrogates, or above them and below the end of the code space. -/
theorem toNat_scalar (c : Char) : c.toNat < 0xD800 ∨ 0xDFFF < c.toNat ∧ c.toNat < 0x110000 :=
  c.valid

/-! ## First bytes -/

theorem lead_one {v : Nat} (h : v ≤ 127) : lead v = .whole (Char.ofNat v) := by
  unfold lead
  rw [if_pos (by omega)]

theorem lead_two {v : Nat} (hlow : 127 < v) (hhigh : v ≤ 2047) :
    lead (v / 64 % 32 + 192) = .longer ⟨v / 64, 1, 1, 0x80, 0xBF⟩ := by
  unfold lead
  rw [if_neg (by omega), if_neg (by omega), if_pos (by omega)]
  simp only [Lead.longer.injEq, Begun.mk.injEq, and_true]
  omega

/-- The first of three bytes bounds the second: it excludes what two bytes can say, and the
surrogates. -/
theorem lead_three {v : Nat} (hlow : 2047 < v) (hhigh : v ≤ 65535)
    (hscalar : v < 0xD800 ∨ 0xDFFF < v) :
    ∃ low high, lead (v / 4096 % 16 + 224) = .longer ⟨v / 4096, 1, 2, low, high⟩ ∧
      low ≤ v / 64 % 64 + 128 ∧ v / 64 % 64 + 128 ≤ high := by
  unfold lead
  rw [if_neg (by omega), if_neg (by omega), if_neg (by omega)]
  by_cases hfirst : v / 4096 = 0
  · rw [if_pos (by omega)]
    exact ⟨0xA0, 0xBF, by rw [hfirst], by omega, by omega⟩
  · rw [if_neg (by omega)]
    by_cases hsurrogate : v / 4096 = 0xD
    · rw [if_pos (by omega)]
      exact ⟨0x80, 0x9F, by rw [hsurrogate], by omega, by omega⟩
    · rw [if_neg (by omega), if_pos (by omega)]
      refine ⟨0x80, 0xBF, ?_, by omega, by omega⟩
      simp only [Lead.longer.injEq, Begun.mk.injEq, and_true]
      omega

/-- The first of four bytes bounds the second: it excludes what three bytes can say, and what is
past the last code point. -/
theorem lead_four {v : Nat} (hlow : 65535 < v) (hhigh : v < 0x110000) :
    ∃ low high, lead (v / 262144 % 8 + 240) = .longer ⟨v / 262144, 1, 3, low, high⟩ ∧
      low ≤ v / 4096 % 64 + 128 ∧ v / 4096 % 64 + 128 ≤ high := by
  unfold lead
  rw [if_neg (by omega), if_neg (by omega), if_neg (by omega), if_neg (by omega), if_neg (by omega),
    if_neg (by omega)]
  by_cases hfirst : v / 262144 = 0
  · rw [if_pos (by omega)]
    exact ⟨0x90, 0xBF, by rw [hfirst], by omega, by omega⟩
  · rw [if_neg (by omega)]
    by_cases hlast : v / 262144 = 4
    · rw [if_neg (by omega), if_pos (by omega)]
      exact ⟨0x80, 0x8F, by rw [hlast], by omega, by omega⟩
    · rw [if_pos (by omega)]
      refine ⟨0x80, 0xBF, ?_, by omega, by omega⟩
      simp only [Lead.longer.injEq, Begun.mk.injEq, and_true]
      omega

/-! ## The bytes that follow -/

section Next

variable {value seen owed low high b : Nat}

theorem next_last (hlow : low ≤ b) (hhigh : b ≤ high) :
    Begun.next ⟨value, seen, 1, low, high⟩ b = .whole (Char.ofNat (value * 64 + (b - 0x80))) := by
  unfold Begun.next
  rw [if_pos ⟨hlow, hhigh⟩, if_pos (Nat.le_refl 1)]

theorem next_more (hlow : low ≤ b) (hhigh : b ≤ high) :
    Begun.next ⟨value, seen, owed + 2, low, high⟩ b =
      .longer ⟨value * 64 + (b - 0x80), seen + 1, owed + 1, 0x80, 0xBF⟩ := by
  have howed : ¬ owed + 2 ≤ 1 := by omega
  unfold Begun.next
  rw [if_pos ⟨hlow, hhigh⟩, if_neg howed]
  rfl

end Next

/-! ## Steps of the decoder -/

section Steps

variable {n start : Nat} {done : List Char} {rest : List UInt8} (hbyte : n < 256)

include hbyte

theorem decodeFrom_whole {c : Char} (h : lead n = .whole c) :
    decodeFrom start done none (UInt8.ofNat n :: rest) =
      decodeFrom (start + 1) (c :: done) none rest := by
  rw [decodeFrom, toNat_ofNat_byte hbyte, h]

theorem decodeFrom_begin {begun : Begun} (h : lead n = .longer begun) :
    decodeFrom start done none (UInt8.ofNat n :: rest) =
      decodeFrom start done (some begun) rest := by
  rw [decodeFrom, toNat_ofNat_byte hbyte, h]

theorem decodeFrom_more {begun further : Begun} (h : begun.next n = .longer further) :
    decodeFrom start done (some begun) (UInt8.ofNat n :: rest) =
      decodeFrom start done (some further) rest := by
  rw [decodeFrom, toNat_ofNat_byte hbyte, h]

theorem decodeFrom_last {begun : Begun} {c : Char} (h : begun.next n = .whole c) :
    decodeFrom start done (some begun) (UInt8.ofNat n :: rest) =
      decodeFrom (start + begun.seen + 1) (c :: done) none rest := by
  rw [decodeFrom, toNat_ofNat_byte hbyte, h]

end Steps

/-! ## Characters and texts -/

/-- **A character decodes to itself**, whatever follows its bytes. -/
theorem decodeFrom_encodeChar (c : Char) (start : Nat) (done : List Char) (rest : List UInt8) :
    decodeFrom start done none (String.utf8EncodeChar c ++ rest) =
      decodeFrom (start + (String.utf8EncodeChar c).length) (c :: done) none rest := by
  have hscalar := toNat_scalar c
  have hself : Char.ofNat c.toNat = c := Char.ofNat_toNat c
  have hvalue : c.val.toNat = c.toNat := rfl
  unfold String.utf8EncodeChar
  simp only [hvalue]
  generalize c.toNat = v at hscalar hself
  -- the four lengths of a character; in each the bytes join to its number again
  split
  · rename_i hone
    rw [List.cons_append, decodeFrom_whole (by omega) (lead_one hone), hself]
    rfl
  · split
    · rename_i hone htwo
      have hjoin : v / 64 * 64 + (v % 64 + 128 - 0x80) = v := by omega
      rw [List.cons_append, decodeFrom_begin (by omega) (lead_two (by omega) htwo), List.cons_append,
        decodeFrom_last (by omega) (next_last (by omega) (by omega)), hjoin, hself]
      rfl
    · split
      · rename_i _ htwo hthree
        have hjoin : (v / 4096 * 64 + (v / 64 % 64 + 128 - 0x80)) * 64 + (v % 64 + 128 - 0x80) = v := by
          omega
        obtain ⟨low, high, hlead, hlow, hhigh⟩ := lead_three (v := v) (by omega) hthree (by omega)
        rw [List.cons_append, decodeFrom_begin (by omega) hlead, List.cons_append,
          decodeFrom_more (by omega) (next_more hlow hhigh), List.cons_append,
          decodeFrom_last (by omega) (next_last (by omega) (by omega)), hjoin, hself]
        rfl
      · rename_i _ _ hthree
        have hjoin : ((v / 262144 * 64 + (v / 4096 % 64 + 128 - 0x80)) * 64 +
            (v / 64 % 64 + 128 - 0x80)) * 64 + (v % 64 + 128 - 0x80) = v := by
          omega
        obtain ⟨low, high, hlead, hlow, hhigh⟩ := lead_four (v := v) (by omega) (by omega)
        rw [List.cons_append, decodeFrom_begin (by omega) hlead, List.cons_append,
          decodeFrom_more (by omega) (next_more hlow hhigh), List.cons_append,
          decodeFrom_more (by omega) (next_more (by omega) (by omega)), List.cons_append,
          decodeFrom_last (by omega) (next_last (by omega) (by omega)), hjoin, hself]
        rfl

theorem decodeFrom_encode (cs : List Char) (start : Nat) (done : List Char) :
    decodeFrom start done none (encode cs) = .ok (done.reverse ++ cs) := by
  induction cs generalizing start done with
  | nil => simp [encode, decodeFrom]
  | cons c cs ih =>
    rw [show encode (c :: cs) = String.utf8EncodeChar c ++ encode cs from List.flatMap_cons,
      decodeFrom_encodeChar, ih, List.reverse_cons, List.append_assoc, List.singleton_append]

/-- **Encoded text decodes to itself.** -/
theorem decode_encode (cs : List Char) : decode (encode cs) = .ok cs :=
  decodeFrom_encode cs 0 []

/-! ## Bytes that decode -/

/-- What a first byte can begin: a character of one byte to four, or none. -/
inductive Leads (b : Nat) : Lead → Prop
  | one (hhigh : b < 0x80) : Leads b (.whole (Char.ofNat b))
  | two (hlow : 0xC2 ≤ b) (hhigh : b < 0xE0) : Leads b (.longer ⟨b - 0xC0, 1, 1, 0x80, 0xBF⟩)
  | three {low high : Nat} (hlow : 0xE0 ≤ b) (hhigh : b < 0xF0)
      (hbounds : 0x80 ≤ low ∧ high ≤ 0xBF ∧ (b = 0xE0 → 0xA0 ≤ low) ∧ (b = 0xED → high ≤ 0x9F)) :
      Leads b (.longer ⟨b - 0xE0, 1, 2, low, high⟩)
  | four {low high : Nat} (hlow : 0xF0 ≤ b) (hhigh : b < 0xF5)
      (hbounds : 0x80 ≤ low ∧ high ≤ 0xBF ∧ (b = 0xF0 → 0x90 ≤ low) ∧ (b = 0xF4 → high ≤ 0x8F)) :
      Leads b (.longer ⟨b - 0xF0, 1, 3, low, high⟩)
  | refused : Leads b .refused

theorem leads_lead (b : Nat) : Leads b (lead b) := by
  unfold lead
  by_cases hone : b < 0x80
  · rw [if_pos hone]
    exact .one hone
  rw [if_neg hone]
  by_cases hmiddle : b < 0xC2
  · rw [if_pos hmiddle]
    exact .refused
  rw [if_neg hmiddle]
  by_cases htwo : b < 0xE0
  · rw [if_pos htwo]
    exact .two (by omega) htwo
  rw [if_neg htwo]
  by_cases hleastThree : b = 0xE0
  · subst hleastThree
    exact .three (by omega) (by omega) (by omega)
  rw [if_neg hleastThree]
  by_cases hsurrogate : b = 0xED
  · subst hsurrogate
    exact .three (by omega) (by omega) (by omega)
  rw [if_neg hsurrogate]
  by_cases hthree : b < 0xF0
  · rw [if_pos hthree]
    exact .three (by omega) hthree (by omega)
  rw [if_neg hthree]
  by_cases hleastFour : b = 0xF0
  · subst hleastFour
    exact .four (by omega) (by omega) (by omega)
  rw [if_neg hleastFour]
  by_cases hfour : b < 0xF4
  · rw [if_pos hfour]
    exact .four (by omega) (by omega) (by omega)
  rw [if_neg hfour]
  by_cases hgreatest : b = 0xF4
  · subst hgreatest
    exact .four (by omega) (by omega) (by omega)
  rw [if_neg hgreatest]
  exact .refused

section Begun

variable {start value seen owed low high : Nat} {done cs : List Char} {bytes : List UInt8}

theorem exists_last_byte
    (h : decodeFrom start done (some ⟨value, seen, 1, low, high⟩) bytes = .ok cs) :
    ∃ b rest next, bytes = b :: rest ∧ low ≤ b.toNat ∧ b.toNat ≤ high ∧
      decodeFrom next (Char.ofNat (value * 64 + (b.toNat - 0x80)) :: done) none rest = .ok cs := by
  cases bytes with
  | nil => cases h
  | cons b rest =>
    by_cases hbounds : low ≤ b.toNat ∧ b.toNat ≤ high
    · rw [decodeFrom, next_last hbounds.1 hbounds.2] at h
      exact ⟨b, rest, _, rfl, hbounds.1, hbounds.2, h⟩
    · rw [decodeFrom, Begun.next, if_neg hbounds] at h
      cases h

theorem exists_more_byte
    (h : decodeFrom start done (some ⟨value, seen, owed + 2, low, high⟩) bytes = .ok cs) :
    ∃ b rest, bytes = b :: rest ∧ low ≤ b.toNat ∧ b.toNat ≤ high ∧
      decodeFrom start done
        (some ⟨value * 64 + (b.toNat - 0x80), seen + 1, owed + 1, 0x80, 0xBF⟩) rest = .ok cs := by
  cases bytes with
  | nil => cases h
  | cons b rest =>
    by_cases hbounds : low ≤ b.toNat ∧ b.toNat ≤ high
    · rw [decodeFrom, next_more hbounds.1 hbounds.2] at h
      exact ⟨b, rest, rfl, hbounds.1, hbounds.2, h⟩
    · rw [decodeFrom, Begun.next, if_neg hbounds] at h
      cases h

end Begun

theorem encodeChar_ofNat {v : Nat} (h : v < 0xD800 ∨ 0xDFFF < v ∧ v < 0x110000) :
    String.utf8EncodeChar (Char.ofNat v) =
      if v ≤ 127 then [UInt8.ofNat v]
      else if v ≤ 2047 then [UInt8.ofNat (v / 64 % 32 + 192), UInt8.ofNat (v % 64 + 128)]
      else if v ≤ 65535 then
        [UInt8.ofNat (v / 4096 % 16 + 224), UInt8.ofNat (v / 64 % 64 + 128),
          UInt8.ofNat (v % 64 + 128)]
      else
        [UInt8.ofNat (v / 262144 % 8 + 240), UInt8.ofNat (v / 4096 % 64 + 128),
          UInt8.ofNat (v / 64 % 64 + 128), UInt8.ofNat (v % 64 + 128)] := by
  have hvalue : (Char.ofNat v).val.toNat = v := by
    rw [Char.ofNat, dif_pos h]
    rfl
  rw [String.utf8EncodeChar]
  simp only [hvalue]

theorem ofNat_eq_byte {n : Nat} {b : UInt8} (h : n = b.toNat) : UInt8.ofNat n = b := by
  rw [h, UInt8.ofNat_toNat]

/-- What decodes begins with a whole character, and the rest decodes behind it. -/
theorem exists_encodeChar_append {start : Nat} {done cs : List Char} {b : UInt8}
    {rest : List UInt8} (h : decodeFrom start done none (b :: rest) = .ok cs) :
    ∃ c behind next, b :: rest = String.utf8EncodeChar c ++ behind ∧
      decodeFrom next (c :: done) none behind = .ok cs := by
  rw [decodeFrom] at h
  have hleads := leads_lead b.toNat
  generalize lead b.toNat = first at hleads h
  -- the bytes of the character are the groups of its bits, each within its bounds
  cases hleads with
  | refused => cases h
  | one hhigh =>
    refine ⟨_, rest, _, ?_, h⟩
    rw [encodeChar_ofNat (by omega), if_pos (by omega), ofNat_eq_byte rfl]
    rfl
  | two hlow hhigh =>
    obtain ⟨b₁, behind, next, rfl, hlow₁, hhigh₁, hrest⟩ := exists_last_byte h
    refine ⟨_, behind, next, ?_, hrest⟩
    rw [encodeChar_ofNat (by omega), if_neg (by omega), if_pos (by omega),
      ofNat_eq_byte (b := b) (by omega), ofNat_eq_byte (b := b₁) (by omega)]
    rfl
  | three hlow hhigh hbounds =>
    obtain ⟨b₁, rest₁, rfl, hlow₁, hhigh₁, h⟩ := exists_more_byte h
    obtain ⟨b₂, behind, next, rfl, hlow₂, hhigh₂, hrest⟩ := exists_last_byte h
    refine ⟨_, behind, next, ?_, hrest⟩
    rw [encodeChar_ofNat (by omega), if_neg (by omega), if_neg (by omega), if_pos (by omega),
      ofNat_eq_byte (b := b) (by omega), ofNat_eq_byte (b := b₁) (by omega),
      ofNat_eq_byte (b := b₂) (by omega)]
    rfl
  | four hlow hhigh hbounds =>
    obtain ⟨b₁, rest₁, rfl, hlow₁, hhigh₁, h⟩ := exists_more_byte h
    obtain ⟨b₂, rest₂, rfl, hlow₂, hhigh₂, h⟩ := exists_more_byte h
    obtain ⟨b₃, behind, next, rfl, hlow₃, hhigh₃, hrest⟩ := exists_last_byte h
    refine ⟨_, behind, next, ?_, hrest⟩
    rw [encodeChar_ofNat (by omega), if_neg (by omega), if_neg (by omega), if_neg (by omega),
      ofNat_eq_byte (b := b) (by omega), ofNat_eq_byte (b := b₁) (by omega),
      ofNat_eq_byte (b := b₂) (by omega), ofNat_eq_byte (b := b₃) (by omega)]
    rfl

theorem exists_encode_of_decodeFrom {start : Nat} {done cs : List Char} {bytes : List UInt8}
    (h : decodeFrom start done none bytes = .ok cs) :
    ∃ text, cs = done.reverse ++ text ∧ encode text = bytes := by
  induction hlength : bytes.length using Nat.strongRecOn generalizing start done bytes with
  | ind length ih =>
    cases bytes with
    | nil =>
      cases h
      exact ⟨[], (List.append_nil _).symm, rfl⟩
    | cons b rest =>
      obtain ⟨c, behind, next, hbytes, hrest⟩ := exists_encodeChar_append h
      have hshorter : behind.length < length := by
        have hpos := String.length_utf8EncodeChar c
        have hsize := c.utf8Size_pos
        rw [← hlength, hbytes, List.length_append]
        omega
      obtain ⟨text, rfl, rfl⟩ := ih _ hshorter hrest rfl
      refine ⟨c :: text, by simp, ?_⟩
      rw [hbytes]
      exact List.flatMap_cons

/-- **Bytes decode to a text exactly if they are its bytes.** -/
theorem decode_eq_ok_iff {bytes : List UInt8} {cs : List Char} :
    decode bytes = .ok cs ↔ encode cs = bytes := by
  constructor
  · intro h
    obtain ⟨text, rfl, hbytes⟩ := exists_encode_of_decodeFrom h
    exact hbytes
  · rintro rfl
    exact decode_encode cs

end WordServer.Text.Utf8
