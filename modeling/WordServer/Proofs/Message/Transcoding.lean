import WordServer.Proofs.Message.Malformed
import WordServer.Proofs.Text.Ascii

/-!
# One text in several charsets

A payload is read as a text first, and from there on its charset plays no part: two payloads that
are the same text give the same message or are malformed for the same cause
(`decodeMessage_eq_of_textOf`). Latin-1 takes all bytes as they are numbered, so what it reads is what
UTF-8 reads from the same characters; ASCII takes the bytes that all charsets read alike
(`Charset.holds_of_ascii`), and no others.
-/

namespace WordServer

open Wire (Charset)

/-! ## Bytes below 128 -/

namespace Wire.Charset

theorem toNat_numbered (b : UInt8) : (Char.ofNat b.toNat).toNat = b.toNat := by
  have hlt : b.toNat < 256 := b.toNat_lt
  have hvalid : Nat.isValidChar b.toNat := Or.inl (by omega)
  rw [Char.ofNat, dif_pos hvalid]
  rfl

/-- The characters that bytes are by number have those numbers. -/
theorem map_toNat_byNumber (bytes : List UInt8) :
    (byNumber bytes).map Char.toNat = bytes.map UInt8.toNat := by
  rw [byNumber, List.map_map]
  exact List.map_congr_left fun b _ => toNat_numbered b

theorem encode_byNumber {bytes : List UInt8} (h : ∀ b ∈ bytes, b.toNat < 0x80) :
    Text.Utf8.encode (byNumber bytes) = bytes := by
  have hascii : Text.IsAscii (byNumber bytes) := by
    intro c hc
    obtain ⟨b, hb, rfl⟩ := List.mem_map.1 hc
    rw [toNat_numbered]
    exact h b hb
  rw [Text.encode_of_ascii hascii, byNumber, List.map_map]
  conv => rhs; rw [← List.map_id bytes]
  refine List.map_congr_left fun b _ => ?_
  simp only [Function.comp_apply, toNat_numbered, UInt8.ofNat_toNat, id_eq]

/-- Bytes below 128 are the same text in every charset. -/
theorem holds_of_ascii {bytes : List UInt8} (h : ∀ b ∈ bytes, b.toNat < 0x80) (charset : Charset) :
    charset.Holds bytes (byNumber bytes) := by
  cases charset with
  | utf8 =>
    have hutf8 := Holds.utf8 (byNumber bytes)
    rw [encode_byNumber h] at hutf8
    exact hutf8
  | ascii => exact .ascii h
  | latin1 => exact .latin1 bytes

end Wire.Charset

/-! ## From the text on -/

theorem decodeMessage_of_textOf {name : String} {content : List UInt8} {text : List Char}
    (h : TextOf name content text) : decodeMessage name content = messageOfText text := by
  rw [decodeMessage, payloadText_eq_ok_iff.2 h]
  rfl

/-- **Only the text of a payload counts**: where two are the same text, each in its charset, they are
the same message or malformed for the same cause. -/
theorem decodeMessage_eq_of_textOf {name other : String} {content content' : List UInt8}
    {text : List Char} (h : TextOf name content text) (h' : TextOf other content' text) :
    decodeMessage name content = decodeMessage other content' := by
  rw [decodeMessage_of_textOf h, decodeMessage_of_textOf h']

theorem textOf_of_ascii {content : List UInt8} (h : ∀ b ∈ content, b.toNat < 0x80)
    (charset : Charset) {name : String} (hname : name ∈ charset.names) :
    TextOf name content (Charset.byNumber content) :=
  ⟨charset, hname, Charset.holds_of_ascii h charset⟩

/-- A text that is no message was decoded all the same. -/
theorem messageOfText_ne_undecodable (text : List Char) (name reason : String) :
    messageOfText text ≠ .error (.undecodable name reason) := by
  intro h
  rw [messageOfText] at h
  split at h
  · have hcode := (classify_eq_error h).1
    cases hcode
  · cases h

theorem decodeMessage_of_unknown {name : String} (h : ∀ charset : Charset, name ∉ charset.names)
    (content : List UInt8) : decodeMessage name content = .error (.unsupportedCharset name) := by
  rw [decodeMessage, payloadText, Charset.ofName?_eq_none_iff.2 h]
  rfl

theorem decodeMessage_of_high_byte {name : String} (hname : name ∈ Charset.ascii.names)
    {content : List UInt8} (h : ∃ b ∈ content, 0x80 ≤ b.toNat) :
    decodeMessage name content =
      .error (.undecodable name "non-ASCII byte in content") := by
  obtain ⟨b, hb, hhigh⟩ := h
  have hnot : ¬ content.all Charset.isAscii = true :=
    fun hall => Nat.not_lt.2 hhigh (Charset.all_isAscii_iff.1 hall b hb)
  have hdecode : Charset.ascii.decode content = .error "non-ASCII byte in content" := by
    rw [Charset.decode, if_neg hnot]
  rw [decodeMessage, payloadText, Charset.ofName?_eq_some_iff.2 hname]
  simp only [hdecode]
  rfl

/-- **Charsets transcode faithfully.** Under a name of Latin-1 a payload is what the characters with
the numbers of its bytes are in UTF-8, and is never undecodable. Under a name of ASCII it is what it
is in UTF-8 if all bytes are below 128, and undecodable if not. So on such bytes all names of all
charsets agree; and under any other name every payload has an unsupported charset. -/
theorem decodeMessage_transcodes (content : List UInt8) :
    (∀ name ∈ Charset.latin1.names,
      (∃ text : List Char, text.map Char.toNat = content.map UInt8.toNat ∧
        decodeMessage name content = decodeMessage "utf-8" (Text.Utf8.encode text)) ∧
      ∀ charset reason, decodeMessage name content ≠ .error (.undecodable charset reason)) ∧
    (∀ name ∈ Charset.ascii.names,
      ((∀ b ∈ content, b.toNat < 0x80) →
        decodeMessage name content = decodeMessage "utf-8" content) ∧
      ((∃ b ∈ content, 0x80 ≤ b.toNat) →
        decodeMessage name content =
          .error (.undecodable name "non-ASCII byte in content"))) ∧
    ((∀ b ∈ content, b.toNat < 0x80) →
      ∀ charset other : Charset, ∀ name ∈ charset.names, ∀ name' ∈ other.names,
        decodeMessage name content = decodeMessage name' content) ∧
    ∀ name, (∀ charset : Charset, name ∉ charset.names) →
      decodeMessage name content = .error (.unsupportedCharset name) := by
  refine ⟨?_, ?_, ?_, fun name hname => decodeMessage_of_unknown hname content⟩
  · intro name hname
    have htext : TextOf name content (Charset.byNumber content) :=
      ⟨.latin1, hname, .latin1 content⟩
    refine ⟨⟨Charset.byNumber content, Charset.map_toNat_byNumber content, ?_⟩, ?_⟩
    · exact decodeMessage_eq_of_textOf htext (textOf_utf8_encode _)
    · intro charset reason
      rw [decodeMessage_of_textOf htext]
      exact messageOfText_ne_undecodable _ charset reason
  · intro name hname
    refine ⟨fun hascii => ?_, fun hhigh => decodeMessage_of_high_byte hname hhigh⟩
    exact decodeMessage_eq_of_textOf (textOf_of_ascii hascii .ascii hname)
      (textOf_of_ascii hascii .utf8 (List.mem_singleton.2 rfl))
  · intro hascii charset other name hname name' hname'
    exact decodeMessage_eq_of_textOf (textOf_of_ascii hascii charset hname)
      (textOf_of_ascii hascii other hname')

end WordServer
