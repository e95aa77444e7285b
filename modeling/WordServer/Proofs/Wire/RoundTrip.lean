import WordServer.Proofs.Text.Ascii
import WordServer.Proofs.Wire.Buffering
import WordServer.Proofs.Wire.Grammar

/-!
# What is written reads back

A written frame has one header line, `writtenLine`, which says the length of the payload and no type.
So a frame reads back whatever its payload holds and whatever follows it (`readFrame_writeFrame`), a
stream of frames reads back frame by frame (`readFrames_flatMap_writeFrame`), and so it does from any
cut of the stream into chunks (`readFrames_written`).
-/

namespace WordServer.Wire

open HeaderLine

/-! ## The line that is written -/

/-- The text of the header line before content of a length. -/
def writtenText (length : Nat) : List Char := "Content-Length: ".toList ++ Text.decimal length

theorem isAscii_writtenText (length : Nat) : Text.IsAscii (writtenText length) := by
  have hname : Text.IsAscii "Content-Length: ".toList := by decide
  exact hname.append (Text.isAscii_of_isDigit fun _ h => Text.isDigit_of_mem_decimal h)

theorem feed_not_mem_writtenText (length : Nat) : '\n' ∉ writtenText length := by
  intro hmem
  rcases List.mem_append.1 hmem with hmem | hmem
  · exact absurd hmem (by decide)
  · exact absurd (Text.isDigit_of_mem_decimal hmem) (by decide)

theorem length_writtenText (length : Nat) :
    (writtenText length).length = 16 + (Text.decimal length).length := by
  have hname : "Content-Length: ".toList.length = 16 := by decide
  calc (writtenText length).length
      = "Content-Length: ".toList.length + (Text.decimal length).length := List.length_append
    _ = 16 + (Text.decimal length).length := congrArg (· + (Text.decimal length).length) hname

theorem writtenHeader_eq (length : Nat) :
    writtenHeader length = Text.Utf8.encode (writtenText length) ++ [13, 10] ++ [13, 10] := by
  have hencode : Text.Utf8.encode (writtenText length) =
      bytesOf "Content-Length: " ++ Text.Utf8.encode (Text.decimal length) :=
    List.flatMap_append
  rw [hencode, List.append_assoc _ [13, 10]]
  rfl

/-- The one header line of a written frame. -/
def writtenLine (length : Nat) (h : length < Text.countBound) : HeaderLine where
  raw := Text.Utf8.encode (writtenText length)
  before := "Content-Length".toList
  after := ' ' :: Text.decimal length
  nonempty := by
    intro hnil
    have hlength := Text.length_encode_of_ascii (isAscii_writtenText length)
    rw [hnil, length_writtenText, List.length_nil] at hlength
    omega
  ascii := fun _ hb => Text.isAscii_of_mem_encode (isAscii_writtenText length) hb
  noFeed := Text.not_mem_encode_of_ascii (isAscii_writtenText length) (by decide)
    (feed_not_mem_writtenText length)
  short := by
    have hdigits := Text.length_decimal_le h
    rw [Text.length_encode_of_ascii (isAscii_writtenText length), length_writtenText]
    omega
  text := by
    have hsplit : "Content-Length: ".toList = "Content-Length".toList ++ [':', ' '] := by decide
    calc Charset.byNumber (Text.Utf8.encode (writtenText length))
        = writtenText length := Text.byNumber_encode (isAscii_writtenText length)
      _ = ("Content-Length".toList ++ [':', ' ']) ++ Text.decimal length :=
        congrArg (· ++ Text.decimal length) hsplit
      _ = "Content-Length".toList ++ ':' :: ' ' :: Text.decimal length :=
        List.append_assoc _ _ _
  firstColon := by decide

section WrittenLine

variable {length : Nat} (h : length < Text.countBound)

theorem writtenLine_name : (writtenLine length h).name = "content-length".toList := by
  have hlower : Text.lower (Text.trim "Content-Length".toList) = "content-length".toList := by decide
  exact hlower

theorem writtenLine_value : (writtenLine length h).value = Text.decimal length := by
  have hspace : ∀ c ∈ [' '], Text.isBlank c = true := by
    intro c hc
    rw [List.mem_singleton.1 hc]
    decide
  have hdigits : ∀ c ∈ Text.decimal length, Text.isBlank c = false :=
    fun c hc => Text.isBlank_eq_false_of_isDigit (Text.isDigit_of_mem_decimal hc)
  exact Text.trim_blanks_append hspace hdigits

theorem writtenLine_announces : (writtenLine length h).Announces length := by
  unfold HeaderLine.Announces
  rw [writtenLine_value]
  exact ⟨Text.isNumeral_decimal length, h⟩

theorem says_writtenLine : Says [writtenLine length h] length none := by
  have hname := writtenLine_name h
  refine ⟨?_, ⟨writtenLine length h, ?_, writtenLine_announces h⟩, ?_⟩
  · intro line hline _
    rw [List.mem_singleton.1 hline]
    exact ⟨length, writtenLine_announces h⟩
  · simp [lastNamed, hname]
  · simp [lastNamed, hname]

end WrittenLine

/-! ## Frames and streams of frames -/

theorem writeFrame_eq {payload : List UInt8} (hcount : payload.length < Text.countBound) :
    writeFrame payload =
      [writtenLine payload.length hcount].flatMap HeaderLine.bytes ++ [13, 10] ++ payload := by
  rw [writeFrame, writtenHeader_eq]
  simp [HeaderLine.bytes, writtenLine]

/-- **A written frame reads back**, whatever its payload holds and whatever follows it. -/
theorem readFrame_writeFrame {limit : Nat} {payload : List UInt8} (hlimit : payload.length ≤ limit)
    (hcount : payload.length < Text.countBound) (rest : List Event) :
    readFrame limit (eventsOf (writeFrame payload) ++ rest) =
      (.frame ⟨payload.length, none, payload⟩, rest) := by
  rw [readFrame_eq_frame_iff, writeFrame_eq hcount]
  exact ⟨_, payload, rfl, says_writtenLine hcount, hlimit, rfl, rfl⟩

theorem readFrames_flatMap_writeFrame {limit : Nat} {payloads : List (List UInt8)}
    (hlimit : ∀ payload ∈ payloads, payload.length ≤ limit)
    (hcount : ∀ payload ∈ payloads, payload.length < Text.countBound) (rest : List Event) :
    readFrames limit payloads.length (eventsOf (payloads.flatMap writeFrame) ++ rest) =
      (payloads.map fun payload => .frame ⟨payload.length, none, payload⟩, rest) := by
  induction payloads with
  | nil => rfl
  | cons payload payloads ih =>
    have hfirst := readFrame_writeFrame (hlimit payload List.mem_cons_self)
      (hcount payload List.mem_cons_self) (eventsOf (payloads.flatMap writeFrame) ++ rest)
    have hothers := ih (fun other hother => hlimit other (List.mem_cons_of_mem _ hother))
      (fun other hother => hcount other (List.mem_cons_of_mem _ hother))
    rw [List.flatMap_cons, eventsOf_append, List.append_assoc, List.length_cons, readFrames, hfirst]
    simp only [hothers, List.map_cons]

theorem events_map_bytes (chunks : List (List UInt8)) :
    Delivery.events (chunks.map .bytes) = eventsOf chunks.flatten := by
  induction chunks with
  | nil => rfl
  | cons chunk chunks ih =>
    rw [List.map_cons, Delivery.events_cons, ih, Chunk.events_bytes, List.flatten_cons,
      eventsOf_append]

/-- **Whole streams read back from any cut.** Chunks that make up written frames and a tail `t` give
the payloads in order, each with its length and no type, and then what is left to be read is `t`; the
limit is a 64-bit count. -/
theorem readFrames_written (limit : UInt64) {payloads : List (List UInt8)}
    (hlimit : ∀ payload ∈ payloads, payload.length ≤ limit.toNat) (t : List UInt8)
    {chunks : List (List UInt8)} (hchunks : chunks.flatten = payloads.flatMap writeFrame ++ t)
    (capacity : Nat) :
    let read := (Buffered.ofDelivery capacity (chunks.map .bytes)).readFrames limit.toNat
      payloads.length
    read.1 = payloads.map (fun payload => .frame ⟨payload.length, none, payload⟩) ∧
      read.2.events = eventsOf t ∧ (t = [] → (read.2.readFrame limit.toNat).1 = .finished) := by
  intro read
  have hcount : ∀ payload ∈ payloads, payload.length < Text.countBound :=
    fun payload hpayload => Nat.lt_of_le_of_lt (hlimit payload hpayload) limit.toNat_lt
  have hread : Buffered.Agrees read
      (readFrames limit.toNat payloads.length (Delivery.events (chunks.map .bytes))) :=
    Buffered.readFrames_agrees _ _ (Buffered.ofDelivery_capacity_pos capacity _)
  rw [events_map_bytes, hchunks, eventsOf_append, readFrames_flatMap_writeFrame hlimit hcount] at hread
  refine ⟨hread.result, hread.left, ?_⟩
  rintro rfl
  have hnext := Buffered.readFrame_agrees limit.toNat hread.capacity
  rw [hread.left] at hnext
  exact hnext.result

/-- A payload that is an empty line, cut between its two bytes. -/
theorem readFrames_written_empty_line :
    (∀ payload ∈ [[(13 : UInt8), 10]], payload.length ≤ (2 : UInt64).toNat) ∧
      [bytesOf "Content-Length: 2" ++ [13], [10, 13, 10, 13], [10, 67]].flatten =
        [[13, 10]].flatMap writeFrame ++ [67] ∧
      ((Buffered.ofDelivery 4 ([bytesOf "Content-Length: 2" ++ [13], [10, 13, 10, 13],
        [10, 67]].map .bytes)).readFrames (2 : UInt64).toNat 1).1 = [.frame ⟨2, none, [13, 10]⟩] := by
  have hlimit : ∀ payload ∈ [[(13 : UInt8), 10]], payload.length ≤ (2 : UInt64).toNat := by decide
  have hchunks : [bytesOf "Content-Length: 2" ++ [13], [10, 13, 10, 13], [10, 67]].flatten =
      [[13, 10]].flatMap writeFrame ++ [67] := by decide
  exact ⟨hlimit, hchunks, (readFrames_written 2 hlimit [67] hchunks 4).1⟩

end WordServer.Wire
