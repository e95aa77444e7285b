import WordServer.Proofs.Wire.Reader
import WordServer.Wire.Buffered

/-!
# The buffered reader reads the events

The buffered reader takes chunks into a buffer, looks for line feeds in the buffer, and lets long
content past it; the reader of events takes one event after the other. `Agrees` relates an outcome
of the one to an outcome of the other: the same result, and the same events still to be read. Every
part of the buffered reader agrees with its counterpart on the events of its source, up to
`readFrames_agrees`: how a delivery is cut into chunks, and how much the buffer holds, shows nowhere.

The counters that bound the loops of the buffered reader are never used up: a turn of `readLine` or
`readContent` takes a byte of what it may still take, and a line takes an event of the source.
-/

namespace WordServer.Wire

@[simp] theorem Delivery.events_nil : Delivery.events [] = [] := rfl

@[simp] theorem Delivery.events_cons (chunk : Chunk) (delivery : Delivery) :
    Delivery.events (chunk :: delivery) = chunk.events ++ Delivery.events delivery :=
  List.flatMap_cons

@[simp] theorem Chunk.events_bytes (content : List UInt8) :
    (Chunk.bytes content).events = eventsOf content := rfl

namespace Buffered

/-- The outcome of a buffered read agrees with one on events: the results are the same, the same
events are left, and the buffer can still be filled. -/
structure Agrees {α : Type} (outcome : α × Buffered) (ideal : α × List Event) : Prop where
  result : outcome.1 = ideal.1
  left : outcome.2.events = ideal.2
  capacity : 0 < outcome.2.capacity

/-! ## Taking bytes from a delivery -/

/-- What pulling bytes can do: fail where the stream fails, find its end, or take some bytes from its
front. -/
theorem pull_cases {most : Nat} (hmost : 0 < most) (delivery : Delivery) :
    (∃ reason rest, pull most delivery = (.error reason, rest) ∧
      delivery.events = .fault reason :: rest.events) ∨
    (pull most delivery = (.ok [], []) ∧ delivery.events = []) ∨
    ∃ taken rest, taken ≠ [] ∧ taken.length ≤ most ∧ pull most delivery = (.ok taken, rest) ∧
      delivery.events = eventsOf taken ++ rest.events := by
  induction delivery with
  | nil => exact Or.inr (Or.inl ⟨rfl, rfl⟩)
  | cons chunk delivery ih =>
    cases chunk with
    | fault reason => exact Or.inl ⟨reason, delivery, rfl, rfl⟩
    | bytes content =>
      cases content with
      | nil => exact ih
      | cons b content =>
        refine Or.inr (Or.inr ⟨(b :: content).take most, _, ?_, ?_, rfl, ?_⟩)
        · obtain ⟨n, rfl⟩ : ∃ n, most = n + 1 := ⟨most - 1, by omega⟩
          simp
        · exact List.length_take_le most (b :: content)
        · rw [Delivery.events_cons, Chunk.events_bytes]
          conv => lhs; rw [← List.take_append_drop most (b :: content), eventsOf_append]
          rw [List.append_assoc]
          congr 1
          by_cases hbehind : (b :: content).drop most = []
          · simp [hbehind]
          · simp [hbehind]

/-- What filling the buffer can do: fail where the stream fails, or leave the events alone, with
something in the buffer unless there is nothing to be read. -/
theorem fill_cases {source : Buffered} (hcapacity : 0 < source.capacity) :
    (∃ reason next, source.fill = (.error reason, next) ∧ next.capacity = source.capacity ∧
      source.events = .fault reason :: next.events) ∨
    ∃ next, source.fill = (.ok (), next) ∧ next.capacity = source.capacity ∧
      next.events = source.events ∧ (next.buffer = [] → source.events = []) := by
  unfold fill
  by_cases hbuffer : source.buffer = []
  · have hevents : source.events = source.pending.events := by
      simp [events, hbuffer]
    simp only [hbuffer, List.isEmpty_nil, if_true, hevents]
    rcases pull_cases hcapacity source.pending with
      ⟨reason, rest, hpull, hrest⟩ | ⟨hpull, hrest⟩ | ⟨taken, rest, hne, -, hpull, hrest⟩
    · refine Or.inl ⟨reason, { source with buffer := [], pending := rest }, by simp [hpull], rfl, ?_⟩
      simp [events, hrest]
    · refine Or.inr ⟨{ source with buffer := [], pending := [] }, by simp [hpull], rfl, ?_, ?_⟩
      · simp [events, hrest]
      · exact fun _ => hrest
    · refine Or.inr ⟨{ source with buffer := taken, pending := rest }, by simp [hpull], rfl, ?_, ?_⟩
      · simp [events, hrest]
      · exact fun h => absurd h hne
  · have hempty : source.buffer.isEmpty = false := by simpa using hbuffer
    simp only [hempty, Bool.false_eq_true, if_false]
    exact Or.inr ⟨source, rfl, rfl, rfl, fun h => absurd h hbuffer⟩

/-- What reading some bytes can do: fail where the stream fails, find its end, or take at most as
many as are wanted from its front, through the buffer or past it. -/
theorem readSome_cases {most : Nat} (hmost : 0 < most) {source : Buffered}
    (hcapacity : 0 < source.capacity) :
    (∃ reason next, source.readSome most = (.error reason, next) ∧ 0 < next.capacity ∧
      source.events = .fault reason :: next.events) ∨
    (∃ next, source.readSome most = (.ok [], next) ∧ 0 < next.capacity ∧
      source.events = [] ∧ next.events = []) ∨
    ∃ taken next, taken ≠ [] ∧ taken.length ≤ most ∧ source.readSome most = (.ok taken, next) ∧
      0 < next.capacity ∧ source.events = eventsOf taken ++ next.events := by
  unfold readSome
  by_cases hpast : (source.buffer.isEmpty && decide (source.capacity ≤ most)) = true
  · rw [if_pos hpast]
    simp only [Bool.and_eq_true, List.isEmpty_iff] at hpast
    have hbuffer := hpast.1
    have hevents : source.events = source.pending.events := by
      simp [events, hbuffer]
    rcases pull_cases hmost source.pending with
      ⟨reason, rest, hpull, hrest⟩ | ⟨hpull, hrest⟩ | ⟨taken, rest, hne, hle, hpull, hrest⟩
    · refine Or.inl ⟨reason, { source with pending := rest }, by simp [hpull], hcapacity, ?_⟩
      rw [hevents, hrest]
      simp [events, hbuffer]
    · refine Or.inr (Or.inl ⟨{ source with pending := [] }, by simp [hpull], hcapacity, ?_, ?_⟩)
      · rw [hevents, hrest]
      · simp [events, hbuffer]
    · refine Or.inr (Or.inr ⟨taken, { source with pending := rest }, hne, hle, by simp [hpull],
        hcapacity, ?_⟩)
      rw [hevents, hrest]
      simp [events, hbuffer]
  · rw [if_neg hpast]
    rcases fill_cases hcapacity with
      ⟨reason, next, hfill, hcap, hevents⟩ | ⟨next, hfill, hcap, hevents, hend⟩
    · exact Or.inl ⟨reason, next, by simp [hfill], hcap ▸ hcapacity, hevents⟩
    · have hcap' : 0 < next.capacity := hcap ▸ hcapacity
      by_cases hbuffer : next.buffer = []
      · have hnil := hend hbuffer
        refine Or.inr (Or.inl ⟨{ next with buffer := [] }, by simp [hfill, hbuffer], hcap', hnil, ?_⟩)
        rw [← hevents] at hnil
        simpa [events, hbuffer] using hnil
      · refine Or.inr (Or.inr ⟨next.buffer.take most, { next with buffer := next.buffer.drop most },
          ?_, List.length_take_le most _, by simp [hfill], hcap', ?_⟩)
        · rw [Ne, List.take_eq_nil_iff, not_or]
          exact ⟨by omega, hbuffer⟩
        · rw [← hevents]
          simp only [events]
          rw [← List.append_assoc, ← eventsOf_append, List.take_append_drop]

/-! ## Lines -/

/-- The part of a line that lies in the buffer: either the line ends there, or it goes on with less
room behind the buffer. -/
theorem takeLine_cases (line : List UInt8) {room : Nat} (hroom : 0 < room) {bytes : List UInt8}
    (hbytes : bytes ≠ []) :
    (∃ read room' rest, takeLine line room bytes = (read, true, room', rest) ∧
      ∀ tail, Wire.readLine line room (eventsOf bytes ++ tail) = (.ok read, eventsOf rest ++ tail)) ∨
    ∃ read room', takeLine line room bytes = (read, false, room', []) ∧ 0 < room' ∧ room' < room ∧
      ∀ tail, Wire.readLine line room (eventsOf bytes ++ tail) = Wire.readLine read room' tail := by
  induction bytes generalizing line room with
  | nil => exact absurd rfl hbytes
  | cons b bytes ih =>
    obtain ⟨more, rfl⟩ : ∃ more, room = more + 1 := ⟨room - 1, by omega⟩
    by_cases hfeed : b = 10
    · refine Or.inl ⟨b :: line, more, bytes, by simp [takeLine, hfeed], fun tail => ?_⟩
      simp [Wire.readLine, hfeed]
    · cases more with
      | zero =>
        -- the last byte for which there was room ends the line
        refine Or.inl ⟨b :: line, 0, bytes, by simp [takeLine, hfeed], fun tail => ?_⟩
        simp [Wire.readLine]
      | succ more =>
        have htake : takeLine line (more + 2) (b :: bytes) = takeLine (b :: line) (more + 1) bytes := by
          simp [takeLine, hfeed]
        have hread : ∀ tail, Wire.readLine line (more + 2) (eventsOf (b :: bytes) ++ tail) =
            Wire.readLine (b :: line) (more + 1) (eventsOf bytes ++ tail) := by
          intro tail
          simp [Wire.readLine, hfeed]
        simp only [htake, hread]
        by_cases hrest : bytes = []
        · subst hrest
          exact Or.inr ⟨b :: line, more + 1, rfl, by omega, by omega, fun tail => rfl⟩
        · rcases ih (b :: line) (Nat.succ_pos more) hrest with
            ⟨read, room', rest, htake', hread'⟩ | ⟨read, room', htake', hpos, hlt, hread'⟩
          · exact Or.inl ⟨read, room', rest, htake', hread'⟩
          · exact Or.inr ⟨read, room', htake', hpos, by omega, hread'⟩

/-- A line through the buffer is the line of the events. -/
theorem readLine_agrees {turns room : Nat} (hroom : 0 < room) (hturns : room ≤ turns)
    (line : List UInt8) {source : Buffered} (hcapacity : 0 < source.capacity) :
    Agrees (source.readLine turns line room) (Wire.readLine line room source.events) := by
  induction turns generalizing line room source with
  | zero => omega
  | succ turns ih =>
    unfold readLine
    rcases fill_cases hcapacity with
      ⟨reason, next, hfill, hcap, hevents⟩ | ⟨next, hfill, hcap, hevents, hend⟩
    · rw [hfill, hevents]
      exact ⟨rfl, rfl, hcap ▸ hcapacity⟩
    · have hcap' : 0 < next.capacity := hcap ▸ hcapacity
      rw [hfill, ← hevents]
      by_cases hbuffer : next.buffer = []
      · have hnil : next.events = [] := hevents.trans (hend hbuffer)
        simp only [hbuffer, List.isEmpty_nil, if_true, hnil]
        exact ⟨rfl, hnil, hcap'⟩
      · have hempty : next.buffer.isEmpty = false := by simpa using hbuffer
        simp only [hempty, Bool.false_eq_true, if_false]
        rcases takeLine_cases line hroom hbuffer with
          ⟨read, room', rest, htake, hread⟩ | ⟨read, room', htake, hpos, hlt, hread⟩
        · rw [htake]
          unfold events
          rw [hread]
          exact ⟨rfl, rfl, hcap'⟩
        · rw [htake]
          unfold events
          rw [hread]
          have hnext : 0 < ({ next with buffer := [] } : Buffered).capacity := hcap'
          exact ih hpos (by omega) read hnext

/-! ## Content -/

/-- Content through the buffer or past it is the content of the events. -/
theorem readContent_agrees (expected : Nat) {turns missing : Nat} (hturns : missing ≤ turns)
    (done : List UInt8) {source : Buffered} (hcapacity : 0 < source.capacity) :
    Agrees (source.readContent expected turns missing done)
      (Wire.readContent expected missing done source.events) := by
  induction turns generalizing missing done source with
  | zero =>
    obtain rfl : missing = 0 := by omega
    exact ⟨rfl, rfl, hcapacity⟩
  | succ turns ih =>
    unfold readContent
    cases missing with
    | zero => exact ⟨rfl, rfl, hcapacity⟩
    | succ missing =>
      rw [if_neg (Nat.succ_ne_zero missing)]
      rcases readSome_cases (Nat.succ_pos missing) hcapacity with
        ⟨reason, next, hsome, hcap, hevents⟩ | ⟨next, hsome, hcap, hnil, hleft⟩ |
          ⟨taken, next, hne, hle, hsome, hcap, hevents⟩
      · rw [hsome, hevents]
        exact ⟨rfl, rfl, hcap⟩
      · rw [hsome, hnil]
        exact ⟨rfl, hleft, hcap⟩
      · obtain ⟨b, taken, rfl⟩ := List.exists_cons_of_ne_nil hne
        rw [hsome, hevents, readContent_append_of_le hle]
        simp only [List.length_cons] at hle ⊢
        exact ih (by omega) _ hcap

/-! ## Header blocks and frames -/

theorem readHeader_agrees {lines : Nat} (started : Bool) (header : Header) {source : Buffered}
    (hcapacity : 0 < source.capacity) (hlines : source.events.length < lines) :
    Agrees (source.readHeader lines started header)
      (Wire.readHeader started [] lineLimit header source.events) := by
  induction lines generalizing started header source with
  | zero => omega
  | succ lines ih =>
    rw [readHeader_eq_afterLine started (by simp) lineLimit header]
    unfold readHeader
    have hroom : 0 < lineLimit := by decide
    have hline := readLine_agrees hroom (Nat.le_refl lineLimit) [] hcapacity
    rcases hread : Wire.readLine [] lineLimit source.events with ⟨result, rest⟩
    rw [hread] at hline
    generalize source.readLine lineLimit [] lineLimit = outcome at hline ⊢
    obtain ⟨result', next⟩ := outcome
    obtain ⟨rfl, rfl, hcap⟩ := hline
    simp only at hcap hread
    cases result' with
    | error reason => exact ⟨rfl, rfl, hcap⟩
    | ok line =>
      cases line with
      | nil => exact ⟨rfl, rfl, hcap⟩
      | cons b line =>
        simp only [afterLine]
        cases lineBody (b :: line) with
        | error fault => exact ⟨rfl, rfl, hcap⟩
        | ok body =>
          cases body with
          | nil => exact ⟨rfl, rfl, hcap⟩
          | cons c body =>
            simp only
            cases header.withLine (c :: body) with
            | error fault => exact ⟨rfl, rfl, hcap⟩
            | ok header =>
              simp only
              -- a line with bytes has taken an event, so the rest holds fewer lines
              have hfewer := length_lt_of_readLine hread
              exact ih true header hcap (by omega)

theorem readFrameWithin_agrees {lines : Nat} (limit : Nat) {source : Buffered}
    (hcapacity : 0 < source.capacity) (hlines : source.events.length < lines) :
    Agrees (source.readFrameWithin lines limit) (Wire.readFrame limit source.events) := by
  unfold readFrameWithin Wire.readFrame
  have hheader := readHeader_agrees false .empty hcapacity hlines
  generalize Wire.readHeader false [] lineLimit .empty source.events = ideal at hheader ⊢
  obtain ⟨result, rest⟩ := ideal
  generalize source.readHeader lines false .empty = outcome at hheader ⊢
  obtain ⟨result', next⟩ := outcome
  obtain ⟨rfl, rfl, hcap⟩ := hheader
  simp only at hcap
  cases result' with
  | absent => exact ⟨rfl, rfl, hcap⟩
  | failed fault => exact ⟨rfl, rfl, hcap⟩
  | complete header =>
    simp only
    cases announcedLength limit header with
    | error fault => exact ⟨rfl, rfl, hcap⟩
    | ok length =>
      simp only
      have hcontent := readContent_agrees length (Nat.le_refl length) [] hcap
      generalize Wire.readContent length length [] next.events = ideal at hcontent ⊢
      obtain ⟨content, rest⟩ := ideal
      generalize next.readContent length length length [] = outcome at hcontent ⊢
      obtain ⟨content', last⟩ := outcome
      obtain ⟨rfl, rfl, hcap'⟩ := hcontent
      cases content' with
      | error fault => exact ⟨rfl, rfl, hcap'⟩
      | ok content => exact ⟨rfl, rfl, hcap'⟩

theorem readFrame_agrees (limit : Nat) {source : Buffered} (hcapacity : 0 < source.capacity) :
    Agrees (source.readFrame limit) (Wire.readFrame limit source.events) :=
  readFrameWithin_agrees limit hcapacity (Nat.lt_succ_self _)

theorem readFramesWithin_agrees {lines : Nat} (limit count : Nat) {source : Buffered}
    (hcapacity : 0 < source.capacity) (hlines : source.events.length < lines) :
    Agrees (source.readFramesWithin lines limit count)
      (Wire.readFrames limit count source.events) := by
  induction count generalizing source with
  | zero => exact ⟨rfl, rfl, hcapacity⟩
  | succ count ih =>
    obtain ⟨hresult, hleft, hcap⟩ := readFrameWithin_agrees limit hcapacity hlines
    have hfewer := (readFrame_suffix limit source.events).length_le
    rw [← hleft] at hfewer
    obtain ⟨hresults, hleft', hcap'⟩ := ih hcap (by omega)
    unfold readFramesWithin Wire.readFrames
    refine ⟨?_, ?_, hcap'⟩
    · simp only [hresult, hresults, hleft]
    · simp only [hleft', hleft]

/-- **Several reads** through the buffer are the reads of the events. -/
theorem readFrames_agrees (limit count : Nat) {source : Buffered}
    (hcapacity : 0 < source.capacity) :
    Agrees (source.readFrames limit count) (Wire.readFrames limit count source.events) :=
  readFramesWithin_agrees limit count hcapacity (Nat.lt_succ_self _)

/-! ## Cuts do not show -/

theorem ofDelivery_capacity_pos (capacity : Nat) (delivery : Delivery) :
    0 < (ofDelivery capacity delivery).capacity :=
  Nat.lt_of_lt_of_le Nat.zero_lt_one (Nat.le_max_left 1 capacity)

/-- **Neither cuts nor capacity show.** Deliveries with the same events give the same results and
leave the same events after any number of reads, through buffers of any size. After them, a failure
of the stream is what the next read gives exactly if that read needs a byte beyond the failure. -/
theorem readFrames_eq_of_events_eq {first second : Delivery} (h : first.events = second.events)
    (capacity capacity' limit count : Nat) :
    let here := (ofDelivery capacity first).readFrames limit count
    let there := (ofDelivery capacity' second).readFrames limit count
    here.1 = there.1 ∧ here.2.events = there.2.events ∧
      ∀ reason rest,
        (∃ next, here.2.readFrame limit = (.failed (.stream reason), next) ∧ next.events = rest) ↔
          ∃ bytes, here.2.events = eventsOf bytes ++ .fault reason :: rest ∧
            NeedsMore limit bytes := by
  intro here there
  have hhere : Agrees here (Wire.readFrames limit count first.events) :=
    readFrames_agrees limit count (ofDelivery_capacity_pos capacity first)
  have hthere : Agrees there (Wire.readFrames limit count second.events) :=
    readFrames_agrees limit count (ofDelivery_capacity_pos capacity' second)
  rw [← h] at hthere
  refine ⟨hhere.result.trans hthere.result.symm, hhere.left.trans hthere.left.symm, ?_⟩
  intro reason rest
  have hnext := readFrame_agrees limit hhere.capacity
  rw [← readFrame_eq_stream_iff]
  constructor
  · rintro ⟨next, hread, rfl⟩
    rw [hread] at hnext
    exact Prod.ext hnext.result.symm hnext.left.symm
  · intro hread
    rw [hread] at hnext
    exact ⟨(here.2.readFrame limit).2, Prod.ext hnext.result rfl, hnext.left⟩

/-- A line feed cut off from its carriage return, before and behind a failure. -/
theorem readFrames_eq_of_cut_line :
    Delivery.events [.bytes [58, 13, 10], .fault "reset", .bytes [13, 10]] =
        Delivery.events [.bytes [58, 13], .bytes [10], .fault "reset", .bytes [13], .bytes [10]] ∧
      ((ofDelivery 1 [.bytes [58, 13, 10], .fault "reset", .bytes [13, 10]]).readFrames 9 3).1 =
        ((ofDelivery 8192
          [.bytes [58, 13], .bytes [10], .fault "reset", .bytes [13], .bytes [10]]).readFrames 9 3).1 :=
  ⟨rfl, (readFrames_eq_of_events_eq rfl 1 8192 9 3).1⟩

end Buffered

end WordServer.Wire
