import WordServer.Wire.Reader

/-!
# What reading takes from a stream

A read takes events from the front only: what it leaves is the end of what there was
(`readFrame_suffix`), and it leaves less unless there was nothing (`readFrame_cons_suffix`).

A header block is read line by line. `readLine` is one line, and `readHeader_eq_afterLine` says that
the block is its first line and then the rest of the block, which is how the buffered reader works
and how a grammar is stated. A frame is its header block and then its content, `afterHeader`.

Bytes either settle a read, so that it is the same whatever follows them, or leave it waiting for
the next byte (`readFrame_settled_or_waits`). Only a read that waits meets a failure of the stream
behind the bytes (`readFrame_eq_stream_iff`).
-/

namespace WordServer.Wire

/-! ## Bytes as events -/

@[simp] theorem eventsOf_nil : eventsOf [] = [] := rfl

@[simp] theorem eventsOf_cons (b : UInt8) (bytes : List UInt8) :
    eventsOf (b :: bytes) = .byte b :: eventsOf bytes := rfl

@[simp] theorem eventsOf_append (first second : List UInt8) :
    eventsOf (first ++ second) = eventsOf first ++ eventsOf second :=
  List.map_append

@[simp] theorem length_eventsOf (bytes : List UInt8) : (eventsOf bytes).length = bytes.length :=
  List.length_map _

theorem eventsOf_inj {first second : List UInt8} :
    eventsOf first = eventsOf second ↔ first = second := by
  refine List.map_inj_right fun a b hab => ?_
  injection hab

/-- Events are bytes up to the first failure, if there is one. -/
theorem eq_eventsOf_or_fault (events : List Event) :
    ∃ bytes, events = eventsOf bytes ∨
      ∃ reason rest, events = eventsOf bytes ++ .fault reason :: rest := by
  induction events with
  | nil => exact ⟨[], Or.inl rfl⟩
  | cons event events ih =>
    cases event with
    | fault reason => exact ⟨[], Or.inr ⟨reason, events, rfl⟩⟩
    | byte b =>
      obtain ⟨bytes, rfl | ⟨reason, rest, rfl⟩⟩ := ih
      · exact ⟨b :: bytes, Or.inl rfl⟩
      · exact ⟨b :: bytes, Or.inr ⟨reason, rest, rfl⟩⟩

/-! ## A block as its first line and the rest -/

/-- Reads a line: the bytes up to and with the first line feed, but at most `room`, or what there is
before the end. The bytes go before `line`, last first. -/
def readLine (line : List UInt8) (room : Nat) : List Event → Except String (List UInt8) × List Event
  | [] => (.ok line, [])
  | .fault reason :: rest => (.error reason, rest)
  | .byte b :: rest =>
    if b = 10 ∨ room ≤ 1 then (.ok (b :: line), rest) else readLine (b :: line) (room - 1) rest

/-- What a header block comes to once its next line has been read. -/
def afterLine (started : Bool) (header : Header) :
    Except String (List UInt8) × List Event → HeaderReading × List Event
  | (.error reason, rest) => (.failed (.stream reason), rest)
  | (.ok [], rest) => (if started then .failed .truncatedHeader else .absent, rest)
  | (.ok (b :: line), rest) =>
    match lineBody (b :: line) with
    | .error fault => (.failed fault, rest)
    | .ok [] => (.complete header, rest)
    | .ok body =>
      match header.withLine body with
      | .error fault => (.failed fault, rest)
      | .ok header => readHeader true [] lineLimit header rest

theorem lineBody_of_ne {b : UInt8} (h : b ≠ 10) (line : List UInt8) :
    lineBody (b :: line) = .error .truncatedHeader := by
  unfold lineBody
  split
  · exact absurd (by simp_all) h
  · exact absurd (by simp_all) h
  · rfl

/-- A line without its end, and the end, make up the line. -/
theorem lineBody_eq_ok_iff {line raw : List UInt8} :
    lineBody line = .ok raw ↔ line = 10 :: 13 :: raw.reverse := by
  unfold lineBody
  split
  · rename_i rest
    simp only [Except.ok.injEq, List.cons.injEq, true_and]
    constructor
    · rintro rfl
      exact (List.reverse_reverse rest).symm
    · rintro rfl
      exact List.reverse_reverse raw
  · rename_i hnot
    simp only [reduceCtorEq, List.cons.injEq, true_and, false_iff]
    exact fun h => hnot _ h
  · rename_i _ hnot
    simp only [reduceCtorEq, false_iff]
    exact fun h => hnot _ h

/-- A block is complete with an empty line, or goes on behind a line that does not fail. -/
theorem afterLine_eq_complete {started : Bool} {header header' : Header}
    {outcome : Except String (List UInt8) × List Event} {rest : List Event}
    (h : afterLine started header outcome = (.complete header', rest)) :
    ∃ raw behind, outcome = (.ok (10 :: 13 :: raw.reverse), behind) ∧
      ((raw = [] ∧ header = header' ∧ behind = rest) ∨
        ∃ next, header.withLine raw = .ok next ∧
          readHeader true [] lineLimit next behind = (.complete header', rest)) := by
  obtain ⟨result, behind⟩ := outcome
  cases result with
  | error reason => simp [afterLine] at h
  | ok line =>
    cases line with
    | nil => cases started <;> simp [afterLine] at h
    | cons b line =>
      simp only [afterLine] at h
      cases hraw : lineBody (b :: line) with
      | error fault => simp [hraw] at h
      | ok raw =>
        rw [hraw] at h
        rw [lineBody_eq_ok_iff.1 hraw]
        refine ⟨raw, behind, rfl, ?_⟩
        cases raw with
        | nil =>
          simp only [Prod.mk.injEq, HeaderReading.complete.injEq] at h
          exact Or.inl ⟨rfl, h⟩
        | cons c raw =>
          simp only at h
          cases hwith : header.withLine (c :: raw) with
          | error fault => simp [hwith] at h
          | ok next =>
            rw [hwith] at h
            exact Or.inr ⟨next, rfl, h⟩

/-- **A header block is its first line and then the rest of the block.** -/
theorem readHeader_eq_afterLine (started : Bool) {line : List UInt8} (hline : (10 : UInt8) ∉ line)
    (room : Nat) (header : Header) (events : List Event) :
    readHeader started line room header events =
      afterLine started header (readLine line room events) := by
  induction events generalizing line room with
  | nil =>
    cases line with
    | nil => simp [readHeader, readLine, afterLine]
    | cons b line =>
      have hb : b ≠ 10 := fun h => hline (h ▸ List.mem_cons_self)
      simp [readHeader, readLine, afterLine, lineBody_of_ne hb]
  | cons event events ih =>
    cases event with
    | fault reason => rfl
    | byte b =>
      unfold readHeader readLine
      by_cases hend : b = 10 ∨ room ≤ 1
      · rw [if_pos hend, if_pos hend]
        rfl
      · rw [if_neg hend, if_neg hend]
        have hb : ¬ b = 10 := fun h => hend (Or.inl h)
        have hline' : (10 : UInt8) ∉ b :: line := by
          simp only [List.mem_cons, not_or]
          exact ⟨fun h => hb h.symm, hline⟩
        exact ih hline' (room - 1)

theorem readLine_append_feed {body : List UInt8} (hbody : (10 : UInt8) ∉ body) (line : List UInt8)
    {room : Nat} (hroom : body.length < room) (rest : List Event) :
    readLine line room (eventsOf body ++ .byte 10 :: rest) =
      (.ok (10 :: (body.reverse ++ line)), rest) := by
  induction body generalizing line room with
  | nil => simp [readLine]
  | cons b body ih =>
    simp only [List.mem_cons, not_or] at hbody
    simp only [List.length_cons] at hroom
    have hend : ¬ (b = 10 ∨ room ≤ 1) := by
      rintro (rfl | h)
      · exact hbody.1 rfl
      · omega
    rw [eventsOf_cons, List.cons_append]
    unfold readLine
    rw [if_neg hend, ih hbody.2 (b :: line) (by omega)]
    simp

/-- A line that was read with its line feed stands at the front of the stream. -/
theorem readLine_eq_feed {line read : List UInt8} {room : Nat} {events rest : List Event}
    (hline : (10 : UInt8) ∉ line) (hroom : 0 < room)
    (h : readLine line room events = (.ok (10 :: read), rest)) :
    ∃ body, (10 : UInt8) ∉ body ∧ body.length < room ∧ read = body.reverse ++ line ∧
      events = eventsOf body ++ .byte 10 :: rest := by
  induction events generalizing line room with
  | nil =>
    simp only [readLine, Prod.mk.injEq, Except.ok.injEq] at h
    rw [h.1] at hline
    exact absurd List.mem_cons_self hline
  | cons event events ih =>
    cases event with
    | fault reason => simp [readLine] at h
    | byte b =>
      unfold readLine at h
      split at h
      · simp only [Prod.mk.injEq, Except.ok.injEq, List.cons.injEq] at h
        obtain ⟨⟨rfl, rfl⟩, rfl⟩ := h
        exact ⟨[], by simp, hroom, rfl, rfl⟩
      · rename_i hend
        simp only [not_or, Nat.not_le] at hend
        have hline' : (10 : UInt8) ∉ b :: line := by
          simp only [List.mem_cons, not_or]
          exact ⟨fun h => hend.1 h.symm, hline⟩
        obtain ⟨body, hbody, hlength, hread, hevents⟩ := ih hline' (by omega) h
        refine ⟨b :: body, ?_, ?_, ?_, ?_⟩
        · simp only [List.mem_cons, not_or]
          exact ⟨fun h => hend.1 h.symm, hbody⟩
        · simp only [List.length_cons]
          omega
        · simp [hread]
        · simp [hevents]

theorem readLine_cons_suffix (line : List UInt8) (room : Nat) (event : Event) (events : List Event) :
    (readLine line room (event :: events)).2 <:+ events := by
  induction events generalizing line room event with
  | nil =>
    cases event with
    | fault reason => exact List.suffix_refl _
    | byte b =>
      unfold readLine
      split <;> exact List.suffix_refl _
  | cons next events ih =>
    cases event with
    | fault reason => exact List.suffix_refl _
    | byte b =>
      unfold readLine
      split
      · exact List.suffix_refl _
      · exact (ih (b :: line) (room - 1) next).trans (List.suffix_cons next events)

theorem length_lt_of_readLine {room : Nat} {b : UInt8} {line : List UInt8}
    {events rest : List Event} (h : readLine [] room events = (.ok (b :: line), rest)) :
    rest.length < events.length := by
  cases events with
  | nil => simp [readLine] at h
  | cons event events =>
    have hsuffix := readLine_cons_suffix [] room event events
    rw [h] at hsuffix
    exact Nat.lt_succ_of_le hsuffix.length_le

/-! ## What is left -/

/-- Once an event has been taken, what a header block leaves is the end of what was behind it. -/
theorem readHeader_cons_suffix (started : Bool) (line : List UInt8) (room : Nat) (header : Header)
    (event : Event) (events : List Event) :
    (readHeader started line room header (event :: events)).2 <:+ events := by
  induction events generalizing started line room header event with
  | nil =>
    cases event with
    | fault reason => exact List.suffix_refl _
    | byte b =>
      unfold readHeader
      repeat' split
      all_goals exact List.suffix_refl _
  | cons next events ih =>
    have hnext := List.suffix_cons next events
    cases event with
    | fault reason => exact List.suffix_refl _
    | byte b =>
      unfold readHeader
      split
      · split
        · exact List.suffix_refl _
        · exact List.suffix_refl _
        · split
          · exact List.suffix_refl _
          · exact (ih _ _ _ _ next).trans hnext
      · exact (ih _ _ _ _ next).trans hnext

theorem readContent_suffix (expected missing : Nat) (done : List UInt8) (events : List Event) :
    (readContent expected missing done events).2 <:+ events := by
  induction missing generalizing done events with
  | zero => exact List.suffix_refl _
  | succ missing ih =>
    cases events with
    | nil => exact List.suffix_refl _
    | cons event events =>
      cases event with
      | fault reason => exact List.suffix_cons _ _
      | byte b => exact (ih (b :: done) events).trans (List.suffix_cons _ _)

/-- What a frame comes to once its header block has been read. -/
def afterHeader (limit : Nat) : HeaderReading × List Event → Reading × List Event
  | (.absent, rest) => (.finished, rest)
  | (.failed fault, rest) => (.failed fault, rest)
  | (.complete header, rest) =>
    match announcedLength limit header with
    | .error fault => (.failed fault, rest)
    | .ok length =>
      match readContent length length [] rest with
      | (.error fault, rest) => (.failed fault, rest)
      | (.ok content, rest) => (.frame ⟨length, header.contentType, content⟩, rest)

theorem readFrame_eq_afterHeader (limit : Nat) (events : List Event) :
    readFrame limit events = afterHeader limit (readHeader false [] lineLimit .empty events) := rfl

theorem afterHeader_suffix (limit : Nat) (outcome : HeaderReading × List Event) :
    (afterHeader limit outcome).2 <:+ outcome.2 := by
  obtain ⟨result, rest⟩ := outcome
  cases result with
  | absent => exact List.suffix_refl _
  | failed fault => exact List.suffix_refl _
  | complete header =>
    simp only [afterHeader]
    cases announcedLength limit header with
    | error fault => exact List.suffix_refl _
    | ok length =>
      simp only
      have hcontent := readContent_suffix length length [] rest
      rcases hread : readContent length length [] rest with ⟨content, left⟩
      rw [hread] at hcontent
      cases content with
      | error fault => exact hcontent
      | ok content => exact hcontent

/-- **A read takes an event if there is one**, from the front. -/
theorem readFrame_cons_suffix (limit : Nat) (event : Event) (events : List Event) :
    (readFrame limit (event :: events)).2 <:+ events := by
  rw [readFrame_eq_afterHeader]
  exact (afterHeader_suffix limit _).trans
    (readHeader_cons_suffix false [] lineLimit .empty event events)

@[simp] theorem readFrame_nil (limit : Nat) : readFrame limit [] = (.finished, []) := rfl

theorem readFrame_suffix (limit : Nat) (events : List Event) :
    (readFrame limit events).2 <:+ events := by
  cases events with
  | nil => exact List.suffix_refl _
  | cons event events =>
    exact (readFrame_cons_suffix limit event events).trans (List.suffix_cons event events)

theorem length_lt_of_readFrame {limit : Nat} {frame : Frame} {events rest : List Event}
    (h : readFrame limit events = (.frame frame, rest)) : rest.length < events.length := by
  cases events with
  | nil => simp at h
  | cons event events =>
    have hsuffix := readFrame_cons_suffix limit event events
    rw [h] at hsuffix
    exact Nat.lt_succ_of_le hsuffix.length_le

/-! ## Bytes that settle a read -/

/-- The bytes do not settle what a read of a frame gives: whatever byte comes next, it is read. -/
def NeedsMore (limit : Nat) (bytes : List UInt8) : Prop :=
  ∀ b rest, (readFrame limit (eventsOf bytes ++ .byte b :: rest)).2 <:+ rest

/-- The read is settled: it gives the same whatever follows, and no failure of the stream. -/
def Settled (read : List Event → Reading × List Event) : Prop :=
  ∃ result rest, (∀ reason, result ≠ .failed (.stream reason)) ∧
    ∀ tail, read tail = (result, eventsOf rest ++ tail)

/-- The read waits for the next byte, and meets a failure that comes instead of it. -/
structure Waits (read : List Event → Reading × List Event) : Prop where
  atByte : ∀ b rest, (read (.byte b :: rest)).2 <:+ rest
  atEnd : ∀ reason, (read []).1 ≠ .failed (.stream reason)
  atFault : ∀ reason rest, read (.fault reason :: rest) = (.failed (.stream reason), rest)

theorem lineBody_ne_stream (line : List UInt8) (reason : String) :
    lineBody line ≠ .error (.stream reason) := by
  unfold lineBody
  split <;> simp

theorem withField_ne_stream (header : Header) (name value : List Char) (reason : String) :
    header.withField name value ≠ .error (.stream reason) := by
  unfold Header.withField
  by_cases hlength : name = "content-length".toList
  · rw [if_pos hlength]
    cases Text.readBelow Text.countBound value <;> simp
  · rw [if_neg hlength]
    by_cases htype : name = "content-type".toList
    · rw [if_pos htype]
      simp
    · rw [if_neg htype]
      simp

theorem withLine_ne_stream (header : Header) (line : List UInt8) (reason : String) :
    header.withLine line ≠ .error (.stream reason) := by
  unfold Header.withLine
  split
  · dsimp only
    split
    · exact withField_ne_stream header _ _ reason
    · simp
  · simp

theorem announcedLength_ne_stream (limit : Nat) (header : Header) (reason : String) :
    announcedLength limit header ≠ .error (.stream reason) := by
  unfold announcedLength
  repeat' split
  all_goals simp

/-- Bytes settle a header block, without a failure of the stream, or they only change what is to be
read of it next. -/
theorem readHeader_settled_or_goesOn (started : Bool) (line : List UInt8) (room : Nat)
    (header : Header) (bytes : List UInt8) :
    (∃ result rest, (∀ reason, result ≠ .failed (.stream reason)) ∧
      ∀ tail, readHeader started line room header (eventsOf bytes ++ tail) =
        (result, eventsOf rest ++ tail)) ∨
    ∃ started' line' room' header',
      ∀ tail, readHeader started line room header (eventsOf bytes ++ tail) =
        readHeader started' line' room' header' tail := by
  induction bytes generalizing started line room header with
  | nil => exact Or.inr ⟨started, line, room, header, fun tail => rfl⟩
  | cons b bytes ih =>
    by_cases hend : b = 10 ∨ room ≤ 1
    · cases hbody : lineBody (b :: line) with
      | error fault =>
        refine Or.inl ⟨.failed fault, bytes, fun reason heq => ?_, fun tail => ?_⟩
        · injection heq with heq
          exact lineBody_ne_stream _ reason (heq ▸ hbody)
        · simp [readHeader, hend, hbody]
      | ok body =>
        cases body with
        | nil =>
          refine Or.inl ⟨.complete header, bytes, fun reason heq => (by cases heq), fun tail => ?_⟩
          simp [readHeader, hend, hbody]
        | cons c body =>
          cases hwith : header.withLine (c :: body) with
          | error fault =>
            refine Or.inl ⟨.failed fault, bytes, fun reason heq => ?_, fun tail => ?_⟩
            · injection heq with heq
              exact withLine_ne_stream _ _ reason (heq ▸ hwith)
            · simp [readHeader, hend, hbody, hwith]
          | ok header' =>
            have hstep : ∀ tail, readHeader started line room header (eventsOf (b :: bytes) ++ tail) =
                readHeader true [] lineLimit header' (eventsOf bytes ++ tail) := by
              intro tail
              simp [readHeader, hend, hbody, hwith]
            simp only [hstep]
            exact ih true [] lineLimit header'
    · have hstep : ∀ tail, readHeader started line room header (eventsOf (b :: bytes) ++ tail) =
          readHeader started (b :: line) (room - 1) header (eventsOf bytes ++ tail) := by
        intro tail
        simp [readHeader, hend]
      simp only [hstep]
      exact ih started (b :: line) (room - 1) header

theorem readContent_append (expected missing : Nat) (done bytes : List UInt8)
    (tail : List Event) :
    readContent expected missing done (eventsOf bytes ++ tail) =
      if missing ≤ bytes.length then
        (.ok (done.reverse ++ bytes.take missing), eventsOf (bytes.drop missing) ++ tail)
      else readContent expected (missing - bytes.length) (bytes.reverse ++ done) tail := by
  induction bytes generalizing missing done with
  | nil =>
    cases missing with
    | zero => simp [readContent]
    | succ missing => simp
  | cons b bytes ih =>
    cases missing with
    | zero => simp [readContent]
    | succ missing =>
      rw [eventsOf_cons, List.cons_append, readContent, ih]
      simp

/-- Bytes of which there are no more than are missing all belong to the content. -/
theorem readContent_append_of_le {expected missing : Nat} {done bytes : List UInt8}
    (h : bytes.length ≤ missing) {tail : List Event} :
    readContent expected missing done (eventsOf bytes ++ tail) =
      readContent expected (missing - bytes.length) (bytes.reverse ++ done) tail := by
  rw [readContent_append]
  split
  · -- as many as are missing: both sides are complete
    have hlength : missing = bytes.length := by omega
    simp [hlength, readContent]
  · rfl

/-- Bytes behind a header block settle the frame, or its content waits for the next one. -/
theorem afterHeader_settled_or_waits (limit : Nat) (header : Header) (bytes : List UInt8) :
    Settled (fun tail => afterHeader limit (.complete header, eventsOf bytes ++ tail)) ∨
      Waits (fun tail => afterHeader limit (.complete header, eventsOf bytes ++ tail)) := by
  cases hlength : announcedLength limit header with
  | error fault =>
    refine Or.inl ⟨.failed fault, bytes, fun reason heq => ?_, fun tail => ?_⟩
    · injection heq with heq
      exact announcedLength_ne_stream _ _ reason (heq ▸ hlength)
    · simp only [afterHeader, hlength]
  | ok length =>
    by_cases henough : length ≤ bytes.length
    · refine Or.inl ⟨.frame ⟨length, header.contentType, bytes.take length⟩, bytes.drop length,
        by simp, fun tail => ?_⟩
      simp only [afterHeader, hlength, readContent_append, henough, if_true, List.reverse_nil,
        List.nil_append]
    · -- the content is short by `more + 1` bytes
      obtain ⟨more, hmore⟩ : ∃ more, length - bytes.length = more + 1 :=
        ⟨length - bytes.length - 1, by omega⟩
      have hread : ∀ tail, readContent length length [] (eventsOf bytes ++ tail) =
          readContent length (more + 1) (bytes.reverse ++ []) tail := by
        intro tail
        rw [readContent_append, if_neg henough, hmore]
      refine Or.inr ⟨fun b tail => ?_, fun reason => ?_, fun reason tail => ?_⟩
      · have hcontent := readContent_suffix length more (b :: (bytes.reverse ++ [])) tail
        simp only [afterHeader, hlength, hread, readContent]
        split <;> rename_i hdone <;> rw [hdone] at hcontent <;> exact hcontent
      · simp only [afterHeader, hlength, hread, readContent]
        simp
      · simp only [afterHeader, hlength, hread, readContent]

/-- **A read is settled by bytes or waits for the next one.** -/
theorem readFrame_settled_or_waits (limit : Nat) (bytes : List UInt8) :
    Settled (fun tail => readFrame limit (eventsOf bytes ++ tail)) ∨
      Waits (fun tail => readFrame limit (eventsOf bytes ++ tail)) := by
  simp only [readFrame_eq_afterHeader]
  rcases readHeader_settled_or_goesOn false [] lineLimit .empty bytes with
    ⟨result, left, hne, hsettled⟩ | ⟨started, line, room, header, hgoes⟩
  · simp only [hsettled]
    cases result with
    | absent => exact Or.inl ⟨.finished, left, by simp, fun tail => rfl⟩
    | failed fault =>
      refine Or.inl ⟨.failed fault, left, fun reason heq => ?_, fun tail => rfl⟩
      injection heq with heq
      exact hne reason (heq ▸ rfl)
    | complete header => exact afterHeader_settled_or_waits limit header left
  · simp only [hgoes]
    refine Or.inr ⟨fun b tail => ?_, fun reason => ?_, fun reason tail => rfl⟩
    · exact (afterHeader_suffix limit _).trans
        (readHeader_cons_suffix started line room header (.byte b) tail)
    · unfold readHeader
      cases started || !line.isEmpty <;> simp [afterHeader]

theorem not_needsMore_of_settled {limit : Nat} {bytes : List UInt8}
    (h : Settled fun tail => readFrame limit (eventsOf bytes ++ tail)) :
    ¬ NeedsMore limit bytes := by
  -- a byte behind bytes that settle the read is left where it is
  intro hneeds
  obtain ⟨result, rest, -, hsettled⟩ := h
  simp only at hsettled
  have hsuffix := hneeds 0 []
  rw [hsettled] at hsuffix
  have hlength := hsuffix.length_le
  simp at hlength

/-- **A failure of the stream reaches exactly the read that needs a byte beyond it.** -/
theorem readFrame_eq_stream_iff {limit : Nat} {events rest : List Event} {reason : String} :
    readFrame limit events = (.failed (.stream reason), rest) ↔
      ∃ bytes, events = eventsOf bytes ++ .fault reason :: rest ∧ NeedsMore limit bytes := by
  constructor
  · intro h
    obtain ⟨bytes, hevents⟩ := eq_eventsOf_or_fault events
    rcases readFrame_settled_or_waits limit bytes with
      ⟨result, left, hne, hsettled⟩ | ⟨hbyte, hend, hfault⟩
    · simp only at hsettled
      have hfirst : (readFrame limit events).1 = result := by
        rcases hevents with rfl | ⟨why, behind, rfl⟩
        · rw [← List.append_nil (eventsOf bytes), hsettled]
        · rw [hsettled]
      rw [h] at hfirst
      exact absurd hfirst.symm (hne reason)
    · simp only [List.append_nil] at hend hfault
      rcases hevents with rfl | ⟨why, behind, rfl⟩
      · exact absurd (congrArg Prod.fst h) (hend reason)
      · rw [hfault] at h
        simp only [Prod.mk.injEq, Reading.failed.injEq, Fault.stream.injEq] at h
        obtain ⟨rfl, rfl⟩ := h
        exact ⟨bytes, rfl, hbyte⟩
  · rintro ⟨bytes, rfl, hneeds⟩
    rcases readFrame_settled_or_waits limit bytes with hsettled | hwaits
    · exact absurd hneeds (not_needsMore_of_settled hsettled)
    · exact hwaits.atFault reason rest

end WordServer.Wire
