import Mathlib.Data.List.Induction
import WordServer.Proofs.Text.Numeral
import WordServer.Proofs.Wire.Reader

/-!
# The grammar of frames

A frame is a block of header lines, an empty line and a body. `HeaderLine` is a line that is allowed:
ASCII, short enough, with a colon and without a line feed inside. `Says` is what a block of them
says: every length line holds a numeral of 64 bits, so that an early bad one is not forgiven by a
later good one; the last length line gives the length and the last type line the type.

`readFrame_eq_frame_iff`: a read gives a frame exactly if the stream begins with such a block whose
length is that of the body, and leaves what follows the body.
-/

namespace WordServer.Wire

/-- A header line without its end: its bytes, and its text before and after the first colon. -/
structure HeaderLine where
  raw : List UInt8
  before : List Char
  after : List Char
  nonempty : raw ≠ []
  ascii : ∀ b ∈ raw, Charset.isAscii b = true
  noFeed : (10 : UInt8) ∉ raw
  short : raw.length ≤ 8190
  text : Charset.byNumber raw = before ++ ':' :: after
  firstColon : ':' ∉ before

namespace HeaderLine

def bytes (line : HeaderLine) : List UInt8 := line.raw ++ [13, 10]

def name (line : HeaderLine) : List Char := Text.lower (Text.trim line.before)

def value (line : HeaderLine) : List Char := Text.trim line.after

/-- The value is a numeral of `n`, and `n` has 64 bits. -/
def Announces (line : HeaderLine) (n : Nat) : Prop := Text.IsNumeral line.value n ∧ n < UInt64.size

def lastNamed (name : String) (lines : List HeaderLine) : Option HeaderLine :=
  (lines.filter (·.name = name.toList)).getLast?

end HeaderLine

open HeaderLine

/-- What a block of header lines says about the content. -/
structure Says (lines : List HeaderLine) (length : Nat) (contentType : Option String) : Prop where
  valid : ∀ line ∈ lines, line.name = "content-length".toList → ∃ n, line.Announces n
  length : ∃ line, lastNamed "content-length" lines = some line ∧ line.Announces length
  contentType : contentType =
    (lastNamed "content-type" lines).map fun line => String.ofList line.value

/-! ## One line -/

theorem readBelow_countBound_iff {cs : List Char} {n : Nat} :
    Text.readBelow Text.countBound cs = some n ↔ Text.IsNumeral cs n ∧ n < UInt64.size :=
  Text.readBelow_eq_some_iff Text.countBound_pos

theorem withLine_raw (header : Header) (line : HeaderLine) :
    header.withLine line.raw = header.withField line.name line.value := by
  unfold Header.withLine
  rw [if_pos (List.all_eq_true.2 line.ascii)]
  simp only [line.text, Text.cutFirst_append line.firstColon]
  rfl

/-- A line that does not fail is allowed, if it was short and had no line feed. -/
theorem exists_headerLine {header header' : Header} {raw : List UInt8}
    (h : header.withLine raw = .ok header') (hfeed : (10 : UInt8) ∉ raw)
    (hshort : raw.length ≤ 8190) : ∃ line : HeaderLine, line.raw = raw := by
  unfold Header.withLine at h
  split at h
  · rename_i hascii
    simp only at h
    split at h
    · rename_i before after hcut
      obtain ⟨htext, hcolon⟩ := Text.cutFirst_eq_some hcut
      have hne : raw ≠ [] := by
        rintro rfl
        simp [Charset.byNumber] at htext
      exact ⟨⟨raw, before, after, hne, List.all_eq_true.1 hascii, hfeed, hshort, htext, hcolon⟩, rfl⟩
    · cases h
  · cases h

theorem withField_length (header : Header) (value : List Char) :
    header.withField "content-length".toList value =
      match Text.readBelow Text.countBound value with
      | some length => .ok { header with length := some length }
      | none => .error (.invalidContentLength (String.ofList value)) := by
  unfold Header.withField
  exact if_pos rfl

theorem withField_type (header : Header) (value : List Char) :
    header.withField "content-type".toList value =
      .ok { header with contentType := some (String.ofList value) } := by
  have hne : ¬ "content-type".toList = "content-length".toList := by decide
  unfold Header.withField
  rw [if_neg hne, if_pos rfl]

theorem withField_other (header : Header) {name : List Char} (value : List Char)
    (hlength : name ≠ "content-length".toList) (htype : name ≠ "content-type".toList) :
    header.withField name value = .ok header := by
  unfold Header.withField
  rw [if_neg hlength, if_neg htype]

/-! ## A block of lines -/

/-- The header after a block of lines, or the fault of the first that has one. -/
def Header.withLines (header : Header) (lines : List HeaderLine) : Except Fault Header :=
  lines.foldlM (fun header line => header.withLine line.raw) header

theorem withLines_cons_eq_ok {header header' : Header} {line : HeaderLine}
    {lines : List HeaderLine} :
    header.withLines (line :: lines) = .ok header' ↔
      ∃ next, header.withLine line.raw = .ok next ∧ next.withLines lines = .ok header' := by
  unfold Header.withLines
  rw [List.foldlM_cons]
  cases header.withLine line.raw with
  | error fault => simp [bind, Except.bind]
  | ok next => simp [bind, Except.bind]

theorem withLines_concat (header : Header) (lines : List HeaderLine) (line : HeaderLine) :
    header.withLines (lines ++ [line]) =
      (header.withLines lines).bind fun next => next.withLine line.raw := by
  unfold Header.withLines
  rw [List.foldlM_append]
  simp only [List.foldlM_cons, List.foldlM_nil, bind_pure]
  rfl

/-- A block that does not fail has only length lines that announce a length. -/
theorem valid_of_withLines {header header' : Header} {lines : List HeaderLine}
    (h : header.withLines lines = .ok header') :
    ∀ line ∈ lines, line.name = "content-length".toList → ∃ n, line.Announces n := by
  induction lines generalizing header with
  | nil => simp
  | cons first lines ih =>
    obtain ⟨next, hfirst, hrest⟩ := withLines_cons_eq_ok.1 h
    intro line hline hname
    rcases List.mem_cons.1 hline with rfl | hline
    · rw [withLine_raw, hname, withField_length] at hfirst
      cases hread : Text.readBelow Text.countBound line.value with
      | none =>
        rw [hread] at hfirst
        cases hfirst
      | some n => exact ⟨n, readBelow_countBound_iff.1 hread⟩
    · exact ih hrest line hline hname

theorem lastNamed_concat (name : String) (lines : List HeaderLine) (line : HeaderLine) :
    lastNamed name (lines ++ [line]) =
      if line.name = name.toList then some line else lastNamed name lines := by
  unfold lastNamed
  rw [List.filter_append]
  by_cases hname : line.name = name.toList
  · simp [hname]
  · simp [hname]

/-- Of repeated lines the last counts. -/
theorem withLines_of_valid {lines : List HeaderLine}
    (h : ∀ line ∈ lines, line.name = "content-length".toList → ∃ n, line.Announces n) :
    Header.empty.withLines lines =
      .ok ⟨(lastNamed "content-length" lines).bind fun line =>
          Text.readBelow Text.countBound line.value,
        (lastNamed "content-type" lines).map fun line => String.ofList line.value⟩ := by
  -- from the back: the last line overwrites what those before it said
  induction lines using List.reverseRecOn with
  | nil => rfl
  | append_singleton lines line ih =>
    have hinit := ih fun first hfirst => h first (List.mem_append_left _ hfirst)
    rw [withLines_concat, hinit, lastNamed_concat, lastNamed_concat]
    simp only [Except.bind, withLine_raw]
    have hdistinct : ¬ "content-length".toList = "content-type".toList := by decide
    by_cases hlength : line.name = "content-length".toList
    · obtain ⟨n, hn⟩ := h line (by simp) hlength
      have hread := readBelow_countBound_iff.2 hn
      rw [if_pos hlength, hlength, if_neg hdistinct, withField_length, hread]
      simp [hread]
    · rw [if_neg hlength]
      by_cases htype : line.name = "content-type".toList
      · rw [if_pos htype, htype, withField_type]
        simp
      · rw [if_neg htype, withField_other _ _ hlength htype]

/-- A block says a length and a type exactly if the header it makes has them. -/
theorem says_iff_withLines {lines : List HeaderLine} {length : Nat} {contentType : Option String} :
    Says lines length contentType ↔
      Header.empty.withLines lines = .ok ⟨some length, contentType⟩ := by
  constructor
  · rintro ⟨hvalid, ⟨line, hlast, hannounces⟩, htype⟩
    rw [withLines_of_valid hvalid, hlast, ← htype]
    simp [readBelow_countBound_iff.2 hannounces]
  · intro h
    have hvalid := valid_of_withLines h
    rw [withLines_of_valid hvalid] at h
    simp only [Except.ok.injEq, Header.mk.injEq, Option.bind_eq_some_iff] at h
    obtain ⟨⟨line, hlast, hread⟩, htype⟩ := h
    exact ⟨hvalid, ⟨line, hlast, readBelow_countBound_iff.1 hread⟩, htype.symm⟩

/-! ## Reading a block -/

/-- A line that ends as it should and is short enough is read to its end. -/
theorem readLine_ended {raw : List UInt8} (hfeed : (10 : UInt8) ∉ raw) (hshort : raw.length ≤ 8190)
    (rest : List Event) :
    readLine [] lineLimit (eventsOf (raw ++ [13, 10]) ++ rest) =
      (.ok (10 :: 13 :: raw.reverse), rest) := by
  have hfeed' : (10 : UInt8) ∉ raw ++ [13] := by
    simp [hfeed]
  have hroom : (raw ++ [13]).length < lineLimit := by
    simp only [List.length_append, List.length_cons, List.length_nil, lineLimit]
    omega
  have hsplit : eventsOf (raw ++ [13, 10]) ++ rest =
      eventsOf (raw ++ [13]) ++ .byte 10 :: rest := by
    simp
  rw [hsplit, readLine_append_feed hfeed' [] hroom]
  simp

/-- Behind lines that do not fail, the reading of the block goes on with what they make of the
header. -/
theorem readHeader_append_lines (started : Bool) {header header' : Header}
    {lines : List HeaderLine} (h : header.withLines lines = .ok header') (rest : List Event) :
    readHeader started [] lineLimit header (eventsOf (lines.flatMap HeaderLine.bytes) ++ rest) =
      readHeader (started || !lines.isEmpty) [] lineLimit header' rest := by
  induction lines generalizing started header with
  | nil =>
    cases h
    simp
  | cons line lines ih =>
    obtain ⟨next, hline, hlines⟩ := withLines_cons_eq_ok.1 h
    have hsplit : eventsOf ((line :: lines).flatMap HeaderLine.bytes) ++ rest =
        eventsOf (line.raw ++ [13, 10]) ++ (eventsOf (lines.flatMap HeaderLine.bytes) ++ rest) := by
      simp [HeaderLine.bytes]
    have hbody : lineBody (10 :: 13 :: line.raw.reverse) = .ok line.raw := lineBody_eq_ok_iff.2 rfl
    obtain ⟨c, raw, hraw⟩ := List.exists_cons_of_ne_nil line.nonempty
    rw [hsplit, readHeader_eq_afterLine started (by simp), readLine_ended line.noFeed line.short]
    simp only [afterLine, hbody]
    rw [hraw] at hline ⊢
    simp only [hline]
    rw [ih true hlines]
    simp

/-- A block of lines that does not fail is read, and what is behind it is left. -/
theorem readHeader_of_withLines (started : Bool) {header header' : Header}
    {lines : List HeaderLine} (h : header.withLines lines = .ok header') (rest : List Event) :
    readHeader started [] lineLimit header
        (eventsOf (lines.flatMap HeaderLine.bytes ++ [13, 10]) ++ rest) =
      (.complete header', rest) := by
  rw [eventsOf_append, List.append_assoc, readHeader_append_lines started h]
  rfl

/-- A header block that is read is a block of lines. -/
theorem readHeader_eq_complete {started : Bool} {header header' : Header}
    {events rest : List Event}
    (h : readHeader started [] lineLimit header events = (.complete header', rest)) :
    ∃ lines, header.withLines lines = .ok header' ∧
      events = eventsOf (lines.flatMap HeaderLine.bytes ++ [13, 10]) ++ rest := by
  -- on the number of events, because the rest of the block begins behind a whole line
  induction hn : events.length using Nat.strongRecOn generalizing started header events with
  | ind n ih =>
    subst hn
    rw [readHeader_eq_afterLine started (by simp)] at h
    obtain ⟨raw, behind, hread, hcases⟩ := afterLine_eq_complete h
    obtain ⟨body, hfeed, hroom, hbody, rfl⟩ := readLine_eq_feed (by simp) (by decide) hread
    obtain rfl : body = raw ++ [13] := by
      have := congrArg List.reverse hbody
      simpa using this.symm
    rcases hcases with ⟨rfl, rfl, rfl⟩ | ⟨next, hwith, hnext⟩
    · exact ⟨[], rfl, rfl⟩
    · have hnofeed : (10 : UInt8) ∉ raw := fun hmem => hfeed (List.mem_append_left _ hmem)
      have hshort : raw.length ≤ 8190 := by
        simp only [List.length_append, List.length_cons, List.length_nil, lineLimit] at hroom
        omega
      obtain ⟨line, rfl⟩ := exists_headerLine hwith hnofeed hshort
      obtain ⟨lines, hlines, rfl⟩ := ih behind.length (by simp; omega) hnext rfl
      refine ⟨line :: lines, withLines_cons_eq_ok.2 ⟨next, hwith, hlines⟩, ?_⟩
      simp [HeaderLine.bytes]

/-! ## Reading a frame -/

theorem readContent_eq_ok_iff {expected missing : Nat} {done content : List UInt8}
    {events rest : List Event} :
    readContent expected missing done events = (.ok content, rest) ↔
      ∃ bytes, bytes.length = missing ∧ content = done.reverse ++ bytes ∧
        events = eventsOf bytes ++ rest := by
  constructor
  · intro h
    induction missing generalizing done events with
    | zero =>
      simp only [readContent, Prod.mk.injEq, Except.ok.injEq] at h
      obtain ⟨rfl, rfl⟩ := h
      exact ⟨[], rfl, by simp, rfl⟩
    | succ missing ih =>
      cases events with
      | nil => simp [readContent] at h
      | cons event events =>
        cases event with
        | fault reason => simp [readContent] at h
        | byte b =>
          obtain ⟨bytes, hlength, hcontent, rfl⟩ := ih h
          exact ⟨b :: bytes, by simp [hlength], by simp [hcontent], rfl⟩
  · rintro ⟨bytes, rfl, rfl, rfl⟩
    rw [readContent_append]
    simp

theorem announcedLength_eq_ok_iff {limit length : Nat} {header : Header} :
    announcedLength limit header = .ok length ↔ header.length = some length ∧ length ≤ limit := by
  unfold announcedLength
  cases header.length with
  | none => simp
  | some n =>
    simp only [Option.some.injEq]
    by_cases hlimit : limit < n
    · rw [if_pos hlimit]
      simp only [reduceCtorEq, false_iff, not_and]
      rintro rfl
      omega
    · rw [if_neg hlimit]
      simp only [Except.ok.injEq]
      constructor
      · rintro rfl
        exact ⟨rfl, by omega⟩
      · exact fun h => h.1

/-- Behind a header block, a frame is read exactly if the stream goes on with the content that the
header announces. -/
theorem afterHeader_eq_frame_iff {limit : Nat} {outcome : HeaderReading × List Event}
    {rest : List Event} {frame : Frame} :
    afterHeader limit outcome = (.frame frame, rest) ↔
      ∃ body, outcome = (.complete ⟨some body.length, frame.contentType⟩, eventsOf body ++ rest) ∧
        body.length ≤ limit ∧ frame.content = body ∧ frame.length = body.length := by
  constructor
  · intro h
    obtain ⟨result, behind⟩ := outcome
    cases result with
    | absent => simp [afterHeader] at h
    | failed fault => simp [afterHeader] at h
    | complete header =>
      simp only [afterHeader] at h
      cases hlength : announcedLength limit header with
      | error fault =>
        rw [hlength] at h
        simp at h
      | ok length =>
        rw [hlength] at h
        simp only at h
        obtain ⟨hsome, hlimit⟩ := announcedLength_eq_ok_iff.1 hlength
        rcases hcontent : readContent length length [] behind with ⟨content, left⟩
        rw [hcontent] at h
        cases content with
        | error fault => simp at h
        | ok content =>
          simp only [Prod.mk.injEq, Reading.frame.injEq] at h
          obtain ⟨rfl, rfl⟩ := h
          obtain ⟨body, rfl, hbody, rfl⟩ := readContent_eq_ok_iff.1 hcontent
          obtain rfl : content = body := by simpa using hbody
          refine ⟨content, ?_, hlimit, rfl, rfl⟩
          rw [← hsome]
  · rintro ⟨body, rfl, hlimit, hcontent, hlength⟩
    have hannounced : announcedLength limit ⟨some body.length, frame.contentType⟩ = .ok body.length :=
      announcedLength_eq_ok_iff.2 ⟨rfl, hlimit⟩
    have hread : readContent body.length body.length [] (eventsOf body ++ rest) = (.ok body, rest) :=
      readContent_eq_ok_iff.2 ⟨body, rfl, rfl, rfl⟩
    simp only [afterHeader, hannounced, hread]
    rw [← hlength, ← hcontent]

/-- **Reading accepts exactly the grammar**, whatever follows the frame in the stream. -/
theorem readFrame_eq_frame_iff {limit : Nat} {events rest : List Event} {frame : Frame} :
    readFrame limit events = (.frame frame, rest) ↔
      ∃ lines body, events = eventsOf (lines.flatMap HeaderLine.bytes ++ [13, 10] ++ body) ++ rest ∧
        Says lines body.length frame.contentType ∧ body.length ≤ limit ∧
        frame.content = body ∧ frame.length = body.length := by
  rw [readFrame_eq_afterHeader, afterHeader_eq_frame_iff]
  constructor
  · rintro ⟨body, hheader, hlimit, hcontent, hlength⟩
    obtain ⟨lines, hlines, rfl⟩ := readHeader_eq_complete hheader
    exact ⟨lines, body, by simp, says_iff_withLines.2 hlines, hlimit, hcontent, hlength⟩
  · rintro ⟨lines, body, rfl, hsays, hlimit, hcontent, hlength⟩
    refine ⟨body, ?_, hlimit, hcontent, hlength⟩
    rw [eventsOf_append, List.append_assoc]
    exact readHeader_of_withLines false (says_iff_withLines.1 hsays) (eventsOf body ++ rest)

theorem Says.ne_nil {lines : List HeaderLine} {length : Nat} {contentType : Option String}
    (h : Says lines length contentType) : lines ≠ [] := by
  rintro rfl
  obtain ⟨line, hlast, -⟩ := h.length
  simp [lastNamed] at hlast

/-- **The grammar of a stream of bytes.** A read gives a frame and leaves `r` exactly if the stream
is at least one allowed line, the empty line, a body of the length that the last length line
announces, within the limit, and `r`. -/
theorem readFrame_eventsOf_eq_frame_iff (limit : Nat) (s r : List UInt8) (frame : Frame) :
    readFrame limit (eventsOf s) = (.frame frame, eventsOf r) ↔
      ∃ (lines : List HeaderLine) (body : List UInt8),
        s = lines.flatMap HeaderLine.bytes ++ [13, 10] ++ body ++ r ∧ lines ≠ [] ∧
        Says lines body.length frame.contentType ∧ body.length ≤ limit ∧
        frame.content = body ∧ frame.length = body.length := by
  rw [readFrame_eq_frame_iff]
  constructor
  · rintro ⟨lines, body, hevents, hsays, hrest⟩
    rw [← eventsOf_append, eventsOf_inj] at hevents
    exact ⟨lines, body, hevents, hsays.ne_nil, hsays, hrest⟩
  · rintro ⟨lines, body, rfl, -, hsays, hrest⟩
    exact ⟨lines, body, eventsOf_append _ _, hsays, hrest⟩

end WordServer.Wire
