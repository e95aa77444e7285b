import WordServer.Proofs.Session.Transcript
import WordServer.Proofs.Wire.RoundTrip

/-!
# Raising the content limit

The limit is looked at between the header block and the content: a read under a limit gives what it
gives under a greater one, unless the header block announces more than the limit
(`readFrame_of_limit_le`). Then the read fails behind the block, with no byte of the content read
(`Refuses`).

So a session whose limit is raised serves the same frames first (`Serves.exists_raised`), and if it
was not ended by a frame that is too large, nothing else changes (`Serves.raised`).
`run_of_raised_limit` says both of a whole run.
-/

namespace WordServer

namespace Wire

/-- A fault that only a limit makes. -/
def Fault.IsTooLarge (fault : Fault) : Prop :=
  ∃ length limit, fault = .contentTooLarge length limit

/-- The stream goes on with a header block that announces more than the limit; `behind` is what
follows the block. -/
def Refuses (limit length : Nat) (events behind : List Event) : Prop :=
  ∃ lines contentType, events = eventsOf (lines.flatMap HeaderLine.bytes ++ [13, 10]) ++ behind ∧
    Says lines length contentType ∧ limit < length

/-! ## Faults of a header block -/

theorem lineBody_not_isTooLarge {line : List UInt8} {fault : Fault}
    (h : lineBody line = .error fault) : ¬ fault.IsTooLarge := by
  rintro ⟨length, limit, rfl⟩
  unfold lineBody at h
  split at h <;> simp at h

theorem withLine_not_isTooLarge {header : Header} {line : List UInt8} {fault : Fault}
    (h : header.withLine line = .error fault) : ¬ fault.IsTooLarge := by
  rintro ⟨length, limit, rfl⟩
  unfold Header.withLine at h
  split at h
  · dsimp only at h
    split at h
    · unfold Header.withField at h
      repeat' split at h
      all_goals simp at h
    · simp at h
  · simp at h

/-- No header block is too large by itself. -/
theorem readHeader_not_isTooLarge {started : Bool} {line : List UInt8} {room : Nat}
    {header : Header} {events rest : List Event} {fault : Fault}
    (h : readHeader started line room header events = (.failed fault, rest)) :
    ¬ fault.IsTooLarge := by
  induction events generalizing started line room header with
  | nil =>
    unfold readHeader at h
    split at h
    · simp only [Prod.mk.injEq, HeaderReading.failed.injEq] at h
      rw [← h.1]
      simp [Fault.IsTooLarge]
    · simp at h
  | cons event events ih =>
    cases event with
    | fault reason =>
      simp only [readHeader, Prod.mk.injEq, HeaderReading.failed.injEq] at h
      rw [← h.1]
      simp [Fault.IsTooLarge]
    | byte b =>
      unfold readHeader at h
      split at h
      · split at h
        · rename_i hbody
          simp only [Prod.mk.injEq, HeaderReading.failed.injEq] at h
          exact h.1 ▸ lineBody_not_isTooLarge hbody
        · simp at h
        · split at h
          · rename_i hwith
            simp only [Prod.mk.injEq, HeaderReading.failed.injEq] at h
            exact h.1 ▸ withLine_not_isTooLarge hwith
          · exact ih h
      · exact ih h

theorem readContent_not_isTooLarge {expected missing : Nat} {done : List UInt8}
    {events rest : List Event} {fault : Fault}
    (h : readContent expected missing done events = (.error fault, rest)) :
    ¬ fault.IsTooLarge := by
  induction missing generalizing done events with
  | zero => simp [readContent] at h
  | succ missing ih =>
    cases events with
    | nil =>
      simp only [readContent, Prod.mk.injEq, Except.error.injEq] at h
      rw [← h.1]
      simp [Fault.IsTooLarge]
    | cons event events =>
      cases event with
      | fault reason =>
        simp only [readContent, Prod.mk.injEq, Except.error.injEq] at h
        rw [← h.1]
        simp [Fault.IsTooLarge]
      | byte b => exact ih h

/-! ## One read -/

theorem announcedLength_of_limit_le {limit limit' : Nat} (hlimit : limit ≤ limit')
    (header : Header) :
    announcedLength limit header = announcedLength limit' header ∨
      ∃ length, header.length = some length ∧ limit < length := by
  cases hlength : header.length with
  | none => exact Or.inl (by simp only [announcedLength, hlength])
  | some length =>
    by_cases hlarge : limit < length
    · exact Or.inr ⟨length, rfl, hlarge⟩
    · have hfits : ¬ limit' < length := by omega
      exact Or.inl (by simp only [announcedLength, hlength, if_neg hlarge, if_neg hfits])

theorem refuses_of_readHeader {limit length : Nat} {header : Header} {events behind : List Event}
    (hheader : readHeader false [] lineLimit .empty events = (.complete header, behind))
    (hlength : header.length = some length) (hlarge : limit < length) :
    Refuses limit length events behind := by
  obtain ⟨lines, hlines, hevents⟩ := readHeader_eq_complete hheader
  refine ⟨lines, header.contentType, hevents, ?_, hlarge⟩
  rw [says_iff_withLines, hlines, ← hlength]

theorem readFrame_of_refuses {limit length : Nat} {events behind : List Event}
    (h : Refuses limit length events behind) :
    readFrame limit events = (.failed (.contentTooLarge length limit), behind) := by
  obtain ⟨lines, contentType, rfl, hsays, hlarge⟩ := h
  have hheader := readHeader_of_withLines false (says_iff_withLines.1 hsays) behind
  rw [readFrame_eq_afterHeader, hheader]
  simp only [afterHeader, announcedLength, if_pos hlarge]

/-- **A read under a limit** gives what it gives under a greater one, unless the header block
announces too much. -/
theorem readFrame_of_limit_le {limit limit' : Nat} (hlimit : limit ≤ limit')
    (events : List Event) :
    readFrame limit events = readFrame limit' events ∨
      ∃ length behind, Refuses limit length events behind := by
  simp only [readFrame_eq_afterHeader]
  rcases hheader : readHeader false [] lineLimit .empty events with ⟨result, rest⟩
  cases result with
  | absent => exact Or.inl rfl
  | failed fault => exact Or.inl rfl
  | complete header =>
    rcases announcedLength_of_limit_le hlimit header with hsame | ⟨length, hlength, hlarge⟩
    · exact Or.inl (by simp only [afterHeader, hsame])
    · exact Or.inr ⟨length, rest, refuses_of_readHeader hheader hlength hlarge⟩

theorem readFrame_raised {limit limit' : Nat} (hlimit : limit ≤ limit') {events rest : List Event}
    {reading : Reading} (hread : readFrame limit events = (reading, rest))
    (hreading : ∀ length, reading ≠ .failed (.contentTooLarge length limit)) :
    readFrame limit' events = (reading, rest) := by
  rcases readFrame_of_limit_le hlimit events with hsame | ⟨length, behind, hrefuses⟩
  · rw [← hsame, hread]
  · rw [readFrame_of_refuses hrefuses, Prod.mk.injEq] at hread
    exact absurd hread.1.symm (hreading length)

/-- A read fails for the size of a frame exactly if the header block announces more than the limit,
and it leaves all that is behind the block. -/
theorem readFrame_eq_contentTooLarge_iff {limit length bound : Nat} {events rest : List Event} :
    readFrame limit events = (.failed (.contentTooLarge length bound), rest) ↔
      bound = limit ∧ Refuses limit length events rest := by
  constructor
  · intro h
    rw [readFrame_eq_afterHeader] at h
    rcases hheader : readHeader false [] lineLimit .empty events with ⟨result, behind⟩
    rw [hheader] at h
    cases result with
    | absent => simp [afterHeader] at h
    | failed fault =>
      simp only [afterHeader, Prod.mk.injEq, Reading.failed.injEq] at h
      exact absurd ⟨length, bound, h.1⟩ (readHeader_not_isTooLarge hheader)
    | complete header =>
      cases hlength : header.length with
      | none => simp [afterHeader, announcedLength, hlength] at h
      | some announced =>
        by_cases hlarge : limit < announced
        · simp only [afterHeader, announcedLength, hlength, if_pos hlarge, Prod.mk.injEq,
            Reading.failed.injEq, Fault.contentTooLarge.injEq] at h
          obtain ⟨⟨rfl, rfl⟩, rfl⟩ := h
          exact ⟨rfl, refuses_of_readHeader hheader hlength hlarge⟩
        · simp only [afterHeader, announcedLength, hlength, if_neg hlarge] at h
          rcases hcontent : readContent announced announced [] behind with ⟨content, left⟩
          rw [hcontent] at h
          cases content with
          | error fault =>
            simp only [Prod.mk.injEq, Reading.failed.injEq] at h
            exact absurd ⟨length, bound, h.1⟩ (readContent_not_isTooLarge hcontent)
          | ok content => simp at h
  · rintro ⟨rfl, hrefuses⟩
    exact readFrame_of_refuses hrefuses

/-- A written frame is refused for the size of its payload, which is left. -/
theorem refuses_writeFrame {limit : Nat} {payload : List UInt8} (hlarge : limit < payload.length)
    (hcount : payload.length < Text.countBound) (rest : List Event) :
    Refuses limit payload.length (eventsOf (writeFrame payload) ++ rest)
      (eventsOf payload ++ rest) := by
  refine ⟨[writtenLine payload.length hcount], none, ?_, says_writtenLine hcount, hlarge⟩
  rw [writeFrame_eq hcount, eventsOf_append, List.append_assoc]

end Wire

namespace Session

open Wire (Frame Event readFrame readFrames)

variable {σ : Type}

/-! ## What is served under a greater limit -/

section Raised

variable {protocol : Protocol σ} {limit : Nat} {state : σ} {input unread : List Event}
  {frames : List Frame} {result : Except Wire.Fault Unit}

/-- The frames that are served are within the limit. -/
theorem Serves.length_content_le (h : Serves protocol limit state input frames result unread) :
    ∀ frame ∈ frames, frame.content.length ≤ limit := by
  have hfirst {input rest : List Event} {frame : Frame}
      (hread : readFrame limit input = (.frame frame, rest)) : frame.content.length ≤ limit := by
    obtain ⟨_, body, -, -, hbody, hcontent, -⟩ := Wire.readFrame_eq_frame_iff.1 hread
    rw [hcontent]
    exact hbody
  induction h with
  | endOfStream hread => simp
  | fault hread => simp
  | exit hread hexit => simpa using hfirst hread
  | next hread hgoes _ ih => exact List.forall_mem_cons.2 ⟨hfirst hread, ih⟩

/-- A frame that is too large ends a session behind its header block. -/
theorem Serves.refuses {length bound : Nat}
    (h : Serves protocol limit state input frames (.error (.contentTooLarge length bound)) unread) :
    bound = limit ∧ ∃ rest, readFrames limit frames.length input = (frames.map .frame, rest) ∧
      Wire.Refuses limit length rest unread := by
  obtain ⟨rest, hfirst, -, hends⟩ := h.first
  cases hends with
  | fault _ hread =>
    obtain ⟨hbound, hrefuses⟩ := Wire.readFrame_eq_contentTooLarge_iff.1 hread
    exact ⟨hbound, rest, hfirst, hrefuses⟩

variable {limit' : Nat}

/-- **A greater limit makes no difference** to a session that no frame is too large for. -/
theorem Serves.raised (h : Serves protocol limit state input frames result unread)
    (hlimit : limit ≤ limit')
    (hresult : ∀ length bound, result ≠ .error (.contentTooLarge length bound)) :
    Serves protocol limit' state input frames result unread := by
  induction h with
  | endOfStream hread => exact .endOfStream (Wire.readFrame_raised hlimit hread (by simp))
  | @fault _ _ _ fault hread =>
    refine .fault (Wire.readFrame_raised hlimit hread fun length heq => hresult length limit ?_)
    injection heq with heq
    rw [heq]
  | exit hread hexit => exact .exit (Wire.readFrame_raised hlimit hread (by simp)) hexit
  | next hread hgoes _ ih =>
    exact .next (Wire.readFrame_raised hlimit hread (by simp)) hgoes (ih hresult)

/-- Under a greater limit, the same frames are served first. -/
theorem Serves.exists_raised (h : Serves protocol limit state input frames result unread)
    (hlimit : limit ≤ limit') :
    ∃ more result' unread',
      Serves protocol limit' state input (frames ++ more) result' unread' := by
  induction h with
  | endOfStream _ => exact exists_serves protocol limit' _ _
  | fault _ => exact exists_serves protocol limit' _ _
  | exit hread hexit =>
    exact ⟨[], _, _, .exit (Wire.readFrame_raised hlimit hread (by simp)) hexit⟩
  | next hread hgoes _ ih =>
    obtain ⟨more, result', unread', hmore⟩ := ih
    have hraised := Wire.readFrame_raised hlimit hread (by simp)
    exact ⟨more, result', unread', .next hraised hgoes hmore⟩

end Raised

/-! ## A whole run -/

section Wording

variable [Json.Wording]

/-- What has been written stays in front of what is written later. -/
theorem written_absorb_append (session : Session σ) (frames more : List Frame)
    (unread unread' : List Event) :
    (session.absorb frames unread).written <+: (session.absorb (frames ++ more) unread').written := by
  simp only [absorb, replies_append, List.filterMap_append, List.flatMap_append]
  rw [← List.append_assoc]
  exact List.prefix_append _ _

/-- **Raising the content limit is harmless.** A session that is not ended by a frame that is too
large does the same under a greater limit. One that is has written what it would have written first
under the greater limit; it has handled only frames within its own limit, and stopped behind the
header block of the first frame that is not. -/
theorem run_of_raised_limit (session : Session σ) {limit : Nat} (hlimit : session.limit ≤ limit) :
    let small := session.run
    let large := ({ session with limit } : Session σ).run
    ((∀ length bound, small.1 ≠ .error (.contentTooLarge length bound)) →
      large = (small.1, { small.2 with limit })) ∧
    ∀ length bound, small.1 = .error (.contentTooLarge length bound) →
      small.2.written <+: large.2.written ∧
      ∃ (frames : List Frame) (rest : List Event),
        readFrames session.limit frames.length session.input = (frames.map .frame, rest) ∧
        small.2 = { session.absorb frames small.2.input with phase := .closed } ∧
        (∀ frame ∈ frames, frame.content.length ≤ session.limit) ∧
        bound = session.limit ∧ Wire.Refuses session.limit length rest small.2.input := by
  intro small large
  by_cases hopen : session.phase = .closed
  · have hsmall : small = (.ok (), session) := by simp only [small, run, if_pos hopen]
    have hlarge : large = (.ok (), { session with limit }) := by
      simp only [large, run, if_pos hopen]
    rw [hsmall, hlarge]
    exact ⟨fun _ => rfl, by simp⟩
  · obtain ⟨frames, result, unread, hserves⟩ :=
      exists_serves session.protocol session.limit session.state session.input
    have hsmall : small = (result, { session.absorb frames unread with phase := .closed }) :=
      run_of_serves hopen hserves
    rw [hsmall]
    constructor
    · intro hresult
      exact @run_of_serves σ _ { session with limit } hopen _ _ _ (hserves.raised hlimit hresult)
    · rintro length bound rfl
      obtain ⟨more, result', unread', hmore⟩ := hserves.exists_raised hlimit
      have hlarge : large =
          (result', { ({ session with limit } : Session σ).absorb (frames ++ more) unread' with
            phase := .closed }) :=
        @run_of_serves σ _ { session with limit } hopen _ _ _ hmore
      obtain ⟨hbound, rest, hfirst, hrefuses⟩ := hserves.refuses
      refine ⟨?_, frames, rest, hfirst, rfl, hserves.length_content_le, hbound, hrefuses⟩
      rw [hlarge]
      exact written_absorb_append session frames more unread unread'

end Wording

/-- Of two frames the second is too large under the lower limit. -/
theorem run_of_raised_limit_five :
    let session : Session Unit :=
      { peer := "peer"
        limit := 2
        protocol := ⟨.empty, fun _ => false⟩
        state := ()
        input := Wire.eventsOf
          (Wire.writeFrame [91, 93] ++ Wire.writeFrame [91, 49, 44, 50, 93]) }
    session.limit ≤ 5 ∧ session.run.1 = .error (.contentTooLarge 5 2) ∧
      session.run.2.written <+: ({ session with limit := 5 } : Session Unit).run.2.written ∧
      session.run.2.input = Wire.eventsOf [91, 49, 44, 50, 93] := by
  intro session
  have hrefuses : Wire.Refuses 2 5 (Wire.eventsOf (Wire.writeFrame [91, 49, 44, 50, 93]))
      (Wire.eventsOf [91, 49, 44, 50, 93]) := by
    simpa using @Wire.refuses_writeFrame 2 [91, 49, 44, 50, 93] (by decide) (by decide) []
  have hfirst : readFrame 2 session.input =
      (.frame ⟨2, none, [91, 93]⟩, Wire.eventsOf (Wire.writeFrame [91, 49, 44, 50, 93])) := by
    simp only [session, Wire.eventsOf_append]
    exact Wire.readFrame_writeFrame (by decide) (by decide) _
  have hrun := run_of_serves (show session.phase ≠ .closed by decide)
    (.next hfirst rfl (.fault (Wire.readFrame_of_refuses hrefuses)))
  have hlimit : session.limit ≤ 5 := by decide
  have hresult : session.run.1 = .error (.contentTooLarge 5 2) := by rw [hrun]
  refine ⟨hlimit, hresult, ((run_of_raised_limit session hlimit).2 5 2 hresult).1, ?_⟩
  rw [hrun]
  rfl

end Session

end WordServer
