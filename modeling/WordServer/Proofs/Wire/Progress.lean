import WordServer.Proofs.Wire.Buffering
import WordServer.Proofs.Wire.Grammar

/-!
# Reading makes progress

A loop whose turns go on or stop comes to its end if every turn that goes on leaves less
(`exists_endsAfter`). The header loop is such a loop: a line that does not end the block has taken at
least one event (`headerTurn_goes_on`), so the loop ends after at most one turn more than there are
events (`headerLoop_ends`), and the bound on its lines is never used up (`readHeader_of_endsAfter`).

A read takes something unless it reports the end of the stream (`readFrame_takes`), and a frame takes
at least the bytes of its content and the 20 of the shortest header
(`readFrame_takes_of_frame`): `Content-Length`, a colon, a digit, and two line ends.
-/

namespace WordServer

/-! ## Loops -/

/-- How a loop ends, each turn of which goes on or stops: the number of turns, and what the last of
them gives. -/
inductive EndsAfter {α β : Type} (turn : α → α ⊕ β) : Nat → α → β → Prop
  | stop {state : α} {ending : β} (hturn : turn state = .inr ending) : EndsAfter turn 1 state ending
  | next {turns : Nat} {state after : α} {ending : β} (hturn : turn state = .inl after)
      (hrest : EndsAfter turn turns after ending) : EndsAfter turn (turns + 1) state ending

/-- **A loop ends if each turn that goes on leaves less**, in the states that its turns keep to. -/
theorem exists_endsAfter {α β : Type} {turn : α → α ⊕ β} {Keeps : α → Prop} {size : α → Nat}
    (hturn : ∀ state after, Keeps state → turn state = .inl after →
      Keeps after ∧ size after < size state) {state : α} (hstate : Keeps state) :
    ∃ turns ending, turns ≤ size state + 1 ∧ EndsAfter turn turns state ending := by
  induction hn : size state using Nat.strongRecOn generalizing state with
  | ind n ih =>
    cases hstep : turn state with
    | inr ending => exact ⟨1, ending, by omega, .stop hstep⟩
    | inl after =>
      obtain ⟨hafter, hless⟩ := hturn state after hstate hstep
      obtain ⟨turns, ending, hturns, hends⟩ := ih (size after) (hn ▸ hless) hafter rfl
      exact ⟨turns + 1, ending, by omega, .next hstep hends⟩

namespace Wire

/-! ## What a read takes -/

/-- **A read takes an event**, unless it reports the end of the stream. -/
theorem readFrame_takes {limit : Nat} {events rest : List Event} {reading : Reading}
    (h : readFrame limit events = (reading, rest)) (hreading : reading ≠ .finished) :
    ∃ taken, taken ≠ [] ∧ events = taken ++ rest := by
  cases events with
  | nil =>
    rw [readFrame_nil] at h
    cases h
    exact absurd rfl hreading
  | cons event events =>
    have hsuffix := readFrame_cons_suffix limit event events
    rw [h] at hsuffix
    obtain ⟨taken, htaken⟩ := hsuffix
    exact ⟨event :: taken, List.cons_ne_nil event taken, by rw [List.cons_append, htaken]⟩

/-- A line that announces a length has its name, the colon, a digit and its end. -/
theorem HeaderLine.length_bytes_ge {line : HeaderLine} (hname : line.name = "content-length".toList)
    {n : Nat} (h : line.Announces n) : 18 ≤ line.bytes.length := by
  have hbefore : 14 ≤ line.before.length := by
    have hlength := congrArg List.length hname
    rw [HeaderLine.name, Text.length_lower] at hlength
    have htrim := Text.length_trim_le line.before
    have hchars : "content-length".toList.length = 14 := rfl
    omega
  have hafter : 1 ≤ line.after.length := by
    obtain ⟨digits, hvalue, hne, -⟩ := h.1
    have hpos : 0 < line.value.length := by
      have hdigits := List.length_pos_iff.2 hne
      rcases hvalue with hvalue | hvalue
      · rwa [hvalue]
      · rw [hvalue]
        exact Nat.succ_pos _
    exact Nat.lt_of_lt_of_le hpos (Text.length_trim_le line.after)
  have hraw : line.raw.length = line.before.length + (line.after.length + 1) := by
    have hlength := congrArg List.length line.text
    rwa [Charset.byNumber, List.length_map, List.length_append, List.length_cons] at hlength
  rw [HeaderLine.bytes, List.length_append, hraw]
  simp only [List.length_cons, List.length_nil]
  omega

theorem Says.length_bytes_ge {lines : List HeaderLine} {length : Nat} {contentType : Option String}
    (h : Says lines length contentType) : 18 ≤ (lines.flatMap HeaderLine.bytes).length := by
  obtain ⟨line, hlast, hannounces⟩ := h.length
  obtain ⟨hline, hname⟩ := List.mem_filter.1 (List.mem_of_getLast? hlast)
  have hbytes := HeaderLine.length_bytes_ge (of_decide_eq_true hname) hannounces
  obtain ⟨front, back, rfl⟩ := List.append_of_mem hline
  rw [List.flatMap_append, List.flatMap_cons, List.length_append, List.length_append]
  omega

/-- **A frame takes its content and 20 bytes more**, at least, and they stand together. -/
theorem readFrame_takes_of_frame {limit : Nat} {events rest : List Event} {frame : Frame}
    (h : readFrame limit events = (.frame frame, rest)) :
    ∃ bytes, events = eventsOf bytes ++ rest ∧ 20 + frame.length ≤ bytes.length ∧
      frame.content.length = frame.length := by
  obtain ⟨lines, body, hevents, hsays, -, hcontent, hlength⟩ := readFrame_eq_frame_iff.1 h
  refine ⟨_, hevents, ?_, ?_⟩
  · have hlines := hsays.length_bytes_ge
    simp only [List.length_append, List.length_cons, List.length_nil]
    omega
  · rw [hcontent, hlength]

/-- The number of bytes in a stream, without its failures. -/
def byteCount (events : List Event) : Nat :=
  events.countP fun event => event matches .byte _

@[simp] theorem byteCount_append (front back : List Event) :
    byteCount (front ++ back) = byteCount front + byteCount back :=
  List.countP_append

@[simp] theorem byteCount_eventsOf (bytes : List UInt8) :
    byteCount (eventsOf bytes) = bytes.length := by
  rw [← length_eventsOf, byteCount, List.countP_eq_length]
  intro event hevent
  obtain ⟨b, -, rfl⟩ := List.mem_map.1 hevent
  rfl

theorem byteCount_le_of_suffix {rest events : List Event} (h : rest <:+ events) :
    byteCount rest ≤ byteCount events :=
  h.sublist.countP_le

theorem readFrames_nil (limit count : Nat) :
    readFrames limit count [] = (List.replicate count .finished, []) := by
  induction count with
  | zero => rfl
  | succ count ih =>
    simp only [readFrames, readFrame_nil, ih, List.replicate_succ]

namespace Buffered

/-! ## The header loop -/

/-- A turn of the header loop: the next line is read, and the block goes on behind it or ends. -/
def headerTurn : Bool × Header × Buffered →
    (Bool × Header × Buffered) ⊕ (HeaderReading × Buffered)
  | (started, header, source) =>
    match source.readLine lineLimit [] lineLimit with
    | (.error reason, source) => .inr (.failed (.stream reason), source)
    | (.ok [], source) => .inr (if started then .failed .truncatedHeader else .absent, source)
    | (.ok line, source) =>
      match lineBody line with
      | .error fault => .inr (.failed fault, source)
      | .ok [] => .inr (.complete header, source)
      | .ok body =>
        match header.withLine body with
        | .error fault => .inr (.failed fault, source)
        | .ok header => .inl (true, header, source)

/-- The header loop takes turns, as long as its bound on lines allows. -/
theorem readHeader_succ (lines : Nat) (started : Bool) (header : Header) (source : Buffered) :
    source.readHeader (lines + 1) started header =
      match headerTurn (started, header, source) with
      | .inl (started, header, source) => source.readHeader lines started header
      | .inr ending => ending := by
  rw [readHeader, headerTurn]
  rcases source.readLine lineLimit [] lineLimit with ⟨line, next⟩
  cases line with
  | error reason => rfl
  | ok line =>
    cases line with
    | nil => rfl
    | cons b line =>
      simp only
      cases lineBody (b :: line) with
      | error fault => rfl
      | ok body =>
        cases body with
        | nil => rfl
        | cons c body =>
          simp only
          cases header.withLine (c :: body) <;> rfl

/-- A line behind which the block goes on has taken an event. -/
theorem headerTurn_goes_on {state after : Bool × Header × Buffered}
    (hcapacity : 0 < state.2.2.capacity) (h : headerTurn state = .inl after) :
    0 < after.2.2.capacity ∧ after.2.2.events.length < state.2.2.events.length := by
  obtain ⟨started, header, source⟩ := state
  have hroom : 0 < lineLimit := by decide
  have hline := readLine_agrees hroom (Nat.le_refl lineLimit) [] hcapacity
  rcases hread : Wire.readLine [] lineLimit source.events with ⟨result, rest⟩
  rw [headerTurn] at h
  rw [hread] at hline
  generalize source.readLine lineLimit [] lineLimit = outcome at hline h
  obtain ⟨result', next⟩ := outcome
  obtain ⟨rfl, rfl, hcap⟩ := hline
  cases result' with
  | error reason => cases h
  | ok line =>
    cases line with
    | nil => cases h
    | cons b line =>
      simp only at h
      cases hbody : lineBody (b :: line) with
      | error fault =>
        rw [hbody] at h
        cases h
      | ok body =>
        rw [hbody] at h
        cases body with
        | nil => cases h
        | cons c body =>
          simp only at h
          cases hwith : header.withLine (c :: body) with
          | error fault =>
            rw [hwith] at h
            cases h
          | ok header' =>
            rw [hwith] at h
            cases h
            exact ⟨hcap, length_lt_of_readLine hread⟩

/-- **The header loop ends**, after at most one turn more than there are events. -/
theorem headerLoop_ends (started : Bool) (header : Header) {source : Buffered}
    (hcapacity : 0 < source.capacity) :
    ∃ turns ending, turns ≤ source.lineBound ∧
      EndsAfter headerTurn turns (started, header, source) ending :=
  @exists_endsAfter _ _ headerTurn (fun state => 0 < state.2.2.capacity)
    (fun state => state.2.2.events.length) (fun _ _ => headerTurn_goes_on)
    (started, header, source) hcapacity

/-- With the turns that it needs, or more, the reader of a header block is the header loop. -/
theorem readHeader_of_endsAfter {turns lines : Nat} {started : Bool} {header : Header}
    {source : Buffered} {ending : HeaderReading × Buffered}
    (h : EndsAfter headerTurn turns (started, header, source) ending) (hlines : turns ≤ lines) :
    source.readHeader lines started header = ending := by
  obtain ⟨state, hstate⟩ : ∃ state, state = (started, header, source) := ⟨_, rfl⟩
  rw [← hstate] at h
  induction h generalizing lines started header source with
  | stop hturn =>
    subst hstate
    obtain ⟨more, rfl⟩ : ∃ more, lines = more + 1 := ⟨lines - 1, by omega⟩
    rw [readHeader_succ, hturn]
  | @next turns state after ending hturn hrest ih =>
    subst hstate
    obtain ⟨more, rfl⟩ : ∃ more, lines = more + 1 := ⟨lines - 1, by omega⟩
    obtain ⟨started', header', source'⟩ := after
    rw [readHeader_succ, hturn]
    exact ih (by omega) rfl

/-- Once nothing is left to be read, every call reports the end of the stream. -/
theorem readFrames_of_exhausted {source : Buffered} (hcapacity : 0 < source.capacity)
    (hevents : source.events = []) (limit count : Nat) :
    (source.readFrames limit count).1 = List.replicate count .finished := by
  rw [(readFrames_agrees limit count hcapacity).result, hevents, readFrames_nil]

end Buffered

end Wire

end WordServer
