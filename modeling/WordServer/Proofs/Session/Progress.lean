import WordServer.Proofs.Session.Transcript
import WordServer.Proofs.Wire.Progress

/-!
# Sessions end

A turn after which a session goes on has read a frame, and so has left less of the stream
(`loopTurn_goes_on`): the session loop ends on every stream, whatever the protocol makes of the
messages, and the bound on its turns is never used up (`serve_of_endsAfter`). The frames that were
served lie one behind the other in the stream, each with 20 bytes more than its content at least, so
that the stream bounds their number and their size together (`Serves.byteCount_le`).
-/

namespace WordServer.Session

open Wire (Event Frame byteCount eventsOf readFrame readFrames)

variable {σ : Type}

/-! ## What is served -/

/-- The stream holds the contents of the frames that are served, and 20 bytes more for each. -/
theorem Serves.byteCount_le {protocol : Protocol σ} {limit : Nat} {state : σ}
    {input unread : List Event} {frames : List Frame} {result : Except Wire.Fault Unit}
    (h : Serves protocol limit state input frames result unread) :
    20 * frames.length + (frames.flatMap Frame.content).length + byteCount unread ≤
      byteCount input := by
  have hframe : ∀ {frame : Frame} {input rest : List Event},
      readFrame limit input = (.frame frame, rest) →
        20 + frame.content.length + byteCount rest ≤ byteCount input := by
    intro frame input rest hread
    obtain ⟨bytes, rfl, hbytes, hlength⟩ := Wire.readFrame_takes_of_frame hread
    rw [Wire.byteCount_append, Wire.byteCount_eventsOf, hlength]
    omega
  induction h with
  | @endOfStream _ input _ hread =>
    have hsuffix := Wire.readFrame_suffix limit input
    rw [hread] at hsuffix
    simpa using Wire.byteCount_le_of_suffix hsuffix
  | @fault _ input _ _ hread =>
    have hsuffix := Wire.readFrame_suffix limit input
    rw [hread] at hsuffix
    simpa using Wire.byteCount_le_of_suffix hsuffix
  | exit hread hexit =>
    have hfirst := hframe hread
    rw [List.flatMap_singleton, List.length_singleton]
    omega
  | next hread hgoes hrest ih =>
    have hfirst := hframe hread
    rw [List.flatMap_cons, List.length_append, List.length_cons]
    omega

/-! ## The session loop -/

variable [Json.Wording]

/-- A turn of the session loop, which goes on or ends with a result. -/
def loopTurn (session : Session σ) : Session σ ⊕ (Except Wire.Fault Unit × Session σ) :=
  match session.turn with
  | .goesOn session => .inl session
  | .ended result session => .inr (result, session)

theorem serve_succ (turns : Nat) (session : Session σ) :
    serve (turns + 1) session =
      match session.loopTurn with
      | .inl session => serve turns session
      | .inr ending => ending := by
  rw [serve, loopTurn]
  cases session.turn <;> rfl

/-- A turn after which the session goes on has read a frame. -/
theorem loopTurn_goes_on {session after : Session σ} (h : session.loopTurn = .inl after) :
    after.input.length < session.input.length := by
  rw [loopTurn, turn_eq] at h
  rcases hread : readFrame session.limit session.input with ⟨reading, rest⟩
  rw [hread] at h
  cases reading with
  | finished => cases h
  | failed fault => cases h
  | frame frame =>
    simp only at h
    split at h
    · rename_i hgoes
      cases h
      split at hgoes
      · cases hgoes
      · cases hgoes
        rw [handle_eq_absorb]
        exact Wire.length_lt_of_readFrame hread
    · cases h

/-- **The session loop ends**, after at most one turn more than there are events. -/
theorem loop_ends (session : Session σ) :
    ∃ turns ending, turns ≤ session.input.length + 1 ∧ EndsAfter loopTurn turns session ending :=
  @exists_endsAfter _ _ loopTurn (fun _ => True) (fun session => session.input.length)
    (fun _ _ _ hturn => ⟨trivial, loopTurn_goes_on hturn⟩) session trivial

/-- With the turns that it needs, or more, serving is the session loop. -/
theorem serve_of_endsAfter {turns bound : Nat} {session : Session σ}
    {ending : Except Wire.Fault Unit × Session σ} (h : EndsAfter loopTurn turns session ending)
    (hbound : turns ≤ bound) : serve bound session = ending := by
  induction h generalizing bound with
  | stop hturn =>
    obtain ⟨more, rfl⟩ : ∃ more, bound = more + 1 := ⟨bound - 1, by omega⟩
    rw [serve_succ, hturn]
  | next hturn _ ih =>
    obtain ⟨more, rfl⟩ : ∃ more, bound = more + 1 := ⟨bound - 1, by omega⟩
    rw [serve_succ, hturn]
    exact ih (by omega)

/-- **A run is the session loop**, behind which the session is closed. -/
theorem run_ends {session : Session σ} (hopen : session.phase ≠ .closed) :
    ∃ turns last, turns ≤ session.input.length + 1 ∧
      EndsAfter loopTurn turns { session with phase := .serving } (session.run.1, last) ∧
      session.run.2 = { last with phase := .closed } := by
  obtain ⟨turns, ⟨result, last⟩, hturns, hends⟩ := loop_ends { session with phase := .serving }
  have hrun : session.run = (result, { last with phase := .closed }) := by
    rw [run, if_neg hopen, serve_of_endsAfter hends hturns]
  rw [hrun]
  exact ⟨turns, last, hturns, hends, rfl⟩

/-! ## A whole run -/

/-- The frames that a run has counted are the first of the stream, and small enough to stand there
together. -/
theorem frames_of_run {session : Session σ} (hopen : session.phase ≠ .closed) :
    ∃ (frames : List Frame) (rest : List Event),
      readFrames session.limit frames.length session.input = (frames.map .frame, rest) ∧
      session.run.2.stats.frames = session.stats.frames + frames.length ∧
      20 * frames.length + (frames.flatMap Frame.content).length ≤ byteCount session.input := by
  obtain ⟨frames, result, unread, hserves⟩ :=
    exists_serves session.protocol session.limit session.state session.input
  obtain ⟨rest, hfirst, -, -⟩ := hserves.first
  have hbytes := hserves.byteCount_le
  refine ⟨frames, rest, hfirst, ?_, by omega⟩
  rw [run_of_serves hopen hserves]
  rfl

/-- **Reading and serving make progress, and end.** Whatever calls of a reader have left of a
delivery, the next call takes a byte or a failure of the stream unless it reports the end, and a call
that gives a frame takes the bytes of its content and 20 more at least; its header loop ends within
as many turns as the reader allows; and once nothing is left every further call reports the end. The
loop of a session ends, after at most one turn more than there are events, whatever its protocol is,
and a run is that loop; the frames that it has counted are frames of the stream, which has 20 bytes
for each of them besides their contents. -/
theorem ends_on_every_input :
    (∀ (delivery : Wire.Delivery) (capacity limit count : Nat),
      let source := ((Wire.Buffered.ofDelivery capacity delivery).readFrames limit count).2
      let outcome := source.readFrame limit
      (outcome.1 ≠ .finished → ∃ taken, taken ≠ [] ∧ source.events = taken ++ outcome.2.events) ∧
      (∀ frame, outcome.1 = .frame frame →
        ∃ bytes, source.events = eventsOf bytes ++ outcome.2.events ∧
          20 + frame.length ≤ bytes.length) ∧
      (∃ turns ending, turns ≤ source.lineBound ∧
        EndsAfter Wire.Buffered.headerTurn turns (false, .empty, source) ending ∧
        ∀ lines, turns ≤ lines → source.readHeader lines false .empty = ending) ∧
      (source.events = [] →
        ∀ more, (source.readFrames limit more).1 = List.replicate more .finished)) ∧
    ∀ (σ : Type) (peer : String) (limit : Nat) (protocol : Protocol σ) (state : σ)
      (input : List Event),
      let session : Session σ := { peer, limit, protocol, state, input }
      let after := session.run.2
      (∃ turns last, turns ≤ input.length + 1 ∧
        EndsAfter loopTurn turns { session with phase := .serving } (session.run.1, last) ∧
        after = { last with phase := .closed }) ∧
      ∃ (frames : List Frame) (rest : List Event),
        readFrames limit frames.length input = (frames.map .frame, rest) ∧
        after.stats.frames = frames.length ∧
        20 * after.stats.frames + (frames.flatMap Frame.content).length ≤
          byteCount input := by
  constructor
  · intro delivery capacity limit count source outcome
    have hcapacity : 0 < source.capacity :=
      (Wire.Buffered.readFrames_agrees limit count
        (Wire.Buffered.ofDelivery_capacity_pos capacity delivery)).capacity
    have hagrees : Wire.Buffered.Agrees outcome (readFrame limit source.events) :=
      Wire.Buffered.readFrame_agrees limit hcapacity
    have hread : readFrame limit source.events = (outcome.1, outcome.2.events) :=
      Prod.ext hagrees.result.symm hagrees.left.symm
    refine ⟨Wire.readFrame_takes hread, ?_, ?_, ?_⟩
    · intro frame hframe
      rw [hframe] at hread
      obtain ⟨bytes, hevents, hbytes, -⟩ := Wire.readFrame_takes_of_frame hread
      exact ⟨bytes, hevents, hbytes⟩
    · obtain ⟨turns, ending, hturns, hends⟩ :=
        Wire.Buffered.headerLoop_ends false .empty hcapacity
      exact ⟨turns, ending, hturns, hends,
        fun lines hlines => Wire.Buffered.readHeader_of_endsAfter hends hlines⟩
    · intro hevents more
      exact Wire.Buffered.readFrames_of_exhausted hcapacity hevents limit more
  · intro σ peer limit protocol state input session after
    have hopen : session.phase ≠ .closed := nofun
    refine ⟨run_ends hopen, ?_⟩
    obtain ⟨frames, rest, hfirst, hcount, hbytes⟩ := frames_of_run hopen
    have hserved : after.stats.frames = frames.length := hcount.trans (Nat.zero_add _)
    refine ⟨frames, rest, hfirst, hserved, ?_⟩
    rw [hserved]
    exact hbytes

end WordServer.Session
