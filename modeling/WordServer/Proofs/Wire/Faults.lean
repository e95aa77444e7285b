import WordServer.Proofs.Wire.Grammar

/-!
# Where reading fails

Bytes that are no frame have a first fault. In front of it stand header lines that are good (`Good`);
then there is a bad line (`BadLine`), or an empty line behind which the content is missing, too long or
cut short. `Breaks` says which fault that is and which bytes are left behind it: those behind the bad
line, of which at most `lineLimit` bytes are taken, those behind the empty line, or none.

Every stream of bytes begins with good lines and then with an empty line or a bad one
(`exists_good_lines`), so a read fails exactly as `Breaks` says (`readFrame_eventsOf_eq_failed_iff`).
-/

namespace WordServer.Wire

open HeaderLine

/-- What is wrong with a header line that ends as it should, given without its end. -/
inductive LineFault : List UInt8 → Fault → Prop
  | nonAscii {raw : List UInt8} (h : ∃ b ∈ raw, Charset.isAscii b = false) :
      LineFault raw .nonAsciiHeader
  | noColon {raw : List UInt8} (hne : raw ≠ []) (hascii : ∀ b ∈ raw, Charset.isAscii b = true)
      (hcolon : ':' ∉ Charset.byNumber raw) :
      LineFault raw (.missingColon (String.ofList (Charset.byNumber raw)))
  | badLength (line : HeaderLine) (hname : line.name = "content-length".toList)
      (hvalue : ∀ n, ¬ line.Announces n) :
      LineFault line.raw (.invalidContentLength (String.ofList line.value))

/-- A stream begins with a bad header line: its fault, and the bytes behind it. -/
inductive BadLine : List UInt8 → Fault → List UInt8 → Prop
  | truncated {s : List UInt8} (hfeed : (10 : UInt8) ∉ s.take lineLimit) :
      BadLine s .truncatedHeader (s.drop lineLimit)
  | noReturn {raw : List UInt8} (hfeed : (10 : UInt8) ∉ raw) (hshort : raw.length < lineLimit)
      (hreturn : raw.getLast? ≠ some 13) (rest : List UInt8) :
      BadLine (raw ++ 10 :: rest) .missingCarriageReturn rest
  | faulty {raw : List UInt8} {fault : Fault} (hfeed : (10 : UInt8) ∉ raw)
      (hshort : raw.length ≤ 8190) (h : LineFault raw fault) (rest : List UInt8) :
      BadLine (raw ++ 13 :: 10 :: rest) fault rest

/-- Every length line announces a length. -/
def Good (lines : List HeaderLine) : Prop :=
  ∀ line ∈ lines, line.name = "content-length".toList → ∃ n, line.Announces n

/-- The first fault of bytes that are no frame, and the bytes behind it. -/
inductive Breaks (limit : Nat) : List UInt8 → Fault → List UInt8 → Prop
  | badLine {lines : List HeaderLine} {s rest : List UInt8} {fault : Fault} (hgood : Good lines)
      (hsome : lines ≠ [] ∨ s ≠ []) (h : BadLine s fault rest) :
      Breaks limit (lines.flatMap HeaderLine.bytes ++ s) fault rest
  | noLength {lines : List HeaderLine}
      (h : ∀ line ∈ lines, line.name ≠ "content-length".toList) (rest : List UInt8) :
      Breaks limit (lines.flatMap HeaderLine.bytes ++ [13, 10] ++ rest) .missingContentLength rest
  | tooLarge {lines : List HeaderLine} {length : Nat} {contentType : Option String}
      (hblock : Says lines length contentType) (h : limit < length) (rest : List UInt8) :
      Breaks limit (lines.flatMap HeaderLine.bytes ++ [13, 10] ++ rest)
        (.contentTooLarge length limit) rest
  | short {lines : List HeaderLine} {length : Nat} {contentType : Option String}
      {rest : List UInt8} (hblock : Says lines length contentType) (hlimit : length ≤ limit)
      (h : rest.length < length) :
      Breaks limit (lines.flatMap HeaderLine.bytes ++ [13, 10] ++ rest)
        (.shortRead length rest.length) []

/-! ## Bad lines -/

theorem LineFault.ne_nil {raw : List UInt8} {fault : Fault} (h : LineFault raw fault) : raw ≠ [] := by
  cases h with
  | nonAscii h =>
    obtain ⟨b, hb, -⟩ := h
    exact List.ne_nil_of_mem hb
  | noColon hne => exact hne
  | badLength line => exact line.nonempty

theorem LineFault.withLine {raw : List UInt8} {fault : Fault} (h : LineFault raw fault)
    (header : Header) : header.withLine raw = .error fault := by
  cases h with
  | nonAscii h =>
    obtain ⟨b, hb, hnot⟩ := h
    have hall : ¬ raw.all Charset.isAscii = true := by
      intro hall
      rw [List.all_eq_true.1 hall b hb] at hnot
      cases hnot
    rw [Header.withLine, if_neg hall]
  | noColon _ hascii hcolon =>
    rw [Header.withLine, if_pos (List.all_eq_true.2 hascii)]
    simp only [Text.cutFirst_eq_none_iff.2 hcolon]
  | badLength line hname hvalue =>
    have hread : Text.readBelow Text.countBound line.value = none := by
      rw [Option.eq_none_iff_forall_ne_some]
      intro n hn
      exact hvalue n (readBelow_countBound_iff.1 hn)
    rw [withLine_raw, hname, withField_length, hread]

/-- A line that ends as it should is faulty or good. -/
theorem lineFault_or_good {raw : List UInt8} (hne : raw ≠ []) (hfeed : (10 : UInt8) ∉ raw)
    (hshort : raw.length ≤ 8190) :
    (∃ fault, LineFault raw fault) ∨ ∃ line : HeaderLine, line.raw = raw ∧ Good [line] := by
  by_cases hascii : ∀ b ∈ raw, Charset.isAscii b = true
  · by_cases hcolon : ':' ∈ Charset.byNumber raw
    · obtain ⟨before, after, htext, hfirst⟩ := List.eq_append_cons_of_mem hcolon
      let line : HeaderLine := ⟨raw, before, after, hne, hascii, hfeed, hshort, htext, hfirst⟩
      by_cases hbad : line.name = "content-length".toList ∧ ∀ n, ¬ line.Announces n
      · exact Or.inl ⟨_, .badLength line hbad.1 hbad.2⟩
      · refine Or.inr ⟨line, rfl, ?_⟩
        intro other hother hname
        obtain rfl := List.mem_singleton.1 hother
        by_contra hnone
        exact hbad ⟨hname, fun n hn => hnone ⟨n, hn⟩⟩
    · exact Or.inl ⟨_, .noColon hne hascii hcolon⟩
  · simp only [not_forall, Bool.not_eq_true] at hascii
    obtain ⟨b, hb, hnot⟩ := hascii
    exact Or.inl ⟨_, .nonAscii ⟨b, hb, hnot⟩⟩

theorem lineBody_of_no_return {raw : List UInt8} (h : raw.getLast? ≠ some 13) :
    lineBody (10 :: raw.reverse) = .error .missingCarriageReturn := by
  have hhead : raw.reverse.head? ≠ some 13 := by
    rwa [List.head?_reverse]
  unfold lineBody
  split
  · rename_i heq
    rw [(List.cons.inj heq).2] at hhead
    exact absurd rfl hhead
  · rfl
  · rename_i hnot
    exact absurd rfl (hnot _)

/-- A line without a line feed is read up to the limit or the end. -/
theorem readLine_of_no_feed {s : List UInt8} {room : Nat} (hroom : 0 < room)
    (h : (10 : UInt8) ∉ s.take room) (line : List UInt8) :
    readLine line room (eventsOf s) =
      (.ok ((s.take room).reverse ++ line), eventsOf (s.drop room)) := by
  induction s generalizing room line with
  | nil => simp [readLine]
  | cons b s ih =>
    obtain ⟨more, rfl⟩ : ∃ more, room = more + 1 := ⟨room - 1, by omega⟩
    simp only [List.take_succ_cons, List.mem_cons, not_or] at h
    have hb : ¬ b = 10 := fun heq => h.1 heq.symm
    rw [eventsOf_cons, readLine]
    by_cases hlast : more = 0
    · subst hlast
      simp
    · have hend : ¬ (b = 10 ∨ more + 1 ≤ 1) := by
        rintro (heq | hle)
        · exact hb heq
        · omega
      rw [if_neg hend, Nat.add_sub_cancel, ih (by omega) h.2]
      simp

/-- **A bad line is where the reading of a header block fails**, unless there is nothing at all. -/
theorem BadLine.readHeader {s rest : List UInt8} {fault : Fault} (h : BadLine s fault rest)
    {started : Bool} (hsome : started = true ∨ s ≠ []) (header : Header) :
    readHeader started [] lineLimit header (eventsOf s) = (.failed fault, eventsOf rest) := by
  rw [readHeader_eq_afterLine started (by simp)]
  cases h with
  | truncated hfeed =>
    rw [readLine_of_no_feed (by decide) hfeed, List.append_nil]
    cases hline : (s.take lineLimit).reverse with
    | nil =>
      have hs : s = [] := by
        rw [List.reverse_eq_nil_iff] at hline
        exact (List.take_eq_nil_iff.1 hline).resolve_left (by decide)
      have hstarted : started = true := hsome.resolve_right (fun hne => hne hs)
      simp only [afterLine, hstarted, if_true]
    | cons b line =>
      have hb : b ≠ 10 := by
        rintro rfl
        exact hfeed (List.mem_reverse.1 (hline ▸ List.mem_cons_self))
      simp only [afterLine, lineBody_of_ne hb]
  | noReturn hfeed hshort hreturn =>
    rw [eventsOf_append, eventsOf_cons, readLine_append_feed hfeed [] hshort, List.append_nil]
    simp only [afterLine, lineBody_of_no_return hreturn]
  | @faulty raw _ hfeed hshort hfault =>
    have hsplit : eventsOf (raw ++ 13 :: 10 :: rest) = eventsOf (raw ++ [13, 10]) ++ eventsOf rest := by
      simp
    have hbody : lineBody (10 :: 13 :: raw.reverse) = .ok raw := lineBody_eq_ok_iff.2 rfl
    rw [hsplit, readLine_ended hfeed hshort]
    obtain ⟨c, more, rfl⟩ := List.exists_cons_of_ne_nil hfault.ne_nil
    simp only [afterLine, hbody, hfault.withLine header]

/-! ## Good lines and what follows them -/

theorem Good.cons {line : HeaderLine} {lines : List HeaderLine} (h : Good [line])
    (hlines : Good lines) : Good (line :: lines) := by
  intro other hother
  rcases List.mem_cons.1 hother with rfl | hother
  · exact h other List.mem_cons_self
  · exact hlines other hother

/-- **Every stream of bytes is good lines, and then an empty line or a bad one.** -/
theorem exists_good_lines (s : List UInt8) :
    ∃ lines t, s = lines.flatMap HeaderLine.bytes ++ t ∧ Good lines ∧
      ((∃ rest, t = 13 :: 10 :: rest) ∨ ∃ fault rest, BadLine t fault rest) := by
  have hnil : Good [] := fun line hline => absurd hline List.not_mem_nil
  induction hn : s.length using Nat.strongRecOn generalizing s with
  | ind n ih =>
    subst hn
    by_cases hfeed : (10 : UInt8) ∈ s.take lineLimit
    · obtain ⟨raw, behind, htake, hraw⟩ := List.eq_append_cons_of_mem hfeed
      obtain ⟨rest, rfl, hshort⟩ : ∃ rest, s = raw ++ 10 :: rest ∧ raw.length < lineLimit := by
        refine ⟨behind ++ s.drop lineLimit, ?_, ?_⟩
        · rw [← List.cons_append, ← List.append_assoc, ← htake, List.take_append_drop]
        · have hlength := congrArg List.length htake
          rw [List.length_take, List.length_append, List.length_cons] at hlength
          omega
      by_cases hreturn : raw.getLast? = some 13
      · obtain ⟨body, rfl⟩ := List.getLast?_eq_some_iff.1 hreturn
        have hbody : (10 : UInt8) ∉ body := fun hmem => hraw (List.mem_append_left _ hmem)
        have hlimit : body.length ≤ 8190 := by
          simp only [List.length_append, List.length_cons, List.length_nil, lineLimit] at hshort
          omega
        by_cases hempty : body = []
        · subst hempty
          exact ⟨[], _, rfl, hnil, Or.inl ⟨rest, rfl⟩⟩
        · rcases lineFault_or_good hempty hbody hlimit with ⟨fault, hfault⟩ | ⟨line, rfl, hline⟩
          · exact ⟨[], body ++ 13 :: 10 :: rest, by simp, hnil,
              Or.inr ⟨fault, rest, .faulty hbody hlimit hfault rest⟩⟩
          · obtain ⟨lines, t, rfl, hgood, hnext⟩ := ih rest.length (by simp; omega) rest rfl
            exact ⟨line :: lines, t, by simp [HeaderLine.bytes], hline.cons hgood, hnext⟩
      · exact ⟨[], _, rfl, hnil, Or.inr ⟨_, rest, .noReturn hraw hshort hreturn rest⟩⟩
    · exact ⟨[], s, rfl, hnil, Or.inr ⟨_, _, .truncated hfeed⟩⟩

theorem lastNamed_eq_none_iff {name : String} {lines : List HeaderLine} :
    lastNamed name lines = none ↔ ∀ line ∈ lines, line.name ≠ name.toList := by
  unfold lastNamed
  rw [List.getLast?_eq_none_iff, List.filter_eq_nil_iff]
  simp only [decide_eq_true_eq]

/-- What good lines say: no length if none of them is a length line, and else that of the last. -/
theorem Good.withLines {lines : List HeaderLine} (h : Good lines) :
    ∃ contentType,
      (Header.empty.withLines lines = .ok ⟨none, contentType⟩ ∧
        ∀ line ∈ lines, line.name ≠ "content-length".toList) ∨
      ∃ length, Header.empty.withLines lines = .ok ⟨some length, contentType⟩ ∧
        Says lines length contentType := by
  have hlines := withLines_of_valid h
  refine ⟨(lastNamed "content-type" lines).map fun line => String.ofList line.value, ?_⟩
  cases hlast : lastNamed "content-length" lines with
  | none =>
    rw [hlast] at hlines
    exact Or.inl ⟨hlines, lastNamed_eq_none_iff.1 hlast⟩
  | some line =>
    have hmem := List.mem_filter.1 (List.mem_of_getLast? hlast)
    obtain ⟨length, hannounces⟩ := h line hmem.1 (of_decide_eq_true hmem.2)
    rw [hlast, Option.bind_some, readBelow_countBound_iff.2 hannounces] at hlines
    exact Or.inr ⟨length, hlines, says_iff_withLines.2 hlines⟩

/-! ## Reading -/

/-- What bytes behind a complete header block come to. -/
theorem afterHeader_eventsOf (limit : Nat) (header : Header) (rest : List UInt8) :
    afterHeader limit (.complete header, eventsOf rest) =
      match header.length with
      | none => (.failed .missingContentLength, eventsOf rest)
      | some length =>
        if limit < length then (.failed (.contentTooLarge length limit), eventsOf rest)
        else if rest.length < length then
          (.failed (.shortRead length rest.length), eventsOf [])
        else (.frame ⟨length, header.contentType, rest.take length⟩, eventsOf (rest.drop length)) := by
  cases hlength : header.length with
  | none => simp only [afterHeader, announcedLength, hlength]
  | some length =>
    by_cases hlimit : limit < length
    · simp only [afterHeader, announcedLength, hlength, if_pos hlimit]
    · have hcontent := readContent_append length length [] rest []
      rw [List.append_nil] at hcontent
      simp only [afterHeader, announcedLength, hlength, if_neg hlimit, hcontent]
      by_cases hshort : rest.length < length
      · obtain ⟨more, hmore⟩ : ∃ more, length - rest.length = more + 1 :=
          ⟨length - rest.length - 1, by omega⟩
        rw [if_pos hshort, if_neg (by omega), hmore]
        simp [readContent]
      · rw [if_neg hshort, if_pos (by omega)]
        simp

theorem readFrame_of_complete {limit : Nat} {lines : List HeaderLine} {header : Header}
    (h : Header.empty.withLines lines = .ok header) (rest : List UInt8) :
    readFrame limit (eventsOf (lines.flatMap HeaderLine.bytes ++ [13, 10] ++ rest)) =
      afterHeader limit (.complete header, eventsOf rest) := by
  rw [readFrame_eq_afterHeader, eventsOf_append, readHeader_of_withLines false h]

theorem readFrame_of_badLine {limit : Nat} {lines : List HeaderLine} (hgood : Good lines)
    {s rest : List UInt8} {fault : Fault} (hsome : lines ≠ [] ∨ s ≠ []) (h : BadLine s fault rest) :
    readFrame limit (eventsOf (lines.flatMap HeaderLine.bytes ++ s)) =
      (.failed fault, eventsOf rest) := by
  have hstarted : (false || !lines.isEmpty) = true ∨ s ≠ [] := by
    simpa [List.isEmpty_iff] using hsome
  rw [readFrame_eq_afterHeader, eventsOf_append, readHeader_append_lines false (withLines_of_valid hgood),
    h.readHeader hstarted]
  rfl

/-- A fault is found where it stands. -/
theorem Breaks.readFrame {limit : Nat} {s rest : List UInt8} {fault : Fault}
    (h : Breaks limit s fault rest) :
    readFrame limit (eventsOf s) = (.failed fault, eventsOf rest) := by
  cases h with
  | badLine hgood hsome hline => exact readFrame_of_badLine hgood hsome hline
  | @noLength lines h =>
    have hgood : Good lines := fun line hline hname => absurd hname (h line hline)
    have hlines := withLines_of_valid hgood
    rw [lastNamed_eq_none_iff.2 h] at hlines
    rw [readFrame_of_complete hlines, afterHeader_eventsOf]
    rfl
  | tooLarge hblock h =>
    rw [readFrame_of_complete (says_iff_withLines.1 hblock), afterHeader_eventsOf]
    simp only [if_pos h]
  | short hblock hlimit h =>
    rw [readFrame_of_complete (says_iff_withLines.1 hblock), afterHeader_eventsOf]
    simp only [if_neg (Nat.not_lt.2 hlimit), if_pos h]

/-- Reading bytes gives a frame, or finds that there are none, or finds a fault. -/
theorem frame_or_nil_or_breaks (limit : Nat) (s : List UInt8) :
    (∃ frame rest, readFrame limit (eventsOf s) = (.frame frame, rest)) ∨ s = [] ∨
      ∃ fault rest, Breaks limit s fault rest := by
  obtain ⟨lines, t, rfl, hgood, ⟨rest, rfl⟩ | ⟨fault, rest, hbad⟩⟩ := exists_good_lines s
  · have hsplit : lines.flatMap HeaderLine.bytes ++ 13 :: 10 :: rest =
        lines.flatMap HeaderLine.bytes ++ [13, 10] ++ rest := by
      simp
    rw [hsplit]
    obtain ⟨contentType, ⟨-, hnone⟩ | ⟨length, hlines, hblock⟩⟩ := hgood.withLines
    · exact Or.inr (Or.inr ⟨_, _, .noLength hnone rest⟩)
    · by_cases hlimit : limit < length
      · exact Or.inr (Or.inr ⟨_, _, .tooLarge hblock hlimit rest⟩)
      · by_cases hshort : rest.length < length
        · exact Or.inr (Or.inr ⟨_, _, .short hblock (Nat.not_lt.1 hlimit) hshort⟩)
        · refine Or.inl ⟨⟨length, contentType, rest.take length⟩, eventsOf (rest.drop length), ?_⟩
          rw [readFrame_of_complete hlines, afterHeader_eventsOf]
          simp only [if_neg hlimit, if_neg hshort]
  · by_cases hsome : lines ≠ [] ∨ t ≠ []
    · exact Or.inr (Or.inr ⟨fault, rest, .badLine hgood hsome hbad⟩)
    · simp only [ne_eq, not_or, not_not] at hsome
      exact Or.inr (Or.inl (by simp [hsome.1, hsome.2]))

/-- **A read of bytes fails at their first fault and leaves what is behind it**, and finds no frame
exactly if there are no bytes. -/
theorem readFrame_eventsOf_eq_failed_iff (limit : Nat) (s : List UInt8) :
    (∀ fault rest, readFrame limit (eventsOf s) = (.failed fault, rest) ↔
      ∃ r, rest = eventsOf r ∧ Breaks limit s fault r) ∧
    ((readFrame limit (eventsOf s)).1 = .finished ↔ s = []) := by
  rcases frame_or_nil_or_breaks limit s with ⟨frame, left, hread⟩ | rfl | ⟨fault, left, hbreaks⟩
  · rw [hread]
    refine ⟨fun fault rest => ?_, ?_⟩
    · refine iff_of_false (by simp) ?_
      rintro ⟨r, -, hbreaks⟩
      rw [hbreaks.readFrame] at hread
      cases hread
    · refine iff_of_false (by simp) ?_
      rintro rfl
      cases hread
  · refine ⟨fun fault rest => ?_, iff_of_true rfl rfl⟩
    refine iff_of_false (by simp) ?_
    rintro ⟨r, -, hbreaks⟩
    cases hbreaks.readFrame
  · rw [hbreaks.readFrame]
    refine ⟨fun other rest => ?_, ?_⟩
    · constructor
      · intro h
        cases h
        exact ⟨left, rfl, hbreaks⟩
      · rintro ⟨r, rfl, hother⟩
        rw [← hbreaks.readFrame, hother.readFrame]
    · refine iff_of_false (by simp) ?_
      rintro rfl
      cases hbreaks.readFrame

end WordServer.Wire
