import WordServer.Proofs.Document.Position

/-!
# The word at a position

The word before a position is read off the whole text in front of it, the line is read off the text
without regard to positions; they agree all the same (`wordBefore?_agrees`). A cut leaves a start of
its line behind the last line feed before it (`CutAt.exists_line`), and the word is an end of that
start, since no line feed is part of a word (`suffix_lastLine`). A character of a word behind the
cut can be passed, and the word grows by it (`window?_of_typed`, `wordBefore?_of_typed`).
-/

namespace WordServer

namespace Text

theorem units_append (first second : List Char) :
    units (first ++ second) = units first + units second := by
  induction first with
  | nil => simp
  | cons c first ih => rw [List.cons_append, units_cons, ih, units_cons, Nat.add_assoc]

/-! ## The line of a cut -/

/-- Behind whole lines, the line with their number begins. -/
theorem splitOn_getElem?_of_isLines {head : List Char} (h : IsLines head) (cs : List Char) :
    ((head ++ cs).splitOn '\n')[head.count '\n']? = some (cs.takeWhile (· ≠ '\n')) := by
  induction head with
  | nil => exact splitOn_getElem?_zero cs
  | cons c head ih =>
    rw [List.cons_append]
    by_cases hfeed : c = '\n'
    · subst hfeed
      rw [List.count_cons_self, splitOn_cons_getElem?_succ, if_pos rfl]
      exact ih ((isLines_cons_iff (.inl rfl)).1 h)
    · have hhead : head ≠ [] := by
        rintro rfl
        rcases h with hnil | hlast
        · cases hnil
        · exact hfeed (by simpa using hlast)
      have hlines : IsLines head := (isLines_cons_iff (.inr hhead)).1 h
      obtain ⟨line, hline⟩ : ∃ line, head.count '\n' = line + 1 := by
        apply Nat.exists_eq_succ_of_ne_zero
        intro hcount
        exact hhead (hlines.eq_nil hcount)
      rw [List.count_cons_of_ne hfeed, hline, splitOn_cons_getElem?_succ, if_neg hfeed, ← hline]
      exact ih hlines

theorem prefix_dropReturn {start rest : List Char}
    (h : start.getLast? = some '\r' → rest ≠ []) : start <+: dropReturn (start ++ rest) := by
  unfold dropReturn
  cases rest with
  | nil =>
    rw [List.append_nil]
    split
    · rename_i hlast
      exact absurd rfl (h hlast)
    · exact List.prefix_rfl
  | cons c rest =>
    split
    · rw [List.dropLast_append_cons]
      exact List.prefix_append _ _
    · exact List.prefix_append _ _

/-- What is behind the last line feed before a cut is a start of the line that is cut. -/
theorem CutAt.exists_line {position : Position} {text before after : List Char}
    (h : CutAt position text before after) :
    ∃ line, (text.splitOn '\n')[position.line]? = some line ∧
      lastLine before <+: dropReturn line := by
  obtain ⟨head, start, rfl, rfl, hcount, hlines, hunits, hfeed, hend⟩ := cutAt_iff_exists.1 h
  have hstart : ∀ c ∈ start, decide (c ≠ '\n') = true := by
    intro c hc
    exact decide_eq_true fun heq => hfeed (heq ▸ hc)
  refine ⟨start ++ after.takeWhile (· ≠ '\n'), ?_, ?_⟩
  · rw [← hcount, splitOn_getElem?_of_isLines hlines, List.takeWhile_append_of_pos hstart]
  · rw [lastLine_append hlines hfeed]
    apply prefix_dropReturn
    intro hlast hnil
    exact hend hlast ((takeWhile_eq_nil_iff_endsLine after).1 hnil)

/-! ## Words within a line -/

theorem ne_feed_of_isWordChar {c : Char} (h : isWordChar c = true) : c ≠ '\n' := by
  rintro rfl
  exact absurd h (by decide)

theorem ne_return_of_isWordChar {c : Char} (h : isWordChar c = true) : c ≠ '\r' := by
  rintro rfl
  exact absurd h (by decide)

/-- An end of a text without a line feed is an end of the last line. -/
theorem suffix_lastLine {word text : List Char} (h : word <:+ text) (hfeed : ∀ c ∈ word, c ≠ '\n') :
    word <:+ lastLine text := by
  obtain ⟨front, rfl⟩ := h
  rw [lastLine, rtakeWhile_append_of_forall fun c hc => decide_eq_true (hfeed c hc)]
  exact List.suffix_append _ _

theorem lastLine_concat {before : List Char} {c : Char} (h : c ≠ '\n') :
    lastLine (before ++ [c]) = lastLine before ++ [c] := by
  apply rtakeWhile_append_of_forall
  intro d hd
  rw [List.mem_singleton.1 hd]
  exact decide_eq_true h

theorem lastWord_concat {before : List Char} {c : Char} (h : isWordChar c = true) :
    lastWord (before ++ [c]) = lastWord before ++ [c] := by
  apply rtakeWhile_append_of_forall
  intro d hd
  rw [List.mem_singleton.1 hd]
  exact h

/-- A character of a word is never part of the end of a line, so a cut before it can be moved behind
it. -/
theorem CutAt.pass {position : Position} {text before after : List Char} {c : Char}
    (h : CutAt position text before (c :: after)) (hc : isWordChar c = true) :
    CutAt ⟨position.line, position.character + unitsOf c⟩ text (before ++ [c]) after := by
  obtain ⟨rfl, hline, hcolumn, -⟩ := h
  have hfeed := ne_feed_of_isWordChar hc
  refine ⟨by simp, ?_, ?_, ?_⟩
  · rw [List.count_append, List.count_singleton, if_neg (by simpa using hfeed), hline]
    rfl
  · rw [lastLine_concat hfeed, units_append, hcolumn]
    rfl
  · intro hlast
    rw [List.getLast?_concat] at hlast
    cases hlast
    exact absurd rfl (ne_return_of_isWordChar hc)

end Text

namespace Document

variable {document : Document} {position : Position} {before after : String}

theorem wordBefore?_of_window? (h : document.window? position = some (before, after)) :
    document.wordBefore? position = some (String.ofList (Text.lastWord before.toList)) := by
  rw [wordBefore?, h]
  rfl

theorem isSome_wordBefore? (document : Document) (position : Position) :
    (document.wordBefore? position).isSome = (document.window? position).isSome := by
  rw [wordBefore?, Option.isSome_map]

theorem exists_line?_of_window? (h : document.window? position = some (before, after)) :
    ∃ body, document.line? position.line = some body ∧
      Text.lastLine before.toList <+: body.toList := by
  have hcut := (window?_eq_some_iff document position before after).1 h
  obtain ⟨line, hline, hprefix⟩ := hcut.exists_line
  refine ⟨String.ofList (Text.dropReturn line), ?_, ?_⟩
  · rw [line?, hline]
    rfl
  · rwa [String.toList_ofList]

/-- Every line begins at a position in the document. -/
theorem isSome_window?_zero (document : Document) (line : Nat) :
    (document.window? ⟨line, 0⟩).isSome ↔ (document.line? line).isSome := by
  rw [window?, Option.isSome_map, Text.isSome_splitPosition_iff, line?, Option.isSome_map]
  constructor
  · rintro ⟨body, hbody, -⟩
    obtain ⟨text, htext, -⟩ := Option.map_eq_some_iff.1 hbody
    exact Option.isSome_of_mem htext
  · intro h
    obtain ⟨text, htext⟩ := Option.isSome_iff_exists.1 h
    exact ⟨Text.dropReturn text, Option.mem_map_of_mem _ htext, Text.reaches_zero _⟩

/-- **The word, the line and the cut at a position agree.** There is a word where there is a cut. It
is the longest that ends at the cut; the line of the position is there, the text between the last
line feed and the cut is its start of as many units as the position has columns, and the word is an
end of that start. There is a cut at the start of a line exactly if there is the line. -/
theorem wordBefore?_agrees (document : Document) (position : Position) :
    (document.wordBefore? position).isSome = (document.window? position).isSome ∧
    (∀ before after word, document.window? position = some (before, after) →
      document.wordBefore? position = some word →
      Text.IsLastWord word.toList before.toList ∧
      ∃ body, document.line? position.line = some body ∧
        Text.lastLine before.toList <+: body.toList ∧
        Text.units (Text.lastLine before.toList) = position.character ∧
        word.toList <:+ Text.lastLine before.toList) ∧
    ((document.window? ⟨position.line, 0⟩).isSome ↔ (document.line? position.line).isSome) := by
  refine ⟨isSome_wordBefore? document position, ?_, isSome_window?_zero document position.line⟩
  intro before after word hwindow hword
  rw [wordBefore?_of_window? hwindow] at hword
  cases hword
  rw [String.toList_ofList]
  have hlast := Text.isLastWord_lastWord before.toList
  have hcut := (window?_eq_some_iff document position before after).1 hwindow
  obtain ⟨body, hbody, hprefix⟩ := exists_line?_of_window? hwindow
  refine ⟨hlast, body, hbody, hprefix, hcut.column_eq, ?_⟩
  apply Text.suffix_lastLine hlast.ends
  intro c hc
  exact Text.ne_feed_of_isWordChar (hlast.isWord c hc)

section Typed

variable {c : Char} (hwindow : document.window? position = some (before, after))
  {rest : List Char} (hafter : after.toList = c :: rest) (hc : Text.isWordChar c = true)

include hwindow hafter hc

theorem window?_of_typed :
    document.window? ⟨position.line, position.character + unitsOf c⟩ =
      some (before.push c, String.ofList rest) := by
  have hcut := (window?_eq_some_iff document position before after).1 hwindow
  rw [hafter] at hcut
  rw [window?_eq_some_iff, String.toList_push, String.toList_ofList]
  exact hcut.pass hc

theorem wordBefore?_of_typed {word : String} (hword : document.wordBefore? position = some word) :
    document.wordBefore? ⟨position.line, position.character + unitsOf c⟩ =
      some (word.push c) := by
  rw [wordBefore?_of_window? hwindow] at hword
  cases hword
  rw [wordBefore?_of_window? (window?_of_typed hwindow hafter hc), Option.some_inj,
    ← String.toList_inj]
  simp only [String.toList_push, String.toList_ofList]
  exact Text.lastWord_concat hc

end Typed

end Document

end WordServer
