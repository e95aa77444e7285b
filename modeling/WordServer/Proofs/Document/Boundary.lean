import WordServer.Proofs.Document.Position

/-!
# Positions and the boundaries between characters

Every place between two characters of a document is at one position, except the places inside the
end of a line, behind a carriage return that a line feed or the end of the text follows
(`SplitsLineEnd`), which are at none. The position is read off the text before the place: its line
feeds, and the units behind the last of them (`placeAfter`). So positions in the document and such
places are in one-to-one correspondence, and a position is outside of the document for one of the
three reasons of `Outside`. `window?_exact` says all of this together.
-/

namespace WordServer

namespace Text

/-- A place inside the end of a line. -/
def SplitsLineEnd (before after : List Char) : Prop :=
  before.getLast? = some '\r' ∧ EndsLine after

/-- The line and the column behind a text. -/
def placeAfter (before : List Char) : Position :=
  ⟨before.count '\n', units (lastLine before)⟩

theorem cutAt_iff {position : Position} {text before after : List Char} :
    CutAt position text before after ↔
      before ++ after = text ∧ position = placeAfter before ∧ ¬ SplitsLineEnd before after := by
  constructor
  · rintro ⟨hwhole, hline, hcolumn, hend⟩
    refine ⟨hwhole, ?_, ?_⟩
    · rw [placeAfter, hline, hcolumn]
    · rintro ⟨hlast, hends⟩
      exact hend hlast hends
  · rintro ⟨hwhole, rfl, hend⟩
    exact ⟨hwhole, rfl, rfl, fun hlast hends => hend ⟨hlast, hends⟩⟩

/-- There is one line more than there are line feeds. -/
theorem length_splitOn_feed (cs : List Char) : (cs.splitOn '\n').length = cs.count '\n' + 1 := by
  induction cs with
  | nil => simp
  | cons c cs ih =>
    rw [List.splitOn_eq_splitOnP] at ih ⊢
    rw [List.splitOnP_cons_eq_if_modifyHead]
    by_cases hfeed : c = '\n'
    · subst hfeed
      rw [if_pos (by decide), List.length_cons, ih, List.count_cons_self]
    · rw [if_neg (by simpa using hfeed), List.length_modifyHead, ih, List.count_cons_of_ne hfeed]

end Text

namespace Document

variable {document : Document} {position : Position}

/-- The positions outside of a document. -/
inductive Outside (document : Document) (position : Position) : Prop
  | pastLastLine (h : document.text.toList.count '\n' < position.line)
  | pastLineEnd {body : String} (hline : document.line? position.line = some body)
      (h : Text.units body.toList < position.character)
  | insideCharacter {body : String} (hline : document.line? position.line = some body)
      (h : Text.Halves position.character body.toList)

theorem line?_eq_none_iff {n : Nat} :
    document.line? n = none ↔ document.text.toList.count '\n' < n := by
  rw [line?, Option.map_eq_none_iff, List.getElem?_eq_none_iff, Text.length_splitOn_feed]
  omega

theorem excludes_iff_outside : document.Excludes position ↔ document.Outside position := by
  constructor
  · intro h
    cases hline : document.line? position.line with
    | none => exact .pastLastLine (line?_eq_none_iff.1 hline)
    | some body =>
      rcases h body hline with hpast | hhalf
      · exact .pastLineEnd hline hpast
      · exact .insideCharacter hline hhalf
  · intro h body hbody
    cases h with
    | pastLastLine hpast =>
      rw [line?_eq_none_iff.2 hpast] at hbody
      cases hbody
    | pastLineEnd hline hpast =>
      cases hline.symm.trans hbody
      exact .inl hpast
    | insideCharacter hline hhalf =>
      cases hline.symm.trans hbody
      exact .inr hhalf

theorem window?_eq_some_iff_placeAfter {before after : String} :
    document.window? position = some (before, after) ↔
      before ++ after = document.text ∧ position = Text.placeAfter before.toList ∧
        ¬ Text.SplitsLineEnd before.toList after.toList := by
  rw [window?_eq_some_iff, Text.cutAt_iff, ← String.toList_append, String.toList_inj]

/-- A cut is at no position but one. -/
theorem eq_of_window?_eq {other : Position} (hinside : (document.window? position).isSome)
    (hsame : document.window? position = document.window? other) : position = other := by
  obtain ⟨⟨before, after⟩, hcut⟩ := Option.isSome_iff_exists.1 hinside
  have hplace := (window?_eq_some_iff_placeAfter.1 hcut).2.1
  rw [hsame] at hcut
  have hother := (window?_eq_some_iff_placeAfter.1 hcut).2.1
  rw [hplace, hother]

theorem existsUnique_position_iff {before after : String}
    (hwhole : before ++ after = document.text) :
    (∃! position, document.window? position = some (before, after)) ↔
      ¬ Text.SplitsLineEnd before.toList after.toList := by
  constructor
  · rintro ⟨position, hcut, -⟩
    exact (window?_eq_some_iff_placeAfter.1 hcut).2.2
  · intro hend
    refine ⟨Text.placeAfter before.toList, ?_, ?_⟩
    · exact window?_eq_some_iff_placeAfter.2 ⟨hwhole, rfl, hend⟩
    · intro position hcut
      exact (window?_eq_some_iff_placeAfter.1 hcut).2.1

/-- **Positions are exact.** A document is cut at a position exactly where as many line feeds stand
before the cut as the position has lines, as many units behind the last of them as it has columns,
and no carriage return that ends its line. So different positions in the document give different
cuts, every place between two characters that is not inside the end of a line is reached by exactly
one position, and there is no cut exactly at the positions past the last line, past the end of
their line without its carriage return, or between the two halves of a character. -/
theorem window?_exact (document : Document) :
    (∀ position before after, document.window? position = some (before, after) ↔
      Text.CutAt position document.text.toList before.toList after.toList) ∧
    (∀ position other, (document.window? position).isSome →
      document.window? position = document.window? other → position = other) ∧
    (∀ before after, before ++ after = document.text →
      ((∃! position, document.window? position = some (before, after)) ↔
        ¬ Text.SplitsLineEnd before.toList after.toList)) ∧
    ∀ position, document.window? position = none ↔ document.Outside position := by
  refine ⟨?_, ?_, ?_, ?_⟩
  · intro position before after
    exact window?_eq_some_iff document position before after
  · intro position other hinside hsame
    exact eq_of_window?_eq hinside hsame
  · intro before after hwhole
    exact existsUnique_position_iff hwhole
  · intro position
    rw [window?_eq_none_iff, excludes_iff_outside]

/-- Between the units of a character, and past the end of a line, no window is cut. -/
example :
    let document : Document := ⟨"x\r\n😀é\r", 1⟩
    document.window? ⟨0, 1⟩ = some ("x", "\r\n😀é\r") ∧ document.window? ⟨0, 2⟩ = none ∧
      document.window? ⟨1, 1⟩ = none ∧ document.window? ⟨1, 2⟩ = some ("x\r\n😀", "é\r") := by
  decide +kernel

end Document

end WordServer
