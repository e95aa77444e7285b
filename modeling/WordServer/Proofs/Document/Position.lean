import Mathlib.Data.List.DropRight
import WordServer.Document

/-!
# Positions in a document

A position is a place where the text can be cut: `CutAt` says how many line feeds stand before the
cut, how many UTF-16 units behind the last of them, and that the cut is not inside the end of a
line. A document gives exactly the cut at a position (`window?_eq_some_iff`), and none where the
line is past the last, the column past the end of the line, or between two halves of a character
(`window?_eq_none_iff`). The word before a cut is the longest that ends there
(`isLastWord_lastWord`).
-/

namespace WordServer

namespace Text

/-- The number of UTF-16 code units of a text. -/
def units : List Char → Nat
  | [] => 0
  | c :: cs => unitsOf c + units cs

@[simp] theorem units_nil : units [] = 0 := rfl

@[simp] theorem units_cons (c : Char) (cs : List Char) :
    units (c :: cs) = unitsOf c + units cs := rfl

theorem unitsOf_pos (c : Char) : 0 < unitsOf c := by
  unfold unitsOf
  split <;> omega

theorem eq_nil_of_units_eq_zero {cs : List Char} (h : units cs = 0) : cs = [] := by
  cases cs with
  | nil => rfl
  | cons c cs =>
    have hc := unitsOf_pos c
    rw [units_cons] at h
    omega

/-- The text behind a line: nothing, or what begins with a line feed. -/
def EndsLine (after : List Char) : Prop := after = [] ∨ after.head? = some '\n'

theorem atLineEnd_cons_iff (c : Char) (rest : List Char) :
    atLineEnd (c :: rest) = true ↔ c = '\n' ∨ c = '\r' ∧ EndsLine rest := by
  unfold atLineEnd EndsLine
  split
  · simp_all
  · simp_all
  · simp_all
  · simp_all
  · rename_i hreturn hend
    cases rest with
    | nil => simp_all
    | cons d rest => simp_all

/-- The start of a line up to a column; a carriage return that belongs to the end of the line is not
passed. -/
structure InLine (column : Nat) (start after : List Char) : Prop where
  units_eq : units start = column
  noFeed : '\n' ∉ start
  beforeEnd : start.getLast? = some '\r' → ¬ EndsLine after

theorem inLine_zero_iff {start after : List Char} : InLine 0 start after ↔ start = [] := by
  constructor
  · intro h
    exact eq_nil_of_units_eq_zero h.units_eq
  · rintro rfl
    exact ⟨rfl, by simp, by simp⟩

theorem inLine_cons_iff {column : Nat} {c : Char} {start after : List Char} :
    InLine column (c :: start) after ↔
      atLineEnd (c :: (start ++ after)) = false ∧ unitsOf c ≤ column ∧
        InLine (column - unitsOf c) start after := by
  rw [← Bool.not_eq_true, atLineEnd_cons_iff]
  constructor
  · intro h
    have hunits := h.units_eq
    have hfeed := h.noFeed
    have hend := h.beforeEnd
    rw [units_cons] at hunits
    rw [List.mem_cons, not_or] at hfeed
    refine ⟨?_, by omega, by omega, hfeed.2, ?_⟩
    · rintro (rfl | ⟨rfl, hends⟩)
      · exact hfeed.1 rfl
      · cases start with
        | nil => exact hend rfl hends
        | cons d start =>
          rcases hends with hnil | hhead
          · cases hnil
          · cases hhead
            exact hfeed.2 List.mem_cons_self
    · intro hlast
      apply hend
      rw [List.getLast?_cons, hlast]
      rfl
  · rintro ⟨hnot, hle, hline⟩
    obtain ⟨hunits, hfeed, hend⟩ := hline
    refine ⟨by rw [units_cons]; omega, ?_, ?_⟩
    · rw [List.mem_cons, not_or]
      exact ⟨fun hc => hnot (.inl hc.symm), hfeed⟩
    · intro hlast hends
      cases start with
      | nil =>
        cases hlast
        exact hnot (.inr ⟨rfl, hends⟩)
      | cons d start =>
        rw [List.getLast?_cons_cons] at hlast
        exact hend hlast hends

theorem splitColumn_eq_some_iff {done : List Char} {column : Nat} {cs before after : List Char} :
    splitColumn done column cs = some (before, after) ↔
      ∃ start, cs = start ++ after ∧ before = done.reverse ++ start ∧ InLine column start after := by
  induction cs generalizing done column with
  | nil =>
    cases column with
    | zero => simp [splitColumn, inLine_zero_iff, eq_comm, and_comm]
    | succ column =>
      simp only [splitColumn, reduceCtorEq, false_iff]
      rintro ⟨start, hnil, -, hline⟩
      obtain ⟨rfl, rfl⟩ := List.append_eq_nil_iff.1 hnil.symm
      have hunits := hline.units_eq
      simp at hunits
  | cons c rest ih =>
    cases column with
    | zero => simp [splitColumn, inLine_zero_iff, eq_comm, and_comm]
    | succ column =>
      -- The column is not reached, so whatever stands before it begins with `c`.
      have hfirst : (∃ start, c :: rest = start ++ after ∧ before = done.reverse ++ start ∧
            InLine (column + 1) start after) ↔
          ∃ start, rest = start ++ after ∧ before = done.reverse ++ c :: start ∧
            InLine (column + 1) (c :: start) after := by
        constructor
        · rintro ⟨start, hwhole, hbefore, hline⟩
          cases start with
          | nil => cases hline.units_eq
          | cons d start =>
            cases hwhole
            exact ⟨start, rfl, hbefore, hline⟩
        · rintro ⟨start, rfl, hbefore, hline⟩
          exact ⟨c :: start, rfl, hbefore, hline⟩
      rw [hfirst, splitColumn]
      by_cases hend : atLineEnd (c :: rest) = true
      · rw [if_pos hend]
        simp only [reduceCtorEq, false_iff]
        rintro ⟨start, rfl, -, hline⟩
        rw [inLine_cons_iff, hend] at hline
        exact absurd hline.1 (by decide)
      · rw [if_neg hend]
        by_cases hunits : unitsOf c ≤ column + 1
        · rw [if_pos hunits, ih]
          constructor
          · rintro ⟨start, rfl, rfl, hline⟩
            refine ⟨start, rfl, by simp, inLine_cons_iff.2 ⟨?_, hunits, hline⟩⟩
            simpa using hend
          · rintro ⟨start, rfl, rfl, hline⟩
            exact ⟨start, rfl, by simp, (inLine_cons_iff.1 hline).2.2⟩
        · rw [if_neg hunits]
          simp only [reduceCtorEq, false_iff]
          rintro ⟨start, rfl, -, hline⟩
          exact hunits (inLine_cons_iff.1 hline).2.1

/-- Whole lines, each with its line feed. -/
def IsLines (head : List Char) : Prop := head = [] ∨ head.getLast? = some '\n'

theorem isLines_cons_iff {c : Char} {head : List Char} (h : c = '\n' ∨ head ≠ []) :
    IsLines (c :: head) ↔ IsLines head := by
  unfold IsLines
  cases head with
  | nil => simp_all
  | cons d head => simp [List.getLast?_cons_cons]

theorem IsLines.eq_nil {head : List Char} (h : IsLines head) (hcount : head.count '\n' = 0) :
    head = [] := by
  rcases h with hnil | hlast
  · exact hnil
  · exact absurd (List.mem_of_getLast? hlast) (List.count_eq_zero.1 hcount)

theorem splitPosition_zero_eq_some_iff {done : List Char} {column : Nat}
    {cs before after : List Char} :
    splitPosition done 0 column cs = some (before, after) ↔
      ∃ head start, cs = head ++ (start ++ after) ∧ before = done.reverse ++ (head ++ start) ∧
        head.count '\n' = 0 ∧ IsLines head ∧ InLine column start after := by
  have hcolumn : splitPosition done 0 column cs = splitColumn done column cs := by
    cases cs <;> rfl
  rw [hcolumn, splitColumn_eq_some_iff]
  constructor
  · rintro ⟨start, hwhole, hbefore, hline⟩
    exact ⟨[], start, hwhole, hbefore, rfl, .inl rfl, hline⟩
  · rintro ⟨head, start, hwhole, hbefore, hcount, hlines, hline⟩
    obtain rfl := hlines.eq_nil hcount
    exact ⟨start, hwhole, hbefore, hline⟩

theorem splitPosition_eq_some_iff {done : List Char} {line column : Nat}
    {cs before after : List Char} :
    splitPosition done line column cs = some (before, after) ↔
      ∃ head start, cs = head ++ (start ++ after) ∧ before = done.reverse ++ (head ++ start) ∧
        head.count '\n' = line ∧ IsLines head ∧ InLine column start after := by
  induction cs generalizing done line with
  | nil =>
    cases line with
    | zero => exact splitPosition_zero_eq_some_iff
    | succ line =>
      simp only [splitPosition, reduceCtorEq, false_iff]
      rintro ⟨head, start, hwhole, -, hcount, -⟩
      obtain ⟨rfl, -⟩ := List.append_eq_nil_iff.1 hwhole.symm
      cases hcount
  | cons c rest ih =>
    cases line with
    | zero => exact splitPosition_zero_eq_some_iff
    | succ line =>
      by_cases hfeed : c = '\n'
      · subst hfeed
        rw [splitPosition, if_pos rfl, ih]
        constructor
        · rintro ⟨head, start, rfl, rfl, hcount, hlines, hline⟩
          refine ⟨'\n' :: head, start, rfl, by simp, ?_, ?_, hline⟩
          · rw [List.count_cons_self, hcount]
          · exact (isLines_cons_iff (.inl rfl)).2 hlines
        · rintro ⟨head, start, hwhole, rfl, hcount, hlines, hline⟩
          cases head with
          | nil => cases hcount
          | cons d head =>
            cases hwhole
            rw [List.count_cons_self, Nat.add_right_cancel_iff] at hcount
            exact ⟨head, start, rfl, by simp, hcount, (isLines_cons_iff (.inl rfl)).1 hlines, hline⟩
      · rw [splitPosition, if_neg hfeed, ih]
        constructor
        · rintro ⟨head, start, rfl, rfl, hcount, hlines, hline⟩
          have hhead : head ≠ [] := by
            rintro rfl
            cases hcount
          refine ⟨c :: head, start, rfl, by simp, ?_, ?_, hline⟩
          · rw [List.count_cons_of_ne hfeed, hcount]
          · exact (isLines_cons_iff (.inr hhead)).2 hlines
        · rintro ⟨head, start, hwhole, rfl, hcount, hlines, hline⟩
          cases head with
          | nil => cases hcount
          | cons d head =>
            cases hwhole
            rw [List.count_cons_of_ne hfeed] at hcount
            have hhead : head ≠ [] := by
              rintro rfl
              cases hcount
            exact ⟨head, start, rfl, by simp, hcount, (isLines_cons_iff (.inr hhead)).1 hlines,
              hline⟩

/-! ## The cut at a position -/

/-- What stands behind the last line feed of a text. -/
def lastLine (cs : List Char) : List Char := cs.rtakeWhile (· ≠ '\n')

/-- A text is cut at a position: with as many line feeds before the cut as the position has lines,
as many units behind the last of them as it has columns, and not behind a carriage return that
belongs to the end of its line. -/
structure CutAt (position : Position) (text before after : List Char) : Prop where
  whole : before ++ after = text
  line_eq : before.count '\n' = position.line
  column_eq : units (lastLine before) = position.character
  beforeEnd : before.getLast? = some '\r' → ¬ EndsLine after

theorem rtakeWhile_append_of_forall {p : Char → Bool} {first second : List Char}
    (h : ∀ c ∈ second, p c = true) :
    (first ++ second).rtakeWhile p = first.rtakeWhile p ++ second := by
  have hreverse : ∀ c ∈ second.reverse, p c = true := fun c hc => h c (List.mem_reverse.1 hc)
  rw [List.rtakeWhile, List.reverse_append, List.takeWhile_append_of_pos hreverse,
    List.reverse_append, List.reverse_reverse, List.rtakeWhile]

theorem lastLine_append {head start : List Char} (hlines : IsLines head) (hfeed : '\n' ∉ start) :
    lastLine (head ++ start) = start := by
  have hstart : ∀ c ∈ start, decide (c ≠ '\n') = true := by
    intro c hc
    exact decide_eq_true fun heq => hfeed (heq ▸ hc)
  have hhead : head.rtakeWhile (· ≠ '\n') = [] := by
    rcases hlines with rfl | hlast
    · rfl
    · obtain ⟨front, rfl⟩ := List.getLast?_eq_some_iff.1 hlast
      exact List.rtakeWhile_concat_neg _ _ _ (by decide)
  rw [lastLine, rtakeWhile_append_of_forall hstart, hhead, List.nil_append]

theorem exists_isLines_append_lastLine (cs : List Char) :
    ∃ head, IsLines head ∧ cs = head ++ lastLine cs := by
  refine ⟨cs.rdropWhile (· ≠ '\n'), ?_, List.rdropWhile_append_rtakeWhile.symm⟩
  by_cases hnil : cs.rdropWhile (· ≠ '\n') = []
  · exact .inl hnil
  · have hlast := List.rdropWhile_last_not (· ≠ '\n') cs hnil
    right
    rw [List.getLast?_eq_some_getLast hnil]
    simpa using hlast

theorem feed_not_mem_lastLine (cs : List Char) : '\n' ∉ lastLine cs := by
  intro hmem
  have hne := List.mem_rtakeWhile_imp hmem
  exact absurd hne (by decide)

theorem cutAt_iff_exists {position : Position} {text before after : List Char} :
    CutAt position text before after ↔
      ∃ head start, text = head ++ (start ++ after) ∧ before = head ++ start ∧
        head.count '\n' = position.line ∧ IsLines head ∧
        InLine position.character start after := by
  constructor
  · rintro ⟨hwhole, hline, hcolumn, hend⟩
    obtain ⟨head, hlines, hbefore⟩ := exists_isLines_append_lastLine before
    have hfeed := feed_not_mem_lastLine before
    refine ⟨head, lastLine before, ?_, hbefore, ?_, hlines, hcolumn, hfeed, ?_⟩
    · rw [← List.append_assoc, ← hbefore, hwhole]
    · rw [hbefore, List.count_append, List.count_eq_zero.2 hfeed, Nat.add_zero] at hline
      exact hline
    · intro hlast
      apply hend
      rw [hbefore, List.getLast?_append, hlast]
      rfl
  · rintro ⟨head, start, rfl, rfl, hcount, hlines, hunits, hfeed, hend⟩
    refine ⟨List.append_assoc _ _ _, ?_, ?_, ?_⟩
    · rw [List.count_append, List.count_eq_zero.2 hfeed, hcount, Nat.add_zero]
    · rw [lastLine_append hlines hfeed, hunits]
    · intro hlast
      cases start with
      | nil =>
        rw [List.append_nil] at hlast
        rcases hlines with rfl | hlines
        · cases hlast
        · rw [hlines] at hlast
          cases hlast
      | cons c start =>
        rw [List.getLast?_append, List.getLast?_cons, Option.some_or] at hlast
        exact hend (List.getLast?_cons.trans hlast)

/-! ## Positions outside -/

/-- Whether a line can be cut at a column. -/
def Reaches (column : Nat) (body : List Char) : Prop :=
  ∃ start rest, body = start ++ rest ∧ units start = column

/-- A column between the two halves of a character. -/
def Halves (column : Nat) (body : List Char) : Prop :=
  ∃ start c rest, body = start ++ c :: rest ∧ units start < column ∧
    column < units start + unitsOf c

theorem reaches_zero (body : List Char) : Reaches 0 body := ⟨[], body, rfl, rfl⟩

theorem reaches_nil_iff {column : Nat} : Reaches column [] ↔ column = 0 := by
  constructor
  · rintro ⟨start, rest, hnil, hunits⟩
    obtain ⟨rfl, -⟩ := List.append_eq_nil_iff.1 hnil.symm
    exact hunits.symm
  · rintro rfl
    exact reaches_zero []

theorem reaches_cons_iff {column : Nat} (hcolumn : 0 < column) {c : Char} {body : List Char} :
    Reaches column (c :: body) ↔ unitsOf c ≤ column ∧ Reaches (column - unitsOf c) body := by
  constructor
  · rintro ⟨start, rest, hbody, hunits⟩
    cases start with
    | nil =>
      rw [units_nil] at hunits
      omega
    | cons d start =>
      cases hbody
      rw [units_cons] at hunits
      exact ⟨by omega, start, rest, rfl, by omega⟩
  · rintro ⟨hle, start, rest, rfl, hunits⟩
    refine ⟨c :: start, rest, rfl, ?_⟩
    rw [units_cons]
    omega

theorem halves_cons_iff {column : Nat} {c : Char} {body : List Char} :
    Halves column (c :: body) ↔
      0 < column ∧ column < unitsOf c ∨
        unitsOf c ≤ column ∧ Halves (column - unitsOf c) body := by
  constructor
  · rintro ⟨start, d, rest, hbody, hlow, hhigh⟩
    cases start with
    | nil =>
      cases hbody
      rw [units_nil] at hlow hhigh
      exact .inl ⟨hlow, by omega⟩
    | cons e start =>
      cases hbody
      rw [units_cons] at hlow hhigh
      exact .inr ⟨by omega, start, d, rest, rfl, by omega, by omega⟩
  · rintro (⟨hlow, hhigh⟩ | ⟨hle, start, d, rest, rfl, hlow, hhigh⟩)
    · exact ⟨[], c, body, rfl, hlow, by rwa [units_nil, Nat.zero_add]⟩
    · refine ⟨c :: start, d, rest, rfl, ?_, ?_⟩
      · rw [units_cons]
        omega
      · rw [units_cons]
        omega

/-- A line can be cut at a column unless that is past its end or inside a character. -/
theorem reaches_iff {column : Nat} {body : List Char} :
    Reaches column body ↔ ¬ (units body < column ∨ Halves column body) := by
  induction body generalizing column with
  | nil =>
    rw [reaches_nil_iff, units_nil]
    have hnone : ¬ Halves column [] := by
      rintro ⟨start, c, rest, hnil, -⟩
      simp at hnil
    simp [hnone]
  | cons c body ih =>
    rcases Nat.eq_zero_or_pos column with rfl | hcolumn
    · simp only [reaches_zero, true_iff]
      rintro (hpast | ⟨start, d, rest, -, hlow, -⟩)
      · cases hpast
      · cases hlow
    · rw [reaches_cons_iff hcolumn, ih, units_cons, halves_cons_iff]
      by_cases hle : unitsOf c ≤ column
      · have hpast : units body < column - unitsOf c ↔ unitsOf c + units body < column := by omega
        have hhalf : ¬ column < unitsOf c := by omega
        simp [hle, hpast, hhalf]
      · have hhalf : column < unitsOf c := by omega
        simp [hle, hhalf, hcolumn]

theorem dropReturn_cons (c : Char) (line : List Char) :
    dropReturn (c :: line) =
      if line = [] then (if c = '\r' then [] else [c]) else c :: dropReturn line := by
  cases line with
  | nil => simp [dropReturn]
  | cons d line =>
    rw [if_neg (List.cons_ne_nil d line), dropReturn, dropReturn, List.getLast?_cons_cons,
      List.dropLast_cons_cons]
    split <;> rfl

theorem takeWhile_eq_nil_iff_endsLine (cs : List Char) :
    cs.takeWhile (· ≠ '\n') = [] ↔ EndsLine cs := by
  unfold EndsLine
  cases cs with
  | nil => simp
  | cons c cs => simp [List.takeWhile_cons]

/-- The first line without its end goes as far as the text is not at the end of a line. -/
theorem dropReturn_takeWhile_cons (c : Char) (rest : List Char) :
    dropReturn ((c :: rest).takeWhile (· ≠ '\n')) =
      if atLineEnd (c :: rest) = true then []
      else c :: dropReturn (rest.takeWhile (· ≠ '\n')) := by
  have hend := atLineEnd_cons_iff c rest
  by_cases hfeed : c = '\n'
  · rw [if_pos (hend.2 (.inl hfeed)), List.takeWhile_cons_of_neg (by simpa using hfeed)]
    rfl
  · rw [List.takeWhile_cons_of_pos (by simpa using hfeed), dropReturn_cons]
    by_cases hends : EndsLine rest
    · have hnil := (takeWhile_eq_nil_iff_endsLine rest).2 hends
      rw [if_pos hnil, hnil]
      by_cases hreturn : c = '\r'
      · rw [if_pos hreturn, if_pos (hend.2 (.inr ⟨hreturn, hends⟩))]
      · rw [if_neg hreturn, if_neg (hend.not.2 (by simp [hfeed, hreturn]))]
        rfl
    · have hnil := (takeWhile_eq_nil_iff_endsLine rest).not.2 hends
      rw [if_neg hnil, if_neg (hend.not.2 (by simp [hfeed, hends]))]

theorem isSome_splitColumn_iff {done : List Char} {column : Nat} {cs : List Char} :
    (splitColumn done column cs).isSome ↔
      Reaches column (dropReturn (cs.takeWhile (· ≠ '\n'))) := by
  induction cs generalizing done column with
  | nil =>
    cases column with
    | zero => simp [splitColumn, reaches_zero]
    | succ column =>
      have hnil : dropReturn ([].takeWhile (· ≠ '\n')) = [] := rfl
      rw [hnil, reaches_nil_iff]
      simp [splitColumn]
  | cons c rest ih =>
    cases column with
    | zero => simp [splitColumn, reaches_zero]
    | succ column =>
      rw [dropReturn_takeWhile_cons, splitColumn]
      by_cases hend : atLineEnd (c :: rest) = true
      · rw [if_pos hend, if_pos hend, reaches_nil_iff]
        simp
      · rw [if_neg hend, if_neg hend, reaches_cons_iff (Nat.succ_pos column)]
        by_cases hunits : unitsOf c ≤ column + 1
        · rw [if_pos hunits, ih, and_iff_right hunits]
        · simp [hunits]

theorem splitOn_getElem?_zero (cs : List Char) :
    (cs.splitOn '\n')[0]? = some (cs.takeWhile (· ≠ '\n')) := by
  induction cs with
  | nil => simp
  | cons c rest ih =>
    rw [List.splitOn_eq_splitOnP] at ih ⊢
    rw [List.splitOnP_cons_eq_if_modifyHead]
    by_cases hfeed : c = '\n'
    · simp [hfeed]
    · rw [if_neg (by simpa using hfeed), List.getElem?_modifyHead_zero, ih]
      simp [hfeed]

theorem splitOn_cons_getElem?_succ (c : Char) (rest : List Char) (line : Nat) :
    ((c :: rest).splitOn '\n')[line + 1]? =
      if c = '\n' then (rest.splitOn '\n')[line]? else (rest.splitOn '\n')[line + 1]? := by
  rw [List.splitOn_eq_splitOnP, List.splitOn_eq_splitOnP, List.splitOnP_cons_eq_if_modifyHead]
  by_cases hfeed : c = '\n'
  · simp [hfeed]
  · rw [if_neg (by simpa using hfeed), if_neg hfeed, List.getElem?_modifyHead_succ]

theorem isSome_splitPosition_iff {done : List Char} {line column : Nat} {cs : List Char} :
    (splitPosition done line column cs).isSome ↔
      ∃ body ∈ ((cs.splitOn '\n')[line]?).map dropReturn, Reaches column body := by
  induction cs generalizing done line with
  | nil =>
    cases line with
    | zero => simp [splitPosition, isSome_splitColumn_iff]
    | succ line => simp [splitPosition]
  | cons c rest ih =>
    cases line with
    | zero =>
      rw [splitOn_getElem?_zero]
      simp [splitPosition, isSome_splitColumn_iff]
    | succ line =>
      rw [splitOn_cons_getElem?_succ, splitPosition]
      by_cases hfeed : c = '\n'
      · rw [if_pos hfeed, if_pos hfeed]
        exact ih
      · rw [if_neg hfeed, if_neg hfeed]
        exact ih

/-! ## The word before a cut -/

/-- The longest word that ends a text. -/
structure IsLastWord (word text : List Char) : Prop where
  ends : word <:+ text
  isWord : ∀ c ∈ word, isWordChar c = true
  longest : ∀ other, other <:+ text → (∀ c ∈ other, isWordChar c = true) → other <:+ word

theorem isLastWord_lastWord (text : List Char) : IsLastWord (lastWord text) text := by
  have hlast : lastWord text = text.rtakeWhile isWordChar := rfl
  rw [hlast]
  refine ⟨List.rtakeWhile_suffix isWordChar text, ?_, ?_⟩
  · intro c hc
    exact List.mem_rtakeWhile_imp hc
  · rintro other ⟨front, rfl⟩ hword
    rw [rtakeWhile_append_of_forall hword]
    exact List.suffix_append _ _

end Text

namespace Document

/-- A position outside a document: there is no such line, or the line ends before the column, or
the column is between the two halves of a character. -/
def Excludes (document : Document) (position : Position) : Prop :=
  ∀ body, document.line? position.line = some body →
    Text.units body.toList < position.character ∨ Text.Halves position.character body.toList

/-- **A document is cut exactly at the position.** -/
theorem window?_eq_some_iff (document : Document) (position : Position) (before after : String) :
    document.window? position = some (before, after) ↔
      Text.CutAt position document.text.toList before.toList after.toList := by
  rw [window?, Text.cutAt_iff_exists, Option.map_eq_some_iff]
  constructor
  · rintro ⟨⟨first, second⟩, hsplit, hparts⟩
    cases hparts
    simpa using Text.splitPosition_eq_some_iff.1 hsplit
  · intro h
    refine ⟨(before.toList, after.toList), Text.splitPosition_eq_some_iff.2 ?_, by simp⟩
    simpa using h

/-- **There is no cut exactly at the positions outside.** -/
theorem window?_eq_none_iff (document : Document) (position : Position) :
    document.window? position = none ↔ document.Excludes position := by
  rw [window?, Option.map_eq_none_iff, ← Option.not_isSome_iff_eq_none,
    Text.isSome_splitPosition_iff]
  unfold Excludes line?
  constructor
  · intro h body hbody
    obtain ⟨line, hline, rfl⟩ := Option.map_eq_some_iff.1 hbody
    by_contra houtside
    refine h ⟨Text.dropReturn line, Option.mem_map_of_mem _ hline, ?_⟩
    rw [Text.reaches_iff]
    simpa using houtside
  · rintro h ⟨body, hbody, hreaches⟩
    obtain ⟨line, hline, rfl⟩ := Option.map_eq_some_iff.1 hbody
    have houtside := h (String.ofList (Text.dropReturn line))
      (Option.map_eq_some_iff.2 ⟨line, hline, rfl⟩)
    rw [String.toList_ofList] at houtside
    exact Text.reaches_iff.1 hreaches houtside

end Document

end WordServer
