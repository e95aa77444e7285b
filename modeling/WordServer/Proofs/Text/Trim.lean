import WordServer.Proofs.Text.Caseless
import WordServer.Text.Blank

/-!
# The edges of a text

Where characters with a property are dropped at both ends of a text, it makes no difference how many
more of them stand there (`dropEdgesWhile_append`), and a text that neither begins nor ends with one
stays as it is (`dropEdgesWhile_eq_self`), as what is left always does (`dropEdgesWhile_idem`).
Trimming drops the blanks, which have no letter case (`isBlank_toLower`).
-/

namespace WordServer.Text

variable {p : Char → Bool} {cs before after : List Char}

theorem dropWhile_eq_self_of_head (h : ∀ c ∈ cs.head?, p c = false) : cs.dropWhile p = cs := by
  cases cs with
  | nil => rfl
  | cons c rest =>
    have hc : ¬ p c = true := by
      rw [h c rfl]
      exact Bool.false_ne_true
    rw [List.dropWhile_cons_of_neg hc]

theorem dropEndWhile_append (h : ∀ c ∈ after, p c = true) (cs : List Char) :
    dropEndWhile p (cs ++ after) = dropEndWhile p cs := by
  unfold dropEndWhile
  rw [List.reverse_append, List.dropWhile_append_of_pos]
  intro c hc
  exact h c (List.mem_reverse.1 hc)

theorem dropEndWhile_eq_self (h : ∀ c ∈ cs.getLast?, p c = false) : dropEndWhile p cs = cs := by
  unfold dropEndWhile
  rw [dropWhile_eq_self_of_head, List.reverse_reverse]
  intro c hc
  rw [List.head?_reverse] at hc
  exact h c hc

/-- Nothing is dropped in front of a character that stays. -/
theorem dropEndWhile_append_cons {c : Char} (hc : p c = false) (before after : List Char) :
    dropEndWhile p (before ++ c :: after) = before ++ c :: dropEndWhile p after := by
  have hstays : (c :: before.reverse).dropWhile p = c :: before.reverse :=
    List.dropWhile_cons_of_neg (by simp [hc])
  have hsplit : (before ++ c :: after).reverse = after.reverse ++ c :: before.reverse := by
    simp
  unfold dropEndWhile
  rw [hsplit, List.dropWhile_append]
  split
  · rename_i hempty
    rw [hstays, List.isEmpty_iff.1 hempty]
    simp
  · simp

/-- **More of what is dropped makes no difference**, at either end. -/
theorem dropEdgesWhile_append (hbefore : ∀ c ∈ before, p c = true)
    (hafter : ∀ c ∈ after, p c = true) (cs : List Char) :
    dropEdgesWhile p (before ++ cs ++ after) = dropEdgesWhile p cs := by
  unfold dropEdgesWhile
  rw [List.append_assoc, List.dropWhile_append_of_pos hbefore, List.dropWhile_append]
  split
  · -- nothing of the text is left, so nothing of what follows it is
    rename_i hempty
    have hnone : (after ++ []).dropWhile p = [] := List.dropWhile_append_of_pos hafter
    rw [List.append_nil] at hnone
    rw [List.isEmpty_iff.1 hempty, hnone]
  · exact dropEndWhile_append hafter _

theorem dropEdgesWhile_eq_self (hhead : ∀ c ∈ cs.head?, p c = false)
    (hlast : ∀ c ∈ cs.getLast?, p c = false) : dropEdgesWhile p cs = cs := by
  rw [dropEdgesWhile, dropWhile_eq_self_of_head hhead, dropEndWhile_eq_self hlast]

/-! ## What is left -/

theorem isPrefix_dropEndWhile (p : Char → Bool) (cs : List Char) : dropEndWhile p cs <+: cs := by
  rw [← List.reverse_suffix, dropEndWhile, List.reverse_reverse]
  exact List.dropWhile_suffix p

theorem dropEdgesWhile_sublist (p : Char → Bool) (cs : List Char) :
    List.Sublist (dropEdgesWhile p cs) cs :=
  (isPrefix_dropEndWhile p _).sublist.trans (List.dropWhile_sublist p)

theorem head?_dropEdgesWhile (p : Char → Bool) (cs : List Char) :
    ∀ c ∈ (dropEdgesWhile p cs).head?, p c = false := by
  intro c hc
  have hhead : (dropEndWhile p (cs.dropWhile p)).head? = some c := hc
  obtain ⟨rest, hrest⟩ := isPrefix_dropEndWhile p (cs.dropWhile p)
  have hstays := List.head?_dropWhile_not p cs
  rwa [← hrest, List.head?_append, hhead, Option.some_or] at hstays

theorem getLast?_dropEdgesWhile (p : Char → Bool) (cs : List Char) :
    ∀ c ∈ (dropEdgesWhile p cs).getLast?, p c = false := by
  intro c hc
  have hstays := List.head?_dropWhile_not p (cs.dropWhile p).reverse
  rw [dropEdgesWhile, dropEndWhile, List.getLast?_reverse] at hc
  rwa [Option.mem_def.1 hc] at hstays

theorem dropEdgesWhile_idem (p : Char → Bool) (cs : List Char) :
    dropEdgesWhile p (dropEdgesWhile p cs) = dropEdgesWhile p cs :=
  dropEdgesWhile_eq_self (head?_dropEdgesWhile p cs) (getLast?_dropEdgesWhile p cs)

/-- What is dropped for a property that letter case does not touch is dropped in lower case too. -/
theorem dropEdgesWhile_lower (hcase : ∀ c : Char, p c.toLower = p c) (cs : List Char) :
    dropEdgesWhile p (lower cs) = lower (dropEdgesWhile p cs) := by
  have hsame : p ∘ Char.toLower = p := funext hcase
  unfold dropEdgesWhile dropEndWhile lower
  rw [List.dropWhile_map, hsame, ← List.map_reverse, List.dropWhile_map, hsame, List.map_reverse]

/-- A text is what is left of it between the ends that are dropped. -/
theorem exists_eq_append_dropEdgesWhile (p : Char → Bool) (cs : List Char) :
    ∃ before after, (∀ c ∈ before, p c = true) ∧ (∀ c ∈ after, p c = true) ∧
      cs = before ++ dropEdgesWhile p cs ++ after := by
  have hend : ∀ ds : List Char, ds = dropEndWhile p ds ++ (ds.reverse.takeWhile p).reverse := by
    intro ds
    rw [dropEndWhile, ← List.reverse_append, List.takeWhile_append_dropWhile, List.reverse_reverse]
  refine ⟨cs.takeWhile p, ((cs.dropWhile p).reverse.takeWhile p).reverse, ?_, ?_, ?_⟩
  · exact List.all_eq_true.1 List.all_takeWhile
  · exact fun c hc => List.all_eq_true.1 List.all_takeWhile c (List.mem_reverse.1 hc)
  · rw [List.append_assoc, dropEdgesWhile, ← hend, List.takeWhile_append_dropWhile]

/-! ## Blanks -/

theorem trim_append_blanks (hbefore : ∀ c ∈ before, isBlank c = true)
    (hafter : ∀ c ∈ after, isBlank c = true) (cs : List Char) :
    trim (before ++ cs ++ after) = trim cs :=
  dropEdgesWhile_append hbefore hafter cs

theorem trim_eq_self (hhead : ∀ c ∈ cs.head?, isBlank c = false)
    (hlast : ∀ c ∈ cs.getLast?, isBlank c = false) : trim cs = cs :=
  dropEdgesWhile_eq_self hhead hlast

theorem trim_trim (cs : List Char) : trim (trim cs) = trim cs :=
  dropEdgesWhile_idem isBlank cs

theorem length_trim_le (cs : List Char) : (trim cs).length ≤ cs.length :=
  (dropEdgesWhile_sublist isBlank cs).length_le

/-- Blanks in front of a text that has none are trimmed, and nothing else. -/
theorem trim_blanks_append {blanks : List Char} (hblanks : ∀ c ∈ blanks, isBlank c = true)
    (h : ∀ c ∈ cs, isBlank c = false) : trim (blanks ++ cs) = cs := by
  have htrim := trim_append_blanks hblanks (List.forall_mem_nil _) cs
  rw [List.append_nil] at htrim
  rw [htrim]
  exact trim_eq_self (fun c hc => h c (List.mem_of_head? hc)) fun c hc => h c (List.mem_of_getLast? hc)

theorem isBlank_toLower (c : Char) : isBlank c.toLower = isBlank c := by
  rcases toLower_cases c with ⟨hsame, -⟩ | ⟨hlow, hhigh, hsmall⟩
  · rw [hsame]
  · -- a capital letter, and so neither it nor its small form is blank
    have hnot : ∀ n, 65 ≤ n → n ≤ 122 → ∀ d : Char, d.toNat = n → isBlank d = false := by
      intro n hn hn' d hd
      simp only [isBlank, hd, Bool.or_eq_false_iff, Bool.and_eq_false_iff,
        decide_eq_false_iff_not, beq_eq_false_iff_ne]
      omega
    rw [hnot c.toNat hlow (by omega) c rfl]
    exact hnot (c.toNat + 32) (by omega) (by omega) _ hsmall

theorem trim_lower (cs : List Char) : trim (lower cs) = lower (trim cs) :=
  dropEdgesWhile_lower isBlank_toLower cs

/-- A text without blanks in one letter case has none in another. -/
theorem isBlank_eq_false_of_lower {name : List Char} (h : lower cs = name)
    (hname : ∀ c ∈ name, isBlank c = false) : ∀ c ∈ cs, isBlank c = false := by
  intro c hc
  rw [← isBlank_toLower]
  exact hname _ (h ▸ List.mem_map_of_mem hc)

/-- A character without letter case is in a text if it is in one that differs in case only. -/
theorem not_mem_of_lower {name : List Char} (h : lower cs = name) {c : Char} (hc : c.toLower = c)
    (hname : c ∉ name) : c ∉ cs := by
  intro hmem
  refine hname ?_
  rw [← h, ← hc]
  exact List.mem_map_of_mem hmem

end WordServer.Text
