import WordServer.Proofs.Text.Trim

/-!
# Pieces between separators

No piece of a text holds the separator. Where the separator has no letter case, the pieces of a text
in lower case are its pieces in lower case (`splitOn_lower`); where it is not blank, blanks at the
edges of the text are blanks at the edges of its first and its last piece (`map_trim_splitOn`).
-/

namespace WordServer.Text

variable {sep : Char}

theorem not_mem_of_mem_splitOn {cs piece : List Char} (h : piece ∈ cs.splitOn sep) : sep ∉ piece := by
  induction cs generalizing piece with
  | nil =>
    rw [List.splitOn_nil, List.mem_singleton] at h
    rw [h]
    exact List.not_mem_nil
  | cons c cs ih =>
    rw [List.splitOn_cons_eq_if_modifyHead] at h
    split at h
    · rcases List.mem_cons.1 h with rfl | hrest
      · exact List.not_mem_nil
      · exact ih hrest
    · rename_i hc
      rcases hpieces : cs.splitOn sep with _ | ⟨first, others⟩
      · exact absurd hpieces (List.splitOn_ne_nil sep cs)
      · rw [hpieces, List.modifyHead_cons] at h
        rw [hpieces] at ih
        rcases List.mem_cons.1 h with rfl | hother
        · have hne : sep ≠ c := fun heq => hc (beq_iff_eq.2 heq.symm)
          exact List.not_mem_cons_of_ne_of_not_mem hne (ih List.mem_cons_self)
        · exact ih (List.mem_cons_of_mem first hother)

theorem splitOn_lower (hsep : sep.toNat < 65 ∨ 122 < sep.toNat) (cs : List Char) :
    (lower cs).splitOn sep = (cs.splitOn sep).map lower := by
  induction cs with
  | nil => rfl
  | cons c cs ih =>
    have hcons : lower (c :: cs) = c.toLower :: lower cs := rfl
    rw [hcons, List.splitOn_cons_eq_if_modifyHead, List.splitOn_cons_eq_if_modifyHead, ih]
    by_cases hc : c = sep
    · have hlower : c.toLower = sep := (toLower_eq_iff hsep).2 hc
      rw [if_pos (beq_iff_eq.2 hlower), if_pos (beq_iff_eq.2 hc)]
      rfl
    · have hlower : c.toLower ≠ sep := fun heq => hc ((toLower_eq_iff hsep).1 heq)
      rw [if_neg fun h => hlower (beq_iff_eq.1 h), if_neg fun h => hc (beq_iff_eq.1 h)]
      cases cs.splitOn sep <;> rfl

theorem not_mem_of_blanks (hsep : isBlank sep = false) {blanks : List Char}
    (h : ∀ c ∈ blanks, isBlank c = true) : sep ∉ blanks := by
  intro hmem
  rw [h sep hmem] at hsep
  cases hsep

/-- `front` is the beginning of the first piece, as far as it is known. -/
theorem map_trim_splitOn_front (hsep : isBlank sep = false) {before front after : List Char}
    (hbefore : ∀ c ∈ before, isBlank c = true) (hafter : ∀ c ∈ after, isBlank c = true)
    (hfront : sep ∉ front) (cs : List Char) :
    ((before ++ front ++ cs ++ after).splitOn sep).map trim = ((front ++ cs).splitOn sep).map trim := by
  have hstart : sep ∉ before ++ front := by
    simp [not_mem_of_blanks hsep hbefore, hfront]
  induction cs generalizing before front with
  | nil =>
    -- the first piece is the last one too
    have hwhole : sep ∉ before ++ front ++ [] ++ after := by
      simp [not_mem_of_blanks hsep hbefore, hfront, not_mem_of_blanks hsep hafter]
    have hpiece : sep ∉ front ++ [] := by
      simp [hfront]
    rw [List.splitOn_eq_singleton hwhole, List.splitOn_eq_singleton hpiece, List.append_nil,
      List.append_nil, List.map_singleton, List.map_singleton, trim_append_blanks hbefore hafter]
  | cons c cs ih =>
    by_cases hc : c = sep
    · subst hc
      have htail := ih (List.forall_mem_nil _) List.not_mem_nil List.not_mem_nil
      have hfirst := trim_append_blanks hbefore (List.forall_mem_nil _) front
      rw [List.append_nil] at hfirst
      simp only [List.nil_append] at htail
      rw [List.append_assoc, List.cons_append, List.splitOn_append_cons_self_of_not_mem hstart,
        List.splitOn_append_cons_self_of_not_mem hfront, List.map_cons, List.map_cons, hfirst, htail]
    · have hfront' : sep ∉ front ++ [c] := by
        simp [hfront, Ne.symm hc]
      have hstart' : sep ∉ before ++ (front ++ [c]) := by
        simp [not_mem_of_blanks hsep hbefore, hfront, Ne.symm hc]
      simpa using ih hbefore hfront' hstart'

/-- **Blanks at the edges of a text are at the edges of its pieces.** -/
theorem map_trim_splitOn (hsep : isBlank sep = false) (cs : List Char) :
    ((trim cs).splitOn sep).map trim = (cs.splitOn sep).map trim := by
  obtain ⟨before, after, hbefore, hafter, hcs⟩ := exists_eq_append_dropEdgesWhile isBlank cs
  have hfront := map_trim_splitOn_front hsep hbefore hafter List.not_mem_nil (trim cs)
  rw [List.append_nil, List.nil_append] at hfront
  rw [← hfront]
  conv => rhs; rw [hcs]
  rfl

end WordServer.Text
