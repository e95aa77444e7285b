import WordServer.Text.Caseless

/-!
# Lower case

Putting a character into lower case changes the capital ASCII letters alone, each into the small one
32 places behind it (`toLower_cases`). So a text in lower case has no capitals (`isUpper_of_mem_lower`)
and stays as it is (`lower_eq_self`), and the characters that are no letters stand in it where they
stood (`toLower_eq_iff`).
-/

namespace WordServer.Text

variable {cs : List Char}

theorem toLower_cases (c : Char) :
    (c.toLower = c ∧ c.isUpper = false) ∨
      (65 ≤ c.toNat ∧ c.toNat ≤ 90 ∧ c.toLower.toNat = c.toNat + 32) := by
  unfold Char.toLower Char.isUpper
  split
  · rename_i hupper
    have hlow : 65 ≤ c.toNat := UInt32.le_iff_toNat_le.1 hupper.1
    have hhigh : c.toNat ≤ 90 := UInt32.le_iff_toNat_le.1 hupper.2
    have hsmall : (c.val + ('a'.val - 'A'.val)).toNat = c.toNat + 32 := by
      have hdistance : ('a'.val - 'A'.val).toNat = 32 := by decide
      rw [UInt32.toNat_add, hdistance]
      exact Nat.mod_eq_of_lt (Nat.lt_of_le_of_lt (Nat.add_le_add_right hhigh 32) (by decide))
    exact Or.inr ⟨hlow, hhigh, hsmall⟩
  · rename_i hnot
    exact Or.inl ⟨rfl, decide_eq_false hnot⟩

theorem isUpper_eq_false_of_toNat {c : Char} (h : 90 < c.toNat) : c.isUpper = false := by
  refine decide_eq_false fun hupper => ?_
  have hhigh : c.toNat ≤ 90 := UInt32.le_iff_toNat_le.1 hupper.2
  omega

theorem isUpper_toLower (c : Char) : c.toLower.isUpper = false := by
  rcases toLower_cases c with ⟨hsame, hupper⟩ | ⟨hlow, -, hsmall⟩
  · rwa [hsame]
  · exact isUpper_eq_false_of_toNat (by omega)

theorem toLower_eq_self {c : Char} (h : c.isUpper = false) : c.toLower = c := by
  rcases toLower_cases c with ⟨hsame, -⟩ | ⟨hlow, hhigh, -⟩
  · exact hsame
  · have hupper : c.isUpper = true :=
      decide_eq_true ⟨UInt32.le_iff_toNat_le.2 hlow, UInt32.le_iff_toNat_le.2 hhigh⟩
    rw [hupper] at h
    cases h

/-- Only a character that is no letter itself is put into lower case as one that is none. -/
theorem toLower_eq_iff {c d : Char} (hd : d.toNat < 65 ∨ 122 < d.toNat) :
    c.toLower = d ↔ c = d := by
  have hstays : d.toLower = d := by
    rcases toLower_cases d with ⟨hsame, -⟩ | ⟨hlow, hhigh, -⟩
    · exact hsame
    · omega
  rcases toLower_cases c with ⟨hsame, -⟩ | ⟨hlow, hhigh, hsmall⟩
  · rw [hsame]
  · constructor
    · rintro rfl
      omega
    · rintro rfl
      exact hstays

theorem length_lower (cs : List Char) : (lower cs).length = cs.length :=
  List.length_map _

theorem isUpper_of_mem_lower {c : Char} (h : c ∈ lower cs) : c.isUpper = false := by
  obtain ⟨d, -, rfl⟩ := List.mem_map.1 h
  exact isUpper_toLower d

theorem lower_eq_self (h : ∀ c ∈ cs, c.isUpper = false) : lower cs = cs := by
  have hmap : cs.map Char.toLower = cs.map id :=
    List.map_congr_left fun c hc => toLower_eq_self (h c hc)
  rw [lower, hmap, List.map_id]

theorem mem_lower_iff {c : Char} (hc : c.toNat < 65 ∨ 122 < c.toNat) : c ∈ lower cs ↔ c ∈ cs := by
  unfold lower
  rw [List.mem_map]
  constructor
  · rintro ⟨d, hd, heq⟩
    rwa [(toLower_eq_iff hc).1 heq] at hd
  · intro hmem
    exact ⟨c, hmem, (toLower_eq_iff hc).2 rfl⟩

end WordServer.Text
