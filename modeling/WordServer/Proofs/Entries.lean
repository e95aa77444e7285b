import WordServer.Entries

/-!
# Entries that are put one after the other

`lookup_put` says in one equation what a name finds after another was put. Pairs with different
names are found as they are listed (`lookup_ofList`), and pairs that are in order already are their
own entries (`ofList_eq_self`): each name goes behind all that were put before it. Putting and
removing keep the order (`Ordered.put`, `Ordered.remove`), so that the entries are as many as the
names that have a value (`isSome_lookup_iff`, `Ordered.nodup`).
-/

namespace WordServer.Entries

variable {α : Type u}

instance (entries : Entries α) : Decidable (Ordered entries) :=
  inferInstanceAs (Decidable (List.Pairwise (· < ·) (names entries)))

@[simp]
theorem lookup_put (name other : String) (value : α) (entries : Entries α) :
    lookup other (put name value entries) =
      if name = other then some value else lookup other entries := by
  by_cases h : name = other
  · subst h
    rw [if_pos rfl, lookup_put_self]
  · rw [if_neg h, lookup_put_of_ne (Ne.symm h)]

/-- A name past all others is put behind them. -/
theorem put_of_forall_lt {name : String} {entries : Entries α}
    (h : ∀ key ∈ names entries, key < name) (value : α) :
    put name value entries = entries ++ [(name, value)] := by
  induction entries with
  | nil => rfl
  | cons entry rest ih =>
    obtain ⟨key, old⟩ := entry
    have hkey : key < name := h key List.mem_cons_self
    have hrest := ih fun other hother => h other (List.mem_cons_of_mem key hother)
    rw [put, if_neg (String.lt_asymm hkey), if_neg (String.ne_of_lt hkey), hrest, List.cons_append]

theorem foldl_put_eq_append {pairs entries : Entries α} (h : Ordered (entries ++ pairs)) :
    pairs.foldl (fun entries pair => put pair.1 pair.2 entries) entries = entries ++ pairs := by
  induction pairs generalizing entries with
  | nil => simp
  | cons pair pairs ih =>
    have hbefore : ∀ key ∈ names entries, key < pair.1 := by
      intro key hkey
      have hsplit : (names entries ++ pair.1 :: names pairs).Pairwise (· < ·) := by
        simpa [Ordered, names] using h
      exact (List.pairwise_append.1 hsplit).2.2 key hkey pair.1 List.mem_cons_self
    have hnext : Ordered ((entries ++ [pair]) ++ pairs) := by
      simpa using h
    rw [List.foldl_cons, put_of_forall_lt hbefore, ih hnext, List.append_assoc,
      List.singleton_append]

/-- **Pairs in order are their own entries.** -/
theorem ofList_eq_self {pairs : List (String × α)} (h : Ordered pairs) : ofList pairs = pairs :=
  foldl_put_eq_append h

theorem lookup_eq_none {name : String} {entries : Entries α} (h : name ∉ names entries) :
    lookup name entries = none := by
  induction entries with
  | nil => rfl
  | cons entry rest ih =>
    obtain ⟨hkey, hrest⟩ := not_or.1 fun hor => h (List.mem_cons.2 hor)
    rw [lookup, if_neg (Ne.symm hkey), ih hrest]

theorem mem_of_lookup {name : String} {value : α} {entries : Entries α}
    (h : lookup name entries = some value) : (name, value) ∈ entries := by
  induction entries with
  | nil => cases h
  | cons entry rest ih =>
    rw [lookup] at h
    split at h
    · rename_i hname
      cases h
      rw [← hname]
      exact List.mem_cons_self
    · exact List.mem_cons_of_mem entry (ih h)

theorem lookup_foldl_put {pairs entries : Entries α} (h : (names pairs).Nodup) (name : String) :
    lookup name (pairs.foldl (fun entries pair => put pair.1 pair.2 entries) entries) =
      (lookup name pairs).or (lookup name entries) := by
  induction pairs generalizing entries with
  | nil => rfl
  | cons pair pairs ih =>
    obtain ⟨hnew, hrest⟩ := List.nodup_cons.1 h
    rw [List.foldl_cons, ih hrest, lookup_put, lookup]
    split
    · rename_i hname
      subst hname
      rw [lookup_eq_none hnew, Option.none_or, Option.some_or]
    · rfl

/-- Pairs with different names are found as they are listed. -/
theorem lookup_ofList {pairs : List (String × α)} (h : (names pairs).Nodup) (name : String) :
    lookup name (ofList pairs) = lookup name pairs := by
  rw [ofList, lookup_foldl_put h, lookup_nil, Option.or_none]

theorem isSome_lookup_iff (name : String) (entries : Entries α) :
    (lookup name entries).isSome ↔ name ∈ names entries := by
  constructor
  · intro h
    obtain ⟨value, hvalue⟩ := Option.isSome_iff_exists.1 h
    exact List.mem_map.2 ⟨(name, value), mem_of_lookup hvalue, rfl⟩
  · intro h
    induction entries with
    | nil => cases h
    | cons entry rest ih =>
      rw [lookup]
      split
      · rfl
      · rename_i hkey
        rcases List.mem_cons.1 h with rfl | hrest
        · exact absurd rfl hkey
        · exact ih hrest

theorem mem_names_put {name key : String} {value : α} {entries : Entries α}
    (h : key ∈ names (put name value entries)) : key = name ∨ key ∈ names entries := by
  rw [← isSome_lookup_iff, lookup_put] at h
  split at h
  · rename_i hname
    exact .inl hname.symm
  · exact .inr ((isSome_lookup_iff key entries).1 h)

namespace Ordered

theorem nodup {entries : Entries α} (h : Ordered entries) : (names entries).Nodup :=
  List.Pairwise.imp (fun hlt => String.ne_of_lt hlt) h

theorem put {entries : Entries α} (h : Ordered entries) (name : String) (value : α) :
    Ordered (Entries.put name value entries) := by
  induction entries with
  | nil => exact List.pairwise_singleton _ _
  | cons entry rest ih =>
    obtain ⟨key, old⟩ := entry
    obtain ⟨hkey, hrest⟩ := List.pairwise_cons.1 h
    unfold Entries.put
    split
    · rename_i hlt
      refine List.pairwise_cons.2 ⟨?_, h⟩
      intro other hother
      rcases List.mem_cons.1 hother with rfl | hother
      · exact hlt
      · exact String.lt_trans hlt (hkey other hother)
    · rename_i hnot
      split
      · rename_i hname
        subst hname
        exact h
      · rename_i hne
        have hlt : key < name := Std.lt_of_le_of_ne (String.not_lt.1 hnot) hne
        refine List.pairwise_cons.2 ⟨?_, ih hrest⟩
        intro other hother
        rcases mem_names_put hother with rfl | hother
        · exact hlt
        · exact hkey other hother

theorem remove {entries : Entries α} (h : Ordered entries) (name : String) :
    Ordered (Entries.remove name entries) :=
  List.Pairwise.sublist (List.Sublist.map Prod.fst List.filter_sublist) h

end Ordered

end WordServer.Entries
