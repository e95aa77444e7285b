import WordServer.Proofs.Document.Word
import WordServer.Suggester

/-!
# Suggestions while a word is typed

A vocabulary suggests the words that begin with the word before the cursor, in its own order and up
to a number (`suggest_of_wordBefore?`). The number only cuts the list off (`suggest_eq_take`), and
passing one more character of the word only leaves words out (`suggest_of_typed`).
-/

namespace WordServer.Suggester

theorem completing_eq (words : List String) (start : List Char) :
    completing words start = words.filter (start <+: ·.toList) := by
  refine List.filter_congr ?_
  intro word _
  rw [Bool.eq_iff_iff, List.isPrefixOf_iff_prefix, decide_eq_true_iff]

/-- Of the words that begin with a text, the ones that begin with a longer text are all of those. -/
theorem filter_filter_of_extends (words : List String) {short long : List Char}
    (h : short <+: long) :
    (words.filter (short <+: ·.toList)).filter (long <+: ·.toList) =
      words.filter (long <+: ·.toList) := by
  rw [List.filter_filter]
  apply List.filter_congr
  intro word _
  by_cases hlong : long <+: word.toList
  · simp [hlong, h.trans hlong]
  · simp [hlong]

section Vocabulary

variable (words : List String) (limit : Nat) {document : Document} {position : Position}

theorem suggest_of_wordBefore?_eq_none (h : document.wordBefore? position = none) :
    (vocabulary words limit).suggest document position = [] := by
  simp [suggest, h]

theorem suggest_of_wordBefore? {word : String} (h : document.wordBefore? position = some word) :
    (vocabulary words limit).suggest document position =
      (words.filter (word.toList <+: ·.toList)).take limit := by
  simp only [suggest, h, completing_eq]

/-- A limit that lets all words pass cuts nothing off. -/
theorem suggest_of_le {word : String} (h : document.wordBefore? position = some word)
    (hlimit : words.length ≤ limit) :
    (vocabulary words limit).suggest document position =
      words.filter (word.toList <+: ·.toList) := by
  rw [suggest_of_wordBefore? words limit h, List.take_of_length_le]
  exact Nat.le_trans (List.length_filter_le _ words) hlimit

theorem suggest_eq_take (document : Document) (position : Position) (cap : Nat)
    (hlimit : words.length ≤ limit) :
    (vocabulary words cap).suggest document position =
      ((vocabulary words limit).suggest document position).take cap := by
  cases hword : document.wordBefore? position with
  | none =>
    rw [suggest_of_wordBefore?_eq_none words cap hword,
      suggest_of_wordBefore?_eq_none words limit hword, List.take_nil]
  | some word =>
    rw [suggest_of_wordBefore? words cap hword, suggest_of_le words limit hword hlimit]

end Vocabulary

/-- **Typing narrows the suggestions.** A word character behind a position can be passed: the
position behind it is in the document, and the word before it is the old one with the character.
Without a limit that matters, the suggestions there are those suggestions of the old position that
begin with the longer word, in their order and as often; and with any limit the suggestions are the
first of those without. -/
theorem suggest_of_typed (words : List String) {document : Document} {position : Position}
    {before after : String} (hwindow : document.window? position = some (before, after))
    {c : Char} {rest : List Char} (hafter : after.toList = c :: rest)
    (hc : Text.isWordChar c = true) :
    let next : Position := ⟨position.line, position.character + unitsOf c⟩
    ∃ word, document.wordBefore? position = some word ∧
      document.window? next = some (before.push c, String.ofList rest) ∧
      document.wordBefore? next = some (word.push c) ∧
      (∀ limit, words.length ≤ limit →
        (vocabulary words limit).suggest document next =
          ((vocabulary words limit).suggest document position).filter
            ((word.push c).toList <+: ·.toList)) ∧
      ∀ place cap limit, words.length ≤ limit →
        (vocabulary words cap).suggest document place =
          ((vocabulary words limit).suggest document place).take cap := by
  intro next
  have hword := Document.wordBefore?_of_window? hwindow
  have hlonger := Document.wordBefore?_of_typed hwindow hafter hc hword
  refine ⟨_, hword, Document.window?_of_typed hwindow hafter hc, hlonger, ?_, ?_⟩
  · intro limit hlimit
    rw [suggest_of_le words limit hlonger hlimit, suggest_of_le words limit hword hlimit]
    refine (filter_filter_of_extends words ?_).symm
    rw [String.toList_push]
    exact List.prefix_append _ _
  · intro place cap limit hlimit
    exact suggest_eq_take words limit document place cap hlimit

/-- A letter of two units is passed, in the second of two lines. -/
theorem suggest_of_typed_letter :
    let words := ["é𝐀", "é", "é𝐀b", "b𝐀", "é𝐀"]
    let document : Document := ⟨"x\r\n😀é𝐀b\r\n", 1⟩
    document.window? ⟨1, 3⟩ = some ("x\r\n😀é", "𝐀b\r\n") ∧
      document.wordBefore? ⟨1, 5⟩ = some "é𝐀" ∧
      (vocabulary words 5).suggest document ⟨1, 3⟩ = ["é𝐀", "é", "é𝐀b", "é𝐀"] ∧
      (vocabulary words 5).suggest document ⟨1, 5⟩ = ["é𝐀", "é𝐀b", "é𝐀"] ∧
      (vocabulary words 2).suggest document ⟨1, 5⟩ = ["é𝐀", "é𝐀b"] := by
  intro words document
  have hwindow : document.window? ⟨1, 3⟩ = some ("x\r\n😀é", "𝐀b\r\n") := by decide +kernel
  have hafter : "𝐀b\r\n".toList = '𝐀' :: ['b', '\r', '\n'] := by decide +kernel
  obtain ⟨word, hword, -, hlonger, hnarrow, hcap⟩ :=
    suggest_of_typed words hwindow hafter (by decide +kernel)
  have hold : document.wordBefore? ⟨1, 3⟩ = some "é" := by decide +kernel
  have hsuggest : (vocabulary words 5).suggest document ⟨1, 3⟩ = ["é𝐀", "é", "é𝐀b", "é𝐀"] := by
    decide +kernel
  cases hword.symm.trans hold
  have hnext : unitsOf '𝐀' = 2 := by decide
  rw [hnext] at hlonger hnarrow
  have hnarrowed : (vocabulary words 5).suggest document ⟨1, 5⟩ = ["é𝐀", "é𝐀b", "é𝐀"] := by
    rw [hnarrow 5 (Nat.le_refl 5), hsuggest]
    decide +kernel
  refine ⟨hwindow, hlonger, hsuggest, hnarrowed, ?_⟩
  rw [hcap ⟨1, 5⟩ 2 5 (Nat.le_refl 5), hnarrowed]
  rfl

end WordServer.Suggester
