import WordServer.Document
import WordServer.Text.Blank

/-!
# Suggestions

What completes the word before the cursor: nothing, or the words of a vocabulary that begin with it,
in the vocabulary's order and up to a number.
-/

namespace WordServer

/-- A source of completions. -/
inductive Suggester where
  | silent
  | vocabulary (words : List String) (limit : Nat)
  deriving DecidableEq, Repr

namespace Suggester

/-- The words of a vocabulary text: one a line, without outer blanks; empty lines hold none. -/
def wordsOf (text : List Char) : List String :=
  (((text.splitOn '\n').map Text.trim).filter (!·.isEmpty)).map String.ofList

/-- The words that begin with a text. -/
def completing (words : List String) (start : List Char) : List String :=
  words.filter fun word => start.isPrefixOf word.toList

/-- The completions at a position of a document; a position outside of it has none. -/
def suggest (suggester : Suggester) (document : Document) (position : Position) : List String :=
  match suggester with
  | .silent => []
  | .vocabulary words limit =>
    match document.wordBefore? position with
    | none => []
    | some start => (completing words start.toList).take limit

/-- The name of the kind of source. -/
def kindName : Suggester → String
  | .silent => "dummy"
  | .vocabulary _ _ => "vocab"

end Suggester

end WordServer
