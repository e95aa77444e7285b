import WordServer.Document
import WordServer.Entries

/-!
# Open documents

The documents that a client has open, by URI. Their text is only ever replaced as a whole.
-/

namespace WordServer

/-- The documents that are open. -/
structure OpenDocuments where
  entries : Entries Document
  deriving DecidableEq, Repr

namespace OpenDocuments

/-- No document is open. -/
def empty : OpenDocuments := ⟨[]⟩

/-- Opens a document, or opens it again. -/
def add (documents : OpenDocuments) (uri text : String) (version : Int) : OpenDocuments :=
  ⟨Entries.put uri ⟨text, version⟩ documents.entries⟩

/-- The document with a URI. -/
def get? (documents : OpenDocuments) (uri : String) : Option Document :=
  Entries.lookup uri documents.entries

/-- Replaces the text of a document that is open. -/
def setText? (documents : OpenDocuments) (uri text : String) (version : Option Int) :
    Option OpenDocuments :=
  (documents.get? uri).map fun document =>
    ⟨Entries.put uri (document.replace text version) documents.entries⟩

/-- Closes a document. -/
def close (documents : OpenDocuments) (uri : String) : OpenDocuments :=
  ⟨Entries.remove uri documents.entries⟩

/-- The number of documents. -/
def size (documents : OpenDocuments) : Nat :=
  documents.entries.length

end OpenDocuments

/-- Why the text of a document cannot be used. -/
def notOpenMessage (uri : String) : String :=
  "Document is not open: " ++ uri

end WordServer
