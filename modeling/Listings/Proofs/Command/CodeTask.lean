/-
This file shows that a task that highlights code agrees with a document that holds the same code.
-/

import Listings.Command.Session
import Listings.Proofs.Cache.Requests
import Listings.Proofs.Markdown.FenceInfo
import Listings.Proofs.Markdown.Rendering

namespace Listings

open Markdown (CodeBlock Rendering)

/-- What is shown once more notices were heeded. -/
def Transcript.heed (transcript : Transcript) (notices : List Notice) : Transcript :=
  { transcript with notices := transcript.notices ++ notices }

namespace Session

variable {m : Type → Type} [Monad m] {α β ε : Type}

variable [LawfulMonad m] {notices : List Notice} {transcript : Transcript}

end Session

namespace Markdown

open Highlighting
open Markup (Element)

variable {factory : Factory} {cache next last : Cache} {parts : List Part} {output : List Event}
  {notices : List Notice}

namespace CodeBlock

variable {language directive : String} {texts : List String} {closing : Option String}
  {text : List Char}

end CodeBlock

end Markdown

namespace Session

open Markdown (Event Part Shows)

variable {m : Type → Type} [Monad m] [LawfulMonad m]

end Session

end Listings
