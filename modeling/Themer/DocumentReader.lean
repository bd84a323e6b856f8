import Themer.Failure

/-! What reads the documents that settings are kept in; it is no part of the program. -/

namespace Themer

/-- What is wrong with a document, in the words of its reader. -/
structure Complaint where
  words : String
deriving DecidableEq, Repr

/-- A reader of documents: what it makes of the bytes of a file, and what is known of that. -/
structure DocumentReader where
  /-- The value of a document, or what is wrong with it, or what has cut the reading short. -/
  read : Text.Bytes → Except (Failure Complaint) Datum
  /-- A map that is built key by key has each of them once. -/
  isProper {bytes : Text.Bytes} {document : Datum} (given : read bytes = .ok document) :
    document.IsProper

end Themer
