import Wager.Json.Decode
import Wager.Time.Rfc3339

/-!
# Points in time in documents

A point in time stands in a document as its text.

## Main definitions

* `Timestamp.toValue`, `Timestamp.decoder`: Writing and reading.
-/

namespace Wager.Timestamp

/-- A point in time as a document. -/
def toValue (t : Timestamp) : Json.Value := .text t.text

/-- Reads a point in time from a document. -/
def decoder : Json.Decoder Timestamp := fun budget t =>
  (Json.Decoder.text budget t).bind parse?

end Wager.Timestamp
