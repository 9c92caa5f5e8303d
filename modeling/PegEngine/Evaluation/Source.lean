import PegEngine.Evaluation.Parse

/-!
# Reading inputs

An input can come from a source that has to be read to its end first.  If
reading fails there is no parse, however much has been read by then.
-/

namespace PegEngine

/-- Two failures of reading that are known by name: there is no such file, and a
connection has been lost.  A source can fail with anything else as well. -/
inductive ReadFailure where
  | notFound
  | connectionReset
deriving DecidableEq, Repr

namespace ReadFailure

def name : ReadFailure → String
  | .notFound => "NotFound"
  | .connectionReset => "ConnectionReset"

end ReadFailure

/-- Where an input comes from: bytes that end, or bytes after which reading
fails.  What is told about a failure is left to the source. -/
inductive Source (ε : Type := ReadFailure) where
  | complete (bytes : ByteArray)
  | broken (bytes : ByteArray) (failure : ε)

namespace Source

/-- A file that does not exist has no bytes, and fails at once. -/
def missing : Source := .broken .empty .notFound

variable {ε : Type}

/-- Read a source to its end. -/
def read : Source ε → Except ε ByteArray
  | .complete bytes => .ok bytes
  | .broken _ failure => .error failure

/-- Read a source and parse what it holds. -/
def parse {α σ : Type} (source : Source ε) (grammar : Grammar α σ)
    (fileName : String) (settings : List (Setting σ)) :
    Except ε (Option (ParseReport α)) := do
  let input ← source.read
  return (Session.ofSettings grammar fileName input settings).parse

end Source

end PegEngine
