import PegEngine.Diagnostic
import PegEngine.Text.Replacement

/-!
# The log of a parse

A parse that is traced logs each node that it enters and leaves, indented by
the number of nodes that are open, and between them what has matched and where
it went back.  Traced or not, it logs why it came to an early end.
-/

namespace PegEngine

/-- What a parse enters and leaves: a rule by its name, or an expression by its
kind. -/
inductive Subject where
  | rule (name : String)
  | expression (kind : String)
deriving DecidableEq, Repr

namespace Subject

def written : Subject → String
  | .rule name => "parseRule " ++ name
  | .expression kind => kind

end Subject

inductive LogLevel where
  | trace
  | debug
  | warn
deriving DecidableEq, Repr

namespace LogLevel

def written : LogLevel → String
  | .trace => "TRACE"
  | .debug => "DEBUG"
  | .warn => "WARN"

end LogLevel

/-- What a parse logs.  Nodes are entered and left at a cursor, and the indent
of an entry is the number of nodes that are open. -/
inductive LogEntry where
  | entered (indent : Nat) (subject : Subject) (cursor : Cursor)
  | left (indent : Nat) (subject : Subject) (cursor : Cursor)
  | matched (indent : Nat) (text : ByteArray)
  | restored (indent : Nat) (position : Position)
  | ruleless (fileName : String)
  | rejected (fileName : String) (error : ParseError)
  | aborted (fileName : String) (expressions : Nat) (error : ParseError)
  | recovered (fileName : String) (report : String)

namespace LogEntry

def level : LogEntry → LogLevel
  | .entered _ _ _ | .left _ _ _ | .matched _ _ | .restored _ _ => .trace
  | .ruleless _ | .rejected _ _ | .aborted _ _ _ => .debug
  | .recovered _ _ => .warn

def blanks (indent : Nat) : String := String.ofList (List.replicate indent ' ')

def subjectAt (subject : Subject) (cursor : Cursor) : String :=
  cursor.position.bracketed ++ ": " ++ subject.written ++
    " [" ++ cursor.currentText ++ "]"

def message : LogEntry → String
  | .entered indent subject cursor =>
    blanks indent ++ "> " ++ subjectAt subject cursor
  | .left indent subject cursor =>
    blanks indent ++ "< " ++ subjectAt subject cursor
  | .matched indent text =>
    blanks indent ++ " MATCH " ++ Quoted.text (Replacement.text text)
  | .restored indent position =>
    blanks (indent + 1) ++ " restore " ++ position.bracketed
  | .ruleless fileName => fileName ++ ": grammar has no rule"
  | .rejected fileName error =>
    fileName ++ ": grammar rejected: " ++ error.message
  | .aborted fileName expressions error =>
    fileName ++ ": parse aborted after " ++ toString expressions ++
      " expressions: " ++ error.message
  | .recovered fileName report =>
    fileName ++ ": recovered from panic: " ++ report

/-- An entry in writing, with its level. -/
def written (entry : LogEntry) : String :=
  entry.level.written ++ " " ++ entry.message

end LogEntry

end PegEngine
