/-!
# Messages to the client

What a session tells the person in front of the editor: lines for a log, and
notes that are shown at once.
-/

namespace JspCompletion

/-- Where a message appears. -/
inductive Channel
  /-- In a log. -/
  | log
  /-- In front of the user. -/
  | screen
deriving DecidableEq, Repr

/-- How serious a message is. -/
inductive Severity
  | warning
  | info
deriving DecidableEq, Repr

/-- The number by which the protocol names a severity. -/
def Severity.code : Severity → Nat
  | warning => 2
  | info => 3

/-- The method by which the protocol names a channel. -/
def Channel.method : Channel → String
  | log => "window/logMessage"
  | screen => "window/showMessage"

/-- A message to the client. -/
structure Message where
  /-- Where it appears. -/
  channel : Channel
  /-- How serious it is. -/
  severity : Severity
  /-- What it says. -/
  text : String
deriving DecidableEq, Repr

namespace Message

/-- A number of libraries. -/
def libraries (count : Nat) : String :=
  toString count ++ (if count = 1 then " tag library" else " tag libraries")

/-- A number of directories. -/
def directories (count : Nat) : String :=
  toString count ++ (if count = 1 then " directory" else " directories")

/-- A warning for the log. -/
def warn (text : String) : Message :=
  { channel := .log, severity := .warning, text }

/-- A line for the log. -/
def note (text : String) : Message :=
  { channel := .log, severity := .info, text }

/-- A warning for the user. -/
def alert (text : String) : Message :=
  { channel := .screen, severity := .warning, text }

end Message
end JspCompletion
