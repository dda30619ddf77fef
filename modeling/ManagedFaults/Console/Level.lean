/-!
# Console messages

What the trap system says on the error stream: messages with a level, coloured and tagged, of
which only those up to the chosen level are printed, and report lines, which are always printed.
-/

namespace ManagedFaults

/-- Verbosity, from silence to everything. -/
inductive Level where
  | off
  | error
  | warn
  | info
  | debug
  | trace
deriving DecidableEq, Repr, Inhabited

namespace Level

/-- Levels by growing verbosity. -/
def all : List Level := [.off, .error, .warn, .info, .debug, .trace]

/-- The place of a level among all levels. -/
def rank : Level → Nat
  | .off => 0
  | .error => 1
  | .warn => 2
  | .info => 3
  | .debug => 4
  | .trace => 5

/-- The terminal colour a message of this level starts with. -/
def colour : Level → String
  | .error => "\x1b[31m"
  | .warn => "\x1b[33m"
  | .info => "\x1b[32m"
  | .debug => "\x1b[36m"
  | .trace => "\x1b[90m"
  | .off => "\x1b[90m"

/-- The tag that follows the colour. -/
def tag : Level → String
  | .error => "[ERROR] "
  | .warn => "[WARN] "
  | .info => "[INFO] "
  | .debug => "[DEBUG] "
  | .trace => "[TRACE] "
  | .off => "[TRACE] "

/-- What ends every message that has a level. -/
def reset : String := "\x1b[0m\n"

/-- The fragments of a message, in the order they are printed.  A debug message also tells, between
the tag and the text, where in the code it comes from; that place is left out here. -/
def fragments (l : Level) (text : String) : List String :=
  [l.colour, l.tag, text, reset]

end Level

/-- The chosen verbosity and the messages printed so far, oldest first. -/
structure Console where
  level : Level := .warn
  printed : List String := []
deriving Repr, Inhabited

namespace Console

/-- Whether messages at `l` are printed: never at `off`, else up to the chosen verbosity. -/
def enabled (c : Console) (l : Level) : Bool :=
  l != .off && decide (l.rank ≤ c.level.rank)

/-- Prints fragments as one message. -/
def print (c : Console) (fragments : List String) : Console :=
  { c with printed := c.printed ++ [String.join fragments] }

/-- Prints a message with its level, if that level is enabled. -/
def say (c : Console) (l : Level) (text : String) : Console :=
  if c.enabled l then c.print (l.fragments text) else c

/-- Prints report lines, whatever the verbosity. -/
def report (c : Console) (lines : List String) : Console :=
  lines.foldl (fun c line => c.print [line, "\n"]) c

/-- All that was printed, as one text. -/
def text (c : Console) : String :=
  String.join c.printed

end Console

end ManagedFaults
