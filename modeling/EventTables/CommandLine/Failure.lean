import EventTables.Error

/-!
# Failures

How the program says that it could not do what it was asked.

A failure is written with its causes below it, each indented. A single cause
stands for itself and several are numbered from zero, so that the last line is
always the first cause. The further lines of a message are indented like its
first one.

## Main definitions

* `Failure`: What the program was about when it failed, and why.
* `Failure.chain`: The failure and its causes in words.
* `Failure.text`: The failure as it is written.
-/

namespace EventTables

namespace CommandLine

/-- What the program was about when it failed, and why. -/
inductive Failure where
  | loading (path : String) (cause : Error)
  | validating (cause : Error)
  /-- An address of the database is neither given nor configured. -/
  | noAddress
  | connecting (cause : Error)
  /-- What was asked for could not be done. -/
  | acting (cause : Error)
deriving Inhabited

namespace Failure

/-- The failure in words, then what caused it, and so on to the first cause. -/
def chain : Failure → List String
  | .loading path cause => ("loading config " ++ path) :: cause.chain
  | .validating cause => "validating config" :: cause.chain
  | .noAddress => ["no database url: set pg_url in the config or pass --pg-url"]
  | .connecting cause => "connecting to postgres" :: cause.chain
  | .acting cause => cause.chain

/-- The text with something in front of its first line, and something in front
    of each further one. -/
def indented (first further text : String) : String :=
  first ++ ("\n" ++ further).intercalate (text.splitOn "\n")

/-- The number of a cause, right-aligned. -/
def numberColumn (n : Nat) : String :=
  String.ofList (List.replicate (5 - (toString n).length) ' ') ++ toString n ++ ": "

/-- Numbered causes, each on lines of its own. -/
def numbered : Nat → List String → String
  | _, [] => ""
  | n, cause :: rest =>
    "\n" ++ indented (numberColumn n) "       " cause ++ numbered (n + 1) rest

/-- The causes, each on lines of its own. -/
def causesText : List String → String
  | [] => ""
  | [cause] => "\n\nCaused by:\n" ++ indented "    " "    " cause
  | causes => "\n\nCaused by:" ++ numbered 0 causes

/-- The failure as it is written. -/
def text (f : Failure) : String :=
  match f.chain with
  | [] => ""
  | message :: causes => "Error: " ++ message ++ causesText causes ++ "\n"

end Failure

end CommandLine

end EventTables
