/-!
# Arguments

What the words after the program's name ask for.

The first word that is no option names the action. Options may stand before and
after it. Those for the configuration and the log are known in both places, and
where both places give one, the place after the action counts. The address of
the database is an option of the actions that need one. Within one place no
option may be repeated.

An option has a long name behind two hyphens, and some also a letter behind
one. The value of an option is the next word, or stands behind an equals sign;
a letter's value may follow it directly, and letters without values may be
written together. A word that begins with a hyphen is never the value of the
option before it, a single hyphen apart.

## Main definitions

* `Action`: What can be asked for, and `Action.ofName?` by its name.
* `Invocation`: An action with its options.
* `Request`: What the arguments ask for.
* `Switch`: The options.
* `Given`: The options given in one place.
* `scan`: Reads options up to the first other word.
* `Request.ofArguments`: What the arguments ask for, if they can be
  understood.
-/

namespace EventTables

namespace CommandLine

/-- What the program can be asked to do. -/
inductive Action where
  /-- Checks the configuration and shows the tables that result. -/
  | validate
  /-- Shows the statements of all tables. -/
  | ddl
  /-- Runs the statements of every integration's table. -/
  | migrate
  /-- Shows the effective sources. -/
  | sources
  /-- Shows the effective integrations under the names of their sources. -/
  | integrations
deriving DecidableEq, Inhabited, Repr

namespace Action

/-- The action of a name. -/
def ofName? : String → Option Action
  | "validate" => some .validate
  | "ddl" => some .ddl
  | "migrate" => some .migrate
  | "sources" => some .sources
  | "integrations" => some .integrations
  | _ => none

/-- The action needs a database. -/
def needsDatabase : Action → Bool
  | .validate => false
  | .ddl => false
  | .migrate => true
  | .sources => true
  | .integrations => true

end Action

/-- An action with its options. -/
structure Invocation where
  action : Action
  /-- Where the configuration is. -/
  configPath : String
  /-- More of the log is shown. -/
  verbose : Bool
  /-- The log is written as JSON. -/
  jsonLogs : Bool
  /-- The address of the database, in place of the configured one. -/
  address? : Option String
deriving DecidableEq, Inhabited, Repr

/-- What arguments ask for. -/
inductive Request where
  | run (i : Invocation)
  | help
  | version
deriving DecidableEq, Inhabited, Repr

/-! ### Options -/

/-- An option. -/
inductive Switch where
  | config
  | verbose
  | jsonLogs
  | address
  | help
  | version
deriving DecidableEq, Inhabited, Repr

namespace Switch

/-- The option of a long name. -/
def ofName? : String → Option Switch
  | "config" => some .config
  | "verbose" => some .verbose
  | "json-logs" => some .jsonLogs
  | "pg-url" => some .address
  | "help" => some .help
  | "version" => some .version
  | _ => none

/-- The option of a letter. -/
def ofLetter? : Char → Option Switch
  | 'c' => some .config
  | 'v' => some .verbose
  | 'h' => some .help
  | 'V' => some .version
  | _ => none

/-- The option has a value. -/
def takesValue : Switch → Bool
  | .config => true
  | .address => true
  | _ => false

end Switch

/-- Where options stand: before the action, or after it. -/
inductive Place where
  | before
  | after (action : Action)
deriving DecidableEq, Inhabited, Repr

/-- The option is known in the place. -/
def Place.knows : Place → Switch → Bool
  | .before, .address => false
  | .after action, .address => action.needsDatabase
  | .before, .version => true
  | .after _, .version => false
  | _, _ => true

/-- The options that are given in one place. -/
structure Given where
  configPath? : Option String
  verbose : Bool
  jsonLogs : Bool
  address? : Option String
deriving DecidableEq, Inhabited, Repr

namespace Given

/-- No option is given. -/
def nothing : Given := ⟨none, false, false, none⟩

/-- Adds an option without a value, unless it is given already. -/
def addFlag? (g : Given) : Switch → Option Given
  | .verbose => if g.verbose then none else some { g with verbose := true }
  | .jsonLogs => if g.jsonLogs then none else some { g with jsonLogs := true }
  | _ => none

/-- Adds an option with its value, unless it is given already. A path must not
    be empty. -/
def addValue? (g : Given) (value : String) : Switch → Option Given
  | .config =>
    if g.configPath?.isSome || value = "" then none else some { g with configPath? := some value }
  | .address => if g.address?.isSome then none else some { g with address? := some value }
  | _ => none

/-- The invocation of an action with the options given before and after it. -/
def invocation (before after : Given) (action : Action) : Invocation where
  action := action
  configPath := (after.configPath?.or before.configPath?).getD "./chainshovel.json"
  verbose := before.verbose || after.verbose
  jsonLogs := before.jsonLogs || after.jsonLogs
  address? := after.address?

end Given

/-! ### Reading -/

/-- What has been read. -/
inductive Reading where
  /-- The options of complete words. -/
  | options (g : Given)
  /-- The same, and an option whose value is still to come. -/
  | awaiting (s : Switch) (g : Given)
  | help
  | version
  /-- The arguments cannot be understood. -/
  | misuse
deriving DecidableEq, Inhabited, Repr

namespace Reading

/-- What results of an attempt to add an option. -/
def ofGiven? : Option Given → Reading
  | some g => .options g
  | none => .misuse

/-- The value that a letter's rest stands for: an equals sign in front of it
    does not count. -/
def letterValue : List Char → String
  | '=' :: cs => String.ofList cs
  | cs => String.ofList cs

/-- Reads the letters behind a hyphen. -/
def letters (place : Place) (g : Given) : List Char → Reading
  | [] => .options g
  | c :: cs =>
    match (Switch.ofLetter? c).filter place.knows with
    | none => .misuse
    | some .help => .help
    | some .version => .version
    | some s =>
      if s.takesValue then
        if cs.isEmpty then .awaiting s g else ofGiven? (g.addValue? (letterValue cs) s)
      else
        match g.addFlag? s with
        | some g => letters place g cs
        | none => .misuse

/-- Reads a long name and the value behind its equals sign, if there is one. -/
def longName (place : Place) (g : Given) (name : String) (value? : Option String) : Reading :=
  match (Switch.ofName? name).filter place.knows, value? with
  | none, _ => .misuse
  | some s, some value => ofGiven? (g.addValue? value s)
  | some .help, none => .help
  | some .version, none => .version
  | some s, none => if s.takesValue then .awaiting s g else ofGiven? (g.addFlag? s)

/-- Reads what follows two hyphens. -/
def long (place : Place) (g : Given) (cs : List Char) : Reading :=
  let name := cs.takeWhile (· ≠ '=')
  match cs.drop name.length with
  | [] => longName place g (String.ofList name) none
  | _ :: value => longName place g (String.ofList name) (some (String.ofList value))

end Reading

/-- The form of a word. -/
inductive Form where
  /-- The two hyphens that end the options. -/
  | hyphens
  /-- Two hyphens and more. -/
  | long (rest : List Char)
  /-- A hyphen and letters. -/
  | letters (rest : List Char)
  | plain
deriving DecidableEq, Inhabited, Repr

/-- The form of a word. -/
def Form.of (word : String) : Form :=
  match word.toList with
  | ['-', '-'] => .hyphens
  | '-' :: '-' :: cs => .long cs
  | '-' :: c :: cs => .letters (c :: cs)
  | _ => .plain

/-- What options lead to. -/
inductive Stop where
  /-- All words are read. -/
  | finished (g : Given)
  /-- The first word that is no option, and the words after it. -/
  | word (g : Given) (w : String) (rest : List String)
  | help
  | version
  | misuse
deriving DecidableEq, Inhabited, Repr

/-- Reads options up to the first other word. -/
def scan (place : Place) : Reading → List String → Stop
  | .help, _ => .help
  | .version, _ => .version
  | .misuse, _ => .misuse
  | .options g, [] => .finished g
  | .awaiting .., [] => .misuse
  | .options g, w :: rest =>
    match Form.of w with
    | .hyphens => if rest.isEmpty then .finished g else .misuse
    | .long cs => scan place (.long place g cs) rest
    | .letters cs => scan place (.letters place g cs) rest
    | .plain => .word g w rest
  | .awaiting s g, w :: rest =>
    match Form.of w with
    | .plain => scan place (.ofGiven? (g.addValue? w s)) rest
    | _ => .misuse

/-- What the word `help` asks for: the name of one action may follow it. -/
def helpRequest? : List String → Option Request
  | [] => some .help
  | [name] => if name = "help" || (Action.ofName? name).isSome then some .help else none
  | _ => none

/-- What the arguments ask for, if they can be understood. -/
def Request.ofArguments (args : List String) : Option Request :=
  match scan .before (.options .nothing) args with
  | .help => some .help
  | .version => some .version
  | .misuse => none
  | .finished _ => none
  | .word before name rest =>
    if name = "help" then helpRequest? rest
    else
      match Action.ofName? name with
      | none => none
      | some action =>
        match scan (.after action) (.options .nothing) rest with
        | .finished after => some (.run (before.invocation after action))
        | .help => some .help
        | _ => none

end CommandLine

end EventTables
