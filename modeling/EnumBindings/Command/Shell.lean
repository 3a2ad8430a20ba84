import EnumBindings.Command.Program

/-!
# A small shell

What the shell is asked for when an update is played through by a script: to end with a status or
by a signal, and to run small programs. A shell text is a list of commands, joined by `;`, `&&`,
`||` or newlines. A command is a list of words with blanks between them, which quotes keep together:
a small program with its arguments, or a command of the shell itself. What a command shows is put
into a file with `>`, appended to a file with `>>`, and else lost.

## Main definitions

* `Shell.lexemes`, `Shell.commands` — a shell text taken apart
* `Shell.program` — the shell
-/

namespace EnumBindings.Shell

/-- What joins two commands. -/
inductive Joint where
  | always
  | onSuccess
  | onFailure
  deriving DecidableEq, Repr

/-- Whether a command runs after one that ended with a status. -/
def Joint.allows (joint : Joint) (status : Nat) : Bool :=
  match joint with
  | always => true
  | onSuccess => status == 0
  | onFailure => status != 0

/-- A part of a shell text: a word, the arrow in front of the file for what a command shows, or
what stands between two commands. -/
inductive Lexeme where
  | word (text : Text)
  | arrow (append : Bool)
  | joint (joint : Joint)
  deriving DecidableEq, Repr

/-- The parts of a shell text, after the part of a word that has been read and inside the quotes
that have been opened. An arrow to another stream has no effect on files. -/
def lexemes (quote : Option Char) (word : Option Text) : Text → List Lexeme
  | [] => ended
  | c :: rest =>
    match quote with
    | some closing =>
      if c = closing then lexemes none (some (word.getD [])) rest
      else lexemes quote (some (word.getD [] ++ [c])) rest
    | none =>
      match c, rest with
      | '&', '&' :: rest => ended ++ .joint .onSuccess :: lexemes none none rest
      | '|', '|' :: rest => ended ++ .joint .onFailure :: lexemes none none rest
      | '>', '>' :: rest => ended ++ .arrow true :: lexemes none none rest
      | '>', '&' :: _ :: rest => lexemes none word rest
      | '>', rest => ended ++ .arrow false :: lexemes none none rest
      | c, rest =>
        if c = ';' || c = '\n' then ended ++ .joint .always :: lexemes none none rest
        else if c = ' ' || c = '\t' then ended ++ lexemes none none rest
        else if c = '"' || c = '\'' then lexemes (some c) (some (word.getD [])) rest
        else lexemes none (some (word.getD [] ++ [c])) rest
where
  /-- The word that has been read, if there is one. -/
  ended : List Lexeme :=
    match word with
    | some text => [.word text]
    | none => []

/-- A command: what joins it to the one before, its words, and the file for what it shows. -/
structure Command where
  joint : Joint
  words : List Text := []
  /-- Whether the file is appended to, and its path. -/
  file : Option (Bool × Path) := none

/-- The commands of a shell text, after the part of the first one that has been read. -/
def commands (current : Command) : List Lexeme → List Command
  | [] => [current]
  | .arrow append :: .word path :: rest =>
    commands { current with file := some (append, path) } rest
  | .arrow _ :: rest => commands current rest
  | .word text :: rest => commands { current with words := current.words ++ [text] } rest
  | .joint next :: rest => current :: commands { joint := next } rest

/-- The number that decimal digits stand for, if it is one that the shell can hold. -/
def number? (text : Text) : Option Nat :=
  if text ≠ [] && text.all Char.isDigit then
    let number := text.foldl (fun number digit => 10 * number + (digit.toNat - '0'.toNat)) 0
    if number < 0x80000000 then some number else none
  else none

/-- How many signals there are. -/
def signalCount : Nat := 64

/-- The signal that a name or a number stands for. A signal 0 stands for none. -/
def signal? (text : Text) : Option Nat :=
  match number? text with
  | some number => if number ≤ signalCount then some number else none
  | none => (List.range (signalCount + 1)).find? fun number =>
      (signalName? number).map String.toList = some (text.map Char.toUpper)

/-- The signals that do not end a program. -/
def isIgnored (signal : Nat) : Bool :=
  signal = 0 || ["CHLD", "CONT", "URG", "WINCH"].any (signalName? signal = some ·)

/-- What a command does: it ends the shell, or the shell goes on with its status and what it has
shown. -/
inductive Effect where
  | over (outcome : Outcome) (space : Workspace)
  | on (status : Nat) (space : Workspace) (shown : Text)

/-- The shell sends a signal to itself, by which it ends unless the signal is ignored. That is
termination unless another one is named. -/
def kill (arguments : List Text) (space : Workspace) : Effect :=
  let named? :=
    match arguments with
    | ['-' :: name, _] => signal? name
    | _ => signal? "TERM".toList
  match named? with
  | none => .on 2 space []
  | some signal => if isIgnored signal then .on 0 space [] else .over (.signalled signal) space

/-- Shows words with blanks between them, and a newline unless that is declined. -/
def echo (arguments : List Text) : Text :=
  match arguments with
  | ['-', 'n'] :: words => [' '].intercalate words
  | words => [' '].intercalate words ++ ['\n']

/-- One command after one that ended with a status. -/
def runCommand (status : Nat) (name : Text) (arguments : List Text) (space : Workspace) : Effect :=
  if name = "exit".toList then
    let status := match arguments with
      | code :: _ => (number? code).getD 2
      | [] => status
    .over (.exited (status % 256)) space
  else if name = "kill".toList && arguments.getLast? = some "$$".toList then kill arguments space
  else if name = ":".toList then .on 0 space []
  else if name = "echo".toList then .on 0 space (echo arguments)
  else if name = "cd".toList then
    match space.directory (arguments.headD []) with
    | .ok location => .on 0 { space with here := location } []
    | .error _ => .on 2 space []
  else
    match Program.named? name with
    | none => .on (if name.contains '/' && (space.item name).isOk then 126 else 127) space []
    | some program =>
      match program arguments space with
      | (.exited status, space) => .on status space []
      | (outcome, space) => .over outcome space

/-- What a file has so far, if it is a text that can be read. -/
def soFar (space : Workspace) (path : Path) : Text :=
  match space.read path with
  | .ok text => text
  | .error _ => []

/-- Runs commands one after the other, after one that ended with a status. The status of the last
one that runs is that of the shell. -/
def runCommands (status : Nat) (space : Workspace) : List Command → Outcome × Workspace
  | [] => (.exited status, space)
  | command :: rest =>
    match command.joint.allows status, command.words with
    | false, _ | _, [] => runCommands status space rest
    | true, name :: arguments =>
      match runCommand status name arguments space, command.file with
      | .over outcome space, _ => (outcome, space)
      | .on status space _, none => runCommands status space rest
      | .on status space shown, some (append, path) =>
        match space.write path ((if append then soFar space path else []) ++ shown) with
        | .ok written => runCommands status written rest
        | .error _ => runCommands 2 space rest

/-- The shell, for a text that is given to it. -/
def program : Program := fun arguments space =>
  match arguments with
  | ['-', 'c'] :: text :: _ =>
    runCommands 0 space (commands { joint := .always } (lexemes none none text))
  | ['-', 'c'] :: [] => Program.ended 2 space
  | _ => Program.ended 0 space

end EnumBindings.Shell
