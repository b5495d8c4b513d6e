/-
Module: ProcessWatch.Console.Session
Purpose: A whole session of the console, from the bytes that it reads to the text that it prints.
Trusted boundary: none
Main exports: Session, Session.step, Session.run, Session.linesOfBytes, Session.ofInput
-/
import ProcessWatch.Console.Basic
import ProcessWatch.Settings

namespace ProcessWatch

/-- How a session ended. -/
inductive SessionEnd where
  /-- The input ended, or the session was told to end. -/
  | finished
  /-- A line of the input is no text. -/
  | unreadable
deriving DecidableEq, Repr, Inhabited

/-- The console's part of a session. -/
structure Session where
  console : Console
  store : Store

namespace Session

/-- A session with the given settings whose clock reads `now`. -/
def create (settings : Settings) (now : Timestamp) : Session where
  console := Console.create settings.listLimit
  store := (Store.create settings.storeOptions now).store

/-- What is done after a line. -/
inductive Next where
  /-- Print some text, and read the next line. -/
  | print (text : String)
  /-- Complain about the line, and read the next one. -/
  | complain (error : CommandError)
  /-- Read the next line. -/
  | pass
  | stop
deriving DecidableEq, Repr

/-- Take one line.  A blank line is passed over, and a reply is printed without blanks at its
end. -/
def step (session : Session) (now : Timestamp) (line : String) : Next × Session :=
  if Text.trim line = "" then
    (.pass, session)
  else
    let execution := session.console.executeLine now session.store line
    let session := { session with store := execution.store }
    match execution.reply with
    | .ok (.text text) => (.print (Text.trimEnd text ++ "\n"), session)
    | .ok .quit => (.stop, session)
    | .error error => (.complain error, session)

/-- A line of the input with the reading of the clock while it is carried out; a line that is no
text is missing. -/
abbrev TimedLine := Timestamp × Option String

/-- What a session prints, and how it ends. -/
def run (session : Session) : List TimedLine → String × SessionEnd
  | [] => ("", .finished)
  | (_, none) :: _ => ("", .unreadable)
  | (now, some line) :: rest =>
      let (next, session) := session.step now line
      match next with
      | .stop => ("", .finished)
      | .print text =>
          let (output, ending) := session.run rest
          (text ++ output, ending)
      | .complain _ => session.run rest
      | .pass => session.run rest

/-! ## Lines -/

/-- Split some bytes after every line feed.  The last line need not have one. -/
def splitLines : List UInt8 → List (List UInt8)
  | [] => []
  | byte :: rest =>
      if byte = 10 then
        [byte] :: splitLines rest
      else
        match rest, splitLines rest with
        | _ :: _, line :: lines => (byte :: line) :: lines
        | _, lines => [byte] :: lines

/-- A line without the line feed at its end, and without a carriage return in front of that.  A last
line that has no line feed stays as it is. -/
def dropEnd (line : List UInt8) : List UInt8 :=
  if line.getLast? = some 10 then
    let line := line.dropLast
    if line.getLast? = some 13 then line.dropLast else line
  else
    line

/-- The text of a line, if its bytes are one in UTF-8. -/
def decodeLine (line : List UInt8) : Option String :=
  String.fromUTF8? (dropEnd line).toByteArray

/-- The lines of some bytes, each one without its end. -/
def linesOfBytes (bytes : List UInt8) : List (Option String) :=
  (splitLines bytes).map decodeLine

/-- What a session prints that reads some bytes, and how it ends.  The clock reads `reading k` while
line number `k` is carried out. -/
def ofInput (settings : Settings) (origin : Timestamp) (reading : Nat → Timestamp)
    (bytes : List UInt8) : String × SessionEnd :=
  (create settings origin).run
    ((linesOfBytes bytes).mapIdx fun number line => (reading number, line))

end Session

end ProcessWatch
