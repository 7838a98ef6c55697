import FunctionChurn.History
import FunctionChurn.Shell.Builtin
import FunctionChurn.Shell.Command

/-!
# Running scripts

The program that is asked for histories may be a script, and a script is run here, without starting
a process.

* `Command.run` carries out a command, which changes the state of the script.
* `Shell.start` runs a whole script.
* `Disk.launch` runs the program of a call: the path of a script, taken from the directory of the
  call.

Of the programs that are no scripts, the few that every system has and that depend on nothing but
their arguments can be launched (`standing?`).  It is as if all others were not there.
-/

namespace FunctionChurn

namespace Shell

/-- A stream redirected. -/
def redirect (s : Shell) (r : Redirect) : Shell :=
  let kept := r.copies && match (s.text r.target) with
    | ['1'] => s.keepsOutput
    | ['2'] => s.keepsErrors
    | _ => false
  match r.stream with
  | 1 => { s with keepsOutput := kept }
  | 2 => { s with keepsErrors := kept }
  | _ => s

/-- The streams of another state. -/
def withStreamsOf (s t : Shell) : Shell :=
  { s with keepsOutput := t.keepsOutput, keepsErrors := t.keepsErrors }

/-- A state that goes on, unless the script has ended itself. -/
def andThen (s : Shell) (next : Shell → Shell) : Shell := if s.ended then s else next s

/-- Parameters set, one after the other. -/
def setAll (s : Shell) (values : List (String × Word)) : Shell :=
  values.foldl (fun s v => s.setParameter v.1 (s.text v.2)) s

mutual

/-- **A command carried out.** -/
def Command.run (d : Disk) : Command → Shell → Shell
  | .nothing, s => { s with status := 0 }
  | .simple values words, s =>
      match (s.setAll values).allFields words with
      | [] => { s.setAll values with status := 0 }
      | name :: arguments => (s.setAll values).call d name arguments
  | .both first second, s =>
      (first.run d s).andThen fun s => if s.status = 0 then second.run d s else s
  | .either first second, s =>
      (first.run d s).andThen fun s => if s.status = 0 then s else second.run d s
  | .sequel first second, s => (first.run d s).andThen fun s => second.run d s
  | .negation body, s =>
      (body.run d s).andThen fun s => { s with status := if s.status = 0 then 1 else 0 }
  | .branch test yes no, s =>
      (test.run d s).andThen fun s => if s.status = 0 then yes.run d s else no.run d s
  | .choice subject arms, s => arms.run d (s.text subject) s
  | .each name items body, s =>
      (s.allFields items).foldl
        (fun s item => s.andThen fun s => body.run d (s.setParameter name item))
        { s with status := 0 }
  | .group body, s => body.run d s
  | .enclosed body, s =>
      let t := body.run d s
      { s with status := t.status, output := t.output }
  | .redirected body redirects, s => (body.run d (redirects.foldl redirect s)).withStreamsOf s

/-- The first arm with a pattern that fits. -/
def Arms.run (d : Disk) (subject : List Char) : Arms → Shell → Shell
  | .none, s => { s with status := 0 }
  | .arm patterns body others, s =>
      if patterns.any fun w => fits (s.pattern w) subject then body.run d s
      else others.run d subject s

end

/-- **A script run from its beginning.** -/
def start (d : Disk) (script : List Char) (name : String) (arguments : List String) : CallResult :=
  let s : Shell := { name := name.toList, arguments := arguments.map String.toList }
  match (lexemes script).bind Command.ofLexemes with
  | some c =>
      let s := c.run d s
      ⟨s.status, s.output⟩
  | none => ⟨misuse, []⟩

/-- The words of the first line of a file, if it asks for a program that runs the rest. -/
def interpreter? (content : List Char) : Option (List String) :=
  match content with
  | '#' :: '!' :: rest =>
      let line := String.ofList (rest.takeWhile (· != '\n'))
      some ((Text.pieces ' ' line).filter (· ≠ ""))
  | _ => none

/-- Whether words ask for a shell. -/
def asksForShell : List String → Bool
  | path :: rest =>
      ["/bin/sh", "/usr/bin/sh"].contains path || (path == "/usr/bin/env" && rest == ["sh"])
  | [] => false

end Shell

namespace SystemFault

/-- A file that is no program. -/
def notProgram (path : String) : SystemFault := ⟨some 8, "Exec format error", some path⟩

end SystemFault

namespace Disk

/-- The program of a path, read in the working directory, run with some arguments. -/
def execute (d : Disk) (program : String) (arguments : List String) :
    Except SystemFault CallResult :=
  match d.find program with
  | .error o => .error (o.fault program)
  | .ok (_, .file content true) =>
      match Utf8.decode content with
      | .error _ => .error (.notProgram program)
      | .ok script =>
          match Shell.interpreter? script with
          | none => .error (.notProgram program)
          | some words =>
              if Shell.asksForShell words then .ok (Shell.start d script program arguments)
              else .error (.missing program)
  | .ok _ => .error (.denied program)

/-- What a program that every system has leaves behind; none for any other program. -/
def standing? (program : String) (arguments : List String) : Option CallResult :=
  match program with
  | "true" => some ⟨0, []⟩
  | "false" => some ⟨1, []⟩
  | "echo" => some ⟨0, Utf8.encode (" ".intercalate arguments ++ "\n").toList⟩
  | _ => none

/-- The program of a name that stands where programs are looked for, if it does. -/
def standingName (program : String) : String :=
  if ["/bin", "/usr/bin"].any fun place => program == Path.join place (Path.baseName program) then
    Path.baseName program
  else program

/-- **The program of a call run**, in the directory of the call.  A program with a slash may be a
script. -/
def launch (d : Disk) : Git := fun c =>
  match d.find c.directory with
  | .error o => .error (o.fault c.directory)
  | .ok (steps, .directory ..) =>
      match c.arguments with
      | program :: arguments =>
          match standing? (standingName program) arguments with
          | some result => .ok result
          | none =>
              if program.toList.contains '/' then
                { d with cwd := steps }.execute program arguments
              else .error (.missing program)
      | [] => .error (.missing "")
  | .ok _ => .error (.notDirectory c.directory)

end Disk

end FunctionChurn
