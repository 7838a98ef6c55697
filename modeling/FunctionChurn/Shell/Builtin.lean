import FunctionChurn.Decimal.Integer
import FunctionChurn.Disk.Resolve
import FunctionChurn.Shell.Expand

/-!
# What scripts can do

The commands that scripts have at hand: printing, with or without a format, tests, and ending.

* `echoBytes` and `printfBytes` are what the two ways of printing print.
* `Disk.holds?` is the outcome of a test; none if it is no test.
* `Shell.call` carries out a command that is named by its first field.
-/

namespace FunctionChurn.Shell

/-! ## Backslashes -/

/-- The value of an octal digit. -/
def octalValue? (c : Char) : Option Nat :=
  if '0' ≤ c ∧ c ≤ '7' then some (c.toNat - 48) else none

/-- The byte of up to three octal digits, and what is left. -/
def octalByte (cs : List Char) : UInt8 × List Char :=
  let digits := (cs.take 3).takeWhile fun c => (octalValue? c).isSome
  (UInt8.ofNat (Integer.ofDigits 8 (digits.filterMap octalValue?)), cs.drop digits.length)

/-- The characters that a letter behind a backslash stands for. -/
def escapeLetters : List (Char × UInt8) :=
  [('a', 7), ('b', 8), ('f', 12), ('n', 10), ('r', 13), ('t', 9), ('v', 11), ('\\', 92)]

/-- **Bytes with backslashes read**, in texts where an octal number has a zero in front of it and
where `\c` ends everything; the second part tells whether it did not. -/
def escapedBytes : (fuel : Nat) → List Char → Bytes × Bool
  | 0, _ => ([], true)
  | n + 1, cs =>
      let more (bs : Bytes) (rest : List Char) : Bytes × Bool :=
        let (found, goes) := escapedBytes n rest
        (bs ++ found, goes)
      match cs with
      | [] => ([], true)
      | '\\' :: 'c' :: _ => ([], false)
      | '\\' :: '0' :: rest => more [(octalByte rest).1] (octalByte rest).2
      | '\\' :: c :: rest =>
          match escapeLetters.lookup c with
          | some b => more [b] rest
          | none =>
              if (octalValue? c).isSome then
                more [(octalByte (c :: rest)).1] (octalByte (c :: rest)).2
              else more (Utf8.encode ['\\', c]) rest
      | c :: rest => more (Utf8.encode [c]) rest

/-- What is printed for some texts: the texts with a space between them, and a line end unless the
first text is `-n`. -/
def echoBytes (texts : List (List Char)) : Bytes :=
  let (ends, texts) := match texts with
    | ['-', 'n'] :: rest => (false, rest)
    | _ => (true, texts)
  let cs := spaced texts
  let (bytes, goes) := escapedBytes (cs.length + 1) cs
  bytes ++ if ends && goes then [10] else []

/-! ## Formats -/

/-- **A piece of a format**: bytes, or a place for an argument. -/
inductive FormatPiece where
  | bytes (bs : Bytes)
  | place (left zeros : Bool) (width : Nat) (precision : Option Nat) (kind : Char)
  deriving DecidableEq, Repr

/-- A number in front of some characters, and what is left. -/
def leadingNumber (cs : List Char) : Option Nat × List Char :=
  let digits := cs.takeWhile Char.isDigit
  ((String.ofList digits).toNat?, cs.drop digits.length)

/-- The place behind a percent sign, and what is left. -/
def place? (cs : List Char) : Option (FormatPiece × List Char) :=
  let flags := cs.takeWhile fun c => c == '-' || c == '0'
  let (width, rest) := leadingNumber (cs.drop flags.length)
  let (precision, rest) := match rest with
    | '.' :: more => (some ((leadingNumber more).1.getD 0), (leadingNumber more).2)
    | _ => (none, rest)
  match rest with
  | kind :: rest =>
      some (.place (flags.contains '-') (flags.contains '0') (width.getD 0) precision kind, rest)
  | [] => none

/-- **The pieces of a format.** -/
def formatPieces : (fuel : Nat) → List Char → List FormatPiece
  | 0, _ => []
  | n + 1, cs =>
      match cs with
      | [] => []
      | '%' :: '%' :: rest => .bytes [37] :: formatPieces n rest
      | '%' :: rest =>
          match place? rest with
          | some (piece, rest) => piece :: formatPieces n rest
          | none => [.bytes [37]]
      | '\\' :: c :: rest =>
          match escapeLetters.lookup c with
          | some b => .bytes [b] :: formatPieces n rest
          | none =>
              if (octalValue? c).isSome then
                .bytes [(octalByte (c :: rest)).1] :: formatPieces n (octalByte (c :: rest)).2
              else .bytes (Utf8.encode ['\\', c]) :: formatPieces n rest
      | c :: rest => .bytes (Utf8.encode [c]) :: formatPieces n rest

/-- Digits filled up to a number of them. -/
def filled (mark : Char) (width : Nat) (cs : List Char) : List Char :=
  List.replicate (width - cs.length) mark ++ cs

/-- A number at a place, with zeros between its sign and its digits. -/
def numberAt (zeros : Bool) (width : Nat) (precision : Option Nat) (base : Nat) (n : Int) :
    List Char :=
  let sign := if n < 0 then ['-'] else []
  let digits := filled '0' (precision.getD 0) (Nat.toDigits base n.natAbs)
  sign ++ if zeros && precision.isNone then filled '0' (width - sign.length) digits else digits

/-- The text of an argument at a place, not yet filled up. -/
def placeBytes (zeros : Bool) (width : Nat) (precision : Option Nat) (kind : Char)
    (argument : List Char) : Bytes :=
  let number : Int := (String.ofList argument).toInt?.getD 0
  match kind with
  | 'd' => Utf8.encode (numberAt zeros width precision 10 number)
  | 'i' => Utf8.encode (numberAt zeros width precision 10 number)
  | 'u' => Utf8.encode (numberAt zeros width precision 10 number)
  | 'x' => Utf8.encode (numberAt zeros width precision 16 number)
  | 'o' => Utf8.encode (numberAt zeros width precision 8 number)
  | 'c' => (Utf8.encode argument).take 1
  | 'b' => (escapedBytes (argument.length + 1) argument).1
  | _ =>
      let bytes := Utf8.encode argument
      match precision with
      | some n => bytes.take n
      | none => bytes

/-- The bytes of a piece, and the arguments that are left. -/
def pieceBytes (arguments : List (List Char)) : FormatPiece → Bytes × List (List Char)
  | .bytes bs => (bs, arguments)
  | .place left zeros width precision kind =>
      let bytes := placeBytes zeros width precision kind (arguments.headD [])
      let blanks := List.replicate (width - bytes.length) 32
      (if left then bytes ++ blanks else blanks ++ bytes, arguments.tail)

/-- The bytes of a format that is gone through once, and the arguments that are left. -/
def formatOnce (arguments : List (List Char)) : List FormatPiece → Bytes × List (List Char)
  | [] => ([], arguments)
  | p :: ps =>
      let (bytes, rest) := pieceBytes arguments p
      let (more, left) := formatOnce rest ps
      (bytes ++ more, left)

/-- The bytes of a format that is gone through until no argument is left. -/
def formatAll (pieces : List FormatPiece) : (fuel : Nat) → List (List Char) → Bytes
  | 0, _ => []
  | n + 1, arguments =>
      let (bytes, left) := formatOnce arguments pieces
      if left = [] ∨ left.length = arguments.length then bytes
      else bytes ++ formatAll pieces n left

/-- **What is printed for a format and its arguments.** -/
def printfBytes (format : List Char) (arguments : List (List Char)) : Bytes :=
  formatAll (formatPieces (format.length + 1) format) (arguments.length + 1) arguments

/-! ## Tests -/

/-- The comparison of numbers that an operator stands for. -/
def comparison? (operator : String) : Option (Int → Int → Bool) :=
  match operator with
  | "-eq" => some fun a b => a == b
  | "-ne" => some fun a b => a != b
  | "-lt" => some fun a b => a < b
  | "-le" => some fun a b => a ≤ b
  | "-gt" => some fun a b => b < a
  | "-ge" => some fun a b => b ≤ a
  | _ => none

/-- Whether a question about a path is answered with yes. -/
def isSo (answer : Except SystemFault Bool) : Bool := answer.toOption.getD false

/-- A test of one text. -/
def holdsOne? (d : Disk) (operator : String) (text : String) : Option Bool :=
  match operator with
  | "-n" => some (text != "")
  | "-z" => some (text == "")
  | "-e" => some (isSo (d.exists text))
  | "-f" => some (d.isFile text)
  | "-d" => some (isSo (d.isDirectory text))
  | "-r" => some (isSo (d.exists text))
  | "-w" => some (isSo (d.exists text))
  | "-s" => some (match d.read text with
      | .ok bytes => bytes != []
      | .error _ => isSo (d.isDirectory text))
  | "-x" => some (match d.find text with
      | .ok (_, .file _ executable) => executable
      | .ok (_, .directory ..) => true
      | _ => false)
  | _ => none

/-- A test of two texts. -/
def holdsTwo? (operator : String) (a b : String) : Option Bool :=
  match operator with
  | "=" => some (a == b)
  | "==" => some (a == b)
  | "!=" => some (a != b)
  | _ =>
      match comparison? operator, a.toInt?, b.toInt? with
      | some compare, some m, some n => some (compare m n)
      | _, _, _ => none

/-- **The outcome of a test**; none if it is no test. -/
def holds? (d : Disk) : List String → Option Bool
  | [] => some false
  | "!" :: a :: rest => (holds? d (a :: rest)).map (!·)
  | [a] => some (a != "")
  | [operator, a] => holdsOne? d operator a
  | [a, operator, b] => holdsTwo? operator a b
  | _ => none

/-! ## Calls -/

/-- The status of a command that was found but is no good. -/
def misuse : Nat := 2

/-- The status of a command that is not there. -/
def notFound : Nat := 127

/-- What is printed, and the status of the command. -/
def finish (s : Shell) (status : Nat) (printed : Bytes) : Shell :=
  { s with status, output := if s.keepsOutput then s.output ++ printed else s.output }

/-- The state after a test. -/
def tested (s : Shell) (d : Disk) (words : List (List Char)) : Shell :=
  match holds? d (words.map String.ofList) with
  | some true => s.finish 0 []
  | some false => s.finish 1 []
  | none => s.finish misuse []

/-- The content of several files, and whether all could be read. -/
def contents (d : Disk) (files : List (List Char)) : Bytes × Bool :=
  files.foldl (fun (bytes, good) file => match d.read (String.ofList file) with
    | .ok found => (bytes ++ found, good)
    | .error _ => (bytes, false)) ([], true)

/-- **A command carried out**, given its fields. -/
def call (s : Shell) (d : Disk) (name : List Char) (arguments : List (List Char)) : Shell :=
  match String.ofList name with
  | ":" => s.finish 0 []
  | "true" => s.finish 0 []
  | "false" => s.finish 1 []
  | "echo" => s.finish 0 (echoBytes arguments)
  | "printf" =>
      match arguments with
      | format :: arguments => s.finish 0 (printfBytes format arguments)
      | [] => s.finish misuse []
  | "test" => s.tested d arguments
  | "[" =>
      if arguments.getLast? = some [']'] then s.tested d arguments.dropLast else s.finish misuse []
  | "cat" =>
      let (bytes, good) := contents d arguments
      s.finish (if good then 0 else 1) bytes
  | "shift" =>
      let n := (arguments.head?.bind fun a => (String.ofList a).toNat?).getD 1
      { s with status := 0, arguments := s.arguments.drop n }
  | "exit" =>
      let status := match arguments.head?.bind fun a => (String.ofList a).toNat? with
        | some n => n % 256
        | none => s.status
      { s with status, ended := true }
  | _ => s.finish notFound []

end FunctionChurn.Shell
