import FunctionChurn.Proofs.Source.Bare
import FunctionChurn.Proofs.Source.Order
import FunctionChurn.Proofs.Source.Lua.Scan

/-!
# What a file names is what is found in it

The search looks at what follows each word `function`.  In a file brackets or a path follow it, and the search
stops at the last name of the path.

* `lastName_bare` and `namedIn_bare`: places do not matter to the search.
* `lastName_path`: the search reads a path to its last name.
* **`namedIn_pieces`**: the search finds the functions of a row, and goes on behind it.
* **`File.occurrences_named`**: the search gives what the file names.
-/

namespace FunctionChurn.Source.Lua

open Go (Bracket)
open scoped Go

/-! ## Places do not matter -/

lemma lastName_bare :
    ∀ (name : Token) (ts : List Token), lastName name.bare (ts.map Token.bare) = (lastName name ts).bare
  | _, [] | _, [_] => rfl
  | name, sep :: next :: rest => by
      rw [List.map_cons, List.map_cons, lastName, lastName_bare next rest, Token.isMark_bare,
        Token.isMark_bare, Token.isWord_bare, lastName]
      split <;> rfl

lemma namedBy_bare (ts : List Token) :
    namedBy (ts.map Token.bare) = (namedBy ts).map Occurrence.bare := by
  cases ts with
  | nil => rfl
  | cons name rest =>
      rw [List.map_cons, namedBy, lastName_bare, Token.isWord_bare, Token.occurrence_bare, namedBy]
      split <;> rfl

lemma namedIn_bare (ts : List Token) :
    namedIn (ts.map Token.bare) = (namedIn ts).map Occurrence.bare := by
  induction ts with
  | nil => rfl
  | cons t ts ih =>
      rw [List.map_cons, namedIn, namedBy_bare, ih, Token.isTheWord_bare, namedIn, List.map_append]
      split <;> rfl

/-! ## Symbols as tokens -/

/-- A symbol as a token without a place. -/
def Symbol.token (s : Symbol) : Token := s.part.lexeme.bare

/-- A piece as a token without a place. -/
def Piece.token (p : Piece) : Token := p.symbol.token

/-- The tokens of some pieces, without their places. -/
def tokens (ps : List Piece) : List Token := ps.map Piece.token

lemma tokens_cons (p : Piece) (ps : List Piece) : tokens (p :: ps) = p.symbol.token :: tokens ps := rfl

lemma tokens_append (ps qs : List Piece) : tokens (ps ++ qs) = tokens ps ++ tokens qs :=
  List.map_append

lemma tokens_enclosed (gap : Gap) (b : Bracket) (inner : List Piece) (close : Gap) (rest : List Piece)
    (ts : List Token) :
    tokens (Row.enclosed gap b inner close rest) ++ ts
      = (Symbol.opening b).token :: (tokens inner ++ (Symbol.closing b).token :: (tokens rest ++ ts)) := by
  rw [Row.enclosed, tokens_cons, List.cons_append, tokens_append, tokens_cons, List.append_assoc,
    List.cons_append]

/-- The body of a function, and what stands behind its end. -/
lemma tokens_stopped (body : List Piece) (stop : Gap) (rest : List Piece) (ts : List Token) :
    tokens (body ++ ⟨stop, .stop⟩ :: rest) ++ ts
      = tokens body ++ Symbol.stop.token :: (tokens rest ++ ts) := by
  rw [tokens_append, tokens_cons, List.append_assoc, List.cons_append]

lemma Symbol.isTheWord_of_ne {s : Symbol} (h : s.text ≠ "function".toList) :
    s.token.isTheWord "function" = false := by
  have hword : s.token.isTheWord "function" = (s.kind == .word && s.text == "function".toList) := rfl
  rw [hword, beq_eq_false_iff_ne.mpr h, Bool.and_false]

/-! ## Paths -/

/-- A step leads to its name. -/
lemma lastName_steps {mark : Symbol} (hmark : mark = .point ∨ mark = .colon) :
    ∀ (steps : List Step) (name : Word) (rest : List Token),
      lastName (Symbol.word name).token (tokens (steps.flatMap (Step.pieces mark)) ++ rest)
        = lastName (Symbol.word ((steps.map Step.name).getLastD name)).token rest
  | [], _, _ => rfl
  | step :: steps, name, rest => by
      have hsep : ((mark.token.isMark "." || mark.token.isMark ":")
          && (Symbol.word step.name).token.isWord) = true := by
        rcases hmark with rfl | rfl <;> rfl
      rw [List.flatMap_cons, Step.pieces, List.cons_append, List.cons_append, List.nil_append, tokens_cons,
        tokens_cons, List.cons_append, List.cons_append, lastName, if_pos hsep,
        lastName_steps hmark steps step.name rest, List.map_cons, List.getLastD_cons]

/-- **A path is read to its last name**, the bracket of the parameters being behind it. -/
lemma lastName_path (p : Path) (b : Bracket) (rest : List Token) :
    lastName (Symbol.word p.name).token
        (tokens (p.fields.flatMap (Step.pieces .point) ++ p.method.toList.flatMap (Step.pieces .colon))
          ++ (Symbol.opening b).token :: rest)
      = (Symbol.word p.last).token := by
  have hends : ∀ name : Token, lastName name ((Symbol.opening b).token :: rest) = name := by
    intro name
    cases rest with
    | nil => rfl
    | cons t rest =>
        have hsep : (((Symbol.opening b).token.isMark "." || (Symbol.opening b).token.isMark ":")
            && t.isWord) = false := by
          cases b <;> rfl
        rw [lastName, hsep, if_neg (by decide)]
  rw [tokens_append, List.append_assoc, lastName_steps (.inl rfl), lastName_steps (.inr rfl), hends,
    Path.last, List.map_append, getLastD_append]

/-! ## Functions -/

lemma namedIn_cons {t : Token} (h : t.isTheWord "function" = false) (ts : List Token) :
    namedIn (t :: ts) = namedIn ts := by
  rw [namedIn, h]
  rfl

lemma namedIn_opening (b : Bracket) (ts : List Token) :
    namedIn ((Symbol.opening b).token :: ts) = namedIn ts :=
  namedIn_cons (by cases b <;> decide) ts

lemma namedIn_closing (b : Bracket) (ts : List Token) :
    namedIn ((Symbol.closing b).token :: ts) = namedIn ts :=
  namedIn_cons (by cases b <;> decide) ts

/-- Nothing begins a function in the steps of a path. -/
lemma namedIn_steps {mark : Symbol} (hmark : mark = .point ∨ mark = .colon) :
    ∀ (steps : List Step) (rest : List Token),
      namedIn (tokens (steps.flatMap (Step.pieces mark)) ++ rest) = namedIn rest
  | [], _ => rfl
  | step :: steps, rest => by
      have hsep : mark.token.isTheWord "function" = false := by
        rcases hmark with rfl | rfl <;> decide
      have hname : (Symbol.word step.name).token.isTheWord "function" = false :=
        Symbol.isTheWord_of_ne step.name.free
      rw [List.flatMap_cons, Step.pieces, List.cons_append, List.cons_append, List.nil_append, tokens_cons,
        tokens_cons, List.cons_append, List.cons_append, namedIn_cons hsep, namedIn_cons hname,
        namedIn_steps hmark steps rest]

/-- **A function statement names the last name of its path.** -/
lemma namedIn_statement (p : Path) (b : Bracket) (rest : List Token) :
    namedIn (Symbol.function.token :: (tokens p.pieces ++ (Symbol.opening b).token :: rest))
      = .named p.last.text :: namedIn rest := by
  have hfunction : Symbol.function.token.isTheWord "function" = true := by decide
  have hword : (Symbol.word p.name).token.isWord = true := rfl
  have hname : (Symbol.word p.name).token.isTheWord "function" = false :=
    Symbol.isTheWord_of_ne p.name.free
  have hoccurrence : (Symbol.word p.last).token.occurrence 0 = .named p.last.text := rfl
  rw [namedIn, hfunction, if_pos rfl, Path.pieces, tokens_cons, List.cons_append, namedBy, hword,
    if_pos rfl, lastName_path, hoccurrence, namedIn_cons hname, tokens_append, List.append_assoc,
    namedIn_steps (.inl rfl), namedIn_steps (.inr rfl), namedIn_opening]
  rfl

/-- A function without a name names nothing. -/
lemma namedIn_anonymous (b : Bracket) (rest : List Token) :
    namedIn (Symbol.function.token :: (Symbol.opening b).token :: rest) = namedIn rest := by
  have hnone : namedBy ((Symbol.opening b).token :: rest) = [] := by
    cases b <;> rfl
  rw [namedIn, hnone, ite_self, List.nil_append, namedIn_opening]

/-- **The functions of a row are found**, and the search goes on behind it. -/
theorem namedIn_pieces (r : Row) :
    ∀ ts : List Token, namedIn (tokens r.pieces ++ ts) = r.names.map Occurrence.named ++ namedIn ts := by
  have hstop : Symbol.stop.token.isTheWord "function" = false := by decide
  induction r with
  | nil => exact fun _ => rfl
  | symbol gap s admitted rest ih =>
      intro ts
      have hplain : s.token.isTheWord "function" = false :=
        Symbol.isTheWord_of_ne fun heq => admitted "function" (by decide) heq.symm
      rw [Row.pieces, tokens_cons, List.cons_append, namedIn_cons hplain, ih, Row.names]
  | group gap b inner close rest ihinner ihrest =>
      intro ts
      rw [Row.pieces, tokens_enclosed, namedIn_opening, ihinner, namedIn_closing, ihrest, Row.names,
        List.map_append, List.append_assoc]
  | anonymous gap start params close body stop rest ihparams ihbody ihrest =>
      intro ts
      rw [Row.pieces, tokens_cons, List.cons_append, tokens_enclosed, namedIn_anonymous, ihparams,
        namedIn_closing, tokens_stopped, ihbody, namedIn_cons hstop, ihrest, Row.names, List.map_append,
        List.map_append, List.append_assoc, List.append_assoc]
  | statement gap path start params close body stop rest ihparams ihbody ihrest =>
      intro ts
      rw [Row.pieces, tokens_cons, List.cons_append, tokens_append, List.append_assoc, tokens_enclosed,
        namedIn_statement, ihparams, namedIn_closing, tokens_stopped, ihbody, namedIn_cons hstop, ihrest,
        Row.names, List.map_cons, List.map_append, List.map_append, List.cons_append, List.append_assoc,
        List.append_assoc]

/-! ## Files -/

/-- **A line for the interpreter is skipped** to its end, and nothing else is. -/
lemma opening_shebang {marked : Bool} {rest : List Char} {shebang : Option (List Char)}
    (h : Opened marked rest shebang) :
    opening (shebangText shebang ++ rest) = (shebangText shebang).length := by
  cases shebang with
  | some body =>
      rw [shebangText, List.cons_append, opening, lineLength_append h.1 h.2, List.length_cons, Nat.add_comm]
  | none =>
      rw [shebangText, List.nil_append, List.length_nil]
      unfold opening
      split
      · exact absurd rfl h.1
      · rfl

/-- **What stands only at the start of a file is skipped.** -/
lemma File.openingLength_text (f : File) : lexis.openingLength f.text = f.front.length := by
  have hhead : f.marked = false →
      (shebangText f.shebang ++ (f.code.text ++ f.ending.text)).head? ≠ some '\uFEFF' := by
    have hopened := f.opened
    cases hshebang : f.shebang with
    | some body => exact fun _ => by simp [shebangText]
    | none =>
        rw [hshebang] at hopened
        exact hopened.2
  exact lexis.openingLength_front hhead (opening_shebang f.opened)

/-- **The tokens of a file are its pieces.** -/
lemma File.map_bare_tokens (f : File) :
    (Token.ofLexemes (lexis.lexemes f.text)).map Token.bare = tokens f.code.pieces :=
  Lexis.map_bare_pieces Gap.skips Symbol.read f.openingLength_text f.apart f.ending.visible

/-- **A search gives what the file names**: of each function statement the last name of its path, once and in
the order of the file. -/
theorem File.occurrences_named (f : File) :
    (Language.lua.occurrences f.text).map (fun o => (o.group, o.text))
        = f.code.names.map (fun name => (0, name))
      ∧ (Language.lua.occurrences f.text).Pairwise fun o p => o.offset < p.offset := by
  have hall := namedIn_pieces f.code []
  rw [List.append_nil, namedIn, List.append_nil] at hall
  refine ⟨map_group_text_of_bare ?_, Language.pairwise_occurrences .lua f.text⟩
  rw [Language.occurrences, named, ← namedIn_bare, f.map_bare_tokens, hall]

private def blank : Trivium := .blank ' ' Go.isSpacing_blank

private def newline : Trivium := .blank '\n' Go.isSpacing_feed

/-- A function statement inside a function of a table, one for a method, and one inside an argument. -/
def registry : File where
  marked := true
  shebang := some "!/usr/bin/lua".toList
  code :=
    .symbol [newline, .long ⟨2, " function a() ]] ".toList, by decide⟩] (.word ⟨'t', [], by decide, by decide, by decide⟩)
      (by decide) <|
    .symbol [] (.mark '=' (by decide)) (by decide) <|
    .group [] .curly
      (.anonymous [] [blank] (.symbol [] (.word ⟨'x', [], by decide, by decide, by decide⟩) (by decide) .nil)
          []
          (.statement [blank] ⟨[blank], ⟨'y', [], by decide, by decide, by decide⟩, [], none⟩ [] .nil [] .nil
            [blank] .nil)
          [blank] <|
        .symbol [] (.mark ';' (by decide)) (by decide) <|
        .symbol [blank] (.string '"' (by decide) "\\\"function".toList
          (.escape <| .plain (by decide) (by decide) <| .plain (by decide) (by decide) <|
            .plain (by decide) (by decide) <| .plain (by decide) (by decide) <|
            .plain (by decide) (by decide) <| .plain (by decide) (by decide) <|
            .plain (by decide) (by decide) <| .plain (by decide) (by decide) .nil)) (by decide) <|
        .symbol [] (.mark ',' (by decide)) (by decide) <|
        .symbol [] (.number ⟨some 'x', ['f'], some ['8'], some ⟨'p', ['-'], '2', [], by decide, by decide⟩,
          by decide, by decide, by decide, by decide⟩) (by decide) .nil)
      [] <|
    .statement [newline]
      ⟨[blank], ⟨'t', [], by decide, by decide, by decide⟩,
        [⟨[], [blank], ⟨'a', [], by decide, by decide, by decide⟩⟩],
        some ⟨[.line " function b()".toList '\r' (by decide) (by decide) (by decide)], [],
          ⟨'c', [], by decide, by decide, by decide⟩⟩⟩
      [] .nil []
      (.symbol [blank] (.word ⟨'r', "eturn".toList, by decide, by decide, by decide⟩) (by decide) <|
        .symbol [] (.long ⟨0, " function d() ".toList, by decide⟩) (by decide) .nil)
      [blank] <|
    .symbol [newline] (.word ⟨'u', "se".toList, by decide, by decide, by decide⟩) (by decide) <|
    .group [] .round
      (.anonymous [] [] .nil []
        (.symbol [blank] (.word ⟨'l', "ocal".toList, by decide, by decide, by decide⟩) (by decide) <|
          .statement [blank] ⟨[blank], ⟨'g', [], by decide, by decide, by decide⟩, [], none⟩ [] .nil [] .nil
            [blank] .nil)
        [blank] .nil)
      [] .nil
  ending := ⟨[blank], some " function".toList, by decide⟩
  apart := by decide
  opened := ⟨by decide, by decide⟩

/-- What looks like a function in the comments and the strings of the file is none. -/
theorem File.occurrences_named_registry :
    String.ofList registry.text
        = "\uFEFF#!/usr/bin/lua\n--[==[ function a() ]] ]==]t=\x7bfunction (x) function y() end end; "
          ++ "\"\\\"function\",0xf.8p-2\x7d\nfunction t. a-- function b()\r:c() return[[ function d() ]] end\n"
          ++ "use(function() local function g() end end) -- function"
      ∧ (Language.lua.occurrences registry.text).map (fun o => (o.group, o.text))
        = [(0, "y".toList), (0, "c".toList), (0, "g".toList)] := by
  refine ⟨?_, ?_⟩
  · decide +kernel
  · rw [(File.occurrences_named registry).1]
    decide

end FunctionChurn.Source.Lua
