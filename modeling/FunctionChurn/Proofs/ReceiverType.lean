import FunctionChurn.Proofs.Path
import FunctionChurn.Proofs.Receiver
import FunctionChurn.Proofs.Source.Go.Syntax

/-!
# The receiver type in the name of a method

A method is shown under the type of its receiver, which is picked out of the receiver list by its spaces.
Where the list is laid out in the usual way, with one space between a name and a type, that is the whole
type as long as there is no space in it.  A type with several parameters has spaces in it, and is cut.

* `Balanced` says that brackets stand in pairs, `LaidOut` how a receiver list is written.
* `Method` is a receiver list and the name behind it, as a search of a file gives them.
* `notMem_token`, `token_laidOut`: what is picked out of a receiver list.
* **`qualified_in_full`**: exactly the methods whose receiver type has no space are shown under all of it.
* `not_qualified_in_full`: not all methods are.
-/

namespace FunctionChurn.Receiver

open Source (isWordChar)
open Source.Go (Bracket Identifier)
open scoped Source.Go

/-! ## Brackets in pairs -/

/-- **Whether brackets stand in pairs**, of all three shapes. -/
inductive Balanced : List Char → Prop
  | nil : Balanced []
  | plain {c : Char} {rest : List Char} (other : ∀ b : Bracket, c ≠ b.opening ∧ c ≠ b.closing) :
      Balanced rest → Balanced (c :: rest)
  | enclosed (b : Bracket) {inner rest : List Char} :
      Balanced inner → Balanced rest → Balanced (b.opening :: (inner ++ b.closing :: rest))

/-- What holds no brackets is balanced. -/
lemma balanced_of_plain : ∀ {cs : List Char},
    (∀ c ∈ cs, ∀ b : Bracket, c ≠ b.opening ∧ c ≠ b.closing) → Balanced cs
  | [], _ => .nil
  | _ :: _, h =>
      .plain (h _ List.mem_cons_self) (balanced_of_plain fun c hc => h c (List.mem_cons_of_mem _ hc))

/-- Balanced texts one after the other. -/
lemma Balanced.append {as bs : List Char} (h : Balanced as) (h' : Balanced bs) :
    Balanced (as ++ bs) := by
  induction h with
  | nil => exact h'
  | plain other _ ih => exact .plain other ih
  | enclosed b inner _ _ ih =>
      rw [List.cons_append, List.append_assoc, List.cons_append]
      exact .enclosed b inner ih

/-- Of every shape as many brackets are opened as are closed. -/
lemma Balanced.count_eq {cs : List Char} (h : Balanced cs) (b : Bracket) :
    cs.count b.opening = cs.count b.closing := by
  induction h with
  | nil => rfl
  | plain other _ ih =>
      rw [List.count_cons_of_ne (other b).1, List.count_cons_of_ne (other b).2, ih]
  | enclosed shape _ _ ihInner ihRest =>
      have hpair : (if shape.opening == b.opening then 1 else 0)
          + (if shape.closing == b.opening then 1 else 0)
          = (if shape.opening == b.closing then 1 else 0)
            + (if shape.closing == b.closing then 1 else 0) := by
        cases shape <;> cases b <;> rfl
      simp only [List.count_cons, List.count_append]
      omega

/-! ## Receiver lists and names -/

/-- **A receiver list as it is laid out**: the type alone, or a name, one space, and the type. -/
inductive LaidOut (type : String) : String → Prop
  | alone : LaidOut type ("(" ++ type ++ ")")
  | named (x : Identifier) : LaidOut type ("(" ++ String.ofList x.text ++ " " ++ type ++ ")")

/-- **A method as a search gives it**: its receiver list, laid out around a type, and its name. -/
structure Method (type : String) (r e : Element) : Prop where
  receiver : r.group = 0
  laidOut : LaidOut type r.name
  plain : e.group ≠ 0
  name : ∃ n : Identifier, e.name = String.ofList n.text

/-- The characters of a name are letters, digits and underscores. -/
lemma isWordChar_of_mem_text {n : Identifier} : ∀ c ∈ n.text, isWordChar c := by
  rw [Identifier.text, List.forall_mem_cons]
  exact ⟨n.letter.1, n.letters⟩

/-- There is no space in a name. -/
lemma space_notMem_text (n : Identifier) : ' ' ∉ n.text := fun h =>
  absurd (isWordChar_of_mem_text ' ' h) (by decide)

/-- There is no bracket among letters, digits and underscores. -/
lemma balanced_of_word {cs : List Char} (h : ∀ c ∈ cs, isWordChar c) : Balanced cs := by
  refine balanced_of_plain fun c hc b => ?_
  have hword := h c hc
  constructor
  all_goals
    rintro rfl
    exact absurd hword (by cases b <;> decide)

/-! ## What is picked out of a receiver list -/

/-- **What is picked out of a receiver list has no space.** -/
lemma notMem_token (receiver : String) : ' ' ∉ (token receiver).toList := by
  rw [token]
  split
  · next first second rest hpieces =>
      have hmem : second ∈ Text.splitOn ' ' receiver.toList := by
        rw [hpieces]
        exact List.mem_cons_of_mem first List.mem_cons_self
      rw [String.toList_ofList]
      exact Text.notMem_of_mem_splitOn hmem
  · next hshort =>
      -- a text of one piece is that piece, so it has no space
      have hone : Text.splitOn ' ' receiver.toList = [receiver.toList] := by
        have hjoined := Text.joinWith_splitOn ' ' receiver.toList
        cases hpieces : Text.splitOn ' ' receiver.toList with
        | nil => exact absurd hpieces (Text.splitOn_ne_nil ' ' _)
        | cons piece pieces =>
            cases pieces with
            | nil =>
                rw [hpieces] at hjoined
                rw [← hjoined]
                rfl
            | cons second rest => exact absurd hpieces (hshort piece second rest)
      have hwhole : ' ' ∉ receiver.toList :=
        Text.notMem_of_mem_splitOn (hone.symm ▸ List.mem_singleton_self _)
      rw [String.toList_ofList]
      exact fun h => hwhole (List.mem_of_mem_drop h)

/-- **Of a type without a space nothing is lost.** -/
lemma token_laidOut {type receiver : String} (h : LaidOut type receiver)
    (hspace : ' ' ∉ type.toList) : token receiver = type ++ ")" := by
  have hclosed : ' ' ∉ (type ++ ")").toList := by
    rw [String.toList_append, List.mem_append, not_or]
    exact ⟨hspace, by decide⟩
  cases h with
  | alone =>
      have hreceiver : ("(" ++ type ++ ")").toList = '(' :: (type ++ ")").toList := by simp
      have hwhole : ' ' ∉ '(' :: (type ++ ")").toList := by
        rw [List.mem_cons, not_or]
        exact ⟨by decide, hclosed⟩
      rw [token, hreceiver, Text.splitOn_of_notMem hwhole]
      dsimp only
      rw [List.drop_one, List.tail_cons, String.ofList_toList]
  | named x =>
      have hreceiver : ("(" ++ String.ofList x.text ++ " " ++ type ++ ")").toList
          = ('(' :: x.text) ++ ' ' :: (type ++ ")").toList := by simp
      have hname : ' ' ∉ '(' :: x.text := by
        rw [List.mem_cons, not_or]
        exact ⟨by decide, space_notMem_text x⟩
      rw [token, hreceiver, Text.splitOn_append, Text.splitOn_of_notMem hname,
        Text.splitOn_of_notMem hclosed]
      exact String.ofList_toList

/-- A name can be told apart from the receiver in front of it. -/
lemma qualify_inj {receiver receiver' name name' : String} (hname : ' ' ∉ name.toList)
    (h : qualify receiver name = qualify receiver' name') :
    token receiver = token receiver' ∧ name = name' := by
  have hchars := congrArg String.toList h
  simp only [qualify, String.toList_append, List.append_assoc] at hchars
  have hcut := List.append_cancel_left hchars
  obtain ⟨htoken, -, hrest⟩ :=
    (List.append_cons_inj_of_notMem (notMem_token receiver) hname).mp hcut
  exact ⟨String.toList_inj.mp htoken, String.toList_inj.mp hrest⟩

/-- A name is shown under a type exactly if that is what is picked out of the receiver list. -/
lemma qualify_eq_iff {type receiver name : String} :
    qualify receiver name = "(" ++ type ++ ") " ++ name ↔ token receiver = type ++ ")" := by
  have hshown : "(" ++ type ++ ") " ++ name = "(" ++ (type ++ ")") ++ " " ++ name := by
    simp [← String.toList_inj]
  rw [hshown, qualify, String.append_left_inj, String.append_left_inj, String.append_right_inj]

/-! ## Methods under their receiver types -/

/-- **Methods whose receiver type has no space are shown under all of it.**  In a list of elements there is a
method, with its receiver list laid out in the usual way.

1. Of the two elements one is left, with the name under what is picked out of the receiver list.
2. This is the whole receiver type, in parentheses, exactly if there is no space in the type.
3. If there is none, then the brackets of the shown name stand in pairs, as those of the type do.
4. If there is none in the types of two methods, then the methods are shown under the same name only if they
   have the same receiver type and the same name. -/
theorem qualified_in_full {type : String} {r e : Element} (h : Method type r e) :
    (∀ before behind, join (before ++ r :: e :: behind)
        = join before ++ { e with name := qualify r.name e.name } :: join behind)
    ∧ (qualify r.name e.name = "(" ++ type ++ ") " ++ e.name ↔ ' ' ∉ type.toList)
    ∧ (' ' ∉ type.toList → Balanced type.toList → Balanced (qualify r.name e.name).toList)
    ∧ (' ' ∉ type.toList → ∀ {type' : String} {r' e' : Element}, Method type' r' e' →
        ' ' ∉ type'.toList → qualify r.name e.name = qualify r'.name e'.name →
          type = type' ∧ e.name = e'.name) := by
  obtain ⟨n, hname⟩ := h.name
  have hspace : ' ' ∉ e.name.toList := by
    rw [hname, String.toList_ofList]
    exact space_notMem_text n
  have hfull : ' ' ∉ type.toList → qualify r.name e.name = "(" ++ type ++ ") " ++ e.name :=
    fun htype => qualify_eq_iff.mpr (token_laidOut h.laidOut htype)
  refine ⟨fun before behind => ?_, ⟨fun heq htype => ?_, hfull⟩, fun htype hbalanced => ?_, ?_⟩
  · rw [join, joinWaiting_append, joinWaiting, if_pos (isReceiver_iff.mpr h.receiver), joinWaiting,
      if_neg (mt isReceiver_iff.mp h.plain)]
    rfl
  · have htoken := notMem_token r.name
    rw [qualify_eq_iff.mp heq, String.toList_append, List.mem_append, not_or] at htoken
    exact htoken.1 htype
  · rw [hfull htype, hname]
    have hshown : ("(" ++ type ++ ") " ++ String.ofList n.text).toList
        = Bracket.round.opening :: (type.toList ++ Bracket.round.closing :: ' ' :: n.text) := by
      simp [Bracket.opening, Bracket.closing]
    rw [hshown]
    exact .enclosed .round hbalanced
      (.plain (fun b => by cases b <;> decide) (balanced_of_word isWordChar_of_mem_text))
  · intro htype type' r' e' h' htype' heq
    obtain ⟨htoken, hnames⟩ := qualify_inj hspace heq
    rw [token_laidOut h.laidOut htype, token_laidOut h'.laidOut htype'] at htoken
    exact ⟨(String.append_left_inj ")").mp htoken, hnames⟩

/-! ## Types with parameters -/

private lemma named_push : ∃ n : Identifier, "Push" = String.ofList n.text :=
  ⟨⟨'P', "ush".toList, by decide, by decide, by decide⟩, rfl⟩

/-- A method of a type with one parameter is shown under all of it, and is told apart from the method of the
same name of another type. -/
theorem qualified_in_full_list :
    (join [⟨"open", "f", 1, 1⟩, ⟨"(s *Stack[T])", "f", 2, 0⟩, ⟨"Push", "f", 2, 1⟩,
        ⟨"shut", "f", 3, 1⟩]).map Element.name = ["open", "(*Stack[T]) Push", "shut"]
    ∧ Balanced "(*Stack[T]) Push".toList
    ∧ qualify "(s *Stack[T])" "Push" ≠ qualify "(*Set)" "Push" := by
  have hstack : Method "*Stack[T]" ⟨"(s *Stack[T])", "f", 2, 0⟩ ⟨"Push", "f", 2, 1⟩ :=
    ⟨rfl, .named ⟨'s', [], by decide, by decide, by decide⟩, by decide, named_push⟩
  have hset : Method "*Set" ⟨"(*Set)", "f", 4, 0⟩ ⟨"Push", "f", 4, 1⟩ :=
    ⟨rfl, .alone, by decide, named_push⟩
  obtain ⟨hjoin, hfull, hpairs, happart⟩ := qualified_in_full hstack
  have hspace : ' ' ∉ "*Stack[T]".toList := by decide
  have hname : qualify "(s *Stack[T])" "Push" = "(*Stack[T]) Push" := hfull.mpr hspace
  have hword : Balanced "Stack".toList := balanced_of_word (by decide)
  have hparameter : Balanced "T".toList := balanced_of_word (by decide)
  have hbalanced : Balanced "*Stack[T]".toList :=
    .plain (fun b => by cases b <;> decide) (hword.append (.enclosed .square hparameter .nil))
  refine ⟨?_, ?_, fun hsame => ?_⟩
  · have hlist := hjoin [⟨"open", "f", 1, 1⟩] [⟨"shut", "f", 3, 1⟩]
    rw [List.singleton_append] at hlist
    rw [hlist, hname]
    rfl
  · rw [← hname]
    exact hpairs hspace hbalanced
  · obtain ⟨htype, -⟩ := happart hspace hset (by decide) hsame
    exact absurd htype (by decide)

/-- **Not every method is shown under all of its receiver type.**  A type with two parameters is cut at the
space between them, or up to it: one method has lost a parenthesis, and two methods of different types in one
file have the same name. -/
theorem not_qualified_in_full :
    (Method "*Map[K, V]" ⟨"(m *Map[K, V])", "f", 1, 0⟩ ⟨"Push", "f", 1, 1⟩
      ∧ Balanced "*Map[K, V]".toList
      ∧ join [⟨"(m *Map[K, V])", "f", 1, 0⟩, ⟨"Push", "f", 1, 1⟩] = [⟨"(*Map[K, Push", "f", 1, 1⟩]
      ∧ ¬ Balanced "(*Map[K, Push".toList)
    ∧ Method "Map[K, V]" ⟨"(Map[K, V])", "f", 1, 0⟩ ⟨"Push", "f", 1, 1⟩
      ∧ Method "Set[K, V]" ⟨"(Set[K, V])", "f", 2, 0⟩ ⟨"Push", "f", 2, 1⟩
      ∧ Balanced "Map[K, V]".toList ∧ Balanced "Set[K, V]".toList
      ∧ join [⟨"(Map[K, V])", "f", 1, 0⟩, ⟨"Push", "f", 1, 1⟩, ⟨"(Set[K, V])", "f", 2, 0⟩,
          ⟨"Push", "f", 2, 1⟩] = [⟨"(V]) Push", "f", 1, 1⟩, ⟨"(V]) Push", "f", 2, 1⟩] := by
  have hplain : ∀ b : Bracket, '*' ≠ b.opening ∧ '*' ≠ b.closing := fun b => by
    cases b <;> decide
  have hkey : Balanced "K".toList := balanced_of_word (by decide)
  have hvalue : Balanced "V".toList := balanced_of_word (by decide)
  have hparameters : Balanced "[K, V]".toList :=
    .enclosed .square (hkey.append (.plain (fun b => by cases b <;> decide)
      (.plain (fun b => by cases b <;> decide) hvalue))) .nil
  have hmapWord : Balanced "Map".toList := balanced_of_word (by decide)
  have hsetWord : Balanced "Set".toList := balanced_of_word (by decide)
  have hmap : Balanced "Map[K, V]".toList := hmapWord.append hparameters
  have hset : Balanced "Set[K, V]".toList := hsetWord.append hparameters
  refine ⟨⟨⟨rfl, .named ⟨'m', [], by decide, by decide, by decide⟩, by decide, named_push⟩,
    .plain hplain hmap, by decide, fun hcut => ?_⟩, ⟨rfl, .alone, by decide, named_push⟩,
    ⟨rfl, .alone, by decide, named_push⟩, hmap, hset, by decide⟩
  exact absurd (hcut.count_eq .round) (by decide)

end FunctionChurn.Receiver
