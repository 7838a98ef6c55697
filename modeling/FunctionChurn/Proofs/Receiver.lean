import FunctionChurn.Element
import Mathlib.Data.List.Basic
import Mathlib.Tactic.Common

/-!
# What folding receivers does to a list

Receivers are folded in one pass over the elements of all files, with the receiver list that was met
last waiting for the next name.  Files must not get mixed up by that, so the pass has to be cut where
a file ends.

* `Receiver.waitingAfter` is what waits behind a list of elements: the text of its last element if
  that is a receiver list, and nothing otherwise.
* `Receiver.joinWaiting_append` cuts the pass at any place; **`Receiver.join_flatMap`** cuts it
  between lists of which none ends in a receiver list.
* **`Receiver.join_eq_map`** says without a pass what is left: the elements that are no receiver
  lists, each under the receiver list right before it.
* `Receiver.Pass` is the pass with its state, `Receiver.foldl_step` what it comes to.
* **`Receiver.join_folds`** is what folding does to any list of elements.
-/

namespace FunctionChurn.Receiver

/-! ## What waits -/

/-- The text of an element that is a receiver list. -/
def text? (e : Element) : Option String := if isReceiver e then some e.name else none

/-- **What waits behind some elements**, if `w` waits before them. -/
def waitingAfter (w : Option String) (es : List Element) : Option String :=
  es.foldl (fun _ e => text? e) w

@[simp] theorem waitingAfter_cons (w : Option String) (e : Element) (es : List Element) :
    waitingAfter w (e :: es) = waitingAfter (text? e) es := rfl

/-- Only the last element can wait behind a list. -/
theorem waitingAfter_eq (w : Option String) :
    ∀ es : List Element, waitingAfter w es = (es.getLast?.map text?).getD w
  | [] => rfl
  | [e] => rfl
  | e :: e' :: es => by
      rw [waitingAfter_cons, waitingAfter_eq (text? e) (e' :: es), List.getLast?_cons_cons]
      simp [List.getLast?_cons]

lemma isReceiver_iff {e : Element} : isReceiver e ↔ e.group = 0 := by
  rw [isReceiver, beq_iff_eq]
  rfl

/-- **A receiver list waits behind some elements** exactly if it is the last of them. -/
lemma waitingAfter_eq_some_iff {es : List Element} {receiver : String} :
    waitingAfter none es = some receiver ↔ ∃ r ∈ es.getLast?, r.group = 0 ∧ r.name = receiver := by
  rw [waitingAfter_eq]
  cases es.getLast? with
  | none => simp
  | some r =>
      rw [Option.map_some, Option.getD_some, text?]
      by_cases h : isReceiver r
      · simp [h, isReceiver_iff.mp h]
      · simp [h, mt isReceiver_iff.mpr h]

/-! ## Cutting the pass -/

/-- **The pass over two lists**, the second of them with what waits behind the first. -/
theorem joinWaiting_append :
    ∀ (w : Option String) (as bs : List Element),
      joinWaiting w (as ++ bs) = joinWaiting w as ++ joinWaiting (waitingAfter w as) bs
  | _, [], _ => rfl
  | w, e :: as, bs => by
      rw [List.cons_append, joinWaiting, joinWaiting, waitingAfter_cons, text?]
      split
      · exact joinWaiting_append (some e.name) as bs
      · rw [joinWaiting_append none as bs, List.cons_append]

/-- **Receivers are folded list by list**, if nothing waits at the end of any. -/
theorem join_flatMap {α : Type} (f : α → List Element) :
    ∀ xs : List α, (∀ x ∈ xs, waitingAfter none (f x) = none) →
      join (xs.flatMap f) = xs.flatMap fun x => join (f x)
  | [], _ => rfl
  | x :: xs, h => by
      have hx := h x List.mem_cons_self
      have ih := join_flatMap f xs fun y hy => h y (List.mem_cons_of_mem _ hy)
      rw [List.flatMap_cons, List.flatMap_cons, ← ih, join, joinWaiting_append, hx]
      rfl

/-! ## What is left -/

/-- `join_eq_map` with a receiver list that waits in front. -/
theorem joinWaiting_eq_map :
    ∀ (w : Option String) (es : List Element),
      joinWaiting w es
        = (((w :: es.map text?).zip es).filter fun p => !isReceiver p.2).map fun p => attach p.1 p.2
  | _, [] => rfl
  | w, e :: es => by
      rw [joinWaiting, List.map_cons, List.zip_cons_cons]
      by_cases h : isReceiver e
      · rw [if_pos h, List.filter_cons_of_neg (by simp [h]), joinWaiting_eq_map, text?, if_pos h]
      · rw [if_neg h, List.filter_cons_of_pos (by simp [h]), List.map_cons, joinWaiting_eq_map,
          text?, if_neg h]

/-- **What folding leaves**: the elements that are no receiver lists, each under the receiver list
right before it, if there is one. -/
theorem join_eq_map (es : List Element) :
    join es
      = (((none :: es.map text?).zip es).filter fun p => !isReceiver p.2).map
          fun p => attach p.1 p.2 :=
  joinWaiting_eq_map none es

/-- **All but the names is left as it was** of the elements that are no receiver lists. -/
lemma map_joinWaiting {β : Type} (f : Element → β) (hf : ∀ w e, f (attach w e) = f e) :
    ∀ (w : Option String) (es : List Element),
      (joinWaiting w es).map f = (es.filter fun e => !isReceiver e).map f
  | _, [] => rfl
  | w, e :: es => by
      rw [joinWaiting]
      by_cases h : isReceiver e
      · rw [if_pos h, List.filter_cons_of_neg (by simp [h]), map_joinWaiting f hf]
      · rw [if_neg h, List.filter_cons_of_pos (by simp [h]), List.map_cons, List.map_cons, hf,
          map_joinWaiting f hf]

/-- What is left are no receiver lists. -/
lemma not_isReceiver_of_mem_joinWaiting :
    ∀ {w : Option String} {es : List Element} {e : Element},
      e ∈ joinWaiting w es → ¬ isReceiver e
  | _, [], _, h => absurd h List.not_mem_nil
  | w, e :: es, _, h => by
      rw [joinWaiting] at h
      split at h
      · exact not_isReceiver_of_mem_joinWaiting h
      · next hplain =>
          rcases List.mem_cons.mp h with rfl | hrest
          · cases w <;> exact hplain
          · exact not_isReceiver_of_mem_joinWaiting hrest

/-- Where there is no receiver list, there is nothing to fold. -/
lemma join_of_plain : ∀ {es : List Element}, (∀ e ∈ es, ¬ isReceiver e) → join es = es
  | [], _ => rfl
  | e :: es, h => by
      obtain ⟨he, hes⟩ := List.forall_mem_cons.mp h
      rw [join, joinWaiting, if_neg he]
      exact congrArg (e :: ·) (join_of_plain hes)

/-- So many elements are left as are no receiver lists. -/
lemma length_join (es : List Element) : (join es).length = es.countP fun e => !isReceiver e := by
  have hkept := congrArg List.length (map_joinWaiting (fun _ => ()) (fun _ _ => rfl) none es)
  rwa [List.length_map, List.length_map, ← List.countP_eq_length_filter] at hkept

/-- **An element between others** is left under what waits for it, and nothing waits behind it. -/
lemma join_append_cons (before : List Element) {e : Element} (h : ¬ isReceiver e)
    (behind : List Element) :
    join (before ++ e :: behind)
      = join before ++ attach (waitingAfter none before) e :: join behind := by
  rw [join, joinWaiting_append, joinWaiting, if_neg h]
  rfl

/-- A receiver in front of a name makes it longer. -/
lemma qualify_ne (receiver name : String) : qualify receiver name ≠ name := fun h => by
  have hlength := congrArg String.length h
  rw [qualify, String.length_append, String.length_append, String.length_append] at hlength
  have hparen : "(".length = 1 := rfl
  omega

/-! ## The pass with its state -/

/-- **The state of the pass**: the receiver list that waits, what is left so far, and how many receiver
lists were folded away. -/
structure Pass where
  waiting : Option String := none
  left : List Element := []
  folded : Nat := 0

/-- **One step of the pass.** -/
def Pass.step (p : Pass) (e : Element) : Pass :=
  if isReceiver e then { p with waiting := some e.name, folded := p.folded + 1 }
  else { p with waiting := none, left := p.left ++ [attach p.waiting e] }

lemma redacted_cons (e : Element) (es : List Element) :
    redacted (e :: es) = redacted es + if isReceiver e then 1 else 0 := List.countP_cons

/-- **What the pass comes to.**  A receiver list waits in its state exactly if it was the last element. -/
theorem foldl_step : ∀ (p : Pass) (es : List Element),
    es.foldl Pass.step p
      = ⟨waitingAfter p.waiting es, p.left ++ joinWaiting p.waiting es, p.folded + redacted es⟩
  | p, [] => by simp [waitingAfter, joinWaiting, redacted]
  | p, e :: es => by
      rw [List.foldl_cons, foldl_step (p.step e) es, waitingAfter_cons, joinWaiting, redacted_cons,
        Pass.step, text?]
      by_cases h : isReceiver e
      · simp only [if_pos h, Nat.add_assoc, Nat.add_comm 1]
      · simp only [if_neg h, List.append_assoc, List.singleton_append, Nat.add_zero]

/-! ## What folding does -/

/-- **What folding receivers does to a list of elements**, whatever their groups, files and names.

1. It is one pass with a state, which begins empty and is thrown away at the end.
2. The elements that are left are those that are no receiver lists, in their order, each with its file, its
   line and its group.
3. The name of an element is another one exactly if the element right before it is a receiver list, and
   then that receiver is put in front of it.
4. Every receiver list is folded away, and nothing else.
5. What is left is not changed by folding it again.
6. Two lists are folded one after the other, if the first does not end in a receiver list. -/
theorem join_folds (es : List Element) :
    es.foldl Pass.step {} = ⟨waitingAfter none es, join es, redacted es⟩
    ∧ (join es).map (fun e => (e.file, e.line, e.group))
        = (es.filter (·.group ≠ 0)).map (fun e => (e.file, e.line, e.group))
    ∧ (∀ before e behind, es = before ++ e :: behind → e.group ≠ 0 → ∃ name,
        (join es)[before.countP (·.group ≠ 0)]? = some { e with name := name }
        ∧ (name ≠ e.name ↔ ∃ r ∈ before.getLast?, r.group = 0)
        ∧ ∀ r ∈ before.getLast?, r.group = 0 → name = "(" ++ token r.name ++ " " ++ e.name)
    ∧ (redacted es = es.countP (·.group = 0) ∧ (join es).length + redacted es = es.length)
    ∧ (join (join es) = join es ∧ redacted (join es) = 0)
    ∧ ∀ more, (∀ r ∈ es.getLast?, r.group ≠ 0) →
        join (es ++ more) = join es ++ join more
        ∧ redacted (es ++ more) = redacted es + redacted more := by
  have hplain : (fun e => !isReceiver e) = fun e : Element => decide (e.group ≠ 0) :=
    funext fun _ => decide_not.symm
  have hleft : ∀ e ∈ join es, ¬ isReceiver e := fun _ => not_isReceiver_of_mem_joinWaiting
  refine ⟨?_, ?_, ?_, ⟨rfl, length_joinWaiting none es⟩, ⟨join_of_plain hleft, ?_⟩, ?_⟩
  · rw [foldl_step, List.nil_append, Nat.zero_add, join]
  · rw [join, map_joinWaiting _ (fun w e => by cases w <;> rfl), hplain]
  · rintro before e behind rfl hgroup
    refine ⟨(attach (waitingAfter none before) e).name, ?_, ?_, ?_⟩
    · rw [join_append_cons before (mt isReceiver_iff.mp hgroup), ← hplain, ← length_join,
        List.getElem?_append_right (Nat.le_refl _), Nat.sub_self, List.getElem?_cons_zero]
      cases waitingAfter none before <;> rfl
    · cases hwaiting : waitingAfter none before with
      | none =>
          refine iff_of_false (fun hne => hne rfl) fun ⟨r, hr, hreceiver⟩ => ?_
          rw [waitingAfter_eq_some_iff.mpr ⟨r, hr, hreceiver, rfl⟩] at hwaiting
          contradiction
      | some receiver =>
          obtain ⟨r, hr, hreceiver, -⟩ := waitingAfter_eq_some_iff.mp hwaiting
          exact iff_of_true (qualify_ne receiver e.name) ⟨r, hr, hreceiver⟩
    · intro r hr hreceiver
      rw [waitingAfter_eq_some_iff.mpr ⟨r, hr, hreceiver, rfl⟩]
      rfl
  · exact List.countP_eq_zero.mpr hleft
  · intro more hlast
    have hnone : waitingAfter none es = none := by
      refine Option.eq_none_iff_forall_ne_some.mpr fun receiver hwaiting => ?_
      obtain ⟨r, hr, hreceiver, -⟩ := waitingAfter_eq_some_iff.mp hwaiting
      exact hlast r hr hreceiver
    refine ⟨?_, List.countP_append⟩
    rw [join, joinWaiting_append, hnone]
    rfl

/-- Of three receiver lists in a row the last one counts, and one at the end is dropped. -/
theorem join_folds_run :
    let es : List Element := [⟨"(a A)", "f", 1, 0⟩, ⟨"(B)", "f", 2, 0⟩, ⟨"(c *C)", "f", 3, 0⟩,
      ⟨"one", "g", 4, 1⟩, ⟨"two", "g", 5, 2⟩, ⟨"(d D)", "g", 6, 0⟩]
    (∃ name, (join es)[0]? = some ⟨name, "g", 4, 1⟩ ∧ name = "(*C) one")
    ∧ (∃ name, (join es)[1]? = some ⟨name, "g", 5, 2⟩ ∧ name = "two")
    ∧ (join es).length + redacted es = 6 := by
  intro es
  obtain ⟨-, -, hnames, ⟨-, hlength⟩, -, -⟩ := join_folds es
  refine ⟨?_, ?_, hlength⟩
  · obtain ⟨name, hplace, -, hname⟩ := hnames
      [⟨"(a A)", "f", 1, 0⟩, ⟨"(B)", "f", 2, 0⟩, ⟨"(c *C)", "f", 3, 0⟩] ⟨"one", "g", 4, 1⟩
      [⟨"two", "g", 5, 2⟩, ⟨"(d D)", "g", 6, 0⟩] rfl (by decide)
    refine ⟨name, hplace, (hname _ rfl rfl).trans ?_⟩
    decide
  · obtain ⟨name, hplace, hsame, -⟩ := hnames
      [⟨"(a A)", "f", 1, 0⟩, ⟨"(B)", "f", 2, 0⟩, ⟨"(c *C)", "f", 3, 0⟩, ⟨"one", "g", 4, 1⟩]
      ⟨"two", "g", 5, 2⟩ [⟨"(d D)", "g", 6, 0⟩] rfl (by decide)
    refine ⟨name, hplace, not_not.mp fun hne => ?_⟩
    obtain ⟨r, hr, hreceiver⟩ := hsame.mp hne
    obtain rfl := Option.some.inj hr
    exact absurd hreceiver (by decide)

end FunctionChurn.Receiver
