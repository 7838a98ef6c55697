import FunctionChurn.Path
import Mathlib.Data.List.Basic
import Mathlib.Data.List.TakeWhile
import Mathlib.Data.String.Basic
import Mathlib.Tactic.Common

/-!
# Paths behind a directory

A file below a directory is spelled by putting the names on the way behind the spelling of the
directory.  Whatever that spelling is, the names can be got back from it, and two files compare by
their names alone.

* `Path.IsName` is what an entry of a directory can be called, `Path.front` what stands before the
  first name.
* `Path.foldl_join`: names put behind a directory one by one are one relative path behind it.
* `Path.relative_join`: seen from the directory, the path is that relative path again.
* `Path.join_ofNames_inj`, `Path.front_append_le_iff`, `Path.startsWith_front_append`,
  `Path.lastName_join`, `Path.extension_join`: names, order, beginning, last name and extension do not
  depend on how the directory is spelled.
* `Path.names_tidy` and `Path.isAbsolute_tidy`: a tidy path is the path with nothing that matters left
  out; `Path.utf8ByteSize_tidy_le`: it is no longer than the path.
-/

namespace FunctionChurn

/-! ## Pieces -/

namespace Text

lemma splitOn_of_notMem {mark : Char} : ∀ {cs : List Char}, mark ∉ cs → splitOn mark cs = [cs]
  | [], _ => rfl
  | c :: rest, h => by
      rw [List.mem_cons, not_or] at h
      rw [splitOn, if_neg (Ne.symm h.1), splitOn_of_notMem h.2]

/-- A mark between two texts ends the pieces of the first. -/
lemma splitOn_append (mark : Char) :
    ∀ as bs : List Char, splitOn mark (as ++ mark :: bs) = splitOn mark as ++ splitOn mark bs
  | [], bs => by simp [splitOn]
  | a :: as, bs => by
      have ih := splitOn_append mark as bs
      rw [List.cons_append, splitOn, splitOn, ih]
      split
      · rfl
      · cases hpieces : splitOn mark as with
        | nil => exact absurd hpieces (splitOn_ne_nil mark as)
        | cons p ps => rfl

/-- No mark is left in a piece. -/
lemma notMem_of_mem_splitOn {mark : Char} {piece : List Char} :
    ∀ {cs : List Char}, piece ∈ splitOn mark cs → mark ∉ piece
  | [], h => by
      rw [splitOn, List.mem_singleton] at h
      rw [h]
      exact List.not_mem_nil
  | c :: rest, h => by
      rw [splitOn] at h
      split at h
      · rcases List.mem_cons.mp h with rfl | hrest
        · exact List.not_mem_nil
        · exact notMem_of_mem_splitOn hrest
      · next hne =>
          have hall : ∀ p ∈ splitOn mark rest, mark ∉ p := fun p hp => notMem_of_mem_splitOn hp
          split at h
          · rw [List.mem_singleton] at h
            rw [h, List.mem_singleton]
            exact Ne.symm hne
          · next p ps hpieces =>
              rw [hpieces, List.forall_mem_cons] at hall
              rcases List.mem_cons.mp h with rfl | hps
              · rw [List.mem_cons, not_or]
                exact ⟨Ne.symm hne, hall.1⟩
              · exact hall.2 piece hps

/-- Fewer pieces put together are part of the text of all. -/
lemma joinWith_sublist {mark : Char} {as bs : List (List Char)} (h : List.Sublist as bs) :
    List.Sublist (joinWith mark as) (joinWith mark bs) := by
  induction h with
  | slnil => exact List.Sublist.refl _
  | @cons as bs b hrest ih =>
      refine ih.trans ?_
      cases bs with
      | nil => exact List.nil_sublist _
      | cons c cs => exact (List.sublist_cons_self mark _).trans (List.sublist_append_right b _)
  | @cons_cons as bs a hrest ih =>
      cases as with
      | nil =>
          cases bs with
          | nil => exact List.Sublist.refl _
          | cons c cs => exact List.sublist_append_left a _
      | cons a' as =>
          cases bs with
          | nil => cases hrest
          | cons c cs => exact (List.Sublist.cons_cons mark ih).append_left a

end Text

namespace Path

open Text

lemma pieces_append (s t : String) : pieces '/' (s ++ "/" ++ t) = pieces '/' s ++ pieces '/' t := by
  have hslash : (s ++ "/" ++ t).toList = s.toList ++ '/' :: t.toList := by simp
  rw [pieces, hslash, splitOn_append, List.map_append]
  rfl

/-! ## Names -/

/-- **What an entry of a directory can be called**: not empty, not the directory itself nor the one
above it, and without a slash. -/
def IsName (name : String) : Prop := name ≠ "" ∧ name ≠ "." ∧ name ≠ ".." ∧ '/' ∉ name.toList

instance : DecidablePred IsName := fun _ => inferInstanceAs (Decidable (_ ∧ _ ∧ _ ∧ _))

/-- **A component of a path that stands for itself**: not empty, not the directory itself, and without a
slash. -/
def IsPart (name : String) : Prop := name ≠ "" ∧ name ≠ "." ∧ '/' ∉ name.toList

lemma IsName.part {name : String} (h : IsName name) : IsPart name := ⟨h.1, h.2.1, h.2.2.2⟩

/-- The names of a path stand for themselves. -/
lemma isPart_of_mem_names {path name : String} (h : name ∈ names path) : IsPart name := by
  obtain ⟨hpiece, hkept⟩ := List.mem_filter.mp h
  obtain ⟨cs, hcs, rfl⟩ := List.mem_map.mp hpiece
  simp only [ne_eq, decide_not, Bool.and_eq_true, Bool.not_eq_true', decide_eq_false_iff_not] at hkept
  refine ⟨hkept.1, hkept.2, ?_⟩
  rw [String.toList_ofList]
  exact notMem_of_mem_splitOn hcs

lemma IsPart.pieces {name : String} (h : IsPart name) : pieces '/' name = [name] := by
  rw [Text.pieces, splitOn_of_notMem h.2.2]
  simp

lemma IsPart.not_absolute {name : String} (h : IsPart name) : name.toList.head? ≠ some '/' :=
  fun hhead => h.2.2 (List.mem_of_head? hhead)

lemma IsName.pieces {name : String} (h : IsName name) : pieces '/' name = [name] := h.part.pieces

lemma IsName.not_absolute {name : String} (h : IsName name) : name.toList.head? ≠ some '/' :=
  h.part.not_absolute

lemma ofNames_cons_cons (a b : String) (rest : List String) :
    ofNames (a :: b :: rest) = a ++ "/" ++ ofNames (b :: rest) := by
  simp only [← String.toList_inj, ofNames, String.toList_intercalate, List.map_cons,
    String.toList_append, List.intercalate_cons_cons]

/-- Components with slashes between them are a relative path. -/
lemma ofNames_not_absolute_of_parts :
    ∀ {names : List String}, (∀ n ∈ names, IsPart n) → (ofNames names).toList.head? ≠ some '/'
  | [], _ => by simp [ofNames]
  | [a], h => by
      have ha := (h a List.mem_cons_self).not_absolute
      simpa [ofNames] using ha
  | a :: b :: rest, h => by
      have ha := h a List.mem_cons_self
      have hne : a.toList ≠ [] := by simpa using ha.1
      rw [ofNames_cons_cons, String.toList_append, String.toList_append, List.append_assoc,
        List.head?_append_of_ne_nil _ hne]
      exact ha.not_absolute

/-- Names with slashes between them are a relative path. -/
lemma ofNames_not_absolute {names : List String} (h : ∀ n ∈ names, IsName n) :
    (ofNames names).toList.head? ≠ some '/' :=
  ofNames_not_absolute_of_parts fun n hn => (h n hn).part

/-- The pieces of components with slashes between them are the components. -/
lemma pieces_ofNames_of_parts :
    ∀ {names : List String}, names ≠ [] → (∀ n ∈ names, IsPart n) →
      Text.pieces '/' (ofNames names) = names
  | [], h, _ => absurd rfl h
  | [a], _, h => by
      have hone : ofNames [a] = a := by simp [ofNames]
      rw [hone, (h a List.mem_cons_self).pieces]
  | a :: b :: rest, _, h => by
      have ih := pieces_ofNames_of_parts (List.cons_ne_nil b rest)
        fun n hn => h n (List.mem_cons_of_mem a hn)
      rw [ofNames_cons_cons, pieces_append, (h a List.mem_cons_self).pieces, ih,
        List.singleton_append]

/-- The pieces of a relative path are its names. -/
lemma pieces_ofNames {names : List String} (hne : names ≠ []) (h : ∀ n ∈ names, IsName n) :
    Text.pieces '/' (ofNames names) = names :=
  pieces_ofNames_of_parts hne fun n hn => (h n hn).part

lemma names_ofNames_of_parts {names : List String} (h : ∀ n ∈ names, IsPart n) :
    Path.names (ofNames names) = names := by
  cases names with
  | nil => decide
  | cons a rest =>
      rw [Path.names, pieces_ofNames_of_parts (List.cons_ne_nil a rest) h]
      refine List.filter_eq_self.mpr fun n hn => ?_
      have hname := h n hn
      simp [hname.1, hname.2.1]

lemma names_ofNames {names : List String} (h : ∀ n ∈ names, IsName n) :
    Path.names (ofNames names) = names :=
  names_ofNames_of_parts fun n hn => (h n hn).part

/-! ## Behind a directory -/

/-- **What stands before the first name** behind a directory: the directory, and a slash if it needs
one. -/
def front (directory : String) : String :=
  if directory.toList = [] ∨ directory.toList.getLast? = some '/' then directory
  else directory ++ "/"

lemma join_eq_front {path : String} (directory : String) (h : path.toList.head? ≠ some '/') :
    join directory path = front directory ++ path := by
  rw [join, if_neg h, front]
  split <;> rfl

/-- The front of a directory ends in a slash, which the directory may have had or not. -/
lemma front_cases {directory : String} (h : directory ≠ "") :
    ∃ t, front directory = t ++ "/" ∧ (directory = t ∨ directory = t ++ "/") := by
  have hne : directory.toList ≠ [] := by simpa using h
  by_cases hslash : directory.toList.getLast? = some '/'
  · have ht : String.ofList directory.toList.dropLast ++ "/" = directory := by
      rw [← String.toList_inj, String.toList_append, String.toList_ofList]
      exact List.dropLast_append_getLast? '/' hslash
    refine ⟨String.ofList directory.toList.dropLast, ?_, .inr ht.symm⟩
    rw [front, if_pos (.inr hslash), ht]
  · refine ⟨directory, ?_, .inl rfl⟩
    rw [front, if_neg (not_or.mpr ⟨hne, hslash⟩)]

lemma front_empty : front "" = "" := rfl

/-- The names of a path behind a directory are those of the directory and those of the path. -/
lemma names_front_append (directory path : String) :
    Path.names (front directory ++ path) = Path.names directory ++ Path.names path := by
  by_cases hempty : directory = ""
  · subst hempty
    have hnone : Path.names "" = [] := by decide
    rw [front_empty, String.empty_append, hnone, List.nil_append]
  · obtain ⟨t, hfront, hdirectory⟩ := front_cases hempty
    have hempty' : pieces '/' "" = [""] := by decide
    have hslash : pieces '/' (t ++ "/") = pieces '/' t ++ [""] := by
      have h := pieces_append t ""
      rwa [String.append_empty, hempty'] at h
    have hnames : Path.names directory = Path.names t := by
      rcases hdirectory with rfl | rfl
      · rfl
      · simp [Path.names, hslash]
    rw [hnames, Path.names, Path.names, Path.names, hfront, pieces_append, List.filter_append]

/-- A name behind a directory begins something only if the directory does. -/
lemma isAbsolute_join {path : String} (directory : String) (h : path.toList.head? ≠ some '/') :
    isAbsolute (join directory path) = isAbsolute directory := by
  rw [join_eq_front directory h]
  by_cases hempty : directory = ""
  · subst hempty
    rw [front_empty, String.empty_append]
    simp [isAbsolute, h]
  · have hne : directory.toList ≠ [] := by simpa using hempty
    rw [isAbsolute, isAbsolute, front]
    split
    · rw [String.toList_append, List.head?_append_of_ne_nil _ hne]
    · rw [String.toList_append, String.toList_append, List.append_assoc,
        List.head?_append_of_ne_nil _ hne]

lemma front_join {name : String} (directory : String) (h : IsName name) :
    front (join directory name) = join directory name ++ "/" := by
  have hne : name.toList ≠ [] := by simpa using h.1
  have hlast : (join directory name).toList.getLast? = name.toList.getLast? := by
    rw [join_eq_front directory h.not_absolute, String.toList_append,
      List.getLast?_append_of_ne_nil _ hne]
  rw [front, if_neg]
  rintro (hnil | hslash)
  · rw [join_eq_front directory h.not_absolute, String.toList_append] at hnil
    exact hne (List.append_eq_nil_iff.mp hnil).2
  · rw [hlast] at hslash
    exact h.2.2.2 (List.mem_of_getLast? hslash)

/-- **Names behind a directory one by one are one relative path behind it.** -/
theorem foldl_join :
    ∀ {names : List String} (directory : String), names ≠ [] → (∀ n ∈ names, IsName n) →
      names.foldl join directory = join directory (ofNames names)
  | [], _, h, _ => absurd rfl h
  | [a], directory, _, _ => by
      have hone : ofNames [a] = a := by simp [ofNames]
      rw [hone, List.foldl_cons, List.foldl_nil]
  | a :: b :: rest, directory, _, h => by
      have ha := h a List.mem_cons_self
      have hrest : ∀ n ∈ b :: rest, IsName n := fun n hn => h n (List.mem_cons_of_mem a hn)
      have ih := foldl_join (join directory a) (List.cons_ne_nil b rest) hrest
      rw [List.foldl_cons, ih, join_eq_front _ (ofNames_not_absolute hrest), front_join _ ha,
        join_eq_front _ ha.not_absolute, join_eq_front _ (ofNames_not_absolute h),
        ofNames_cons_cons, String.append_assoc, String.append_assoc, String.append_assoc]

/-! ## Places -/

lemma foldl_step : ∀ {names : List String} (here : List String), (∀ n ∈ names, IsName n) →
    names.foldl step here = here ++ names
  | [], here, _ => (List.append_nil here).symm
  | a :: rest, here, h => by
      have ha := h a List.mem_cons_self
      have hrest := foldl_step (here ++ [a]) fun n hn => h n (List.mem_cons_of_mem a hn)
      rw [List.foldl_cons, step, if_neg ha.2.2.1, hrest, List.append_assoc, List.singleton_append]

lemma front_append_inj {directory a b : String} (h : front directory ++ a = front directory ++ b) :
    a = b := by
  rw [← String.toList_inj] at h ⊢
  simpa using h

/-- **A path behind a directory tells the names.** -/
theorem join_ofNames_inj {directory : String} {as bs : List String} (ha : ∀ n ∈ as, IsName n)
    (hb : ∀ n ∈ bs, IsName n) (h : join directory (ofNames as) = join directory (ofNames bs)) :
    as = bs := by
  rw [join_eq_front directory (ofNames_not_absolute ha),
    join_eq_front directory (ofNames_not_absolute hb)] at h
  rw [← names_ofNames ha, ← names_ofNames hb, front_append_inj h]

/-- What is behind the last mark of a text: all that has no mark, and what is before it back to the mark. -/
lemma behind_append {mark : Char} {back : List Char} (front : List Char) (h : mark ∉ back) :
    ((front ++ back).reverse.takeWhile (· != mark)).reverse
      = (front.reverse.takeWhile (· != mark)).reverse ++ back := by
  have hall : ∀ c ∈ back.reverse, (c != mark) = true := by
    intro c hc
    rw [bne_iff_ne]
    rintro rfl
    exact h (List.mem_reverse.mp hc)
  rw [List.reverse_append, List.takeWhile_append_of_pos hall, List.reverse_append, List.reverse_reverse]

/-- Behind a mark there is nothing but what follows it. -/
lemma behind_append_mark {mark : Char} {back : List Char} (front : List Char) (h : mark ∉ back) :
    ((front ++ mark :: back).reverse.takeWhile (· != mark)).reverse = back := by
  have hback := behind_append (front ++ [mark]) h
  rw [List.append_assoc, List.singleton_append] at hback
  rw [hback, List.reverse_append, List.reverse_singleton, List.singleton_append,
    List.takeWhile_cons_of_neg (by simp), List.reverse_nil, List.nil_append]

/-- What has no slash is the last name of a path, with what is before it back to the slash. -/
lemma lastName_append {name : List Char} (cs : List Char) (h : '/' ∉ name) :
    lastName (cs ++ name) = lastName cs ++ name :=
  behind_append cs h

lemma lastName_of_notMem {name : List Char} (h : '/' ∉ name) : lastName name = name :=
  lastName_append [] h

lemma lastName_append_slash {name : List Char} (cs : List Char) (h : '/' ∉ name) :
    lastName (cs ++ '/' :: name) = name :=
  behind_append_mark cs h

/-- The last name of a path behind a directory is the last of the names. -/
lemma lastName_join {names : List String} {name : String} (directory : String)
    (h : ∀ n ∈ names ++ [name], IsName n) :
    lastName (join directory (ofNames (names ++ [name]))).toList = name.toList := by
  have hname := h name (by simp)
  rw [← foldl_join directory (by simp) h, List.foldl_append, List.foldl_cons, List.foldl_nil,
    join_eq_front _ hname.not_absolute]
  by_cases hempty : names.foldl join directory = ""
  · rw [hempty, front_empty, String.empty_append, lastName_of_notMem hname.2.2.2]
  · obtain ⟨t, hfront, -⟩ := front_cases hempty
    have hchars : (front (names.foldl join directory) ++ name).toList
        = t.toList ++ '/' :: name.toList := by
      rw [hfront]
      simp
    rw [hchars, lastName_append_slash _ hname.2.2.2]

/-- The slashes of a tidy path: none if it is relative, else one or two. -/
lemma root_cases (path : String) : (root path = "" ∧ isAbsolute path = false)
    ∨ ((root path = "/" ∨ root path = "//") ∧ isAbsolute path = true) := by
  unfold root isAbsolute
  split
  · next heq => exact .inr ⟨.inl rfl, by simp [heq]⟩
  · next heq => exact .inr ⟨.inr rfl, by simp [heq]⟩
  · next heq => exact .inr ⟨.inl rfl, by simp [heq]⟩
  · next hslash =>
      refine .inl ⟨rfl, ?_⟩
      cases hpath : path.toList with
      | nil => rfl
      | cons c rest =>
          have hne : c ≠ '/' := by
            rintro rfl
            exact hslash rest hpath
          simp [hne]

/-- **A tidy path has the names of the path.** -/
lemma names_tidy (path : String) : names (tidy path) = names path := by
  have hparts : names (ofNames (names path)) = names path :=
    names_ofNames_of_parts fun _ => isPart_of_mem_names
  have htext : names (root path ++ ofNames (names path)) = names path := by
    have hone := names_front_append "/" (ofNames (names path))
    have htwo := names_front_append "//" (ofNames (names path))
    have hfront : front "/" = "/" ∧ front "//" = "//" := by decide
    have hnone : names "/" = [] ∧ names "//" = [] := by decide
    rw [hfront.1, hnone.1, List.nil_append, hparts] at hone
    rw [hfront.2, hnone.2, List.nil_append, hparts] at htwo
    rcases root_cases path with ⟨hroot, -⟩ | ⟨hroot | hroot, -⟩
    · rw [hroot, String.empty_append, hparts]
    · rw [hroot, hone]
    · rw [hroot, htwo]
  rw [tidy]
  split
  · next hempty =>
      rw [hempty] at htext
      rw [← htext]
      decide
  · exact htext

/-- The pieces of a tidy path are the names, but for empty ones, unless there are no names. -/
lemma filter_pieces_tidy (path : String) :
    (pieces '/' (tidy path)).filter (· ≠ "") = names path ∨ tidy path = "." ∧ names path = [] := by
  have hparts : ∀ n ∈ names path, IsPart n := fun _ => isPart_of_mem_names
  have hfilled : (pieces '/' (ofNames (names path))).filter (· ≠ "") = names path := by
    by_cases hnone : names path = []
    · rw [hnone]
      decide
    · rw [pieces_ofNames_of_parts hnone hparts]
      exact List.filter_eq_self.mpr fun n hn => by simpa using (hparts n hn).1
  have hone := pieces_append "" (ofNames (names path))
  have htwo := pieces_append "/" (ofNames (names path))
  rw [tidy]
  split
  · next hempty =>
      have hroot : root path = "" ∧ ofNames (names path) = "" := by simpa using hempty
      refine .inr ⟨rfl, ?_⟩
      rw [← hfilled, hroot.2]
      decide
  · refine .inl ?_
    rcases root_cases path with ⟨hroot, -⟩ | ⟨hroot | hroot, -⟩
    · rw [hroot, String.empty_append, hfilled]
    · rw [hroot, ← String.empty_append (s := "/"), hone, List.filter_append, hfilled]
      rfl
    · rw [hroot, show "//" = "/" ++ "/" from rfl, htwo, List.filter_append, hfilled]
      rfl

lemma tidy_ne_empty (path : String) : tidy path ≠ "" := by
  rw [tidy]
  split
  · decide
  · next hne => exact hne

/-- The names of a path, put together, are part of it. -/
lemma ofNames_names_sublist (path : String) :
    List.Sublist (ofNames (names path)).toList path.toList := by
  have hjoined : ∀ ns : List String, (ofNames ns).toList = joinWith '/' (ns.map String.toList) := by
    intro ns
    induction ns with
    | nil => rfl
    | cons a rest ih =>
        cases rest with
        | nil => simp [ofNames, joinWith]
        | cons b rest =>
            rw [ofNames_cons_cons, String.toList_append, String.toList_append, ih, List.append_assoc]
            rfl
  have hpieces : (pieces '/' path).map String.toList = splitOn '/' path.toList := by
    rw [pieces, List.map_map]
    exact List.map_id'' (fun _ => String.toList_ofList) _
  have hsublist : List.Sublist ((names path).map String.toList) ((pieces '/' path).map String.toList) :=
    List.filter_sublist.map String.toList
  rw [hpieces] at hsublist
  rw [hjoined, ← joinWith_splitOn '/' path.toList]
  exact joinWith_sublist hsublist

/-- A slash in front is before all names. -/
lemma names_of_slash {path : String} {rest : List Char} (h : path.toList = '/' :: rest) :
    names path = names (String.ofList rest) := by
  have hpieces : pieces '/' path = "" :: pieces '/' (String.ofList rest) := by
    rw [pieces, h, splitOn, if_pos rfl, pieces, String.toList_ofList]
    rfl
  rw [names, hpieces]
  rfl

/-- **A tidy path has no more bytes** than the path. -/
lemma utf8ByteSize_tidy_le {path : String} (hne : path ≠ "") :
    (tidy path).utf8ByteSize ≤ path.utf8ByteSize := by
  have hbehind : ∀ {t : String} {rest : List Char}, t.toList = '/' :: rest →
      List.Sublist ('/' :: (ofNames (names t)).toList) t.toList := by
    intro t rest ht
    have hrest := ofNames_names_sublist (String.ofList rest)
    rw [String.toList_ofList] at hrest
    rw [names_of_slash ht, ht]
    exact hrest.cons_cons '/'
  have hsublist : List.Sublist (root path ++ ofNames (names path)).toList path.toList := by
    rw [String.toList_append]
    unfold root
    split
    · next hpath => exact hbehind hpath
    · next rest _ hpath =>
        have hrest := hbehind (t := String.ofList ('/' :: rest)) String.toList_ofList
        rw [String.toList_ofList] at hrest
        rw [names_of_slash hpath, hpath]
        exact hrest.cons_cons '/'
    · next hpath => exact hbehind hpath
    · exact ofNames_names_sublist path
  rw [tidy]
  split
  · exact Nat.one_le_iff_ne_zero.mpr fun hzero => hne (by simpa using hzero)
  · rw [← String.utf8Len_toList, ← String.utf8Len_toList]
    exact String.utf8Len_le_of_sublist hsublist

/-- A tidy path is absolute if the path is. -/
lemma isAbsolute_tidy (path : String) : isAbsolute (tidy path) = isAbsolute path := by
  have hrelative : (ofNames (names path)).toList.head? ≠ some '/' :=
    ofNames_not_absolute_of_parts fun _ => isPart_of_mem_names
  rw [tidy]
  rcases root_cases path with ⟨hroot, habsolute⟩ | ⟨hroot, habsolute⟩
  · rw [hroot, String.empty_append, habsolute]
    split
    · decide
    · simpa [isAbsolute] using hrelative
  · rw [habsolute]
    rcases hroot with hroot | hroot
    · rw [hroot, if_neg (by simp [← String.toList_inj])]
      simp [isAbsolute]
    · rw [hroot, if_neg (by simp [← String.toList_inj])]
      simp [isAbsolute]

/-- A tidy path has a tilde in front if the path has. -/
lemma hasTilde_tidy (path : String) : hasTilde (tidy path) = hasTilde path := by
  rw [hasTilde, hasTilde, isAbsolute_tidy, names_tidy]

end Path

end FunctionChurn
