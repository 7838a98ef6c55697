import FunctionChurn.Proofs.Discovery
import FunctionChurn.Proofs.Path
import FunctionChurn.Proofs.Text.LowerCase

/-!
# The language of a path

The language of a file is looked up by its extension, and to find that, the last slash, the last dot and the
dots in front of the name all matter.  For a name that is not hidden nothing of it does: the extension is one
of those in the table just when the path ends in it, whatever stands before.

* `Path.EndsIn` is the plain reading of a suffix, `Language.ToldBy` the language by suffixes.
* `Path.nameExtension_append`: the extension of a name that is not hidden is the part from its last dot on.
* `Path.lowerCase_extension_iff`: that part is a known extension just when the path ends in it.
* `Language.toldBy_ofPath`: the language of a path is told by its end.
* `Filter.keeps_addPrefix` and `Filter.keeps_addExcluded`: what one more term does to a filter.
* **`Filter.classified_by_end`**: so is that of every file that is kept, and whether a file is kept depends on
  the terms of the filter as sets.
-/

namespace FunctionChurn

/-! ## The end of a path -/

namespace Path

/-- **Whether a path ends in a suffix**, the case of its ASCII letters aside. -/
def EndsIn (path suffix : String) : Prop := suffix.toList <:+ path.toList.map Char.toLower

instance (path suffix : String) : Decidable (EndsIn path suffix) := inferInstanceAs (Decidable (_ <:+ _))

/-- Nothing but a mark becomes a mark when letters are made lower case. -/
lemma toLower_eq_iff {c mark : Char} (h : mark.toNat < 65) : c.toLower = mark ↔ c = mark := by
  unfold Char.toLower
  split
  · next hletter =>
      have hfirst : 65 ≤ c.val.toNat := UInt32.le_iff_toNat_le.mp hletter.1
      have hlast : c.val.toNat ≤ 90 := UInt32.le_iff_toNat_le.mp hletter.2
      have hlower : (c.val + ('a'.val - 'A'.val)).toNat = (c.val.toNat + 32) % 2 ^ 32 :=
        UInt32.toNat_add _ _
      constructor
      · rintro rfl
        have hmark : (c.val + ('a'.val - 'A'.val)).toNat < 65 := h
        omega
      · rintro rfl
        have hmark : c.val.toNat < 65 := h
        omega
  · rfl

/-- The last name of a path is an end of it. -/
lemma lastName_suffix (cs : List Char) : lastName cs <:+ cs := by
  have hfront := List.takeWhile_prefix (l := cs.reverse) (· != '/')
  rw [← List.reverse_suffix, List.reverse_reverse] at hfront
  exact hfront

/-- **The extension of a name that is not hidden** begins at its last dot. -/
lemma nameExtension_append {front back : List Char} (hshown : (front ++ '.' :: back).head? ≠ some '.')
    (hback : '.' ∉ back) : nameExtension (front ++ '.' :: back) = '.' :: back := by
  cases front with
  | nil => exact absurd rfl hshown
  | cons c front =>
      have hc : ¬ c = '.' := by
        rintro rfl
        exact hshown rfl
      have hbody : (c :: front ++ '.' :: back).dropWhile (· = '.') = c :: front ++ '.' :: back :=
        List.dropWhile_cons_of_neg (by simpa using hc)
      have hdot : (c :: front ++ '.' :: back).contains '.' = true := by simp
      simp only [nameExtension, hbody, hdot, if_true, behind_append_mark (c :: front) hback]

/-- A name that is not hidden has no dot, and no extension, or ends in its extension. -/
lemma nameExtension_suffix {name : List Char} (hshown : name.head? ≠ some '.') :
    nameExtension name <:+ name := by
  by_cases hdot : '.' ∈ name
  · obtain ⟨back, front, hname, hback⟩ := List.eq_append_cons_of_mem (List.mem_reverse.mpr hdot)
    obtain rfl : name = front.reverse ++ '.' :: back.reverse := by
      rw [← List.reverse_reverse name, hname]
      simp
    rw [nameExtension_append hshown (by simpa using hback)]
    exact List.suffix_append _ _
  · have hbody : '.' ∉ name.dropWhile (· = '.') := fun h => hdot ((List.dropWhile_suffix _).subset h)
    rw [nameExtension, if_neg (by simpa using hbody)]
    exact List.nil_suffix

/-- **A known extension of a path is its end**, if the last name is not hidden: the dots before the last one
and the names of directories cannot be taken for it. -/
theorem lowerCase_extension_iff {path ext : String} {letters : List Char}
    (hshown : (lastName path.toList).head? ≠ some '.') (hext : ext.toList = '.' :: letters)
    (hplain : ∀ c ∈ ext.toList, Text.IsPlain c) (hletters : '.' ∉ letters ∧ '/' ∉ letters) :
    Text.lowerCase (extension path) = ext ↔ EndsIn path ext := by
  rw [Text.lowerCase_eq_iff hplain, extension, String.toList_ofList, EndsIn]
  constructor
  · intro h
    rw [← h]
    exact ((nameExtension_suffix hshown).trans (lastName_suffix _)).map _
  · intro h
    obtain ⟨tail, ⟨front, hpath⟩, htail⟩ := List.suffix_map_iff.mp h
    rw [hext] at htail
    obtain ⟨dot, back, rfl, hdot, hback⟩ := List.map_eq_cons_iff.mp htail.symm
    rw [toLower_eq_iff (by decide)] at hdot
    subst hdot
    have hnotMem : ∀ {mark : Char}, mark.toNat < 65 → mark ∉ letters → mark ∉ back := by
      intro mark hmark hletter hmem
      refine hletter ?_
      rw [← hback, ← (toLower_eq_iff hmark).mpr rfl]
      exact List.mem_map_of_mem hmem
    have hslash : '/' ∉ '.' :: back := by
      rw [List.mem_cons, not_or]
      exact ⟨by decide, hnotMem (by decide) hletters.2⟩
    rw [← hpath, lastName_append front hslash] at hshown ⊢
    rw [nameExtension_append hshown (hnotMem (by decide) hletters.1), hext, List.map_cons, hback,
      (toLower_eq_iff (by decide)).mpr rfl]

end Path

/-! ## The language -/

namespace Language

/-- **The language that the end of a path tells.** -/
structure ToldBy (l : Language) (path : String) : Prop where
  go : l = .go ↔ Path.EndsIn path ".go"
  rust : l = .rust ↔ Path.EndsIn path ".rs"
  lua : l = .lua ↔ Path.EndsIn path ".lua"
  unsupported : l = .unsupported
    ↔ ¬ Path.EndsIn path ".go" ∧ ¬ Path.EndsIn path ".rs" ∧ ¬ Path.EndsIn path ".lua"

/-- What a lower-case extension stands for. -/
lemma ofExtension?_eq_some_iff (ext : String) :
    (ofExtension? ext = some go ↔ Text.lowerCase ext = ".go")
      ∧ (ofExtension? ext = some rust ↔ Text.lowerCase ext = ".rs")
      ∧ (ofExtension? ext = some lua ↔ Text.lowerCase ext = ".lua")
      ∧ ofExtension? ext ≠ some unsupported := by
  unfold ofExtension?
  split <;> simp_all

/-- **The language of a path is told by its end**, unless the last name is hidden. -/
theorem toldBy_ofPath {path : String} (hshown : Filter.isHidden path = false) :
    (ofPath path).ToldBy path := by
  have hname : (Path.lastName path.toList).head? ≠ some '.' := by
    rwa [Filter.isHidden, Path.baseName, String.toList_ofList, decide_eq_false_iff_not] at hshown
  obtain ⟨hgo, hrust, hlua, hnone⟩ := ofExtension?_eq_some_iff (Path.extension path)
  rw [Path.lowerCase_extension_iff hname rfl (by simp [Text.IsPlain]) (by decide)] at hgo hrust hlua
  rw [ofPath, ofPath?]
  cases hlanguage : ofExtension? (Path.extension path) with
  | none =>
      rw [hlanguage] at hgo hrust hlua
      exact ⟨by simp [← hgo], by simp [← hrust], by simp [← hlua], by simp [← hgo, ← hrust, ← hlua]⟩
  | some l =>
      rw [hlanguage, Option.some.injEq] at hgo hrust hlua
      refine ⟨hgo, hrust, hlua, ?_⟩
      rw [Option.getD_some, ← hgo, ← hrust, ← hlua]
      cases l <;> simp_all

/-- The language of a path is that of the short name that its extension has, if it has one. -/
lemma ofPath_eq_ofTag (path : String) :
    ofPath path = ((ofPath? path).map tag).elim unsupported ofTag := by
  rw [ofPath]
  cases ofPath? path with
  | none => rfl
  | some l => exact (ofTag_tag l).symm

end Language

/-! ## The filter -/

namespace Filter

variable (f : Filter) (path term : String)

/-- One more prefix beside others keeps the paths that begin with it, besides those that are kept. -/
lemma keeps_addPrefix (h : f.prefixes ≠ []) :
    ({ f with prefixes := f.prefixes ++ [term] } : Filter).keeps path
      = (f.keeps path || ({ f with prefixes := [term] } : Filter).keeps path) := by
  have hempty : f.prefixes.isEmpty = false := by simpa using h
  have hmore : (f.prefixes ++ [term]).isEmpty = false := by simp
  simp only [keeps, admits, excludes, hempty, hmore, List.isEmpty_cons, List.any_append, List.any_cons,
    List.any_nil, Bool.false_or, Bool.or_false]
  rw [Bool.and_or_distrib_left, Bool.and_or_distrib_right]

/-- One more excluded term drops the paths that hold it. -/
lemma keeps_addExcluded :
    ({ f with excluded := f.excluded ++ [term] } : Filter).keeps path
      = (f.keeps path && !Text.contains path term) := by
  simp only [keeps, admits, excludes, List.any_append, List.any_cons, List.any_nil, Bool.or_false,
    Bool.not_or, Bool.and_assoc]

/-- What is kept of a path that is given as bytes is what is kept of their text. -/
lemma classifyBytes_eq_some {bytes : Bytes} {x : SourceFile} :
    f.classifyBytes bytes = some x
      ↔ Utf8.decode bytes = .ok x.path.toList ∧ f.classify x.path = some x := by
  rw [classifyBytes]
  cases hdecode : Utf8.decode bytes with
  | error fault => simp
  | ok text =>
      constructor
      · intro h
        have hpath := congrArg SourceFile.path (classify_eq_some.mp h).2
        rw [hpath, String.toList_ofList]
        exact ⟨rfl, h⟩
      · rintro ⟨htext, h⟩
        obtain rfl := Except.ok.inj htext
        simpa using h

/-- **A file that is kept is in the language that the end of its path tells**, ASCII case aside, whatever
dots and letters stand before; it makes no difference that the language is looked up twice, its short name
first.  Of bytes, those of a text are kept as the text is.  The prefixes and the excluded terms count as sets;
one more prefix beside others keeps just what begins with it besides, one more excluded term drops just what
holds it. -/
theorem classified_by_end :
    (∀ path x, f.classify path = some x → x.path = path ∧ x.language.ToldBy path
        ∧ x.language = ((Language.ofPath? path).map Language.tag).elim .unsupported Language.ofTag)
      ∧ (∀ bytes x, f.classifyBytes bytes = some x
          ↔ Utf8.decode bytes = .ok x.path.toList ∧ f.classify x.path = some x)
      ∧ (∀ g : Filter, (∀ term, term ∈ g.prefixes ↔ term ∈ f.prefixes) →
          (∀ term, term ∈ g.excluded ↔ term ∈ f.excluded) → g.classify = f.classify)
      ∧ (f.prefixes ≠ [] → ∀ term path x,
          ({ f with prefixes := f.prefixes ++ [term] } : Filter).classify path = some x
            ↔ f.classify path = some x ∨ ({ f with prefixes := [term] } : Filter).classify path = some x)
      ∧ ∀ term path x,
          ({ f with excluded := f.excluded ++ [term] } : Filter).classify path = some x
            ↔ f.classify path = some x ∧ Text.contains path term = false := by
  refine ⟨?_, fun bytes x => f.classifyBytes_eq_some, fun g => classify_congr, ?_, ?_⟩
  · intro path x h
    obtain ⟨hkept, hx⟩ := classify_eq_some.mp h
    rw [keeps, Bool.and_eq_true, Bool.and_eq_true] at hkept
    have hshown : isHidden path = false := by simpa using hkept.1.1
    have hpath : x.path = path := by rw [hx]
    have hlanguage : x.language = Language.ofPath path := by rw [hx]
    rw [hlanguage]
    exact ⟨hpath, Language.toldBy_ofPath hshown, Language.ofPath_eq_ofTag path⟩
  · intro hne term path x
    rw [classify_eq_some, classify_eq_some, classify_eq_some, f.keeps_addPrefix path term hne,
      Bool.or_eq_true, or_and_right]
  · intro term path x
    rw [classify_eq_some, classify_eq_some, f.keeps_addExcluded path term, Bool.and_eq_true,
      Bool.not_eq_true', and_right_comm]

namespace Sample

/-- Two terms of each kind. -/
def pair : Filter := { prefixes := ["lib/", "v1.go/"], excluded := ["~", "test"] }

/-- A file behind a directory that looks like a file, with the sign for kelvin in its name. -/
def kelvin : SourceFile := ⟨"v1.go/300\u212A.rs.Lua", .lua⟩

end Sample

/-- Neither the directory nor the dots nor the sign make a difference, nor does the order of the terms. -/
theorem classified_by_end_kelvin :
    Sample.pair.classify Sample.kelvin.path = some Sample.kelvin
      ∧ Sample.kelvin.language.ToldBy Sample.kelvin.path
      ∧ Sample.pair.classifyBytes (Utf8.encode Sample.kelvin.path.toList) = some Sample.kelvin
      ∧ ({ prefixes := ["v1.go/", "lib/", "lib/"], excluded := ["test", "~"] } : Filter).classify
          Sample.kelvin.path = some Sample.kelvin
      ∧ ({ Sample.pair with prefixes := Sample.pair.prefixes ++ ["v2.go/"] } : Filter).classify
          Sample.kelvin.path = some Sample.kelvin
      ∧ ({ Sample.pair with excluded := Sample.pair.excluded ++ [".rs"] } : Filter).classify
          Sample.kelvin.path ≠ some Sample.kelvin := by
  have hkept : Sample.pair.classify Sample.kelvin.path = some Sample.kelvin := by decide +kernel
  obtain ⟨htold, hbytes, hsets, hmore, hexcluded⟩ := classified_by_end Sample.pair
  refine ⟨hkept, (htold _ _ hkept).2.1, (hbytes _ _).mpr ⟨by decide +kernel, hkept⟩, ?_, ?_, ?_⟩
  · rw [hsets { prefixes := ["v1.go/", "lib/", "lib/"], excluded := ["test", "~"] }
      (by simp [Sample.pair]; tauto) (by simp [Sample.pair, or_comm])]
    exact hkept
  · exact (hmore (by decide) "v2.go/" _ _).mpr (.inl hkept)
  · intro h
    exact absurd ((hexcluded ".rs" _ _).mp h).2 (by decide +kernel)

end Filter

end FunctionChurn
