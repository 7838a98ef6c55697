import FunctionChurn.Text.Utf8
import Mathlib.Data.List.Basic
import Mathlib.Tactic.Common

/-!
# Text and its bytes

A place in a file is a number of bytes, and a line is a number of line feeds.  Both can be read off the text
or off its bytes.

* `Utf8.encodeChar_of_lt_two`, … are the bytes of a character, by its code point.
* `Utf8.count_encode`: the line feeds among the bytes are those of the text.
* **`Utf8.encode_of_decode`**: bytes that are text are the bytes of that text.
-/

namespace FunctionChurn.Utf8

/-! ## Characters -/

lemma toNat_ofNat {v : Nat} (h : v.isValidChar) : (Char.ofNat v).val.toNat = v := by
  rw [Char.ofNat, dif_pos h]
  rfl

lemma encodeChar_one {v : Nat} (h : v < 0x80) :
    String.utf8EncodeChar (Char.ofNat v) = [UInt8.ofNat v] := by
  have hv := toNat_ofNat (v := v) (.inl (by omega))
  unfold String.utf8EncodeChar
  dsimp only
  rw [hv, if_pos (by omega)]

lemma encodeChar_two {v : Nat} (h : 0x80 ≤ v) (h' : v < 0x800) :
    String.utf8EncodeChar (Char.ofNat v) = [UInt8.ofNat (v / 64 + 0xC0), UInt8.ofNat (v % 64 + 0x80)] := by
  have hv := toNat_ofNat (v := v) (.inl (by omega))
  have hfront : v / 64 % 32 = v / 64 := by omega
  unfold String.utf8EncodeChar
  dsimp only
  rw [hv, if_neg (by omega), if_pos (by omega), hfront]

lemma encodeChar_three {v : Nat} (h : 0x800 ≤ v) (h' : v < 0x10000) (hvalid : v < 0xD800 ∨ 0xDFFF < v) :
    String.utf8EncodeChar (Char.ofNat v)
      = [UInt8.ofNat (v / 4096 + 0xE0), UInt8.ofNat (v / 64 % 64 + 0x80), UInt8.ofNat (v % 64 + 0x80)] := by
  have hv := toNat_ofNat (v := v) (by rcases hvalid with h | h <;> [left; right] <;> omega)
  have hfront : v / 4096 % 16 = v / 4096 := by omega
  unfold String.utf8EncodeChar
  dsimp only
  rw [hv, if_neg (by omega), if_neg (by omega), if_pos (by omega), hfront]

lemma encodeChar_four {v : Nat} (h : 0x10000 ≤ v) (h' : v < 0x110000) :
    String.utf8EncodeChar (Char.ofNat v)
      = [UInt8.ofNat (v / 262144 + 0xF0), UInt8.ofNat (v / 4096 % 64 + 0x80),
          UInt8.ofNat (v / 64 % 64 + 0x80), UInt8.ofNat (v % 64 + 0x80)] := by
  have hv := toNat_ofNat (v := v) (.inr ⟨by omega, by omega⟩)
  have hfront : v / 262144 % 8 = v / 262144 := by omega
  unfold String.utf8EncodeChar
  dsimp only
  rw [hv, if_neg (by omega), if_neg (by omega), if_neg (by omega), hfront]

/-- A number that is that of a byte gives the byte back. -/
lemma ofNat_eq {n : Nat} {b : UInt8} (h : n = b.toNat) : UInt8.ofNat n = b := by
  rw [h, UInt8.ofNat_toNat]

/-! ## The machine -/

/-- **Whether some bytes are the beginning of a character** that so many bytes are owed for after the next one,
whose range is given. -/
def Spells (front : Bytes) : (after : Nat) → (low high : UInt8) → (value : Nat) → Prop
  | 0, low, high, value => ∀ b, low ≤ b → b ≤ high →
      String.utf8EncodeChar (Char.ofNat (value * 64 + (b.toNat - 0x80))) = front ++ [b]
  | n + 1, low, high, value => ∀ b, low ≤ b → b ≤ high →
      Spells (front ++ [b]) n 0x80 0xBF (value * 64 + (b.toNat - 0x80))

/-- A range of bytes as a range of numbers. -/
lemma toNat_mem {low high b : UInt8} (h : low ≤ b) (h' : b ≤ high) :
    low.toNat ≤ b.toNat ∧ b.toNat ≤ high.toNat :=
  ⟨UInt8.le_iff_toNat_le.mp h, UInt8.le_iff_toNat_le.mp h'⟩

/-- A lead byte of two. -/
lemma spells_two {a : UInt8} (h : 0xC2 ≤ a.toNat) (h' : a.toNat < 0xE0) :
    Spells [a] 0 0x80 0xBF (a.toNat - 0xC0) := by
  intro b hlow hhigh
  obtain ⟨hb, hb'⟩ : 0x80 ≤ b.toNat ∧ b.toNat ≤ 0xBF := toNat_mem hlow hhigh
  rw [encodeChar_two (by omega) (by omega), ofNat_eq (b := a) (by omega), ofNat_eq (b := b) (by omega)]
  rfl

/-- A lead byte of three, whose next byte is in a range that allows no shorter form and no surrogate. -/
lemma spells_three {a low high : UInt8} (h : 0xE0 ≤ a.toNat) (h' : a.toNat < 0xF0)
    (hlow : 0x80 ≤ low.toNat) (hhigh : high.toNat ≤ 0xBF) (hshort : a.toNat = 0xE0 → 0xA0 ≤ low.toNat)
    (hsurrogate : a.toNat = 0xED → high.toNat ≤ 0x9F) {value : Nat} (hvalue : value = a.toNat - 0xE0) :
    Spells [a] 1 low high value := by
  intro b hb hb' c hc hc'
  obtain ⟨hb, hb'⟩ := toNat_mem hb hb'
  obtain ⟨hc, hc'⟩ : 0x80 ≤ c.toNat ∧ c.toNat ≤ 0xBF := toNat_mem hc hc'
  rw [encodeChar_three (by omega) (by omega) (by omega), ofNat_eq (b := a) (by omega),
    ofNat_eq (b := b) (by omega), ofNat_eq (b := c) (by omega)]
  rfl

/-- A lead byte of four, whose next byte is in a range that allows no shorter form and no value past the last
one. -/
lemma spells_four {a low high : UInt8} (h : 0xF0 ≤ a.toNat) (h' : a.toNat ≤ 0xF4)
    (hlow : 0x80 ≤ low.toNat) (hhigh : high.toNat ≤ 0xBF) (hshort : a.toNat = 0xF0 → 0x90 ≤ low.toNat)
    (hlast : a.toNat = 0xF4 → high.toNat ≤ 0x8F) {value : Nat} (hvalue : value = a.toNat - 0xF0) :
    Spells [a] 2 low high value := by
  intro b hb hb' c hc hc' d hd hd'
  obtain ⟨hb, hb'⟩ := toNat_mem hb hb'
  obtain ⟨hc, hc'⟩ : 0x80 ≤ c.toNat ∧ c.toNat ≤ 0xBF := toNat_mem hc hc'
  obtain ⟨hd, hd'⟩ : 0x80 ≤ d.toNat ∧ d.toNat ≤ 0xBF := toNat_mem hd hd'
  rw [encodeChar_four (by omega) (by omega), ofNat_eq (b := a) (by omega), ofNat_eq (b := b) (by omega),
    ofNat_eq (b := c) (by omega), ofNat_eq (b := d) (by omega)]
  rfl

/-- **A lead byte begins a character**, or is one. -/
lemma spells_of (b : UInt8) :
    match Opening.of b with
    | .whole c => String.utf8EncodeChar c = [b]
    | .more o => Spells [b] o.after o.low o.high o.value
    | .refused => True := by
  unfold Opening.of
  split_ifs <;> simp only [UInt8.lt_iff_toNat_lt, ← UInt8.toNat_inj, UInt8.reduceToNat] at *
  · rw [encodeChar_one (by omega), UInt8.ofNat_toNat]
  · exact spells_two (by omega) (by omega)
  · exact spells_three (by omega) (by omega) (by decide) (by decide) (fun _ => by decide) (by omega) (by omega)
  · exact spells_three (by omega) (by omega) (by decide) (by decide) (by omega) (fun _ => by decide) (by omega)
  · exact spells_three (by omega) (by omega) (by decide) (by decide) (by omega) (by omega) rfl
  · exact spells_four (by omega) (by omega) (by decide) (by decide) (fun _ => by decide) (by omega) (by omega)
  · exact spells_four (by omega) (by omega) (by decide) (by decide) (by omega) (by omega) rfl
  · exact spells_four (by omega) (by omega) (by decide) (by decide) (by omega) (fun _ => by decide) (by omega)

/-- The bytes that a run has taken and not written yet. -/
def Owed (front : Bytes) : Option Open → Prop
  | none => front = []
  | some o => Spells front o.after o.low o.high o.value

lemma eq_ok_of_map {c : Char} {got : Except Malformed (List Char)} {cs : List Char}
    (h : got.map (c :: ·) = .ok cs) : ∃ rest, got = .ok rest ∧ cs = c :: rest := by
  cases got with
  | error m => contradiction
  | ok rest => exact ⟨rest, rfl, (Except.ok.inj h).symm⟩

/-- **What a run gives has the bytes that the run takes.** -/
lemma encode_of_run : ∀ {bytes : Bytes} (front : Bytes) {pos : Nat} (state : Option Open) {cs : List Char},
    Owed front state → run pos state bytes = .ok cs → encode cs = front ++ bytes
  | [], front, pos, none, cs, howed, hrun => by
      obtain rfl : front = [] := howed
      obtain rfl : [] = cs := Except.ok.inj hrun
      rfl
  | [], front, pos, some o, cs, howed, hrun => by
      rw [run] at hrun
      contradiction
  | b :: rest, front, pos, none, cs, howed, hrun => by
      obtain rfl : front = [] := howed
      have hspells := spells_of b
      rw [run] at hrun
      cases hopening : Opening.of b with
      | whole c =>
          rw [hopening] at hrun hspells
          obtain ⟨more, hmore, rfl⟩ := eq_ok_of_map hrun
          have ih := encode_of_run [] none rfl hmore
          rw [encode, List.flatMap_cons, hspells, ← encode, ih]
          rfl
      | more o =>
          rw [hopening] at hrun hspells
          exact encode_of_run [b] (some o) hspells hrun
      | refused =>
          rw [hopening] at hrun
          contradiction
  | b :: rest, front, pos, some o, cs, howed, hrun => by
      rw [run] at hrun
      split at hrun
      · next hrange =>
          have hnext := howed
          rw [Owed] at hnext
          cases hafter : o.after with
          | zero =>
              rw [hafter] at hrun hnext
              dsimp only at hrun
              obtain ⟨more, hmore, rfl⟩ := eq_ok_of_map (c := Char.ofNat (o.push b)) hrun
              have ih := encode_of_run [] none rfl hmore
              have hchar : String.utf8EncodeChar (Char.ofNat (o.push b)) = front ++ [b] :=
                hnext b hrange.1 hrange.2
              rw [encode, List.flatMap_cons, hchar, ← encode, ih, List.nil_append, List.append_assoc,
                List.singleton_append]
          | succ n =>
              rw [hafter] at hrun hnext
              have ih := encode_of_run (front ++ [b])
                (some ⟨o.lead, o.seen + 1, n, 0x80, 0xBF, o.push b⟩) (hnext b hrange.1 hrange.2) hrun
              rw [ih, List.append_assoc, List.singleton_append]
      · contradiction

/-- **Bytes that are text are the bytes of that text.** -/
theorem encode_of_decode {bytes : Bytes} {text : List Char} (h : decode bytes = .ok text) :
    encode text = bytes :=
  encode_of_run [] none rfl h

/-! ## Line feeds -/

/-- Only a line feed has the byte of one. -/
lemma count_encodeChar (c : Char) :
    (String.utf8EncodeChar c).count 0x0A = if c = '\n' then 1 else 0 := by
  have hfeed : c = '\n' ↔ c.val.toNat = 10 := by
    rw [Char.ext_iff, ← UInt32.toNat_inj]
    rfl
  have hbyte : ∀ {n : Nat}, n < 256 → (UInt8.ofNat n == 0x0A) = decide (n = 10) := by
    intro n hn
    have hmod : (UInt8.ofNat n).toNat = n := by
      rw [UInt8.toNat_ofNat']
      omega
    rw [Bool.eq_iff_iff, beq_iff_eq, decide_eq_true_eq, ← UInt8.toNat_inj, hmod]
    rfl
  simp only [hfeed]
  unfold String.utf8EncodeChar
  dsimp only
  -- all bytes of a longer character have their highest bit set
  split_ifs <;> simp (disch := omega) only [List.count_cons, List.count_nil, hbyte, decide_eq_true_eq]
  all_goals split_ifs <;> omega

/-- **The line feeds of a text are those of its bytes.** -/
lemma count_encode (text : List Char) : (encode text).count 0x0A = text.count '\n' := by
  induction text with
  | nil => rfl
  | cons c text ih =>
      rw [encode, List.flatMap_cons, List.count_append, ← encode, ih, count_encodeChar, List.count_cons,
        Nat.add_comm]
      simp only [beq_iff_eq]

end FunctionChurn.Utf8
