import Mathlib.Data.List.TakeWhile
import PageHarvest.Proofs.Traverse
import PageHarvest.Text.Utf8

/-! # What decodes

Bytes decode as a text just if they are the bytes of its characters one after the other, so bytes
decode as one text at most.
-/

namespace PageHarvest.Text.Utf8

/-- The bytes of a character. -/
def encodeOne (c : Char) : List Nat := (String.utf8EncodeChar c).map UInt8.toNat

/-- The bytes of a text. -/
def encode (text : List Char) : List Nat := text.flatMap encodeOne

private theorem encode_cons (c : Char) (text : List Char) :
    encode (c :: text) = encodeOne c ++ encode text :=
  List.flatMap_cons

/-! ## The bytes of a character -/

section

variable {c : Char}

private theorem toNat_lt (c : Char) : c.toNat < 0x110000 := by
  have valid := c.valid
  simp only [UInt32.isValidChar, Nat.isValidChar] at valid
  simp only [Char.toNat]
  omega

private theorem encodeOne_one (small : c.toNat < 0x80) : encodeOne c = [c.toNat] := by
  have code : c.val.toNat = c.toNat := rfl
  simp only [encodeOne, String.utf8EncodeChar, code]
  rw [if_pos (by omega)]
  simp only [List.map_cons, List.map_nil, UInt8.toNat_ofNat', Nat.reducePow, List.cons.injEq,
    and_true]
  omega

private theorem encodeOne_two (low : 0x80 ≤ c.toNat) (high : c.toNat < 0x800) :
    encodeOne c = [0xC0 + c.toNat / 64, 0x80 + c.toNat % 64] := by
  have code : c.val.toNat = c.toNat := rfl
  simp only [encodeOne, String.utf8EncodeChar, code]
  rw [if_neg (by omega), if_pos (by omega)]
  simp only [List.map_cons, List.map_nil, UInt8.toNat_ofNat', Nat.reducePow, List.cons.injEq,
    and_true]
  omega

private theorem encodeOne_three (low : 0x800 ≤ c.toNat) (high : c.toNat < 0x10000) :
    encodeOne c = [0xE0 + c.toNat / 4096, 0x80 + c.toNat / 64 % 64, 0x80 + c.toNat % 64] := by
  have code : c.val.toNat = c.toNat := rfl
  simp only [encodeOne, String.utf8EncodeChar, code]
  rw [if_neg (by omega), if_neg (by omega), if_pos (by omega)]
  simp only [List.map_cons, List.map_nil, UInt8.toNat_ofNat', Nat.reducePow, List.cons.injEq,
    and_true]
  omega

private theorem encodeOne_four (low : 0x10000 ≤ c.toNat) :
    encodeOne c = [0xF0 + c.toNat / 262144, 0x80 + c.toNat / 4096 % 64, 0x80 + c.toNat / 64 % 64,
      0x80 + c.toNat % 64] := by
  have code : c.val.toNat = c.toNat := rfl
  have high := toNat_lt c
  simp only [encodeOne, String.utf8EncodeChar, code]
  rw [if_neg (by omega), if_neg (by omega), if_neg (by omega)]
  simp only [List.map_cons, List.map_nil, UInt8.toNat_ofNat', Nat.reducePow, List.cons.injEq,
    and_true]
  omega

end

/-! ## Sequences that are a character -/

private theorem sequenceLength?_eq_some_iff {byte count : Nat} :
    sequenceLength? byte = some count ↔
      count = 1 ∧ byte < 0x80 ∨ count = 2 ∧ 0xC2 ≤ byte ∧ byte < 0xE0 ∨
        count = 3 ∧ 0xE0 ≤ byte ∧ byte < 0xF0 ∨ count = 4 ∧ 0xF0 ≤ byte ∧ byte < 0xF5 := by
  simp only [sequenceLength?, Bool.and_eq_true, decide_eq_true_eq]
  split_ifs <;> simp <;> omega

private theorem maySecond_iff {first second : Nat} :
    maySecond first second = true ↔ (0x80 ≤ second ∧ second ≤ 0xBF) ∧
      (first = 0xE0 → 0xA0 ≤ second) ∧ (first = 0xF0 → 0x90 ≤ second) ∧
        (first = 0xED → second ≤ 0x9F) ∧ (first = 0xF4 → second ≤ 0x8F) := by
  simp only [maySecond, Bool.and_eq_true, decide_eq_true_eq, beq_iff_eq]
  split_ifs <;> omega

private theorem mayFollow_iff {byte : Nat} : mayFollow byte = true ↔ 0x80 ≤ byte ∧ byte ≤ 0xBF := by
  simp only [mayFollow, Bool.and_eq_true, decide_eq_true_eq]

/-- The bytes behind the first one fit into its sequence. -/
def Fits (first : Nat) : List Nat → Prop
  | [] => True
  | second :: rest => maySecond first second = true ∧ ∀ byte ∈ rest, mayFollow byte = true

private theorem fitting_le (first : Nat) (wanted : List Nat) :
    fitting first wanted ≤ wanted.length := by
  cases wanted with
  | nil => exact Nat.le_refl 0
  | cons second rest =>
    have short := (List.takeWhile_sublist mayFollow (l := rest)).length_le
    rw [fitting, List.length_cons]
    split <;> omega

private theorem fitting_eq_length_iff {first : Nat} {wanted : List Nat} :
    fitting first wanted = wanted.length ↔ Fits first wanted := by
  cases wanted with
  | nil => simp [fitting, Fits]
  | cons second rest =>
    rw [fitting, Fits, List.length_cons, Nat.add_comm]
    by_cases may : maySecond first second = true
    · rw [if_pos may, and_iff_right may, Nat.add_left_inj,
        ← List.takeWhile_eq_self_iff, ← (List.takeWhile_sublist _).length_eq]
    · rw [if_neg may]
      exact iff_of_false (by omega) fun fits => may fits.1

/-- Decoding takes as many bytes behind the first as it asks for, if they are there and fit. -/
theorem decodeOne_eq_ok_iff {position first more : Nat} {rest : List Nat} {c : Char} :
    decodeOne position first rest = .ok (c, more) ↔
      more ≤ rest.length ∧ sequenceLength? first = some (more + 1) ∧
        Fits first (rest.take more) ∧
          Char.ofNat (combine first (more + 1) (rest.take more)) = c := by
  rw [decodeOne]
  cases known : sequenceLength? first with
  | none => simp
  | some count =>
    have positive : 1 ≤ count := by
      rcases sequenceLength?_eq_some_iff.mp known with found | found | found | found <;> omega
    obtain ⟨k, rfl⟩ := Nat.exists_eq_add_of_le' positive
    have short := fitting_le first (rest.take k)
    rw [List.length_take] at short
    simp only [Nat.add_sub_cancel, Option.some.injEq, Nat.add_left_inj]
    by_cases good : fitting first (rest.take k) = k
    · have enough : k ≤ rest.length := by omega
      have fits : Fits first (rest.take k) := by
        rw [← fitting_eq_length_iff, List.length_take_of_le enough, good]
      rw [if_pos (beq_iff_eq.mpr good)]
      simp only [Except.ok.injEq, Prod.mk.injEq]
      constructor
      · rintro ⟨same, rfl⟩
        exact ⟨enough, rfl, fits, same⟩
      · rintro ⟨-, rfl, -, same⟩
        exact ⟨same, rfl⟩
    · rw [if_neg (by simpa using good)]
      constructor
      · split <;> exact nofun
      · rintro ⟨enough, rfl, fits, -⟩
        refine absurd ?_ good
        rw [fitting_eq_length_iff.mpr fits, List.length_take_of_le enough]

/-! ## Characters and their sequences -/

private theorem not_surrogate (c : Char) : c.toNat < 0xD800 ∨ 0xDFFF < c.toNat := by
  have valid := c.valid
  simp only [UInt32.isValidChar, Nat.isValidChar] at valid
  simp only [Char.toNat]
  omega

private theorem toNat_ofNat {n : Nat} (valid : n < 0xD800 ∨ 0xDFFF < n ∧ n < 0x110000) :
    (Char.ofNat n).toNat = n := by
  rw [Char.ofNat, dif_pos valid]
  rfl

/-- What is written of a character is a sequence that fits and stands for it. -/
private theorem sequence_of_encodeOne {c : Char} {first : Nat} {tail : List Nat}
    (written : encodeOne c = first :: tail) :
    sequenceLength? first = some (tail.length + 1) ∧ Fits first tail ∧
      combine first (tail.length + 1) tail = c.toNat := by
  have bound := toNat_lt c
  have gap := not_surrogate c
  rw [sequenceLength?_eq_some_iff]
  by_cases one : c.toNat < 0x80
  · rw [encodeOne_one one] at written
    cases written
    exact ⟨.inl ⟨rfl, one⟩, trivial, rfl⟩
  by_cases two : c.toNat < 0x800
  · rw [encodeOne_two (by omega) two] at written
    cases written
    refine ⟨.inr (.inl ⟨rfl, by omega, by omega⟩), ⟨?_, List.forall_mem_nil _⟩, ?_⟩
    · rw [maySecond_iff]
      omega
    · change 64 * ((0xC0 + c.toNat / 64) % 32) + (0x80 + c.toNat % 64) % 64 = c.toNat
      omega
  by_cases three : c.toNat < 0x10000
  · rw [encodeOne_three (by omega) three] at written
    cases written
    refine ⟨.inr (.inr (.inl ⟨rfl, by omega, by omega⟩)), ⟨?_, ?_⟩, ?_⟩
    · rw [maySecond_iff]
      omega
    · rw [List.forall_mem_singleton, mayFollow_iff]
      omega
    · change 64 * (64 * ((0xE0 + c.toNat / 4096) % 16) + (0x80 + c.toNat / 64 % 64) % 64) +
        (0x80 + c.toNat % 64) % 64 = c.toNat
      omega
  · rw [encodeOne_four (by omega)] at written
    cases written
    refine ⟨.inr (.inr (.inr ⟨rfl, by omega, by omega⟩)), ⟨?_, ?_⟩, ?_⟩
    · rw [maySecond_iff]
      omega
    · rw [List.forall_mem_cons, List.forall_mem_singleton, mayFollow_iff, mayFollow_iff]
      omega
    · change 64 * (64 * (64 * ((0xF0 + c.toNat / 262144) % 8) + (0x80 + c.toNat / 4096 % 64) % 64) +
        (0x80 + c.toNat / 64 % 64) % 64) + (0x80 + c.toNat % 64) % 64 = c.toNat
      omega

/-- A sequence that fits is what is written of the character that it stands for. -/
private theorem encodeOne_of_sequence {first : Nat} {tail : List Nat}
    (known : sequenceLength? first = some (tail.length + 1)) (fits : Fits first tail) :
    encodeOne (Char.ofNat (combine first (tail.length + 1) tail)) = first :: tail := by
  rw [sequenceLength?_eq_some_iff] at known
  match tail with
  | [] =>
    simp only [List.length_nil] at known
    have number : combine first 1 [] = first := rfl
    have code := @toNat_ofNat (combine first 1 []) (by omega)
    change encodeOne (Char.ofNat (combine first 1 [])) = [first]
    rw [encodeOne_one (by omega), code, number]
  | [a] =>
    simp only [List.length_cons, List.length_nil] at known
    simp only [Fits, maySecond_iff] at fits
    have number : combine first 2 [a] = 64 * (first % 32) + a % 64 := rfl
    have code := @toNat_ofNat (combine first 2 [a]) (by omega)
    change encodeOne (Char.ofNat (combine first 2 [a])) = [first, a]
    rw [encodeOne_two (by omega) (by omega), code, number]
    simp only [List.cons.injEq, and_true]
    omega
  | [a, b] =>
    simp only [List.length_cons, List.length_nil] at known
    simp only [Fits, maySecond_iff, mayFollow_iff, List.forall_mem_singleton] at fits
    have number : combine first 3 [a, b] = 64 * (64 * (first % 16) + a % 64) + b % 64 := rfl
    have code := @toNat_ofNat (combine first 3 [a, b]) (by omega)
    change encodeOne (Char.ofNat (combine first 3 [a, b])) = [first, a, b]
    rw [encodeOne_three (by omega) (by omega), code, number]
    simp only [List.cons.injEq, and_true]
    omega
  | [a, b, d] =>
    simp only [List.length_cons, List.length_nil] at known
    simp only [Fits, maySecond_iff, mayFollow_iff, List.forall_mem_cons] at fits
    have number : combine first 4 [a, b, d] =
      64 * (64 * (64 * (first % 8) + a % 64) + b % 64) + d % 64 := rfl
    have code := @toNat_ofNat (combine first 4 [a, b, d]) (by omega)
    change encodeOne (Char.ofNat (combine first 4 [a, b, d])) = [first, a, b, d]
    rw [encodeOne_four (by omega), code, number]
    simp only [List.cons.injEq, and_true]
    omega
  | a :: b :: d :: e :: rest =>
    simp only [List.length_cons] at known
    omega

/-! ## Texts -/

/-- A character is decoded just if its bytes come first. -/
theorem decodeOne_eq_ok_iff_encodeOne {position first more : Nat} {rest : List Nat} {c : Char} :
    decodeOne position first rest = .ok (c, more) ↔
      more ≤ rest.length ∧ encodeOne c = first :: rest.take more := by
  rw [decodeOne_eq_ok_iff]
  refine and_congr_right fun enough => ?_
  have length := List.length_take_of_le enough
  constructor
  · rintro ⟨known, fits, rfl⟩
    rw [← length] at known
    have written := encodeOne_of_sequence known fits
    rwa [length] at written
  · intro written
    obtain ⟨known, fits, number⟩ := sequence_of_encodeOne written
    rw [length] at known number
    exact ⟨known, fits, by rw [number, Char.ofNat_toNat]⟩

private theorem decodeFrom_skip (position skip : Nat) (bytes : List Nat) :
    decodeFrom position skip bytes = decodeFrom (position + skip) 0 (bytes.drop skip) := by
  induction bytes generalizing position skip with
  | nil => simp [decodeFrom]
  | cons first rest ih =>
    cases skip with
    | zero => rfl
    | succ skip =>
      rw [decodeFrom, if_pos (Nat.succ_pos skip), Nat.add_sub_cancel, ih, List.drop_succ_cons,
        Nat.add_assoc, Nat.add_comm 1]

private theorem decodeFrom_cons (position first : Nat) (rest : List Nat) :
    decodeFrom position 0 (first :: rest) = do
      let (c, more) ← decodeOne position first rest
      return c :: (← decodeFrom (position + 1 + more) 0 (rest.drop more)) := by
  rw [decodeFrom, if_neg (Nat.lt_irrefl 0)]
  cases decodeOne position first rest with
  | error fault => rfl
  | ok found =>
    obtain ⟨c, more⟩ := found
    simp only [bind, Except.bind]
    rw [decodeFrom_skip (position + 1) more rest]

private theorem encodeOne_ne_nil (c : Char) : encodeOne c ≠ [] := by
  rw [encodeOne, ne_eq, List.map_eq_nil_iff]
  exact String.utf8EncodeChar_ne_nil

/-- Bytes decode to a text exactly if they are the bytes of that text. -/
private theorem decodeFrom_eq_ok_iff {position : Nat} {bytes : List Nat} {text : List Char} :
    decodeFrom position 0 bytes = .ok text ↔ bytes = encode text := by
  induction text generalizing position bytes with
  | nil =>
    cases bytes with
    | nil => exact iff_of_true rfl rfl
    | cons first rest =>
      refine iff_of_false (fun decodes => ?_) nofun
      rw [decodeFrom_cons] at decodes
      obtain ⟨⟨c, more⟩, -, decodes⟩ := exists_of_bind_eq_ok decodes
      obtain ⟨text, -, decodes⟩ := exists_of_bind_eq_ok decodes
      cases decodes
  | cons c text ih =>
    rw [encode_cons]
    constructor
    · intro decodes
      cases bytes with
      | nil => cases decodes
      | cons first rest =>
        rw [decodeFrom_cons] at decodes
        obtain ⟨⟨c, more⟩, one, decodes⟩ := exists_of_bind_eq_ok decodes
        obtain ⟨text, others, decodes⟩ := exists_of_bind_eq_ok decodes
        cases decodes
        have written := (decodeOne_eq_ok_iff_encodeOne.mp one).2
        rw [written, ← ih.mp others, List.cons_append, List.take_append_drop]
    · intro same
      obtain ⟨first, tail, written⟩ := List.exists_cons_of_ne_nil (encodeOne_ne_nil c)
      rw [written, List.cons_append] at same
      have one : decodeOne position first (tail ++ encode text) = .ok (c, tail.length) := by
        rw [decodeOne_eq_ok_iff_encodeOne, List.take_left, List.length_append]
        exact ⟨Nat.le_add_right .., written⟩
      have others : decodeFrom (position + 1 + tail.length) 0 (encode text) = .ok text :=
        ih.mpr rfl
      rw [same, decodeFrom_cons, one]
      simp only [bind, Except.bind]
      rw [List.drop_left, others]
      rfl

/-- Bytes decode as a text just if they are its bytes. -/
theorem decode_eq_ok_iff {bytes : List Nat} {text : List Char} :
    decode bytes = .ok text ↔ bytes = encode text :=
  decodeFrom_eq_ok_iff

/-- Two texts with the same bytes are the same. -/
theorem encode_injective {text other : List Char} (same : encode text = encode other) :
    text = other :=
  Except.ok.inj ((decode_eq_ok_iff.mpr rfl).symm.trans (decode_eq_ok_iff.mpr same))

/-! ## The bytes of a string -/

private theorem toList_loop (bytes : ByteArray) (index : Nat) (read : List UInt8) :
    ByteArray.toList.loop bytes index read = read.reverse ++ bytes.data.toList.drop index := by
  fun_induction ByteArray.toList.loop bytes index read with
  | case1 index read below ih =>
    have inside : index < bytes.data.toList.length := below
    have got : bytes.get! index = bytes.data.toList[index] := getElem!_pos bytes.data index below
    rw [ih, got, List.drop_eq_getElem_cons inside, List.reverse_cons, List.append_assoc]
    rfl
  | case2 index read above =>
    have outside : bytes.data.toList.length ≤ index := Nat.not_lt.mp above
    rw [List.drop_eq_nil_of_le outside, List.append_nil]

/-- The bytes of a string are those of its characters. -/
theorem toList_toUTF8 (text : String) :
    text.toUTF8.toList.map UInt8.toNat = encode text.toList := by
  have bytes : text.toUTF8 = (text.toList.flatMap String.utf8EncodeChar).toByteArray :=
    String.utf8Encode_toList.symm
  rw [bytes, ByteArray.toList, toList_loop, List.toList_data_toByteArray, encode]
  exact List.map_flatMap

end PageHarvest.Text.Utf8
