import InstrumentControl.Proofs.Text.Lines
import InstrumentControl.Text.Utf8

/-! The UTF-8 encoding loses nothing: decoding gives back every text that was encoded.  Bytes below
0x80 occur in an encoded text only as characters of their own, so a mark of such a character is
found in the bytes where it is found in the text. -/

namespace InstrumentControl.Text.Utf8

section

variable {b x y z : UInt8} {rest : List UInt8}

theorem character_one (hb : b.toNat < 0x80) : character b rest = (Char.ofNat b.toNat, 0) := by
  have hone : b < 0x80 := hb
  simp only [character.eq_def, if_pos hone]

theorem character_two (hlow : 0xc2 ≤ b.toNat) (hhigh : b.toNat ≤ 0xdf)
    (hx : continues x = true) : character b (x :: rest) = (assemble (b.toNat % 32) [x], 1) := by
  simp only [character.eq_def, UInt8.lt_iff_toNat_lt, UInt8.le_iff_toNat_le, UInt8.reduceToNat]
  rw [if_neg (by omega), if_pos (by simp; omega), if_pos hx]

theorem character_three (hlow : 0xe0 ≤ b.toNat) (hhigh : b.toNat ≤ 0xef)
    (hx : maySecond b x = true) (hy : continues y = true) :
    character b (x :: y :: rest) = (assemble (b.toNat % 16) [x, y], 2) := by
  simp only [character.eq_def, UInt8.lt_iff_toNat_lt, UInt8.le_iff_toNat_le, UInt8.reduceToNat]
  rw [if_neg (by omega), if_neg (by simp; omega), if_pos (by simp; omega)]
  simp [hx, hy]

theorem character_four (hlow : 0xf0 ≤ b.toNat) (hhigh : b.toNat ≤ 0xf4)
    (hx : maySecond b x = true) (hy : continues y = true) (hz : continues z = true) :
    character b (x :: y :: z :: rest) = (assemble (b.toNat % 8) [x, y, z], 3) := by
  simp only [character.eq_def, UInt8.lt_iff_toNat_lt, UInt8.le_iff_toNat_le, UInt8.reduceToNat]
  rw [if_neg (by omega), if_neg (by simp; omega), if_neg (by simp; omega),
    if_pos (by simp; omega)]
  simp [hx, hy, hz]

theorem maySecond_iff : maySecond b x = true ↔ 0x80 ≤ x.toNat ∧ x.toNat ≤ 0xbf ∧
    (b.toNat = 0xe0 → 0xa0 ≤ x.toNat) ∧ (b.toNat = 0xed → x.toNat ≤ 0x9f) ∧
    (b.toNat = 0xf0 → 0x90 ≤ x.toNat) ∧ (b.toNat = 0xf4 → x.toNat ≤ 0x8f) := by
  unfold maySecond continues
  simp only [← UInt8.toNat_inj, UInt8.reduceToNat]
  split_ifs <;>
    simp only [Bool.and_eq_true, decide_eq_true_eq, UInt8.le_iff_toNat_le, UInt8.reduceToNat] <;>
    omega

end

theorem toNat_ofNat_low (n : Nat) : (UInt8.ofNat (n % 64 + 128)).toNat = n % 64 + 128 :=
  UInt8.toNat_ofNat_of_lt' (show n % 64 + 128 < 256 by omega)

theorem continues_ofNat (n : Nat) : continues (UInt8.ofNat (n % 64 + 128)) = true := by
  simp only [continues, Bool.and_eq_true, decide_eq_true_eq, UInt8.le_iff_toNat_le,
    toNat_ofNat_low, UInt8.reduceToNat]
  omega

/-- At the head of an encoded character, decoding finds the character and takes all its bytes. -/
theorem character_utf8EncodeChar (c : Char) (rest : List UInt8) :
    ∃ b tail, String.utf8EncodeChar c = b :: tail ∧
      character b (tail ++ rest) = (c, tail.length) := by
  obtain ⟨v, hv⟩ : ∃ v, v = c.val.toNat := ⟨_, rfl⟩
  have hvalid : v < 0xd800 ∨ 0xdfff < v ∧ v < 0x110000 := hv ▸ c.valid
  have hc : Char.ofNat v = c := hv ▸ Char.ofNat_toNat c
  rw [String.utf8EncodeChar, ← hv]
  -- one case for each number of bytes
  split
  · next hone =>
    have hb : (UInt8.ofNat v).toNat = v := UInt8.toNat_ofNat_of_lt' (show v < 256 by omega)
    refine ⟨_, _, rfl, ?_⟩
    rw [character_one (by omega), hb, hc]
    rfl
  split
  · next hone htwo =>
    have hb : (UInt8.ofNat (v / 64 % 32 + 192)).toNat = v / 64 % 32 + 192 :=
      UInt8.toNat_ofNat_of_lt' (show v / 64 % 32 + 192 < 256 by omega)
    refine ⟨_, _, rfl, ?_⟩
    rw [List.singleton_append, character_two (by omega) (by omega) (continues_ofNat _)]
    simp only [assemble, List.foldl_cons, List.foldl_nil, hb, toNat_ofNat_low]
    rw [← hc]
    congr 2
    omega
  split
  · next hone htwo hthree =>
    have hb : (UInt8.ofNat (v / 4096 % 16 + 224)).toNat = v / 4096 % 16 + 224 :=
      UInt8.toNat_ofNat_of_lt' (show v / 4096 % 16 + 224 < 256 by omega)
    have hx := toNat_ofNat_low (v / 64)
    refine ⟨_, _, rfl, ?_⟩
    rw [List.cons_append, List.singleton_append, character_three (by omega) (by omega)
      (maySecond_iff.mpr (by omega)) (continues_ofNat _)]
    simp only [assemble, List.foldl_cons, List.foldl_nil, hb, toNat_ofNat_low]
    rw [← hc]
    congr 2
    omega
  · next hone htwo hthree =>
    have hb : (UInt8.ofNat (v / 262144 % 8 + 240)).toNat = v / 262144 % 8 + 240 :=
      UInt8.toNat_ofNat_of_lt' (show v / 262144 % 8 + 240 < 256 by omega)
    have hx := toNat_ofNat_low (v / 4096)
    refine ⟨_, _, rfl, ?_⟩
    rw [List.cons_append, List.cons_append, List.singleton_append, character_four (by omega)
      (by omega) (maySecond_iff.mpr (by omega)) (continues_ofNat _) (continues_ofNat _)]
    simp only [assemble, List.foldl_cons, List.foldl_nil, hb, toNat_ofNat_low]
    rw [← hc]
    congr 2
    omega

@[simp] theorem encode_nil : encode [] = [] := rfl

theorem encode_cons (c : Char) (s : List Char) :
    encode (c :: s) = String.utf8EncodeChar c ++ encode s := rfl

@[simp] theorem encode_append (s t : List Char) : encode (s ++ t) = encode s ++ encode t :=
  List.flatMap_append

theorem decode_encode (s : List Char) : decode (encode s) = s := by
  induction s with
  | nil => rw [encode_nil, decode]
  | cons c s ih =>
    obtain ⟨b, tail, hbytes, hcharacter⟩ := character_utf8EncodeChar c (encode s)
    rw [encode_cons, hbytes, List.cons_append, decode, hcharacter, List.drop_left, ih]

theorem eq_of_mem_utf8EncodeChar {b : UInt8} {c : Char} (h : b ∈ String.utf8EncodeChar c)
    (hb : b.toNat < 0x80) : b.toNat = c.toNat := by
  have hlarge (n : Nat) (hlow : 0x80 ≤ n) (hhigh : n < 256) : b ≠ UInt8.ofNat n := by
    rintro rfl
    rw [UInt8.toNat_ofNat_of_lt' hhigh] at hb
    omega
  unfold String.utf8EncodeChar at h
  simp only at h
  split at h
  · next hone =>
    rw [List.mem_singleton.mp h]
    exact UInt8.toNat_ofNat_of_lt' (show c.val.toNat < 256 by omega)
  split at h
  · simp only [List.mem_cons, List.not_mem_nil, or_false] at h
    rcases h with h | h <;> exact absurd h (hlarge _ (by omega) (by omega))
  split at h
  · simp only [List.mem_cons, List.not_mem_nil, or_false] at h
    rcases h with h | h | h <;> exact absurd h (hlarge _ (by omega) (by omega))
  · simp only [List.mem_cons, List.not_mem_nil, or_false] at h
    rcases h with h | h | h | h <;> exact absurd h (hlarge _ (by omega) (by omega))

/-- A byte below 0x80 in an encoded text is a character of the text. -/
theorem mem_of_mem_encode {b : UInt8} {s : List Char} (h : b ∈ encode s) (hb : b.toNat < 0x80) :
    Char.ofNat b.toNat ∈ s := by
  obtain ⟨c, hc, hmem⟩ := List.mem_flatMap.mp h
  rw [eq_of_mem_utf8EncodeChar hmem hb, Char.ofNat_toNat]
  exact hc

/-- In an encoded text that lacks the character `m`, no byte is that of `m`. -/
theorem isLine_encode {m : Char} {s : List Char} (hm : m.toNat < 0x80) (h : m ∉ s) :
    IsLine (encode [m]) (encode s) := by
  have hbyte : (UInt8.ofNat m.toNat).toNat = m.toNat :=
    UInt8.toNat_ofNat_of_lt' (show m.toNat < 256 by omega)
  have hencode : encode [m] = [UInt8.ofNat m.toNat] := by
    have hone : m.val.toNat ≤ 127 := Nat.le_of_lt_succ hm
    rw [encode_cons, encode_nil, List.append_nil, String.utf8EncodeChar]
    exact if_pos hone
  rw [hencode]
  refine isLine_singleton fun hmem => h ?_
  have hchar := mem_of_mem_encode hmem (by rw [hbyte]; exact hm)
  rwa [hbyte, Char.ofNat_toNat] at hchar

end InstrumentControl.Text.Utf8
