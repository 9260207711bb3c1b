import PageAudit.Text.Utf8

/-!
# Texts and their bytes

The bytes of a text are read back as its characters. A character of one to four bytes announces with its
first byte how many follow and where the second may lie, and the bits of its bytes are put together
again.
-/

namespace PageAudit.Text

/-! ## Bytes in a row -/

theorem toList_loop (bytes : ByteArray) (i : Nat) (read : List UInt8) :
    ByteArray.toList.loop bytes i read = read.reverse ++ bytes.data.toList.drop i := by
  fun_induction ByteArray.toList.loop bytes i read with
  | case1 i read hi ih =>
      have hlength : i < bytes.data.toList.length := by simpa using hi
      have hget : bytes.get! i = bytes.data.toList[i] := by
        cases bytes
        exact getElem!_pos _ i hi
      rw [ih, List.drop_eq_getElem_cons hlength, hget, List.reverse_cons, List.append_assoc]
      rfl
  | case2 i read hi =>
      rw [List.drop_eq_nil_of_le (by simpa using hi), List.append_nil]

theorem toList_toByteArray (bytes : List UInt8) : bytes.toByteArray.toList = bytes := by
  rw [ByteArray.toList, toList_loop, List.toList_data_toByteArray]
  rfl

theorem length_toList (bytes : ByteArray) : bytes.toList.length = bytes.size := by
  rw [ByteArray.toList, toList_loop]
  simp

/-- No character is read without a byte. -/
theorem length_characters_le (bytes : List UInt8) : (characters bytes).length ≤ bytes.length := by
  fun_induction characters bytes <;> simp only [List.length_cons, List.length_nil] at * <;> omega

/-! ## Reading single characters -/

variable {first second third fourth : UInt8} {rest : List UInt8} {low high bits v : Nat}

theorem characters_one (hlead : Lead.ofByte? first.toNat = some ⟨0, low, high, bits⟩) :
    characters (first :: rest) = some (Char.ofNat bits) :: characters rest := by
  rw [characters, hlead]
  rfl

theorem characters_two (hlead : Lead.ofByte? first.toNat = some ⟨1, low, high, bits⟩)
    (hlow : low ≤ second.toNat) (hhigh : second.toNat ≤ high) :
    characters (first :: second :: rest) =
      some (Char.ofNat (bits * 64 + (second.toNat - 0x80))) :: characters rest := by
  rw [characters, hlead]
  simp [Nat.not_lt.mpr hlow, Nat.not_lt.mpr hhigh]

theorem characters_three (hlead : Lead.ofByte? first.toNat = some ⟨2, low, high, bits⟩)
    (hlow : low ≤ second.toNat) (hhigh : second.toNat ≤ high) (hthird : isContinuation third = true) :
    characters (first :: second :: third :: rest) =
      some (Char.ofNat ((bits * 64 + (second.toNat - 0x80)) * 64 + (third.toNat - 0x80))) ::
        characters rest := by
  rw [characters, hlead]
  simp [Nat.not_lt.mpr hlow, Nat.not_lt.mpr hhigh, hthird]

theorem characters_four (hlead : Lead.ofByte? first.toNat = some ⟨3, low, high, bits⟩)
    (hlow : low ≤ second.toNat) (hhigh : second.toNat ≤ high) (hthird : isContinuation third = true)
    (hfourth : isContinuation fourth = true) :
    characters (first :: second :: third :: fourth :: rest) =
      some (Char.ofNat (((bits * 64 + (second.toNat - 0x80)) * 64 + (third.toNat - 0x80)) * 64 +
        (fourth.toNat - 0x80))) :: characters rest := by
  rw [characters, hlead]
  simp [Nat.not_lt.mpr hlow, Nat.not_lt.mpr hhigh, hthird, hfourth]

/-! ## What the first byte announces -/

theorem ofByte?_two (h : 0x80 ≤ v) (h' : v ≤ 0x7ff) :
    Lead.ofByte? (v / 64 % 32 + 192) = some ⟨1, 0x80, 0xbf, v / 64⟩ := by
  have hbits : v / 64 % 32 + 192 - 0xc0 = v / 64 := by omega
  rw [Lead.ofByte?, if_neg (by omega), if_neg (by omega), if_pos (by omega), hbits]

/-- No character has the number of half a pair, so the second byte lies where the first one announces
it. -/
theorem ofByte?_three (h : 0x800 ≤ v) (h' : v ≤ 0xffff) (hpair : v < 0xd800 ∨ 0xdfff < v) :
    ∃ low high, Lead.ofByte? (v / 4096 % 16 + 224) = some ⟨2, low, high, v / 4096⟩ ∧
      low ≤ v / 64 % 64 + 128 ∧ v / 64 % 64 + 128 ≤ high := by
  have hbits : v / 4096 % 16 + 224 - 0xe0 = v / 4096 := by omega
  rw [Lead.ofByte?, if_neg (by omega), if_neg (by omega), if_neg (by omega)]
  by_cases hfirst : v / 4096 % 16 + 224 = 0xe0
  · have hzero : 0 = v / 4096 := by omega
    exact ⟨0xa0, 0xbf, by rw [if_pos hfirst, ← hzero], by omega, by omega⟩
  · by_cases hlast : v / 4096 % 16 + 224 = 0xed
    · have hpairs : 13 = v / 4096 := by omega
      exact ⟨0x80, 0x9f, by rw [if_neg hfirst, if_pos hlast, ← hpairs], by omega, by omega⟩
    · refine ⟨0x80, 0xbf, ?_, by omega, by omega⟩
      rw [if_neg hfirst, if_neg hlast, if_pos (by omega), hbits]

theorem ofByte?_four (h : 0x10000 ≤ v) (h' : v ≤ 0x10ffff) :
    ∃ low high, Lead.ofByte? (v / 262144 % 8 + 240) = some ⟨3, low, high, v / 262144⟩ ∧
      low ≤ v / 4096 % 64 + 128 ∧ v / 4096 % 64 + 128 ≤ high := by
  have hbits : v / 262144 % 8 + 240 - 0xf0 = v / 262144 := by omega
  rw [Lead.ofByte?, if_neg (by omega), if_neg (by omega), if_neg (by omega), if_neg (by omega),
    if_neg (by omega), if_neg (by omega)]
  by_cases hfirst : v / 262144 % 8 + 240 = 0xf0
  · have hzero : 0 = v / 262144 := by omega
    exact ⟨0x90, 0xbf, by rw [if_pos hfirst, ← hzero], by omega, by omega⟩
  · by_cases hlast : v / 262144 % 8 + 240 = 0xf4
    · have hfour : 4 = v / 262144 := by omega
      exact ⟨0x80, 0x8f, by rw [if_neg hfirst, if_neg (by omega), if_pos hlast, ← hfour],
        by omega, by omega⟩
    · refine ⟨0x80, 0xbf, ?_, by omega, by omega⟩
      rw [if_neg hfirst, if_pos (by omega), hbits]

/-! ## Texts -/

/-- The library's law with the number of bytes written out, for `omega`. -/
theorem toNat_byte {n : Nat} (h : n < 256) : (UInt8.ofNat n).toNat = n :=
  UInt8.toNat_ofNat_of_lt' h

theorem isContinuation_byte {n : Nat} (h : n < 64) :
    isContinuation (UInt8.ofNat (n + 128)) = true := by
  have hn : (UInt8.ofNat (n + 128)).toNat = n + 128 := toNat_byte (by omega)
  simp only [isContinuation, Bool.and_eq_true, decide_eq_true_eq, UInt8.le_iff_toNat_le, hn]
  exact ⟨Nat.le_add_left .., by change n + 128 ≤ 191; omega⟩

/-- A character is read back from its bytes, whatever follows them. -/
theorem characters_encode (c : Char) (rest : List UInt8) :
    characters (String.utf8EncodeChar c ++ rest) = some c :: characters rest := by
  have hnat : Char.ofNat c.val.toNat = c := Char.ofNat_toNat c
  have hvalid : c.val.toNat.isValidChar := c.valid
  unfold String.utf8EncodeChar
  generalize c.val.toNat = v at hnat hvalid ⊢
  have hrange : (v < 0xd800 ∨ 0xdfff < v) ∧ v ≤ 0x10ffff := by
    unfold Nat.isValidChar at hvalid
    omega
  dsimp only
  by_cases hone : v ≤ 127
  · have hlead : Lead.ofByte? (UInt8.ofNat v).toNat = some ⟨0, 0, 0, v⟩ := by
      rw [toNat_byte (by omega), Lead.ofByte?, if_pos (by omega)]
    rw [if_pos hone, List.singleton_append, characters_one hlead, hnat]
  rw [if_neg hone]
  have hlast : (UInt8.ofNat (v % 64 + 128)).toNat = v % 64 + 128 := toNat_byte (by omega)
  by_cases htwo : v ≤ 2047
  · have hlead := ofByte?_two (v := v) (by omega) htwo
    rw [← toNat_byte (n := v / 64 % 32 + 192) (by omega)] at hlead
    have hbits : v / 64 * 64 + (v % 64 + 128 - 0x80) = v := by omega
    rw [if_pos htwo, List.cons_append, List.singleton_append,
      characters_two hlead (by omega) (by omega), hlast, hbits, hnat]
  rw [if_neg htwo]
  have hsecond : (UInt8.ofNat (v / 64 % 64 + 128)).toNat = v / 64 % 64 + 128 := toNat_byte (by omega)
  by_cases hthree : v ≤ 65535
  · obtain ⟨low, high, hlead, hlow, hhigh⟩ := ofByte?_three (v := v) (by omega) hthree hrange.1
    rw [← toNat_byte (n := v / 4096 % 16 + 224) (by omega)] at hlead
    have hbits : (v / 4096 * 64 + (v / 64 % 64 + 128 - 0x80)) * 64 + (v % 64 + 128 - 0x80) = v := by
      omega
    rw [if_pos hthree, List.cons_append, List.cons_append, List.singleton_append,
      characters_three hlead (by omega) (by omega) (isContinuation_byte (by omega)), hsecond, hlast,
      hbits, hnat]
  · obtain ⟨low, high, hlead, hlow, hhigh⟩ := ofByte?_four (v := v) (by omega) hrange.2
    rw [← toNat_byte (n := v / 262144 % 8 + 240) (by omega)] at hlead
    have hthird : (UInt8.ofNat (v / 4096 % 64 + 128)).toNat = v / 4096 % 64 + 128 :=
      toNat_byte (by omega)
    have hbits : ((v / 262144 * 64 + (v / 4096 % 64 + 128 - 0x80)) * 64 +
        (v / 64 % 64 + 128 - 0x80)) * 64 + (v % 64 + 128 - 0x80) = v := by
      omega
    rw [if_neg hthree, List.cons_append, List.cons_append, List.cons_append, List.singleton_append,
      characters_four hlead (by omega) (by omega) (isContinuation_byte (by omega))
        (isContinuation_byte (by omega)), hthird, hsecond, hlast, hbits, hnat]

/-- The bytes of a text are read as its characters. -/
theorem characters_toUTF8 (s : String) : characters s.toUTF8.toList = s.toList.map some := by
  have hbytes : s.toUTF8 = (s.toList.flatMap String.utf8EncodeChar).toByteArray :=
    String.utf8Encode_toList.symm
  rw [hbytes, toList_toByteArray]
  induction s.toList with
  | nil => rfl
  | cons c cs ih => rw [List.flatMap_cons, characters_encode, ih, List.map_cons]

end PageAudit.Text
