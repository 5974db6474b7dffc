import MethodMacros.Host.Basic

/-!
# Reading what was written

Every text is encoded character by character, and each character by one to four bytes.  Reading the
bytes of a character gives it back, whatever follows (`head_utf8EncodeChar`), so both ways of
reading give back a whole text: the strict one finds no fault in it (`decode_bytesOf`), and the
lenient one has nothing to repair (`repair_bytesOf`).

A character is told by its first byte and by the number of bytes, so there are four cases,
`head_one` to `head_four`.  In each of them the code point is put together again from the bits of
the bytes.  The lenient reading needs no cases of its own, since it agrees with the strict one
wherever that finds no fault (`repairFrom_of_decodeFrom`).
-/

namespace MethodMacros.Text.Utf8

/-! ## One character -/

section Character

variable {b lo hi : UInt8} {left done bits : Nat} {rest : List UInt8}

theorem opening?_one (h : b.toNat < 0x80) : opening? b = some (0, b.toNat, 0x80, 0xBF) := by
  simp only [opening?, h, ↓reduceIte]

theorem opening?_two (hlo : 0xC2 ≤ b.toNat) (hhi : b.toNat < 0xE0) :
    opening? b = some (1, b.toNat - 0xC0, 0x80, 0xBF) := by
  have hascii : ¬ b.toNat < 0x80 := by omega
  simp only [opening?, hascii, Nat.not_lt.mpr hlo, hhi, ↓reduceIte]

/-- The second of three bytes is bounded below to exclude overlong forms, and above to exclude
surrogates. -/
theorem opening?_three (hlo : 0xE0 ≤ b.toNat) (hhi : b.toNat < 0xF0) :
    opening? b = some (2, b.toNat - 0xE0, if b.toNat = 0xE0 then 0xA0 else 0x80,
      if b.toNat = 0xED then 0x9F else 0xBF) := by
  have hascii : ¬ b.toNat < 0x80 := by omega
  have htwo : ¬ b.toNat < 0xC2 := by omega
  simp only [opening?, hascii, htwo, Nat.not_lt.mpr hlo, hhi, ↓reduceIte]
  by_cases hfirst : b.toNat = 0xE0
  · simp [hfirst]
  · by_cases hsurrogate : b.toNat = 0xED
    · simp [hsurrogate]
    · simp [hfirst, hsurrogate]

/-- The second of four bytes is bounded below to exclude overlong forms, and above to exclude what
lies beyond the last code point. -/
theorem opening?_four (hlo : 0xF0 ≤ b.toNat) (hhi : b.toNat ≤ 0xF4) :
    opening? b = some (3, b.toNat - 0xF0, if b.toNat = 0xF0 then 0x90 else 0x80,
      if b.toNat = 0xF4 then 0x8F else 0xBF) := by
  have hcases : b.toNat = 0xF0 ∨ b.toNat = 0xF1 ∨ b.toNat = 0xF2 ∨ b.toNat = 0xF3 ∨
      b.toNat = 0xF4 := by
    omega
  rcases hcases with h | h | h | h | h <;> simp [opening?, h]

/-- A further byte gives six more bits. -/
theorem continueHead_cons (hlo : lo.toNat ≤ b.toNat) (hhi : b.toNat ≤ hi.toNat) :
    continueHead (left + 1) done bits lo hi (b :: rest) =
      continueHead left (done + 1) (bits * 64 + (b.toNat - 0x80)) 0x80 0xBF rest := by
  rw [continueHead, if_pos ⟨UInt8.le_iff_toNat_le.mpr hlo, UInt8.le_iff_toNat_le.mpr hhi⟩]

/-- The byte that carries the lowest six bits of a number. -/
theorem toNat_tail (n : Nat) : (UInt8.ofNat (n % 64 + 128)).toNat = n % 64 + 128 := by
  rw [UInt8.toNat_ofNat']
  omega

theorem continueHead_tail (n : Nat) : continueHead (left + 1) done bits 0x80 0xBF
      (UInt8.ofNat (n % 64 + 128) :: rest) =
    continueHead left (done + 1) (bits * 64 + n % 64) 0x80 0xBF rest := by
  have htail := toNat_tail n
  have hlo : (0x80 : UInt8).toNat ≤ (UInt8.ofNat (n % 64 + 128)).toNat := by
    rw [htail, show (0x80 : UInt8).toNat = 128 from rfl]
    omega
  have hhi : (UInt8.ofNat (n % 64 + 128)).toNat ≤ (0xBF : UInt8).toNat := by
    rw [htail, show (0xBF : UInt8).toNat = 191 from rfl]
    omega
  rw [continueHead_cons hlo hhi, htail, Nat.add_sub_cancel]

end Character

/-! The bytes of a character with code point `n`, by their number. -/

section Bytes

variable {n : Nat} (rest : List UInt8)

theorem head_one (h : n ≤ 127) : head (UInt8.ofNat n) rest = .char (Char.ofNat n) 0 := by
  have hb : (UInt8.ofNat n).toNat = n := by
    rw [UInt8.toNat_ofNat']
    omega
  rw [head, opening?_one (by omega)]
  dsimp only
  rw [continueHead, hb]

theorem head_two (hlo : 127 < n) (hhi : n ≤ 2047) :
    head (UInt8.ofNat (n / 64 % 32 + 192)) (UInt8.ofNat (n % 64 + 128) :: rest) =
      .char (Char.ofNat n) 1 := by
  have hb : (UInt8.ofNat (n / 64 % 32 + 192)).toNat = n / 64 + 192 := by
    rw [UInt8.toNat_ofNat']
    omega
  have hbits : (n / 64 + 192 - 0xC0) * 64 + n % 64 = n := by
    omega
  rw [head, opening?_two (by omega) (by omega)]
  dsimp only
  rw [continueHead_tail, continueHead, hb, hbits]

theorem head_three (hlo : 2047 < n) (hhi : n ≤ 65535) (hsurrogate : n < 0xD800 ∨ 0xDFFF < n) :
    head (UInt8.ofNat (n / 4096 % 16 + 224))
        (UInt8.ofNat (n / 64 % 64 + 128) :: UInt8.ofNat (n % 64 + 128) :: rest) =
      .char (Char.ofNat n) 2 := by
  have hb : (UInt8.ofNat (n / 4096 % 16 + 224)).toNat = n / 4096 + 224 := by
    rw [UInt8.toNat_ofNat']
    omega
  have hsecond := toNat_tail (n / 64)
  have hbits : ((n / 4096 + 224 - 0xE0) * 64 + (n / 64 % 64 + 128 - 0x80)) * 64 + n % 64 = n := by
    omega
  rw [head, opening?_three (by omega) (by omega), hb]
  dsimp only
  rw [continueHead_cons, continueHead_tail, continueHead, hsecond, hbits]
  · rw [hsecond, apply_ite UInt8.toNat, show (0xA0 : UInt8).toNat = 160 from rfl,
      show (0x80 : UInt8).toNat = 128 from rfl]
    split <;> omega
  · rw [hsecond, apply_ite UInt8.toNat, show (0x9F : UInt8).toNat = 159 from rfl,
      show (0xBF : UInt8).toNat = 191 from rfl]
    split <;> omega

theorem head_four (hlo : 65535 < n) (hhi : n < 0x110000) :
    head (UInt8.ofNat (n / 262144 % 8 + 240)) (UInt8.ofNat (n / 4096 % 64 + 128) ::
        UInt8.ofNat (n / 64 % 64 + 128) :: UInt8.ofNat (n % 64 + 128) :: rest) =
      .char (Char.ofNat n) 3 := by
  have hb : (UInt8.ofNat (n / 262144 % 8 + 240)).toNat = n / 262144 + 240 := by
    rw [UInt8.toNat_ofNat']
    omega
  have hsecond := toNat_tail (n / 4096)
  have hbits : (((n / 262144 + 240 - 0xF0) * 64 + (n / 4096 % 64 + 128 - 0x80)) * 64 +
      n / 64 % 64) * 64 + n % 64 = n := by
    omega
  rw [head, opening?_four (by omega) (by omega), hb]
  dsimp only
  rw [continueHead_cons, continueHead_tail, continueHead_tail, continueHead, hsecond, hbits]
  · rw [hsecond, apply_ite UInt8.toNat, show (0x90 : UInt8).toNat = 144 from rfl,
      show (0x80 : UInt8).toNat = 128 from rfl]
    split <;> omega
  · rw [hsecond, apply_ite UInt8.toNat, show (0x8F : UInt8).toNat = 143 from rfl,
      show (0xBF : UInt8).toNat = 191 from rfl]
    split <;> omega

end Bytes

/-- No character is a surrogate, and none lies beyond the last code point. -/
theorem toNat_ranges (c : Char) :
    c.val.toNat < 0xD800 ∨ 0xDFFF < c.val.toNat ∧ c.val.toNat < 0x110000 :=
  c.valid

/-- Reading starts with the first character that was written. -/
theorem head_utf8EncodeChar (c : Char) (rest : List UInt8) :
    ∃ b more, String.utf8EncodeChar c = b :: more ∧ head b (more ++ rest) = .char c more.length := by
  have hranges := toNat_ranges c
  have hc : Char.ofNat c.val.toNat = c := Char.ofNat_toNat c
  revert hranges hc
  unfold String.utf8EncodeChar
  generalize c.val.toNat = n
  intro hranges hc
  dsimp only
  by_cases hone : n ≤ 127
  · exact ⟨_, _, if_pos hone, hc ▸ head_one rest hone⟩
  rw [if_neg hone]
  by_cases htwo : n ≤ 2047
  · exact ⟨_, _, if_pos htwo, hc ▸ head_two rest (by omega) htwo⟩
  rw [if_neg htwo]
  by_cases hthree : n ≤ 65535
  · exact ⟨_, _, if_pos hthree, hc ▸ head_three rest (by omega) hthree (by omega)⟩
  · exact ⟨_, _, if_neg hthree, hc ▸ head_four rest (by omega) (by omega)⟩

/-! ## Whole texts -/

/-- Bytes of a character that was read already are passed over. -/
theorem decodeFrom_append (skipped rest : List UInt8) (done : List Char) (pos : Nat) :
    decodeFrom skipped.length done pos (skipped ++ rest) =
      decodeFrom 0 done (pos + skipped.length) rest := by
  induction skipped generalizing pos with
  | nil => rfl
  | cons b skipped ih =>
    rw [List.length_cons, List.cons_append, decodeFrom, ih]
    congr 1
    omega

theorem decodeFrom_flatMap (text done : List Char) (pos : Nat) :
    decodeFrom 0 done pos (text.flatMap String.utf8EncodeChar) = .ok (done.reverse ++ text) := by
  induction text generalizing done pos with
  | nil => rw [List.flatMap_nil, decodeFrom, List.append_nil]
  | cons c text ih =>
    obtain ⟨b, more, hencode, hhead⟩ := head_utf8EncodeChar c (text.flatMap String.utf8EncodeChar)
    rw [List.flatMap_cons, hencode, List.cons_append, decodeFrom, hhead]
    dsimp only
    rw [decodeFrom_append, ih, List.reverse_cons, List.append_assoc, List.singleton_append]

/-- Where strict reading finds no fault, lenient reading repairs nothing. -/
theorem repairFrom_of_decodeFrom {skip pos : Nat} {done text : List Char} {bytes : List UInt8}
    (h : decodeFrom skip done pos bytes = .ok text) : repairFrom skip done bytes = text := by
  fun_induction decodeFrom skip done pos bytes with
  | case1 skip done pos =>
    rw [repairFrom]
    exact Except.ok.inj h
  | case2 done pos skip b rest ih =>
    rw [repairFrom]
    exact ih h
  | case3 done pos b rest c more hhead ih =>
    rw [repairFrom, hhead]
    exact ih h
  | case4 => cases h

theorem toList_loop (bytes : ByteArray) (i : Nat) (done : List UInt8) :
    ByteArray.toList.loop bytes i done = done.reverse ++ bytes.data.toList.drop i := by
  fun_induction ByteArray.toList.loop bytes i done with
  | case1 i done hi ih =>
    have hlt : i < bytes.data.toList.length := hi
    have hget : bytes.get! i = bytes.data.toList[i] := by
      simp [ByteArray.get!, hi]
    rw [ih, List.drop_eq_getElem_cons hlt, List.reverse_cons, List.append_assoc,
      List.singleton_append, hget]
  | case2 i done hi =>
    have hle : bytes.data.toList.length ≤ i := Nat.le_of_not_lt hi
    rw [List.drop_eq_nil_of_le hle, List.append_nil]

/-- The bytes of a text are those of its characters. -/
theorem bytesOf_eq (s : String) : Host.bytesOf s = s.toList.flatMap String.utf8EncodeChar := by
  rw [Host.bytesOf, String.toUTF8_eq_toByteArray, ← String.utf8Encode_toList, ByteArray.toList,
    toList_loop]
  exact List.toList_data_toByteArray

/-- **Strict reading** gives back what was written. -/
theorem decode_bytesOf (s : String) : decode (Host.bytesOf s) = .ok s.toList := by
  rw [bytesOf_eq, decode, decodeFrom_flatMap]
  rfl

/-- **Lenient reading** gives back what was written. -/
theorem repair_bytesOf (s : String) : repair (Host.bytesOf s) = s.toList :=
  repairFrom_of_decodeFrom (decode_bytesOf s)

end MethodMacros.Text.Utf8
