import ClientBoundary.Proofs.Outcome
import ClientBoundary.Text.Slice

/-!
# Reading bytes and writing them back

The bytes that a text was read from are the bytes that it is written as. A sequence of bytes that
is read as one character determines the number of the character, and the ranges that its bytes must
lie in put this number into the interval whose characters are written with just as many bytes.

## Main results

* `Utf8.firstChar_encodeChar`: the bytes read as one character are those it is written as.
* `Utf8.encode_of_decode`: the same for a whole text.
* `Utf8.decode_append_iff`: reading on behind bytes that spell a text of their own.
-/

namespace ClientBoundary.Utf8

/-! ### One character -/

/-- A sequence that calls for another byte goes on with one in its range. -/
theorem follow_cons_eq_ok_iff {value seen low high n : Nat} {ranges : List (Nat × Nat)}
    {bytes : Bytes} :
    follow value seen ((low, high) :: ranges) bytes = .ok n ↔
      ∃ b rest, bytes = b :: rest ∧ low ≤ b.toNat ∧ b.toNat ≤ high ∧
        follow (value * 0x40 + (b.toNat - 0x80)) (seen + 1) ranges rest = .ok n := by
  cases bytes with
  | nil => simp [follow]
  | cons b rest =>
    rw [follow]
    split_ifs with hrange
    · constructor
      · intro h
        exact ⟨b, rest, rfl, hrange.1, hrange.2, h⟩
      · rintro ⟨b', rest', heq, -, -, h⟩
        obtain ⟨rfl, rfl⟩ := List.cons.inj heq
        exact h
    · constructor
      · intro h
        cases h
      · rintro ⟨b', rest', heq, hlow, hhigh, -⟩
        obtain ⟨rfl, rfl⟩ := List.cons.inj heq
        exact absurd ⟨hlow, hhigh⟩ hrange

private theorem toNat_ofNat {n : Nat} (h : n < 0xD800 ∨ 0xDFFF < n ∧ n < 0x110000) :
    (Char.ofNat n).toNat = n := by
  have hvalid : n.isValidChar := h
  rw [Char.ofNat, dif_pos hvalid]
  rfl

private theorem toUInt8_eq {n : Nat} (b : UInt8) (h : n = b.toNat) : n.toUInt8 = b := by
  apply UInt8.toNat.inj
  rw [UInt8.toNat_ofNat_of_lt']
  · exact h
  · exact h ▸ b.toNat_lt

private theorem encodeChar_one {b : UInt8} (hb : b.toNat < 0x80) :
    encodeChar (Char.ofNat b.toNat) = [b] := by
  rw [encodeChar, toNat_ofNat (by omega), if_pos hb, toUInt8_eq b rfl]

private theorem encodeChar_two (b b₁ : UInt8) {n : Nat} (hb : 0xC2 ≤ b.toNat ∧ b.toNat < 0xE0)
    (h₁ : 0x80 ≤ b₁.toNat ∧ b₁.toNat ≤ 0xBF)
    (hn : n = (b.toNat - 0xC0) * 0x40 + (b₁.toNat - 0x80)) :
    encodeChar (Char.ofNat n) = [b, b₁] := by
  rw [encodeChar, toNat_ofNat (by omega), if_neg (by omega), if_pos (by omega),
    toUInt8_eq b (by omega), toUInt8_eq b₁ (by omega)]

/-- Three bytes are written for numbers from `0x800` on, of which the surrogates are none. -/
private theorem encodeChar_three (b b₁ b₂ : UInt8) {n : Nat}
    (hb : 0xE0 ≤ b.toNat ∧ b.toNat < 0xF0) (h₁ : 0x80 ≤ b₁.toNat ∧ b₁.toNat ≤ 0xBF)
    (h₂ : 0x80 ≤ b₂.toNat ∧ b₂.toNat ≤ 0xBF)
    (hn : n = ((b.toNat - 0xE0) * 0x40 + (b₁.toNat - 0x80)) * 0x40 + (b₂.toNat - 0x80))
    (hlow : 0x800 ≤ n) (hscalar : n < 0xD800 ∨ 0xDFFF < n) :
    encodeChar (Char.ofNat n) = [b, b₁, b₂] := by
  rw [encodeChar, toNat_ofNat (by omega), if_neg (by omega), if_neg (by omega),
    if_pos (by omega), toUInt8_eq b (by omega), toUInt8_eq b₁ (by omega),
    toUInt8_eq b₂ (by omega)]

private theorem encodeChar_four (b b₁ b₂ b₃ : UInt8) {n : Nat}
    (hb : 0xF0 ≤ b.toNat) (h₁ : 0x80 ≤ b₁.toNat ∧ b₁.toNat ≤ 0xBF)
    (h₂ : 0x80 ≤ b₂.toNat ∧ b₂.toNat ≤ 0xBF) (h₃ : 0x80 ≤ b₃.toNat ∧ b₃.toNat ≤ 0xBF)
    (hn : n = (((b.toNat - 0xF0) * 0x40 + (b₁.toNat - 0x80)) * 0x40 + (b₂.toNat - 0x80)) * 0x40 +
      (b₃.toNat - 0x80))
    (hlow : 0x10000 ≤ n) (hhigh : n < 0x110000) :
    encodeChar (Char.ofNat n) = [b, b₁, b₂, b₃] := by
  rw [encodeChar, toNat_ofNat (by omega), if_neg (by omega), if_neg (by omega),
    if_neg (by omega), toUInt8_eq b (by omega), toUInt8_eq b₁ (by omega),
    toUInt8_eq b₂ (by omega), toUInt8_eq b₃ (by omega)]

private theorem firstChar_eq_ok_iff {b : UInt8} {rest : Bytes} {c : Char} {extra : Nat} :
    firstChar b rest = .ok (c, extra) ↔
      ∃ value ranges n, lead b.toNat = some (value, ranges) ∧
        follow value 1 ranges rest = .ok n ∧ Char.ofNat n = c ∧ ranges.length = extra := by
  unfold firstChar
  cases lead b.toNat with
  | none => simp
  | some start =>
    obtain ⟨value, ranges⟩ := start
    simp

/-- The table of lead bytes by the length of the sequence. The range of the second byte excludes
overlong forms, surrogates and numbers that are too large. -/
private theorem lead_cases {b value : Nat} {ranges : List (Nat × Nat)}
    (h : lead b = some (value, ranges)) :
    (b < 0x80 ∧ value = b ∧ ranges = []) ∨
    (0xC2 ≤ b ∧ b < 0xE0 ∧ value = b - 0xC0 ∧ ranges = [(0x80, 0xBF)]) ∨
    (0xE0 ≤ b ∧ b < 0xF0 ∧ value = b - 0xE0 ∧ ∃ low high,
      ranges = [(low, high), (0x80, 0xBF)] ∧ 0x80 ≤ low ∧ high ≤ 0xBF ∧
        (b = 0xE0 → 0xA0 ≤ low) ∧ (b = 0xED → high ≤ 0x9F)) ∨
    (0xF0 ≤ b ∧ b ≤ 0xF4 ∧ value = b - 0xF0 ∧ ∃ low high,
      ranges = [(low, high), (0x80, 0xBF), (0x80, 0xBF)] ∧ 0x80 ≤ low ∧ high ≤ 0xBF ∧
        (b = 0xF0 → 0x90 ≤ low) ∧ (b = 0xF4 → high ≤ 0x8F)) := by
  by_cases h₁ : b < 0x80
  · rw [lead, if_pos h₁] at h
    obtain ⟨rfl, rfl⟩ := Prod.mk.inj (Option.some.inj h)
    exact Or.inl ⟨h₁, rfl, rfl⟩
  rw [lead, if_neg h₁] at h
  right
  by_cases h₂ : b < 0xC2
  · rw [if_pos h₂] at h
    cases h
  rw [if_neg h₂] at h
  by_cases h₃ : b < 0xE0
  · rw [if_pos h₃] at h
    obtain ⟨rfl, rfl⟩ := Prod.mk.inj (Option.some.inj h)
    exact Or.inl ⟨by omega, h₃, rfl, rfl⟩
  rw [if_neg h₃] at h
  right
  by_cases h₄ : b < 0xF0
  · left
    refine ⟨by omega, h₄, ?_⟩
    by_cases hE0 : b = 0xE0
    · rw [if_pos hE0] at h
      obtain ⟨rfl, rfl⟩ := Prod.mk.inj (Option.some.inj h)
      exact ⟨by omega, 0xA0, 0xBF, rfl, by omega, by omega, by omega, by omega⟩
    · rw [if_neg hE0] at h
      by_cases hED : b = 0xED
      · rw [if_pos hED] at h
        obtain ⟨rfl, rfl⟩ := Prod.mk.inj (Option.some.inj h)
        exact ⟨by omega, 0x80, 0x9F, rfl, by omega, by omega, by omega, by omega⟩
      · rw [if_neg hED, if_pos h₄] at h
        obtain ⟨rfl, rfl⟩ := Prod.mk.inj (Option.some.inj h)
        exact ⟨rfl, 0x80, 0xBF, rfl, by omega, by omega, by omega, by omega⟩
  · right
    rw [if_neg (by omega), if_neg (by omega), if_neg h₄] at h
    by_cases hF0 : b = 0xF0
    · rw [if_pos hF0] at h
      obtain ⟨rfl, rfl⟩ := Prod.mk.inj (Option.some.inj h)
      exact ⟨by omega, by omega, by omega, 0x90, 0xBF, rfl, by omega, by omega, by omega,
        by omega⟩
    · rw [if_neg hF0] at h
      by_cases h₅ : b < 0xF4
      · rw [if_pos h₅] at h
        obtain ⟨rfl, rfl⟩ := Prod.mk.inj (Option.some.inj h)
        exact ⟨by omega, by omega, rfl, 0x80, 0xBF, rfl, by omega, by omega, by omega, by omega⟩
      · rw [if_neg h₅] at h
        by_cases hF4 : b = 0xF4
        · rw [if_pos hF4] at h
          obtain ⟨rfl, rfl⟩ := Prod.mk.inj (Option.some.inj h)
          exact ⟨by omega, by omega, by omega, 0x80, 0x8F, rfl, by omega, by omega, by omega,
            by omega⟩
        · rw [if_neg hF4] at h
          cases h

/-- The bytes that are read as one character are the bytes that it is written as. -/
theorem firstChar_encodeChar {b : UInt8} {rest : Bytes} {c : Char} {extra : Nat}
    (h : firstChar b rest = .ok (c, extra)) : encodeChar c ++ rest.drop extra = b :: rest := by
  obtain ⟨value, ranges, n, hlead, hfollow, rfl, rfl⟩ := firstChar_eq_ok_iff.mp h
  rcases lead_cases hlead with ⟨hb, rfl, rfl⟩ | ⟨hlow, hhigh, hvalue, rfl⟩ |
    ⟨hlow, hhigh, hvalue, low, high, rfl, hrange⟩ | ⟨hlow, hhigh, hvalue, low, high, rfl, hrange⟩
  · obtain rfl := Except.ok.inj hfollow
    rw [encodeChar_one hb]
    rfl
  · obtain ⟨b₁, rest, rfl, hlow₁, hhigh₁, hfollow⟩ := follow_cons_eq_ok_iff.mp hfollow
    obtain rfl := Except.ok.inj hfollow
    rw [encodeChar_two b b₁ ⟨hlow, hhigh⟩ ⟨hlow₁, hhigh₁⟩ (by omega)]
    rfl
  · obtain ⟨b₁, rest, rfl, hlow₁, hhigh₁, hfollow⟩ := follow_cons_eq_ok_iff.mp hfollow
    obtain ⟨b₂, rest, rfl, hlow₂, hhigh₂, hfollow⟩ := follow_cons_eq_ok_iff.mp hfollow
    obtain rfl := Except.ok.inj hfollow
    rw [encodeChar_three b b₁ b₂ ⟨hlow, hhigh⟩ (by omega) ⟨hlow₂, hhigh₂⟩ (by omega) (by omega)
      (by omega)]
    rfl
  · obtain ⟨b₁, rest, rfl, hlow₁, hhigh₁, hfollow⟩ := follow_cons_eq_ok_iff.mp hfollow
    obtain ⟨b₂, rest, rfl, hlow₂, hhigh₂, hfollow⟩ := follow_cons_eq_ok_iff.mp hfollow
    obtain ⟨b₃, rest, rfl, hlow₃, hhigh₃, hfollow⟩ := follow_cons_eq_ok_iff.mp hfollow
    obtain rfl := Except.ok.inj hfollow
    rw [encodeChar_four b b₁ b₂ b₃ hlow (by omega) ⟨hlow₂, hhigh₂⟩ ⟨hlow₃, hhigh₃⟩
      (by omega) (by omega) (by omega)]
    rfl

/-! ### Whole texts -/

/-- What is read behind the bytes passed over is written as just these bytes. -/
theorem flatMap_encodeChar_of_decodeFrom {position skip : Nat} {bytes : Bytes} {cs : List Char}
    (h : decodeFrom position skip bytes = .ok cs) : cs.flatMap encodeChar = bytes.drop skip := by
  induction bytes generalizing position skip cs with
  | nil =>
    rw [decodeFrom, Except.ok.injEq] at h
    subst h
    simp
  | cons b rest ih =>
    cases skip with
    | succ skip =>
      rw [decodeFrom] at h
      exact ih h
    | zero =>
      rw [decodeFrom] at h
      cases hfirst : firstChar b rest with
      | error fault => simp [hfirst] at h
      | ok first =>
        obtain ⟨c, extra⟩ := first
        simp only [hfirst, map_eq_ok_iff] at h
        obtain ⟨cs', hrest, rfl⟩ := h
        rw [List.flatMap_cons, ih hrest, List.drop_zero]
        exact firstChar_encodeChar hfirst

/-- The bytes that a text was read from are the bytes that it is written as. -/
theorem encode_of_decode {bytes : Bytes} {text : String} (h : decode bytes = .ok text) :
    encode text = bytes := by
  obtain ⟨cs, hcs, rfl⟩ := map_eq_ok_iff.mp h
  rw [encode, String.toList_ofList, flatMap_encodeChar_of_decodeFrom hcs, List.drop_zero]

/-! ### Bytes put together -/

/-- A character that has been read is still read when more bytes follow. -/
theorem firstChar_append {b : UInt8} {rest : Bytes} {c : Char} {extra : Nat}
    (h : firstChar b rest = .ok (c, extra)) (more : Bytes) :
    firstChar b (rest ++ more) = .ok (c, extra) ∧ extra ≤ rest.length := by
  have hfollow {value seen n : Nat} {ranges : List (Nat × Nat)} {bytes : Bytes}
      (h : follow value seen ranges bytes = .ok n) :
      follow value seen ranges (bytes ++ more) = .ok n ∧ ranges.length ≤ bytes.length := by
    induction ranges generalizing value seen bytes with
    | nil => exact ⟨h, Nat.zero_le _⟩
    | cons range ranges ih =>
      obtain ⟨low, high⟩ := range
      obtain ⟨b, bytes, rfl, hlow, hhigh, h⟩ := follow_cons_eq_ok_iff.mp h
      obtain ⟨hmore, hlength⟩ := ih h
      exact ⟨follow_cons_eq_ok_iff.mpr ⟨b, bytes ++ more, rfl, hlow, hhigh, hmore⟩,
        Nat.succ_le_succ hlength⟩
  obtain ⟨value, ranges, n, hlead, hread, rfl, rfl⟩ := firstChar_eq_ok_iff.mp h
  obtain ⟨hmore, hlength⟩ := hfollow hread
  exact ⟨firstChar_eq_ok_iff.mpr ⟨value, ranges, n, hlead, hmore, rfl, rfl⟩, hlength⟩

/-- Where a text is read decides only how a fault is reported. -/
theorem decodeFrom_eq_ok_congr {position skip : Nat} {bytes : Bytes} {cs : List Char}
    (h : decodeFrom position skip bytes = .ok cs) (other : Nat) :
    decodeFrom other skip bytes = .ok cs := by
  induction bytes generalizing position skip cs other with
  | nil => exact h
  | cons b rest ih =>
    cases skip with
    | succ skip =>
      rw [decodeFrom] at h ⊢
      exact ih h (other + 1)
    | zero =>
      rw [decodeFrom] at h ⊢
      cases hfirst : firstChar b rest with
      | error fault => simp [hfirst] at h
      | ok first =>
        simp only [hfirst, map_eq_ok_iff] at h ⊢
        obtain ⟨cs', hrest, rfl⟩ := h
        exact ⟨cs', ih hrest (other + 1), rfl⟩

/-- Behind bytes that have been read to their end the reading starts anew. -/
theorem decodeFrom_append {position skip : Nat} {bytes : Bytes} {cs : List Char}
    (h : decodeFrom position skip bytes = .ok cs) (hskip : skip ≤ bytes.length) (more : Bytes) :
    decodeFrom position skip (bytes ++ more) =
      (decodeFrom (position + bytes.length) 0 more).map (cs ++ ·) := by
  induction bytes generalizing position skip cs with
  | nil =>
    obtain rfl : skip = 0 := Nat.le_zero.mp hskip
    rw [decodeFrom, Except.ok.injEq] at h
    subst h
    simp only [List.nil_append, List.length_nil, Nat.add_zero]
    cases decodeFrom position 0 more <;> rfl
  | cons b rest ih =>
    have hposition : position + (b :: rest).length = position + 1 + rest.length := by
      rw [List.length_cons]
      omega
    rw [hposition]
    cases skip with
    | succ skip =>
      rw [decodeFrom] at h
      rw [List.cons_append, decodeFrom]
      exact ih h (Nat.le_of_succ_le_succ hskip)
    | zero =>
      rw [decodeFrom] at h
      cases hfirst : firstChar b rest with
      | error fault => simp [hfirst] at h
      | ok first =>
        obtain ⟨c, extra⟩ := first
        simp only [hfirst, map_eq_ok_iff] at h
        obtain ⟨cs', hrest, rfl⟩ := h
        obtain ⟨hmore, hextra⟩ := firstChar_append hfirst more
        rw [List.cons_append, decodeFrom, hmore]
        dsimp only
        rw [ih hrest hextra]
        cases decodeFrom (position + 1 + rest.length) 0 more <;> rfl

/-- Behind bytes that spell a text, further bytes can be read exactly when they spell a text
themselves. -/
theorem decode_append_iff {bytes : Bytes} {text : String} (h : decode bytes = .ok text)
    (more : Bytes) :
    (∃ whole, decode (bytes ++ more) = .ok whole) ↔ ∃ rest, decode more = .ok rest := by
  obtain ⟨cs, hcs, rfl⟩ := map_eq_ok_iff.mp h
  unfold decode
  rw [decodeFrom_append hcs (Nat.zero_le _)]
  simp only [map_eq_ok_iff]
  constructor
  · rintro ⟨-, -, ⟨rest, hrest, -⟩, -⟩
    exact ⟨_, rest, decodeFrom_eq_ok_congr hrest 0, rfl⟩
  · rintro ⟨-, rest, hrest, -⟩
    exact ⟨_, _, ⟨rest, decodeFrom_eq_ok_congr hrest _, rfl⟩, rfl⟩

end ClientBoundary.Utf8
