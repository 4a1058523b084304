import ServerLauncher.Text.Basic

/-!
A loose reading agrees with a strict one. Each character of a text is written as one to four bytes,
from which the loose reading gets it back; so bytes that are a text are read as this text.
-/

namespace ServerLauncher.Text

theorem continuation_cons {b low high : UInt8} {n : Nat} {rest : Bytes}
    (h : low ≤ b ∧ b ≤ high) :
    continuation (n + 1) low high (b :: rest) = b :: continuation n 0x80 0xBF rest := by
  simp [continuation, h]

theorem continuation_zero (low high : UInt8) (rest : Bytes) :
    continuation 0 low high rest = [] := by
  unfold continuation
  rfl

theorem toNat_tail (n : Nat) : (UInt8.ofNat (n % 64 + 128)).toNat = n % 64 + 128 := by
  rw [UInt8.toNat_ofNat']
  omega

theorem tail_inRange (n : Nat) :
    (0x80 : UInt8) ≤ UInt8.ofNat (n % 64 + 128) ∧ UInt8.ofNat (n % 64 + 128) ≤ (0xBF : UInt8) := by
  have h := toNat_tail n
  constructor
  · apply UInt8.le_iff_toNat_le.2
    change 128 ≤ _
    omega
  · apply UInt8.le_iff_toNat_le.2
    change _ ≤ 191
    omega

theorem shape_one {b : UInt8} (h : b.toNat < 128) : sequenceShape? b = some (0, 0, 0) :=
  if_pos (UInt8.lt_iff_toNat_lt.2 h)

theorem shape_two {b : UInt8} (h : 194 ≤ b.toNat ∧ b.toNat ≤ 223) :
    sequenceShape? b = some (1, 0x80, 0xBF) := by
  have hlow : (0xC2 : UInt8) ≤ b := UInt8.le_iff_toNat_le.2 h.1
  have hhigh : b ≤ (0xDF : UInt8) := UInt8.le_iff_toNat_le.2 h.2
  grind [sequenceShape?]

/-- No character is written with more bytes than it needs, and none is a surrogate. -/
theorem shape_three {b b₂ : UInt8} (h : 224 ≤ b.toNat ∧ b.toNat ≤ 239)
    (h₂ : (0x80 : UInt8) ≤ b₂ ∧ b₂ ≤ 0xBF) (hlow : b.toNat = 224 → 160 ≤ b₂.toNat)
    (hhigh : b.toNat = 237 → b₂.toNat ≤ 159) :
    ∃ low high, sequenceShape? b = some (2, low, high) ∧ low ≤ b₂ ∧ b₂ ≤ high := by
  have hb : (0xE0 : UInt8) ≤ b ∧ b ≤ 0xEF :=
    ⟨UInt8.le_iff_toNat_le.2 h.1, UInt8.le_iff_toNat_le.2 h.2⟩
  by_cases hfirst : b = 0xE0
  · subst hfirst
    exact ⟨0xA0, 0xBF, rfl, UInt8.le_iff_toNat_le.2 (hlow rfl), h₂.2⟩
  · by_cases hlast : b = 0xED
    · subst hlast
      exact ⟨0x80, 0x9F, rfl, h₂.1, UInt8.le_iff_toNat_le.2 (hhigh rfl)⟩
    · exact ⟨0x80, 0xBF, by grind [sequenceShape?], h₂⟩

theorem shape_four {b b₂ : UInt8} (h : 240 ≤ b.toNat ∧ b.toNat ≤ 244)
    (h₂ : (0x80 : UInt8) ≤ b₂ ∧ b₂ ≤ 0xBF) (hlow : b.toNat = 240 → 144 ≤ b₂.toNat)
    (hhigh : b.toNat = 244 → b₂.toNat ≤ 143) :
    ∃ low high, sequenceShape? b = some (3, low, high) ∧ low ≤ b₂ ∧ b₂ ≤ high := by
  have hb : (0xF0 : UInt8) ≤ b ∧ b ≤ 0xF4 :=
    ⟨UInt8.le_iff_toNat_le.2 h.1, UInt8.le_iff_toNat_le.2 h.2⟩
  by_cases hfirst : b = 0xF0
  · subst hfirst
    exact ⟨0x90, 0xBF, rfl, UInt8.le_iff_toNat_le.2 (hlow rfl), h₂.2⟩
  · by_cases hlast : b = 0xF4
    · subst hlast
      exact ⟨0x80, 0x8F, rfl, h₂.1, UInt8.le_iff_toNat_le.2 (hhigh rfl)⟩
    · exact ⟨0x80, 0xBF, by grind [sequenceShape?], h₂⟩

/-- The value of a first byte and the bytes that go on its character. -/
def codeOf (b : UInt8) (more : Bytes) : Nat :=
  more.foldl (fun v b => 64 * v + b.toNat % 64)
    (b.toNat % (if more.length = 0 then 128 else 1 <<< (6 - more.length)))

theorem looseWithin_cons {n : Nat} {b low high : UInt8} {rest : Bytes} (more : Bytes)
    (hshape : sequenceShape? b = some (more.length, low, high))
    (hmore : continuation more.length low high (more ++ rest) = more) :
    looseWithin (n + 1) (b :: (more ++ rest)) =
      Char.ofNat (codeOf b more) :: looseWithin n rest := by
  simp [looseWithin, hshape, hmore, codeOf]

theorem looseWithin_encodeChar (n : Nat) (c : Char) (rest : Bytes) :
    looseWithin (n + 1) (String.utf8EncodeChar c ++ rest) = c :: looseWithin n rest := by
  have hc : Char.ofNat c.val.toNat = c := Char.ofNat_toNat c
  have hvalid : c.val.toNat < 55296 ∨ 57343 < c.val.toNat ∧ c.val.toNat < 1114112 := c.valid
  unfold String.utf8EncodeChar
  dsimp only
  generalize c.val.toNat = v at hc hvalid ⊢
  have h₁ := toNat_tail v
  have h₂ := toNat_tail (v / 64)
  have h₃ := toNat_tail (v / 4096)
  -- one case for each number of bytes; in each the first byte fixes how many follow
  split
  · have hb : (UInt8.ofNat v).toNat = v := by
      rw [UInt8.toNat_ofNat']
      omega
    have hcode : codeOf (UInt8.ofNat v) [] = v := by
      change (UInt8.ofNat v).toNat % 128 = v
      omega
    have hshape := shape_one (b := UInt8.ofNat v) (by omega)
    exact (looseWithin_cons [] hshape (continuation_zero ..)).trans (by rw [hcode, hc])
  · split
    · have hb : (UInt8.ofNat (v / 64 % 32 + 192)).toNat = v / 64 % 32 + 192 := by
        rw [UInt8.toNat_ofNat']
        omega
      have hcode : codeOf (UInt8.ofNat (v / 64 % 32 + 192)) [UInt8.ofNat (v % 64 + 128)] = v := by
        change 64 * ((UInt8.ofNat (v / 64 % 32 + 192)).toNat % 32) +
          (UInt8.ofNat (v % 64 + 128)).toNat % 64 = v
        omega
      have hmore : continuation 1 0x80 0xBF ([UInt8.ofNat (v % 64 + 128)] ++ rest) =
          [UInt8.ofNat (v % 64 + 128)] :=
        (continuation_cons (tail_inRange v)).trans (by rw [continuation_zero])
      have hshape := shape_two (b := UInt8.ofNat (v / 64 % 32 + 192)) (by omega)
      exact (looseWithin_cons [_] hshape hmore).trans (by rw [hcode, hc])
    · split
      · have hb : (UInt8.ofNat (v / 4096 % 16 + 224)).toNat = v / 4096 % 16 + 224 := by
          rw [UInt8.toNat_ofNat']
          omega
        obtain ⟨low, high, hshape, hrange⟩ := shape_three (b := UInt8.ofNat (v / 4096 % 16 + 224))
          (by omega) (tail_inRange (v / 64)) (by omega) (by omega)
        have hcode : codeOf (UInt8.ofNat (v / 4096 % 16 + 224))
            [UInt8.ofNat (v / 64 % 64 + 128), UInt8.ofNat (v % 64 + 128)] = v := by
          change 64 * (64 * ((UInt8.ofNat (v / 4096 % 16 + 224)).toNat % 16) +
            (UInt8.ofNat (v / 64 % 64 + 128)).toNat % 64) +
            (UInt8.ofNat (v % 64 + 128)).toNat % 64 = v
          omega
        have hmore : continuation 2 low high
            ([UInt8.ofNat (v / 64 % 64 + 128), UInt8.ofNat (v % 64 + 128)] ++ rest) =
              [UInt8.ofNat (v / 64 % 64 + 128), UInt8.ofNat (v % 64 + 128)] := by
          rw [List.cons_append, continuation_cons hrange, List.singleton_append,
            continuation_cons (tail_inRange v), continuation_zero]
        exact (looseWithin_cons [_, _] hshape hmore).trans (by rw [hcode, hc])
      · have hb : (UInt8.ofNat (v / 262144 % 8 + 240)).toNat = v / 262144 % 8 + 240 := by
          rw [UInt8.toNat_ofNat']
          omega
        obtain ⟨low, high, hshape, hrange⟩ := shape_four (b := UInt8.ofNat (v / 262144 % 8 + 240))
          (by omega) (tail_inRange (v / 4096)) (by omega) (by omega)
        have hcode : codeOf (UInt8.ofNat (v / 262144 % 8 + 240))
            [UInt8.ofNat (v / 4096 % 64 + 128), UInt8.ofNat (v / 64 % 64 + 128),
              UInt8.ofNat (v % 64 + 128)] = v := by
          change 64 * (64 * (64 * ((UInt8.ofNat (v / 262144 % 8 + 240)).toNat % 8) +
            (UInt8.ofNat (v / 4096 % 64 + 128)).toNat % 64) +
            (UInt8.ofNat (v / 64 % 64 + 128)).toNat % 64) +
            (UInt8.ofNat (v % 64 + 128)).toNat % 64 = v
          omega
        have hmore : continuation 3 low high
            ([UInt8.ofNat (v / 4096 % 64 + 128), UInt8.ofNat (v / 64 % 64 + 128),
              UInt8.ofNat (v % 64 + 128)] ++ rest) =
              [UInt8.ofNat (v / 4096 % 64 + 128), UInt8.ofNat (v / 64 % 64 + 128),
                UInt8.ofNat (v % 64 + 128)] := by
          rw [List.cons_append, continuation_cons hrange, List.cons_append,
            continuation_cons (tail_inRange (v / 64)), List.singleton_append,
            continuation_cons (tail_inRange v), continuation_zero]
        exact (looseWithin_cons [_, _, _] hshape hmore).trans (by rw [hcode, hc])

theorem length_le_encode (cs : List Char) :
    cs.length ≤ (cs.flatMap String.utf8EncodeChar).length := by
  induction cs with
  | nil => simp
  | cons c cs ih =>
    have hpos : 0 < (String.utf8EncodeChar c).length := by
      rw [String.length_utf8EncodeChar]
      exact c.utf8Size_pos
    rw [List.flatMap_cons, List.length_append, List.length_cons]
    omega

theorem looseWithin_encode {n : Nat} {cs : List Char} (h : cs.length ≤ n) :
    looseWithin n (cs.flatMap String.utf8EncodeChar) = cs := by
  induction cs generalizing n with
  | nil => cases n <;> rfl
  | cons c cs ih =>
    obtain ⟨m, rfl⟩ : ∃ m, n = m + 1 := ⟨n - 1, by simp at h; omega⟩
    rw [List.flatMap_cons, looseWithin_encodeChar, ih (by simpa using h)]

theorem loose_ofText (s : String) : loose (.ofText s) = s := by
  unfold loose Bytes.ofText
  rw [looseWithin_encode (length_le_encode s.toList), String.ofList_toList]

theorem eq_ofText_of_strict? {bytes : Bytes} {s : String} (h : strict? bytes = some s) :
    bytes = .ofText s := by
  unfold strict? String.fromUTF8? at h
  split at h
  · have hs : s.toByteArray = ⟨bytes.toArray⟩ := by
      rw [← Option.some.inj h]
      rfl
    have hlist : s.toByteArray = s.toList.utf8Encode := by
      rw [← String.toByteArray_ofList, String.ofList_toList]
    have hdata := congrArg ByteArray.data (hs.symm.trans hlist)
    have hbytes : bytes = s.toList.flatMap String.utf8EncodeChar := by
      simpa [List.utf8Encode] using congrArg Array.toList hdata
    exact hbytes
  · cases h

end ServerLauncher.Text

theorem ServerLauncher.Bytes.ofText_injective {a b : String} (h : ofText a = ofText b) :
    a = b := by
  rw [← Text.loose_ofText a, h, Text.loose_ofText]
