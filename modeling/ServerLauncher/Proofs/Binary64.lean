import Mathlib.Algebra.Group.Nat.Defs

/-!
Binary64 numbers that are a natural number times a power of two. As long as the natural number has
at most 53 bits nothing is rounded: sums and products of such numbers are the exact ones, a quotient
by a power of two only changes the exponent, they compare as the natural numbers do, and on the way
to a whole number the remainder is cut off.
-/

namespace ServerLauncher.Binary64

open Float.Model Float.Model.UnpackedFloat
open Float.Model.Format (binary64)

theorem log2_shiftLeft {n : Nat} (hn : 0 < n) (k : Nat) : (n <<< k).log2 = n.log2 + k := by
  have hshift : n <<< k ≠ 0 := Nat.ne_of_gt (Nat.shiftLeft_pos_iff.2 hn)
  obtain ⟨hlow, hhigh⟩ := (Nat.log2_eq_iff (Nat.ne_of_gt hn)).1 rfl
  refine (Nat.log2_eq_iff hshift).2 ?_
  rw [Nat.shiftLeft_eq, Nat.pow_add, Nat.add_right_comm, Nat.pow_add]
  exact ⟨Nat.mul_le_mul_right _ hlow, Nat.mul_lt_mul_of_pos_right hhigh (Nat.two_pow_pos k)⟩

/-- The natural number has at most 53 bits, and the exponent is far from both ends of its range. -/
structure Fits (n : Nat) (e : Int) : Prop where
  lt : n < 2 ^ 53
  low : -900 ≤ e
  high : e ≤ 900

namespace Fits

variable {n m : Nat} {e : Int}

theorem of_le (h : Fits n e) (hle : m ≤ n) : Fits m e :=
  ⟨Nat.lt_of_le_of_lt hle h.lt, h.low, h.high⟩

theorem log2_le (h : Fits n e) : n.log2 ≤ 52 := by
  rcases Nat.eq_zero_or_pos n with rfl | hpos
  · decide
  · exact Nat.le_of_lt_succ ((Nat.log2_lt (Nat.ne_of_gt hpos)).2 h.lt)

end Fits

/-- The number `n * 2 ^ e` with 53 significant bits. -/
def unpacked (n : Nat) (e : Int) : UnpackedFloat :=
  if h : 0 < n then
    .finite .positive (n <<< (52 - n.log2)) (e - (52 - n.log2 : Nat)) (Nat.shiftLeft_pos_iff.2 h)
  else .zero .positive

/-- The binary64 number `n * 2 ^ e`. -/
def number (n : Nat) (e : Int) : Float := ⟨.pack (unpacked n e)⟩

theorem unpacked_zero (e : Int) : unpacked 0 e = .zero .positive :=
  dif_neg (by decide)

theorem unpacked_of_pos {n : Nat} (h : 0 < n) (e : Int) :
    unpacked n e = .finite .positive (n <<< (52 - n.log2)) (e - (52 - n.log2 : Nat))
      (Nat.shiftLeft_pos_iff.2 h) :=
  dif_pos h

theorem shiftRight_exact (n i j : Nat) :
    (ExtendedMantissa.mk (n <<< (i + j)) false false >>> j) = ⟨n <<< i, false, false⟩ := by
  change j.repeat ExtendedMantissa.shiftRightOne _ = _
  induction j generalizing i with
  | zero => rfl
  | succ j ih =>
    have hshift : n <<< (i + (j + 1)) = n <<< (i + 1 + j) := by
      rw [Nat.add_right_comm, Nat.add_assoc]
    have hdouble : n <<< (i + 1) = 2 * n <<< i := Nat.shiftLeft_succ n i
    change (j.repeat ExtendedMantissa.shiftRightOne _).shiftRightOne = _
    rw [hshift, ih (i + 1), hdouble]
    change ExtendedMantissa.mk (2 * n <<< i / 2) (2 * n <<< i % 2 != 0) false = _
    rw [Nat.mul_div_cancel_left _ (by decide), Nat.mul_mod_right]
    rfl

theorem shiftRight_mantissa (m : ExtendedMantissa) (j : Nat) :
    (m >>> j).mantissa = m.mantissa / 2 ^ j := by
  change (j.repeat ExtendedMantissa.shiftRightOne m).mantissa = _
  induction j with
  | zero => exact (Nat.div_one _).symm
  | succ j ih =>
    change (j.repeat ExtendedMantissa.shiftRightOne m).mantissa / 2 = _
    rw [ih, Nat.div_div_eq_div_mul, Nat.pow_succ]

theorem targetExponent_eq {m : Nat} {e : Int} (h : -1022 ≤ m.log2 + e) :
    binary64.targetExponent (totalExponent m e) = m.log2 + e - 52 := by
  change max ((m.log2 : Int) + 1 + e - 53) (-1074) = _
  omega

section Exact

variable {n : Nat} {e : Int}

/-- Shifting to the target exponent drops the zeros behind the first 53 bits. -/
theorem shiftToTargetExponent_exact {k : Nat} (h : Fits n e) (hn : 0 < n)
    (hk : 52 - n.log2 ≤ k) :
    shiftToTargetExponent binary64 (n <<< k) (e - k) .exact =
      (⟨n <<< (52 - n.log2), false, false⟩, e - (52 - n.log2 : Nat)) := by
  have hlog := log2_shiftLeft hn k
  have hle := h.log2_le
  have hlow := h.low
  have htarget := targetExponent_eq (m := n <<< k) (e := e - k) (by omega)
  have hamount : (((n <<< k).log2 : Int) + (e - k) - 52 - (e - k)).toNat =
      k - (52 - n.log2) := by omega
  have hsplit : 52 - n.log2 + (k - (52 - n.log2)) = k := by omega
  have hshift := shiftRight_exact n (52 - n.log2) (k - (52 - n.log2))
  rw [hsplit] at hshift
  change shiftToExponent (n <<< k) (e - k) .exact
    (binary64.targetExponent (totalExponent (n <<< k) (e - k))) = _
  rw [htarget]
  change ((ExtendedMantissa.mk (n <<< k) false false >>>
    (((n <<< k).log2 : Int) + (e - k) - 52 - (e - k)).toNat), _) = _
  rw [hamount, hshift]
  refine Prod.ext rfl ?_
  dsimp only
  omega

theorem roundWithAccuracy_eq {m : Nat} {accuracy : Accuracy} {first last : ExtendedMantissa × Int}
    (hfirst : shiftToTargetExponent binary64 m e accuracy = first)
    (hlast : shiftToTargetExponent binary64 first.1.roundedMantissa first.2 .exact = last)
    (hpos : 0 < last.1.mantissa) :
    roundWithAccuracy binary64 .positive m e accuracy =
      .finite .positive last.1.mantissa last.2 hpos := by
  subst hfirst hlast
  exact dif_neg (Nat.ne_of_gt hpos)

theorem roundWithAccuracy_exact {k : Nat} (h : Fits n e) (hn : 0 < n) (hk : 52 - n.log2 ≤ k) :
    roundWithAccuracy binary64 .positive (n <<< k) (e - k) .exact = unpacked n e :=
  have hagain := shiftToTargetExponent_exact h hn (Nat.le_refl _)
  (roundWithAccuracy_eq (shiftToTargetExponent_exact h hn hk) hagain _).trans
    (unpacked_of_pos hn e).symm

theorem round_eq (m : Nat) (e : Int) :
    UnpackedFloat.round binary64 .positive m e =
      let amount := (e - binary64.targetExponent (totalExponent m e)).toNat
      roundWithAccuracy binary64 .positive (m <<< amount) (e - amount) .exact :=
  rfl

theorem round_exact (h : Fits n e) (hn : 0 < n) (k : Nat) :
    UnpackedFloat.round binary64 .positive (n <<< k) (e - k) = unpacked n e := by
  have hlog := log2_shiftLeft hn k
  have hle := h.log2_le
  have hlow := h.low
  have htarget := targetExponent_eq (m := n <<< k) (e := e - k) (by omega)
  have hamount : (e - k - (((n <<< k).log2 : Int) + (e - k) - 52)).toNat =
      52 - n.log2 - k := by omega
  have hexponent : e - k - (52 - n.log2 - k : Nat) = e - (k + (52 - n.log2 - k) : Nat) := by omega
  rw [round_eq, htarget]
  dsimp only
  rw [hamount, ← Nat.shiftLeft_add, hexponent]
  exact roundWithAccuracy_exact h hn (by omega)

theorem normalize_exact (h : Fits n e) (k : Nat) :
    UnpackedFloat.normalize binary64 ((n <<< k : Nat) : Int) (e - k) .positive =
      unpacked n e := by
  rcases Nat.eq_zero_or_pos n with rfl | hn
  · rw [Nat.zero_shiftLeft, unpacked_zero]
    rfl
  · have hpos : 0 < n <<< k := Nat.shiftLeft_pos_iff.2 hn
    have hcompare : compare ((n <<< k : Nat) : Int) 0 = .gt := Int.compare_eq_gt.2 (by omega)
    change (match compare ((n <<< k : Nat) : Int) 0 with
      | .lt => _
      | .eq => _
      | .gt => UnpackedFloat.round binary64 .positive ((n <<< k : Nat) : Int).toNat (e - k)) = _
    rw [hcompare]
    exact round_exact h hn k

end Exact

theorem append_one (m : BitVec 52) : (1#1 ++ m).toNat = 2 ^ 52 + m.toNat := by
  rw [BitVec.toNat_append, ← Nat.shiftLeft_add_eq_or_of_lt m.isLt]
  rfl

theorem sign_packComponents (exponent : BitVec 11) (mantissa : BitVec 52) :
    Sign.ofBitVec (unpackSign (packComponents binary64 .positive exponent mantissa)) =
      .positive := by
  change Sign.ofBitVec (BitVec.cast rfl
    (BitVec.extractLsb' 63 1 (Sign.positive.toBitVec ++ exponent ++ mantissa))) = _
  rw [BitVec.extractLsb'_append_eq_of_le (by omega), BitVec.extractLsb'_append_eq_of_le (by omega)]
  rfl

theorem finite_congr {sign : Sign} {m m' : Nat} {e e' : Int} {h : 0 < m} {h' : 0 < m'}
    (hsign : sign = .positive) (hm : m = m') (he : e = e') :
    UnpackedFloat.finite sign m e h = .finite .positive m' e' h' := by
  subst hsign hm he
  rfl

/-- With neither the largest exponent nor the smallest one a first bit is left out. -/
theorem unpack_of_normal {b : BitVec 64}
    (hinfinite : @unpackExponent binary64 b ≠ -1#11)
    (hsmall : @unpackExponent binary64 b ≠ 0#11) :
    UnpackedFloat.unpack binary64 b = .finite
      (Sign.ofBitVec (@unpackSign binary64 b))
      (1#1 ++ @unpackMantissa binary64 b).toNat
      (((@unpackExponent binary64 b).toNat : Int) - 1075)
      (by rw [append_one]; omega) :=
  (if_neg hinfinite).trans (if_neg hsmall)

theorem unpack_pack_of_normal {m : Nat} {e : Int} (hpos : 0 < m) (hlow : 2 ^ 52 ≤ m)
    (hhigh : m < 2 ^ 53) (helow : -1000 ≤ e) (hehigh : e ≤ 900) :
    UnpackedFloat.unpack binary64 (UnpackedFloat.pack binary64 (.finite .positive m e hpos)) =
      .finite .positive m e hpos := by
  have hlog : m.log2 + 1 = 53 :=
    congrArg Nat.succ ((Nat.log2_eq_iff (Nat.ne_of_gt hpos)).2 ⟨hlow, hhigh⟩)
  generalize hb : (e + (1023 : Nat) + (52 : Nat)).toNat = biased
  have hpack : UnpackedFloat.pack binary64 (.finite .positive m e hpos) =
      packComponents binary64 .positive (BitVec.ofNat 11 biased) (BitVec.ofNat 52 m) := by
    have hfinite : ¬2 ^ 11 ≤ (e + (1023 : Nat) + (52 : Nat)).toNat + 1 := by omega
    rw [← hb]
    exact (if_neg hfinite).trans (if_pos hlog)
  have hexponent : (BitVec.ofNat 11 biased).toNat = biased := by
    rw [BitVec.toNat_ofNat]
    omega
  have hne : ∀ k < 2048, k ≠ biased → BitVec.ofNat 11 biased ≠ BitVec.ofNat 11 k := by
    intro k hk hkb heq
    have hsame := congrArg BitVec.toNat heq
    rw [hexponent, BitVec.toNat_ofNat] at hsame
    omega
  have hmantissa : (1#1 ++ BitVec.ofNat 52 m).toNat = m := by
    rw [append_one, BitVec.toNat_ofNat]
    omega
  have hunpack := unpack_of_normal
    (b := packComponents binary64 .positive (BitVec.ofNat 11 biased) (BitVec.ofNat 52 m))
    (by rw [unpackExponent_packComponents]; exact hne 2047 (by decide) (by omega))
    (by rw [unpackExponent_packComponents]; exact hne 0 (by decide) (by omega))
  rw [hpack, hunpack]
  refine finite_congr (sign_packComponents _ _) ?_ ?_
  · rw [unpackMantissa_packComponents, hmantissa]
  · rw [unpackExponent_packComponents, hexponent]
    omega

theorem unpack_number {n : Nat} {e : Int} (h : Fits n e) :
    (number n e).toModel.unpack = unpacked n e := by
  change UnpackedFloat.unpack binary64 (UnpackedFloat.pack binary64 (unpacked n e)) = _
  rcases Nat.eq_zero_or_pos n with rfl | hn
  · rw [unpacked_zero]
    rfl
  · have hle := h.log2_le
    have hlow := h.low
    have hhigh := h.high
    have hlog := log2_shiftLeft hn (52 - n.log2)
    have hmantissa := (Nat.log2_eq_iff (Nat.ne_of_gt (Nat.shiftLeft_pos_iff.2 hn))).1
      (hlog.trans (by omega : n.log2 + (52 - n.log2) = 52))
    rw [unpacked_of_pos hn]
    exact unpack_pack_of_normal _ hmantissa.1 hmantissa.2 (by omega) (by omega)

theorem add_eq (x y : Float) :
    x + y = ⟨.pack (UnpackedFloat.add binary64 x.toModel.unpack y.toModel.unpack)⟩ :=
  rfl

theorem add_finite {m m' : Nat} {e e' : Int} (h : 0 < m) (h' : 0 < m') :
    UnpackedFloat.add binary64 (.finite .positive m e h) (.finite .positive m' e' h') =
      UnpackedFloat.normalize binary64
        ((m <<< (e - min e e').toNat : Nat) + (m' <<< (e' - min e e').toNat : Nat) : Int)
        (min e e') .positive :=
  rfl

theorem add_unpacked {a b : Nat} {e : Int} (h : Fits (a + b) e) :
    UnpackedFloat.add binary64 (unpacked a e) (unpacked b e) = unpacked (a + b) e := by
  rcases Nat.eq_zero_or_pos a with rfl | ha
  · rw [unpacked_zero, Nat.zero_add]
    rcases Nat.eq_zero_or_pos b with rfl | hb
    · rw [unpacked_zero]
      rfl
    · rw [unpacked_of_pos hb]
      rfl
  · rcases Nat.eq_zero_or_pos b with rfl | hb
    · rw [unpacked_zero, Nat.add_zero, unpacked_of_pos ha]
      rfl
    · rw [unpacked_of_pos ha, unpacked_of_pos hb, add_finite]
      generalize 52 - a.log2 = i
      generalize 52 - b.log2 = j
      have hmin : min (e - (i : Int)) (e - (j : Int)) = e - (max i j : Nat) := by omega
      have hi : (e - (i : Int) - (e - (max i j : Nat))).toNat = max i j - i := by omega
      have hj : (e - (j : Int) - (e - (max i j : Nat))).toNat = max i j - j := by omega
      have hi' : i + (max i j - i) = max i j := by omega
      have hj' : j + (max i j - j) = max i j := by omega
      have hsum : ((a <<< max i j : Nat) : Int) + (b <<< max i j : Nat) =
          ((a + b) <<< max i j : Nat) := by
        rw [Nat.shiftLeft_eq, Nat.shiftLeft_eq, Nat.shiftLeft_eq, Nat.add_mul]
        rfl
      rw [hmin, hi, hj, ← Nat.shiftLeft_add, ← Nat.shiftLeft_add, hi', hj', hsum]
      exact normalize_exact h _

theorem add_number {a b : Nat} {e : Int} (h : Fits (a + b) e) :
    number a e + number b e = number (a + b) e := by
  rw [add_eq, unpack_number (h.of_le (Nat.le_add_right a b)),
    unpack_number (h.of_le (Nat.le_add_left b a)), add_unpacked h]
  rfl

theorem mul_eq (x y : Float) :
    x * y = ⟨.pack (UnpackedFloat.mul binary64 x.toModel.unpack y.toModel.unpack)⟩ :=
  rfl

theorem mul_finite {m m' : Nat} {e e' : Int} (h : 0 < m) (h' : 0 < m') :
    UnpackedFloat.mul binary64 (.finite .positive m e h) (.finite .positive m' e' h') =
      roundWithAccuracy binary64 .positive (m * m') (e + e') .exact :=
  rfl

section Product

variable {a b : Nat} {e f : Int}

theorem mul_unpacked (ha : Fits a e) (hb : Fits b f) (h : Fits (a * b) (e + f)) :
    UnpackedFloat.mul binary64 (unpacked a e) (unpacked b f) = unpacked (a * b) (e + f) := by
  rcases Nat.eq_zero_or_pos a with rfl | hapos
  · rw [Nat.zero_mul, unpacked_zero, unpacked_zero]
    rcases Nat.eq_zero_or_pos b with rfl | hbpos
    · rw [unpacked_zero]
      rfl
    · rw [unpacked_of_pos hbpos]
      rfl
  · rcases Nat.eq_zero_or_pos b with rfl | hbpos
    · rw [Nat.mul_zero, unpacked_zero, unpacked_zero, unpacked_of_pos hapos]
      rfl
    · have hle := ha.log2_le
      have hle' := hb.log2_le
      have hpos := Nat.mul_pos hapos hbpos
      have hlog : a.log2 + b.log2 ≤ (a * b).log2 := by
        rw [Nat.le_log2 (Nat.ne_of_gt hpos), Nat.pow_add]
        exact Nat.mul_le_mul (Nat.log2_self_le (Nat.ne_of_gt hapos))
          (Nat.log2_self_le (Nat.ne_of_gt hbpos))
      have hproduct : a <<< (52 - a.log2) * b <<< (52 - b.log2) =
          (a * b) <<< (52 - a.log2 + (52 - b.log2)) := by
        rw [Nat.shiftLeft_eq, Nat.shiftLeft_eq, Nat.shiftLeft_eq, Nat.pow_add]
        exact Nat.mul_mul_mul_comm ..
      have hexponent : e - (52 - a.log2 : Nat) + (f - (52 - b.log2 : Nat)) =
          e + f - (52 - a.log2 + (52 - b.log2) : Nat) := by omega
      rw [unpacked_of_pos hapos, unpacked_of_pos hbpos, mul_finite, hproduct, hexponent]
      exact roundWithAccuracy_exact h hpos (by omega)

theorem mul_number (ha : Fits a e) (hb : Fits b f) (h : Fits (a * b) (e + f)) :
    number a e * number b f = number (a * b) (e + f) := by
  rw [mul_eq, unpack_number ha, unpack_number hb, mul_unpacked ha hb h]
  rfl

end Product

theorem div_eq (x y : Float) :
    x / y = ⟨.pack (UnpackedFloat.div binary64 x.toModel.unpack y.toModel.unpack)⟩ :=
  rfl

theorem div_finite {m m' : Nat} {e e' : Int} (h : 0 < m) (h' : 0 < m') :
    UnpackedFloat.div binary64 (.finite .positive m e h) (.finite .positive m' e' h') =
      let target := min (e - e')
        (binary64.targetExponent (totalExponent m e - totalExponent m' e'))
      let numerator := m <<< (e - e' - target).toNat
      roundWithAccuracy binary64 .positive (numerator / m') target
        (accuracyOfFraction (numerator % m') m') :=
  rfl

section Quotient

variable {n k : Nat} {e f : Int}

theorem div_unpacked (hn : Fits n e) (hk : Fits (2 ^ k) f) (h : Fits n (e - f - k)) :
    UnpackedFloat.div binary64 (unpacked n e) (unpacked (2 ^ k) f) = unpacked n (e - f - k) := by
  have hpower : 0 < 2 ^ k := Nat.two_pow_pos k
  rcases Nat.eq_zero_or_pos n with rfl | hpos
  · rw [unpacked_zero, unpacked_zero, unpacked_of_pos hpower]
    rfl
  · have hle := hn.log2_le
    have hle' := hk.log2_le
    have hlow := h.low
    rw [Nat.log2_two_pow] at hle'
    have hlog := log2_shiftLeft hpos (52 - n.log2)
    have hone : 2 ^ k <<< (52 - k) = 2 ^ 52 := by
      rw [Nat.shiftLeft_eq, ← Nat.pow_add]
      congr 1
      omega
    -- Both mantissas have 53 bits, so the quotient is computed with 53 bits more.
    have htotal : totalExponent (n <<< (52 - n.log2)) (e - (52 - n.log2 : Nat)) -
        totalExponent (2 ^ 52) (f - (52 - k : Nat)) =
          e - (52 - n.log2 : Nat) - (f - (52 - k : Nat)) := by
      change ((n <<< (52 - n.log2)).log2 : Int) + 1 + _ - (((2 ^ 52).log2 : Nat) + 1 + _) = _
      rw [hlog, Nat.log2_two_pow]
      omega
    have htarget : binary64.targetExponent (e - (52 - n.log2 : Nat) - (f - (52 - k : Nat))) =
        e - (52 - n.log2 : Nat) - (f - (52 - k : Nat)) - 53 := by
      change max (e - (52 - n.log2 : Nat) - (f - (52 - k : Nat)) - 53) (-1074) = _
      omega
    have hmin : ∀ d : Int, min d (d - 53) = d - 53 := by omega
    have hamount : ∀ d : Int, (d - (d - 53)).toNat = 53 := by omega
    have hnumerator : n <<< (52 - n.log2) <<< 53 = n <<< (52 - n.log2 + 1) * 2 ^ 52 := by
      rw [← Nat.shiftLeft_add, Nat.shiftLeft_eq, Nat.shiftLeft_eq, Nat.mul_assoc, ← Nat.pow_add]
    have hexponent : e - (52 - n.log2 : Nat) - (f - (52 - k : Nat)) - 53 =
        e - f - k - (52 - n.log2 + 1 : Nat) := by omega
    rw [unpacked_of_pos hpos, unpacked_of_pos hpower, div_finite]
    rw [Nat.log2_two_pow, hone, htotal, htarget]
    dsimp only
    rw [hmin, hamount, hnumerator, Nat.mul_div_cancel _ (Nat.two_pow_pos 52), Nat.mul_mod_left,
      hexponent]
    exact roundWithAccuracy_exact h hpos (by omega)

theorem div_number (hn : Fits n e) (hk : Fits (2 ^ k) f) (h : Fits n (e - f - k)) :
    number n e / number (2 ^ k) f = number n (e - f - k) := by
  rw [div_eq, unpack_number hn, unpack_number hk, div_unpacked hn hk h]
  rfl

end Quotient

theorem lt_iff (x y : Float) :
    x < y ↔ (UnpackedFloat.compare x.toModel.unpack y.toModel.unpack == some .lt) = true := by
  change decide (x.toModel < y.toModel) = true ↔ _
  rw [decide_eq_true_iff]
  rfl

theorem lt_number_iff {a b : Nat} {e : Int} (ha : Fits a e) (hb : Fits b e) :
    number a e < number b e ↔ a < b := by
  rw [lt_iff, unpack_number ha, unpack_number hb]
  rcases Nat.eq_zero_or_pos a with rfl | hapos
  · rw [unpacked_zero]
    rcases Nat.eq_zero_or_pos b with rfl | hbpos
    · rw [unpacked_zero]
      exact iff_of_false (by decide) (Nat.lt_irrefl 0)
    · rw [unpacked_of_pos hbpos]
      exact iff_of_true rfl hbpos
  · rcases Nat.eq_zero_or_pos b with rfl | hbpos
    · rw [unpacked_zero, unpacked_of_pos hapos]
      exact iff_of_false Bool.false_ne_true (Nat.not_lt_zero a)
    · rw [unpacked_of_pos hapos, unpacked_of_pos hbpos]
      change (some ((compare (e - (52 - a.log2 : Nat)) (e - (52 - b.log2 : Nat))).then
        (compare (a <<< (52 - a.log2)) (b <<< (52 - b.log2)))) == some .lt) = true ↔ _
      have hale := ha.log2_le
      have hble := hb.log2_le
      have hamin := Nat.log2_self_le (Nat.ne_of_gt hapos)
      have hbmin := Nat.log2_self_le (Nat.ne_of_gt hbpos)
      rcases Nat.lt_trichotomy a.log2 b.log2 with hless | heq | hmore
      · have hexponents : compare (e - (52 - a.log2 : Nat)) (e - (52 - b.log2 : Nat)) = .lt :=
          Int.compare_eq_lt.2 (by omega)
        have hlt : a < 2 ^ b.log2 :=
          Nat.lt_of_lt_of_le Nat.lt_log2_self (Nat.pow_le_pow_right (by decide) hless)
        rw [hexponents]
        exact iff_of_true rfl (Nat.lt_of_lt_of_le hlt hbmin)
      · have hexponents : compare (e - (52 - b.log2 : Nat)) (e - (52 - b.log2 : Nat)) = .eq :=
          Int.compare_eq_eq.2 rfl
        rw [heq, hexponents, Nat.shiftLeft_eq, Nat.shiftLeft_eq, Ordering.eq_then, beq_iff_eq,
          Option.some_inj, Nat.compare_eq_lt]
        exact Nat.mul_lt_mul_right (Nat.two_pow_pos _)
      · have hexponents : compare (e - (52 - a.log2 : Nat)) (e - (52 - b.log2 : Nat)) = .gt :=
          Int.compare_eq_gt.2 (by omega)
        have hlt : b < 2 ^ a.log2 :=
          Nat.lt_of_lt_of_le Nat.lt_log2_self (Nat.pow_le_pow_right (by decide) hmore)
        rw [hexponents]
        exact iff_of_false Bool.false_ne_true
          (Nat.not_lt_of_ge (Nat.le_trans (Nat.le_of_lt hlt) hamin))

theorem roundToInt_neg (m j : Nat) : roundToInt .positive m (-j) = (m / 2 ^ j : Nat) := by
  have hup : (-(j : Int) - 0).toNat = 0 := by omega
  have hdown : (0 - (-(j : Int) - (0 : Nat))).toNat = j := by omega
  change (((ExtendedMantissa.mk (m <<< (-(j : Int) - 0).toNat) false false >>>
    (0 - (-(j : Int) - ((-(j : Int) - 0).toNat : Nat))).toNat).mantissa : Nat) : Int) = _
  rw [hup, hdown, shiftRight_mantissa, Nat.shiftLeft_zero]

theorem toInt_unpacked (n k : Nat) (low high : Int) :
    UnpackedFloat.toInt low high (unpacked n (-k)) = (n / 2 ^ k : Nat) := by
  rcases Nat.eq_zero_or_pos n with rfl | hpos
  · rw [unpacked_zero, Nat.zero_div]
    rfl
  · have hexponent : -(k : Int) - (52 - n.log2 : Nat) = -(52 - n.log2 + k : Nat) := by omega
    rw [unpacked_of_pos hpos]
    change roundToInt .positive (n <<< (52 - n.log2)) (-(k : Int) - (52 - n.log2 : Nat)) = _
    rw [hexponent, roundToInt_neg, Nat.shiftLeft_eq, Nat.pow_add, ← Nat.div_div_eq_div_mul,
      Nat.mul_div_cancel _ (Nat.two_pow_pos _)]

/-- What stands behind the point is cut off. -/
theorem toUInt64_number {n k : Nat} (h : Fits n (-k)) :
    (number n (-k)).toUInt64.toNat = n / 2 ^ k := by
  have hlt : n / 2 ^ k < UInt64.size :=
    Nat.lt_of_le_of_lt (Nat.div_le_self _ _) (Nat.lt_trans h.lt (by decide))
  have hclamp : UInt64.ofNatClamp (n / 2 ^ k) = UInt64.ofNatLT (n / 2 ^ k) hlt := dif_pos hlt
  change (UInt64.ofNatClamp
    (UnpackedFloat.toInt 0 (UInt64.size - 1) (number n (-k)).toModel.unpack).toNat).toNat = _
  rw [unpack_number h, toInt_unpacked, Int.toNat_natCast, hclamp]
  rfl

theorem toFloat_eq {n : Nat} (h : n < 2 ^ 53) : n.toFloat = number n 0 := by
  have hfits : Fits n 0 := ⟨h, by decide, by decide⟩
  have hword : n.toUInt64.toNat = n := UInt64.toNat_ofNat_of_lt (Nat.lt_trans h (by decide))
  have hconverted : n.toUInt64.toFloat = number n 0 := by
    change (⟨.pack (UnpackedFloat.normalize binary64 (n.toUInt64.toNat : Int) 0 .positive)⟩ :
      Float) = _
    have hexact := normalize_exact hfits 0
    rw [Nat.shiftLeft_zero] at hexact
    rw [hword]
    exact congrArg (fun u => (⟨.pack u⟩ : Float)) hexact
  -- A count is converted as a decimal number with no places: it is multiplied by one.
  have hone : Float.ofBits 0x3FF0000000000000 = number 1 0 := by decide +kernel
  have hproduct : n.toFloat = n.toUInt64.toFloat * Float.ofBits 0x3FF0000000000000 :=
    dif_pos (And.intro h (by decide))
  have hfits' : Fits (n * 1) (0 + 0) := (Nat.mul_one n).symm ▸ hfits
  rw [hproduct, hconverted, hone, mul_number hfits ⟨by decide, by decide, by decide⟩ hfits',
    Nat.mul_one]
  rfl

end ServerLauncher.Binary64
