import Mathlib.Data.Nat.Bitwise
import StorageMedia.Sysfs.DeviceNumber

/-! # Packed device numbers are pairs of 32-bit numbers

A packed number holds the bits of two 32-bit numbers in four fields, each of which begins where the
one below it ends. So every 64-bit number is the packed form of one pair. A pair is written as two
decimal numbers around a colon, which no decimal number holds, so that each pair has an entry of its
own in a directory of devices.
-/

namespace StorageMedia.DeviceNumber

variable {number other : DeviceNumber} {packed : Nat}

/-- Both numbers have 32 bits. -/
structure Fits (number : DeviceNumber) : Prop where
  major : number.major < 2 ^ 32
  minor : number.minor < 2 ^ 32

/-! ## Fields -/

theorem fits_ofPacked (packed : Nat) : (ofPacked packed).Fits := by
  constructor <;> simp only [ofPacked] <;> omega

/-- Packing puts back what was taken apart. -/
theorem pack_ofPacked (bound : packed < 2 ^ 64) : (ofPacked packed).pack = packed := by
  simp only [ofPacked, pack]
  omega

theorem pack_lt (fits : number.Fits) : number.pack < 2 ^ 64 := by
  obtain ⟨major, minor⟩ := fits
  simp only [pack]
  omega

/-- Two numbers of 32 bits are found again where they were packed. -/
theorem ofPacked_pack (fits : number.Fits) : ofPacked number.pack = number := by
  obtain ⟨major, minor⟩ := number
  obtain ⟨majorBound, minorBound⟩ := fits
  dsimp only at majorBound minorBound
  -- What is left when the fields below one are shifted out, from the highest field downwards.
  have top : pack ⟨major, minor⟩ / 0x1000_0000_0000 = major / 0x1000 := by
    simp only [pack]
    omega
  have upper : pack ⟨major, minor⟩ / 0x10_0000 = major / 0x1000 * 0x100_0000 + minor / 0x100 := by
    simp only [pack]
    omega
  have lower : pack ⟨major, minor⟩ / 0x100 =
      (major / 0x1000 * 0x100_0000 + minor / 0x100) * 0x1000 + major % 0x1000 := by
    simp only [pack]
    omega
  have least : pack ⟨major, minor⟩ % 0x100 = minor % 0x100 := by
    simp only [pack]
    omega
  rw [ofPacked, top, upper, lower, least]
  congr 1 <;> omega

/-- A packed number stands for a pair exactly if it is the packed pair. -/
theorem ofPacked_eq_iff (bound : packed < 2 ^ 64) (fits : number.Fits) :
    ofPacked packed = number ↔ packed = number.pack := by
  constructor
  · rintro rfl
    exact (pack_ofPacked bound).symm
  · rintro rfl
    exact ofPacked_pack fits

/-! ## Masks and shifts -/

private theorem and_mask (word low width : Nat) :
    word &&& (2 ^ width - 1) <<< low = (word / 2 ^ low % 2 ^ width) <<< low := by
  apply Nat.eq_of_testBit_eq
  intro bit
  rw [Nat.testBit_and, Nat.testBit_shiftLeft, Nat.testBit_shiftLeft, Nat.testBit_two_pow_sub_one,
    Nat.testBit_mod_two_pow, Nat.testBit_div_two_pow]
  by_cases above : low ≤ bit
  · simp [above, Bool.and_comm]
  · simp [above]

private theorem shiftLeft_or (upper : Nat) {lower low : Nat} (below : lower < 2 ^ low) :
    upper <<< low ||| lower = upper * 2 ^ low + lower := by
  rw [← Nat.shiftLeft_add_eq_or_of_lt below, Nat.shiftLeft_eq]

private theorem and_minorLow (word : Nat) : word &&& 0xff = word % 0x100 :=
  Nat.and_two_pow_sub_one_eq_mod word 8

private theorem and_majorLow (word : Nat) : word &&& 0xfff = word % 0x1000 :=
  Nat.and_two_pow_sub_one_eq_mod word 12

private theorem and_majorHigh (word : Nat) :
    word &&& 0xffff_f000 = (word / 0x1000 % 0x10_0000) <<< 12 := and_mask word 12 20

private theorem and_minorHigh (word : Nat) :
    word &&& 0xffff_ff00 = (word / 0x100 % 0x100_0000) <<< 8 := and_mask word 8 24

/-- A packed number is taken apart by shifts and masks. -/
theorem ofPacked_eq_or (packed : Nat) :
    ofPacked packed =
      { major := packed >>> 32 &&& 0xffff_f000 ||| packed >>> 8 &&& 0xfff
        minor := packed >>> 12 &&& 0xffff_ff00 ||| packed &&& 0xff } := by
  rw [and_majorHigh, and_minorHigh, and_minorLow, and_majorLow, shiftLeft_or _ (by omega),
    shiftLeft_or _ (by omega)]
  simp only [ofPacked, Nat.shiftRight_eq_div_pow, Nat.div_div_eq_div_mul]
  rfl

/-- The fields as they are masked, shifted and joined in a packed number. -/
theorem pack_eq_or (fits : number.Fits) :
    number.pack =
      (number.major &&& 0xfff) <<< 8 ||| (number.major &&& 0xffff_f000) <<< 32 |||
        (number.minor &&& 0xff) ||| (number.minor &&& 0xffff_ff00) <<< 12 := by
  obtain ⟨major, minor⟩ := number
  obtain ⟨majorBound, minorBound⟩ := fits
  dsimp only at majorBound minorBound ⊢
  have high : (major &&& 0xffff_f000) <<< 32 = (major / 0x1000) <<< 44 := by
    rw [and_majorHigh, ← Nat.shiftLeft_add, Nat.mod_eq_of_lt (by omega)]
  have middle : (minor &&& 0xffff_ff00) <<< 12 = (minor / 0x100) <<< 20 := by
    rw [and_minorHigh, ← Nat.shiftLeft_add, Nat.mod_eq_of_lt (by omega)]
  have order (a b c d : Nat) : b ||| (d ||| (a ||| c)) = a ||| b ||| c ||| d := by ac_rfl
  -- Each field lies above all fields that follow it here, so that joining them is adding them.
  calc
    pack ⟨major, minor⟩ = major / 0x1000 * 2 ^ 44 +
        (minor / 0x100 * 2 ^ 20 + (major % 0x1000 * 2 ^ 8 + minor % 0x100)) := by
      simp only [pack]
      omega
    _ = (major / 0x1000) <<< 44 ||| ((minor / 0x100) <<< 20 |||
        ((major % 0x1000) <<< 8 ||| minor % 0x100)) := by
      rw [shiftLeft_or (major % 0x1000) (by omega), shiftLeft_or (minor / 0x100) (by omega),
        shiftLeft_or (major / 0x1000) (by omega)]
    _ = _ := by
      rw [high, middle, and_minorLow, and_majorLow]
      exact order ..

/-! ## Entries -/

/-- A pair is written as its two numbers in decimal digits around a colon. -/
theorem toList_name (number : DeviceNumber) :
    number.name.toList = Nat.toDigits 10 number.major ++ ':' :: Nat.toDigits 10 number.minor := by
  have colon : (toString ":").toList = [':'] := rfl
  simp [name, colon]

private theorem digits_injective {n m : Nat} (same : Nat.toDigits 10 n = Nat.toDigits 10 m) :
    n = m := by
  rw [← @Nat.ofDigitChars_toDigits 10 n (by decide) (by decide), same,
    Nat.ofDigitChars_toDigits (by decide) (by decide)]

private theorem takeWhile_digits (n : Nat) (rest : List Char) :
    (Nat.toDigits 10 n ++ ':' :: rest).takeWhile Char.isDigit = Nat.toDigits 10 n := by
  rw [List.takeWhile_append_of_pos]
  · rw [List.takeWhile_cons_of_neg (by decide), List.append_nil]
  · intro c member
    exact Nat.isDigit_of_mem_toDigits (by decide) (by decide) member

/-- Two pairs never have the same entry: the digits in front of the colon are those of the major
number. -/
theorem name_injective (same : number.name = other.name) : number = other := by
  have text := congrArg String.toList same
  rw [toList_name, toList_name] at text
  have major := congrArg (List.takeWhile Char.isDigit) text
  rw [takeWhile_digits, takeWhile_digits] at major
  rw [major] at text
  have minor := (List.cons.inj (List.append_cancel_left text)).2
  obtain ⟨_, _⟩ := number
  cases digits_injective major
  cases digits_injective minor
  rfl

/-- Every 64-bit number is the packed form of exactly one pair of 32-bit numbers, which shifts and
masks find in it, and every such pair has exactly one packed form. No two devices have the same
entry in a directory of devices. -/
theorem packing_bijective :
    (∀ packed < 2 ^ 64, (ofPacked packed).Fits ∧
      ofPacked packed =
        { major := packed >>> 32 &&& 0xffff_f000 ||| packed >>> 8 &&& 0xfff
          minor := packed >>> 12 &&& 0xffff_ff00 ||| packed &&& 0xff }) ∧
    (∀ packed < 2 ^ 64, ∀ other < 2 ^ 64, ofPacked packed = ofPacked other → packed = other) ∧
    (∀ number : DeviceNumber, number.Fits →
      let joined := (number.major &&& 0xfff) <<< 8 ||| (number.major &&& 0xffff_f000) <<< 32 |||
        (number.minor &&& 0xff) ||| (number.minor &&& 0xffff_ff00) <<< 12
      joined < 2 ^ 64 ∧ ∀ packed < 2 ^ 64, ofPacked packed = number ↔ packed = joined) ∧
    ∀ packed < 2 ^ 64, ∀ other < 2 ^ 64,
      (ofPacked packed).name = (ofPacked other).name → packed = other := by
  have injective packed (bound : packed < 2 ^ 64) other (otherBound : other < 2 ^ 64)
      (same : ofPacked packed = ofPacked other) : packed = other := by
    rw [← pack_ofPacked bound, same, pack_ofPacked otherBound]
  refine ⟨fun packed _ => ⟨fits_ofPacked packed, ofPacked_eq_or packed⟩, injective, ?_, ?_⟩
  · intro number fits joined
    have packed : number.pack = joined := pack_eq_or fits
    rw [← packed]
    exact ⟨pack_lt fits, fun word bound => ofPacked_eq_iff bound fits⟩
  · intro packed bound other otherBound same
    exact injective packed bound other otherBound (name_injective same)

theorem large_packing_bijective :
    let number : DeviceNumber := ⟨0xfedc_ba98, 0x7654_3210⟩
    number.Fits ∧ 0xfedc_b765_432a_9810 < 2 ^ 64 ∧ ofPacked 0xfedc_b765_432a_9810 = number ∧
      ∀ packed < 2 ^ 64, ofPacked packed = number → packed = 0xfedc_b765_432a_9810 := by
  obtain ⟨_, _, joined, _⟩ := packing_bijective
  have fits : (⟨0xfedc_ba98, 0x7654_3210⟩ : DeviceNumber).Fits := ⟨by decide, by decide⟩
  have stands := (joined _ fits).2
  exact ⟨fits, by decide, (stands _ (by decide)).mpr rfl,
    fun packed bound same => (stands packed bound).mp same⟩

end StorageMedia.DeviceNumber
