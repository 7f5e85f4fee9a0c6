import Mathlib.Algebra.Order.Ring.Nat
import RemainderService.Wire.Grammar

/-!
# What is read is spelled

The readers of numbers, keys and doubles and the grammar say the same. **Completeness**: a spelling
is read as what it spells, and whatever stands behind it is handed back. **Soundness**: what is read
is spelled by the bytes in front of the rest. Both together are one equivalence for each reader
(`Varint.read_eq_ok_iff`, `Key.read_eq_ok_iff`, `readDouble_eq_ok_iff`). The writers spell
(`Varint.spells_write`, `Key.spellsKey_write`), so what they write is read back.

Each statement carries an arbitrary rest. That makes them compose: a reader of several things in a
row needs no more than the statement for each of them. It also tells which faults are final: a key
that is read as faulty stays so when more bytes follow, unless its number was broken off
(`Key.read_append_of_error`).
-/

set_option autoImplicit false

namespace RemainderService.Wire

/-! ## Numbers -/

/-- A spelling has at least one byte. -/
theorem Spelling.ne_nil {room n : Nat} {bytes : List UInt8} (spelling : Spelling room bytes n) :
    bytes ≠ [] := by
  cases spelling <;> exact List.cons_ne_nil _ _

namespace Varint

/-- **A spelling is read as the number that it spells**, whatever stands behind it. -/
theorem readWithin_of_spelling {room n : Nat} {bytes : List UInt8}
    (spelling : Spelling room bytes n) (rest : List UInt8) :
    readWithin room (bytes ++ rest) = .ok (n, rest) := by
  induction spelling with
  | last low fits =>
    rw [List.cons_append, List.nil_append, readWithin, if_pos low, if_neg]
    rintro ⟨tenth, large⟩
    have := fits tenth
    omega
  | more continues later ih =>
    rw [List.cons_append, readWithin, if_neg (by omega), ih]

/-- A spelling of a number as it stands in a message is read as that number. -/
theorem read_of_spells {n : Nat} {bytes : List UInt8} (spells : Spells bytes n)
    (rest : List UInt8) : read (bytes ++ rest) = .ok (n, rest) :=
  readWithin_of_spelling spells rest

/-- **What is read as a number** is spelled by the bytes in front of the rest. -/
theorem spelling_of_readWithin {room n : Nat} {bytes rest : List UInt8}
    (read : readWithin room bytes = .ok (n, rest)) :
    ∃ used, bytes = used ++ rest ∧ Spelling room used n := by
  induction room generalizing bytes n with
  | zero => cases read
  | succ room ih =>
    cases bytes with
    | nil => cases read
    | cons b tail =>
      rw [readWithin] at read
      split at read
      · next low =>
        split at read
        · cases read
        · next fits =>
          cases read
          exact ⟨[b], rfl, .last low fun tenth => by omega⟩
      · next continues =>
        split at read
        · next high rest later =>
          cases read
          obtain ⟨used, rfl, spelling⟩ := ih later
          exact ⟨b :: used, rfl, .more (by omega) spelling⟩
        · cases read

/-- **A number is read** exactly where it is spelled. -/
theorem read_eq_ok_iff {n : Nat} {bytes rest : List UInt8} :
    read bytes = .ok (n, rest) ↔ ∃ used, bytes = used ++ rest ∧ Spells used n := by
  constructor
  · exact spelling_of_readWithin
  · rintro ⟨used, rfl, spells⟩
    exact read_of_spells spells rest

/-- Bytes that are not read as a number have one fault, whether they are too many or too few. -/
theorem fault_of_readWithin {room : Nat} {bytes : List UInt8} {fault : WireFault}
    (failed : readWithin room bytes = .error fault) : fault = .invalidVarint := by
  induction room generalizing bytes with
  | zero => cases failed; rfl
  | succ room ih =>
    cases bytes with
    | nil => cases failed; rfl
    | cons b tail =>
      rw [readWithin] at failed
      split at failed
      · split at failed
        · cases failed; rfl
        · cases failed
      · split at failed
        · cases failed
        · next later => cases failed; exact ih later

/-- A number of seven bits is spelled by one byte. The tenth byte of a spelling holds one bit. -/
theorem spelling_single {room n : Nat} (low : n < 128) (fits : room = 0 → n ≤ 1) :
    Spelling (room + 1) [UInt8.ofNat n] n := by
  have byte : (UInt8.ofNat n).toNat = n := by
    rw [UInt8.toNat_ofNat', Nat.mod_eq_of_lt (by omega)]
  have last : Spelling (room + 1) [UInt8.ofNat n] (UInt8.ofNat n).toNat :=
    .last (by omega) (by rwa [byte])
  rwa [byte] at last

/-- Seven bits are put in front of a spelling by one byte. -/
theorem spelling_cons {room n high : Nat} {bytes : List UInt8} (low : n < 128)
    (later : Spelling room bytes high) :
    Spelling (room + 1) (UInt8.ofNat (n + 128) :: bytes) (n + 128 * high) := by
  have byte : (UInt8.ofNat (n + 128)).toNat = n + 128 := by
    rw [UInt8.toNat_ofNat', Nat.mod_eq_of_lt (by omega)]
  have more : Spelling (room + 1) (UInt8.ofNat (n + 128) :: bytes)
      ((UInt8.ofNat (n + 128)).toNat - 128 + 128 * high) :=
    .more (by omega) later
  rwa [byte, Nat.add_sub_cancel] at more

/-- The shortest spelling of a number is a spelling, if there is room for its bytes. -/
theorem spelling_write (room n : Nat) (small : n < 2 * 128 ^ room) :
    Spelling (room + 1) (write n) n := by
  induction room generalizing n with
  | zero =>
    rw [pow_zero, Nat.mul_one] at small
    rw [write, if_pos (by omega)]
    exact spelling_single (by omega) fun _ => by omega
  | succ room ih =>
    rw [write]
    by_cases single : n < 128
    · rw [if_pos single]
      exact spelling_single single nofun
    · have high : n / 128 < 2 * 128 ^ room := by
        rw [pow_succ] at small
        omega
      have more := spelling_cons (Nat.mod_lt n (by decide : 128 > 0)) (ih (n / 128) high)
      rw [if_neg single]
      rwa [Nat.mod_add_div] at more

/-- The shortest spelling of a 64-bit number spells it. -/
theorem spells_write {n : Nat} (small : n < 18446744073709551616) : Spells (write n) n :=
  spelling_write 9 n small

end Varint

/-! ## Keys -/

namespace Key

/-- A value that is no larger than it may be, with a number other than 0, is that of its key. -/
theorem ofValue_value {key : Key} (small : key.value ≤ maxValue) (positive : 0 < key.number) :
    ofValue key.value = .ok key := by
  have bound : key.wireType.number < 8 := by cases key.wireType <;> decide
  have layout : key.value % 8 = key.wireType.number := by rw [value]; omega
  have number : key.value / 8 = key.number := by rw [value]; omega
  rw [ofValue, if_neg (Nat.not_lt.mpr small), layout, number, WireType.ofNumber?_number]
  exact if_neg (Nat.ne_of_gt positive)

/-- **A spelling of a key is read as that key**, whatever stands behind it. -/
theorem read_of_spellsKey {key : Key} {bytes : List UInt8} (spells : SpellsKey bytes key)
    (rest : List UInt8) : read (bytes ++ rest) = .ok (key, rest) := by
  simp only [read, Varint.read_of_spells spells.spells rest,
    ofValue_value spells.value_le spells.number_pos]

/-- A value stands for a key exactly if it is the value of that key, it is no larger than it may be,
and the number is not 0. -/
theorem ofValue_eq_ok_iff {value : Nat} {key : Key} :
    ofValue value = .ok key ↔ value = key.value ∧ value ≤ maxValue ∧ 0 < key.number := by
  constructor
  · intro found
    rw [ofValue] at found
    split at found
    · cases found
    · next small =>
      split at found
      · cases found
      · next layout known =>
        split at found
        · cases found
        · next nonzero =>
          cases found
          have number := WireType.number_of_ofNumber? known
          refine ⟨?_, Nat.not_lt.mp small, Nat.pos_of_ne_zero nonzero⟩
          show value = 8 * (value / 8) + layout.number
          rw [number]
          omega
  · rintro ⟨rfl, small, positive⟩
    exact ofValue_value small positive

/-- **A key is read** exactly where it is spelled. -/
theorem read_eq_ok_iff {key : Key} {bytes rest : List UInt8} :
    read bytes = .ok (key, rest) ↔ ∃ used, bytes = used ++ rest ∧ SpellsKey used key := by
  constructor
  · intro found
    rw [read] at found
    split at found
    · cases found
    · next value content number =>
      split at found
      · cases found
      · next known =>
        cases found
        obtain ⟨used, rfl, spells⟩ := Varint.read_eq_ok_iff.mp number
        obtain ⟨rfl, small, positive⟩ := ofValue_eq_ok_iff.mp known
        exact ⟨used, rfl, spells, small, positive⟩
  · rintro ⟨used, rfl, spells⟩
    exact read_of_spellsKey spells rest

/-- **A key that is read as faulty stays so**, whatever stands behind it. Only a number that is
broken off may be completed. -/
theorem read_append_of_error {bytes : List UInt8} {fault : WireFault}
    (failed : read bytes = .error fault) (whole : fault ≠ .invalidVarint) (more : List UInt8) :
    read (bytes ++ more) = .error fault := by
  rw [read] at failed
  split at failed
  · next broken =>
    cases failed
    exact absurd (Varint.fault_of_readWithin broken) whole
  · next value content number =>
    split at failed
    · next faulty =>
      cases failed
      obtain ⟨used, rfl, spells⟩ := Varint.read_eq_ok_iff.mp number
      simp only [read, List.append_assoc, Varint.read_of_spells spells, faulty]
    · cases failed

/-- What is written for a key spells it. -/
theorem spellsKey_write {key : Key} (small : key.value ≤ maxValue) (positive : 0 < key.number) :
    SpellsKey key.write key where
  spells := Varint.spells_write (by rw [maxValue] at small; omega)
  value_le := small
  number_pos := positive

end Key

/-! ## Doubles -/

/-- As many bytes of a number are written as are asked for. -/
theorem length_lowBytes (count n : Nat) : (lowBytes count n).length = count := by
  induction count generalizing n with
  | zero => rfl
  | succ count ih => rw [lowBytes, List.length_cons, ih]

/-- The low bytes of a number that has no others are read as that number. -/
theorem littleEndian_lowBytes (count n : Nat) (small : n < 256 ^ count) :
    littleEndian (lowBytes count n) = n := by
  induction count generalizing n with
  | zero =>
    rw [pow_zero] at small
    rw [lowBytes, littleEndian]
    omega
  | succ count ih =>
    have high : n / 256 < 256 ^ count := by
      rw [pow_succ] at small
      omega
    have low : (UInt8.ofNat (n % 256)).toNat = n % 256 := by
      rw [UInt8.toNat_ofNat', Nat.mod_eq_of_lt (by omega)]
    rw [lowBytes, littleEndian, ih _ high, low]
    omega

/-- A double has eight bytes. -/
theorem length_doubleBytes (x : Binary64) : (doubleBytes x).length = 8 :=
  length_lowBytes 8 _

/-- **The bytes of a double are read as that double**, whatever stands behind them. -/
theorem readDouble_doubleBytes (x : Binary64) (rest : List UInt8) :
    readDouble (doubleBytes x ++ rest) = .ok (x, rest) := by
  have length : (doubleBytes x).length = 8 := length_doubleBytes x
  have enough : ¬ (doubleBytes x ++ rest).length < 8 := by rw [List.length_append]; omega
  have bits : littleEndian (doubleBytes x) = x.bits.toNat :=
    littleEndian_lowBytes 8 _ x.bits.toNat_lt
  rw [readDouble, if_neg enough, List.take_left' length, List.drop_left' length, bits,
    UInt64.ofNat_toNat]

/-- A number of so many bytes is below that power of 256. -/
theorem littleEndian_lt (bytes : List UInt8) : littleEndian bytes < 256 ^ bytes.length := by
  induction bytes with
  | nil => decide
  | cons b rest ih =>
    have := b.toNat_lt
    rw [littleEndian, List.length_cons, pow_succ]
    omega

/-- The low bytes of a number are the bytes that it was read from. -/
theorem lowBytes_littleEndian (bytes : List UInt8) :
    lowBytes bytes.length (littleEndian bytes) = bytes := by
  induction bytes with
  | nil => rfl
  | cons b rest ih =>
    have low := b.toNat_lt
    have first : (b.toNat + 256 * littleEndian rest) % 256 = b.toNat := by omega
    have others : (b.toNat + 256 * littleEndian rest) / 256 = littleEndian rest := by omega
    rw [littleEndian, List.length_cons, lowBytes, first, others, ih, UInt8.ofNat_toNat]

/-- **Any eight bytes are those of a double.** -/
theorem exists_doubleBytes {bytes : List UInt8} (eight : bytes.length = 8) :
    ∃ value, bytes = doubleBytes value := by
  refine ⟨⟨UInt64.ofNat (littleEndian bytes)⟩, ?_⟩
  have same := lowBytes_littleEndian bytes
  have small : littleEndian bytes < 2 ^ 64 :=
    Nat.lt_of_lt_of_eq (littleEndian_lt bytes) (by rw [eight]; decide)
  rw [eight] at same
  rw [doubleBytes, UInt64.toNat_ofNat', Nat.mod_eq_of_lt small, same]

/-- **A double is read** exactly where its bytes stand. -/
theorem readDouble_eq_ok_iff {value : Binary64} {bytes rest : List UInt8} :
    readDouble bytes = .ok (value, rest) ↔ bytes = doubleBytes value ++ rest := by
  constructor
  · intro found
    by_cases short : bytes.length < 8
    · rw [readDouble, if_pos short] at found
      cases found
    · have parts := List.take_append_drop 8 bytes
      obtain ⟨other, same⟩ := exists_doubleBytes (List.length_take_of_le (Nat.not_lt.mp short))
      rw [← parts, same, readDouble_doubleBytes] at found
      cases found
      rw [← same, parts]
  · rintro rfl
    exact readDouble_doubleBytes value rest

end RemainderService.Wire
