import RemainderService.Percent

/-!
# Escaped texts

An escaped text is a header value, so it has to be made of letters that a header may have, and a
reader has to get the text back from it. Texts quote what a client sent, and a client may send what
looks escaped: that such a text comes back unchanged rests on the percent sign being escaped itself.

**What an escaped text looks like** (`Spelled`) is a grammar without bytes: letters that stand for
themselves, and percent signs with two digits behind each. **What it means** is read off the bytes
(`unescapeBytes?_escapeBytes`), and both readings are one induction over the bytes of the text. They
meet in `Carries`, which holds between every text and its escaped form (`carries_escape`).
-/

set_option autoImplicit false

namespace RemainderService.Percent

/-! ## Letters -/

/-- The letter whose number is this byte. -/
def letter (b : UInt8) : Char :=
  Char.ofNat b.toNat

/-- The digits in an escape. -/
def hexDigits : List Char := "0123456789ABCDEF".toList

/-- The printable letters that are always escaped, without the percent sign. -/
def reserved : List Char := "\"#<>`?\x7b\x7d".toList

/-- A letter that a header value may have: printable, no space, and none that is always escaped. -/
def Visible (c : Char) : Prop :=
  0x21 ≤ c.toNat ∧ c.toNat ≤ 0x7e ∧ c ∉ reserved

/-- Whether a letter is visible can be evaluated. -/
instance (c : Char) : Decidable (Visible c) :=
  inferInstanceAs (Decidable (_ ∧ _ ∧ _))

/-- What holds of the bytes below 128 one by one holds of all of them. -/
theorem forall_ascii {p : UInt8 → Prop} (each : ∀ n < 0x80, p (UInt8.ofNat n)) (b : UInt8)
    (ascii : b.toNat < 0x80) : p b := by
  have holds := each b.toNat ascii
  rwa [UInt8.ofNat_toNat] at holds

/-- A byte that stands for itself is below 128. -/
theorem ascii_of_isPlain {b : UInt8} (plain : isPlain b = true) : b.toNat < 0x80 := by
  unfold isPlain at plain
  simp only [Bool.and_eq_true, decide_eq_true_eq] at plain
  omega

/-- A byte that stands for itself is a visible letter, and no percent sign. -/
theorem visible_of_isPlain : ∀ b : UInt8, b.toNat < 0x80 → isPlain b = true →
    Visible (letter b) ∧ letter b ≠ '%' :=
  forall_ascii (by decide +kernel)

/-- A letter below 128 is one byte. -/
theorem utf8EncodeChar_letter : ∀ b : UInt8, b.toNat < 0x80 →
    String.utf8EncodeChar (letter b) = [b] :=
  forall_ascii (by decide +kernel)

/-- A digit is a visible letter. -/
theorem visible_of_mem_hexDigits {c : Char} (mem : c ∈ hexDigits) : Visible c ∧ c ≠ '%' := by
  have each : hexDigits.all (fun c => decide (Visible c ∧ c ≠ '%')) = true := by decide
  exact of_decide_eq_true (List.all_eq_true.mp each c mem)

/-- The digit of a number is one of the sixteen, and it is read as the number. -/
theorem digit_spec : ∀ n < 16,
    (digit n).toNat < 0x80 ∧ letter (digit n) ∈ hexDigits ∧ digitValue? (digit n) = some n := by
  decide

/-- The two halves of a byte are numbers of digits. -/
theorem halves_lt (b : UInt8) : b.toNat / 16 < 16 ∧ b.toNat % 16 < 16 := by
  have below : b.toNat < 256 := b.toNat_lt
  omega

/-- Bytes are escaped one by one. -/
theorem escapeBytes_cons (b : UInt8) (rest : List UInt8) :
    escapeBytes (b :: rest) = escapeByte b ++ escapeBytes rest :=
  rfl

/-! ## The look of an escaped text -/

/-- **What escaped texts are made of**: visible letters that stand for themselves, and percent signs
with two digits behind each. -/
inductive Spelled : List Char → Prop
  | nil : Spelled []
  | plain {c : Char} {later : List Char} (visible : Visible c) (other : c ≠ '%')
      (spelled : Spelled later) : Spelled (c :: later)
  | escaped {high low : Char} {later : List Char} (first : high ∈ hexDigits)
      (second : low ∈ hexDigits) (spelled : Spelled later) : Spelled ('%' :: high :: low :: later)

/-- Every letter of an escaped text is visible. -/
theorem Spelled.visible {value : List Char} (spelled : Spelled value) : ∀ c ∈ value, Visible c := by
  induction spelled with
  | nil =>
    intro c mem
    cases mem
  | plain visible _ _ ih => exact List.forall_mem_cons.mpr ⟨visible, ih⟩
  | escaped first second _ ih =>
    have percent : Visible '%' := by decide
    exact List.forall_mem_cons.mpr ⟨percent, List.forall_mem_cons.mpr
      ⟨(visible_of_mem_hexDigits first).1, List.forall_mem_cons.mpr
        ⟨(visible_of_mem_hexDigits second).1, ih⟩⟩⟩

/-- Behind every percent sign of an escaped text stand two digits. -/
theorem Spelled.digits {value : List Char} (spelled : Spelled value) :
    ∀ before after : List Char, value = before ++ '%' :: after →
      ∃ high ∈ hexDigits, ∃ low ∈ hexDigits, ∃ rest, after = high :: low :: rest := by
  induction spelled with
  | nil =>
    intro before after parts
    simp at parts
  | plain visible other _ ih =>
    intro before after parts
    cases before with
    | nil =>
      injection parts with percent
      exact absurd percent other
    | cons c before =>
      injection parts with _ later
      exact ih before after later
  | @escaped high low later first second _ ih =>
    intro before after parts
    have highOther := (visible_of_mem_hexDigits first).2
    have lowOther := (visible_of_mem_hexDigits second).2
    -- The sign is in front, or behind the digits; a digit is none.
    match before with
    | [] =>
      injection parts with _ behind
      exact ⟨high, first, low, second, later, behind.symm⟩
    | [_] =>
      injection parts with _ behind
      injection behind with percent
      exact absurd percent highOther
    | [_, _] =>
      injection parts with _ behind
      injection behind with _ behind
      injection behind with percent
      exact absurd percent lowOther
    | _ :: _ :: _ :: before =>
      injection parts with _ behind
      injection behind with _ behind
      injection behind with _ behind
      exact ih before after behind

/-- Escaped bytes are an escaped text. -/
theorem spelled_escapeBytes (bytes : List UInt8) : Spelled ((escapeBytes bytes).map letter) := by
  induction bytes with
  | nil => exact .nil
  | cons b rest ih =>
    rw [escapeBytes_cons, List.map_append, escapeByte]
    split
    · next plain =>
      obtain ⟨visible, other⟩ := visible_of_isPlain b (ascii_of_isPlain plain) plain
      exact .plain visible other ih
    · obtain ⟨high, low⟩ := halves_lt b
      exact .escaped (digit_spec _ high).2.1 (digit_spec _ low).2.1 ih

/-! ## The bytes behind an escaped text -/

/-- The percent sign does not stand for itself. -/
theorem ne_percent_of_isPlain {b : UInt8} (plain : isPlain b = true) : b ≠ 0x25 := by
  rintro rfl
  cases plain

/-- **One escaped byte** is read back, and the reader goes on behind it. -/
theorem unescapeBytes?_escapeByte_append (b : UInt8) (rest : List UInt8) :
    unescapeBytes? (escapeByte b ++ rest) = (unescapeBytes? rest).map (b :: ·) := by
  unfold escapeByte
  split
  · next plain =>
    rw [List.singleton_append, unescapeBytes?.eq_def]
    exact if_neg (ne_percent_of_isPlain plain)
  · obtain ⟨high, low⟩ := halves_lt b
    have whole : UInt8.ofNat (16 * (b.toNat / 16) + b.toNat % 16) = b := by
      rw [Nat.div_add_mod, UInt8.ofNat_toNat]
    have first := (digit_spec _ high).2.2
    have second := (digit_spec _ low).2.2
    simp only [List.cons_append, List.nil_append, unescapeBytes?, if_pos, first, second,
      Option.bind_eq_bind, Option.bind_some, Option.pure_def, whole, Option.map_eq_bind]
    rfl

/-- Escaped bytes are read back. -/
theorem unescapeBytes?_escapeBytes (bytes : List UInt8) :
    unescapeBytes? (escapeBytes bytes) = some bytes := by
  induction bytes with
  | nil => rfl
  | cons b rest ih =>
    rw [escapeBytes_cons, unescapeBytes?_escapeByte_append, ih, Option.map_some]

/-- Escaped bytes are letters of one byte. -/
theorem ascii_escapeBytes (bytes : List UInt8) : ∀ b ∈ escapeBytes bytes, b.toNat < 0x80 := by
  intro b mem
  obtain ⟨source, -, mem⟩ := List.mem_flatMap.mp mem
  unfold escapeByte at mem
  split at mem
  · next plain =>
    rw [List.mem_singleton.mp mem]
    exact ascii_of_isPlain plain
  · obtain ⟨high, low⟩ := halves_lt source
    simp only [List.mem_cons, List.not_mem_nil, or_false] at mem
    rcases mem with rfl | rfl | rfl
    · decide
    · exact (digit_spec _ high).1
    · exact (digit_spec _ low).1

/-- Letters below 128 are the bytes of their text. -/
theorem textBytes_letters {bytes : List UInt8} (ascii : ∀ b ∈ bytes, b.toNat < 0x80) :
    textBytes (String.ofList (bytes.map letter)) = bytes := by
  have encoded : (bytes.map letter).flatMap String.utf8EncodeChar = bytes := by
    induction bytes with
    | nil => rfl
    | cons b rest ih =>
      obtain ⟨one, others⟩ := List.forall_mem_cons.mp ascii
      rw [List.map_cons, List.flatMap_cons, utf8EncodeChar_letter b one, ih others,
        List.singleton_append]
  rw [textBytes, String.toUTF8_eq_toByteArray, String.toByteArray_ofList, List.utf8Encode, encoded]
  simp

/-- The bytes of a text are read as the text. -/
theorem fromUTF8?_textBytes (text : String) :
    String.fromUTF8? ⟨(textBytes text).toArray⟩ = some text := by
  have bytes : (⟨(textBytes text).toArray⟩ : ByteArray) = text.toByteArray := by
    rw [textBytes, Array.toArray_toList]
    rfl
  rw [bytes, String.fromUTF8?, dif_pos text.isValidUTF8]
  rfl

/-- **The bytes of a text** are read back from its escaped form. -/
theorem unescape?_escape (text : String) : unescape? (escape text) = some (textBytes text) := by
  have written : escape text = String.ofList ((escapeBytes (textBytes text)).map letter) := rfl
  rw [unescape?, written, textBytes_letters (ascii_escapeBytes _), unescapeBytes?_escapeBytes]

/-- Different texts have different escaped forms. -/
theorem escape_injective {text other : String} (same : escape text = escape other) :
    text = other := by
  have bytes : some (textBytes text) = some (textBytes other) := by
    rw [← unescape?_escape, ← unescape?_escape, same]
  have read := fromUTF8?_textBytes text
  rw [Option.some.inj bytes, fromUTF8?_textBytes] at read
  exact (Option.some.inj read).symm

/-! ## Carrying -/

/-- **A header value carries a text**: it is made of visible letters, behind every percent sign
stand two digits, and it is read as the bytes of the text. -/
structure Carries (value text : String) : Prop where
  visible : ∀ c ∈ value.toList, Visible c
  digits : ∀ before after : List Char, value.toList = before ++ '%' :: after →
    ∃ high ∈ hexDigits, ∃ low ∈ hexDigits, ∃ rest, after = high :: low :: rest
  decoded : unescape? value = some (textBytes text)

/-- The escaped form of a text carries it. -/
theorem carries_escape (text : String) : Carries (escape text) text := by
  have spelled : Spelled (escape text).toList := by
    rw [escape, String.toList_ofList]
    exact spelled_escapeBytes (textBytes text)
  exact ⟨spelled.visible, spelled.digits, unescape?_escape text⟩

end RemainderService.Percent
