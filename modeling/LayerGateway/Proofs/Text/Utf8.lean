import LayerGateway.Text.Utf8

/-!
# Text read back from its bytes

The bytes of characters are read as those characters and nothing else, whatever comes behind
them.  Texts with the same bytes are therefore the same.

A character of several bytes is read lead first: the lead says how many bytes are owed, and
which of them the next may be, so that no number is read that has a shorter form or is no
character.
-/

namespace LayerGateway.Text

/-! ## Leads -/

theorem lead_one {n : Nat} (small : n ≤ 0x7F) : lead n = .inl (.char (Char.ofNat n)) := by
  rw [lead, if_pos small]

theorem lead_two : ∀ n < 32, 2 ≤ n → lead (n + 0xC0) = .inr ⟨1, 0x80, 0xBF, n, 1⟩ := by
  decide

/-- The second of three bytes says whether the number needs three, and is no surrogate. -/
theorem lead_three :
    ∀ n < 16, lead (n + 0xE0) =
      .inr ⟨2, if n = 0 then 0xA0 else 0x80, if n = 13 then 0x9F else 0xBF, n, 1⟩ := by
  decide

/-- The second of four bytes says whether the number needs four, and is not too large. -/
theorem lead_four :
    ∀ n < 5, lead (n + 0xF0) =
      .inr ⟨3, if n = 0 then 0x90 else 0x80, if n = 4 then 0x8F else 0xBF, n, 1⟩ := by
  decide

/-! ## Continuations -/

theorem symbolsFrom_next {owed low high value seen payload : Nat} (payloadSmall : payload < 64)
    (inReach : low ≤ payload + 0x80 ∧ payload + 0x80 ≤ high) (bytes : Bytes) :
    symbolsFrom (some ⟨owed + 2, low, high, value, seen⟩)
        (UInt8.ofNat (payload + 0x80) :: bytes) =
      symbolsFrom (some ⟨owed + 1, 0x80, 0xBF, value * 64 + payload, seen + 1⟩) bytes := by
  have byte : (UInt8.ofNat (payload + 0x80)).toNat = payload + 0x80 := by
    rw [UInt8.toNat_ofNat']
    omega
  rw [symbolsFrom, byte, if_pos inReach, if_neg (by simp)]
  simp

theorem symbolsFrom_last {low high value seen payload : Nat} (payloadSmall : payload < 64)
    (inReach : low ≤ payload + 0x80 ∧ payload + 0x80 ≤ high) (bytes : Bytes) :
    symbolsFrom (some ⟨1, low, high, value, seen⟩) (UInt8.ofNat (payload + 0x80) :: bytes) =
      .char (Char.ofNat (value * 64 + payload)) :: symbolsFrom none bytes := by
  have byte : (UInt8.ofNat (payload + 0x80)).toNat = payload + 0x80 := by
    rw [UInt8.toNat_ofNat']
    omega
  rw [symbolsFrom, byte, if_pos inReach, if_pos rfl]
  simp

theorem symbolsFrom_lead {n : Nat} (isByte : n < 256) (bytes : Bytes) :
    symbolsFrom none (UInt8.ofNat n :: bytes) =
      match lead n with
      | .inl symbol => symbol :: symbolsFrom none bytes
      | .inr pending => symbolsFrom (some pending) bytes := by
  have byte : (UInt8.ofNat n).toNat = n := UInt8.toNat_ofNat_of_lt' isByte
  have opened : symbolsFrom none (UInt8.ofNat n :: bytes) =
      match lead (UInt8.ofNat n).toNat with
      | .inl symbol => symbol :: symbolsFrom none bytes
      | .inr pending => symbolsFrom (some pending) bytes := rfl
  rw [opened, byte]

/-! ## Characters -/

theorem symbolsFrom_utf8EncodeChar (c : Char) (rest : Bytes) :
    symbolsFrom none (String.utf8EncodeChar c ++ rest) = .char c :: symbolsFrom none rest := by
  have valid : c.val.toNat < 0xD800 ∨ 0xDFFF < c.val.toNat ∧ c.val.toNat < 0x110000 := c.valid
  have whole : Char.ofNat c.val.toNat = c := c.ofNat_toNat
  unfold String.utf8EncodeChar
  generalize c.val.toNat = v at valid whole
  dsimp only
  -- One case for each length; the payloads of the bytes make up the number again.
  split
  next one =>
    rw [List.cons_append, symbolsFrom_lead (by omega), lead_one one, whole]
    rfl
  split
  next two =>
    simp only [List.cons_append, List.nil_append]
    rw [symbolsFrom_lead (by omega), lead_two _ (by omega) (by omega)]
    dsimp only
    rw [symbolsFrom_last (by omega) (by omega),
      show v / 64 % 0x20 * 64 + v % 0x40 = v by omega, whole]
  split
  next three =>
    simp only [List.cons_append, List.nil_append]
    rw [symbolsFrom_lead (by omega), lead_three _ (by omega)]
    dsimp only
    rw [symbolsFrom_next (by omega) (by split <;> split <;> omega),
      symbolsFrom_last (by omega) (by omega),
      show (v / 4096 % 0x10 * 64 + v / 64 % 0x40) * 64 + v % 0x40 = v by omega, whole]
  next four =>
    simp only [List.cons_append, List.nil_append]
    rw [symbolsFrom_lead (by omega), lead_four _ (by omega)]
    dsimp only
    rw [symbolsFrom_next (by omega) (by split <;> split <;> omega),
      symbolsFrom_next (by omega) (by omega), symbolsFrom_last (by omega) (by omega),
      show ((v / 262144 % 0x08 * 64 + v / 4096 % 0x40) * 64 + v / 64 % 0x40) * 64 + v % 0x40 = v
        by omega, whole]

/-- Characters are read back from their bytes. -/
theorem symbols_encodeChars (chars : List Char) :
    symbols (encodeChars chars) = chars.map .char := by
  induction chars with
  | nil => rfl
  | cons c chars ih =>
    have split : encodeChars (c :: chars) = String.utf8EncodeChar c ++ encodeChars chars :=
      List.flatMap_cons
    rw [symbols, split, symbolsFrom_utf8EncodeChar, List.map_cons, ← ih, symbols]

theorem encodeChars_injective {first second : List Char}
    (same : encodeChars first = encodeChars second) : first = second := by
  have read := congrArg symbols same
  rw [symbols_encodeChars, symbols_encodeChars] at read
  exact (List.map_inj_right fun _ _ => Symbol.char.inj).1 read

theorem mapM_char? {list : List Symbol} {chars : List Char} :
    list.mapM Symbol.char? = some chars ↔ list = chars.map .char := by
  induction list generalizing chars with
  | nil => cases chars <;> simp [pure]
  | cons symbol list ih =>
    cases symbol with
    | stray count cut => cases chars <;> simp [List.mapM_cons, Symbol.char?, bind]
    | char c =>
      have rest : (Symbol.char c :: list).mapM Symbol.char? =
          (list.mapM Symbol.char?).map (c :: ·) := by
        rw [List.mapM_cons]
        cases list.mapM Symbol.char? <;> rfl
      rw [rest, Option.map_eq_some_iff]
      constructor
      · rintro ⟨others, read, rfl⟩
        rw [ih.1 read, List.map_cons]
      · intro same
        obtain ⟨_, others, rfl, here, read⟩ := List.map_eq_cons_iff.1 same.symm
        cases here
        exact ⟨others, ih.2 read.symm, rfl⟩

theorem decode?_eq_some_iff {bytes : Bytes} {text : String} :
    decode? bytes = some text ↔ symbols bytes = symbolsOf text := by
  rw [decode?, Option.map_eq_some_iff, symbolsOf]
  constructor
  · rintro ⟨chars, read, rfl⟩
    rw [mapM_char?.1 read, String.toList_ofList]
  · intro read
    exact ⟨text.toList, mapM_char?.2 read, String.ofList_toList⟩

theorem decode?_encode (text : String) : decode? (encode text) = some text :=
  decode?_eq_some_iff.2 (symbols_encodeChars text.toList)

theorem symbolsFrom_some_ne_nil (pending : Pending) (bytes : Bytes) :
    symbolsFrom (some pending) bytes ≠ [] := by
  induction bytes generalizing pending with
  | nil => exact List.cons_ne_nil _ _
  | cons byte bytes ih =>
    rw [symbolsFrom]
    split
    · dsimp only
      split
      · exact List.cons_ne_nil _ _
      · exact ih _
    · exact List.cons_ne_nil _ _

theorem symbols_ne_nil {bytes : Bytes} (some : bytes ≠ []) : symbols bytes ≠ [] := by
  cases bytes with
  | nil => exact absurd rfl some
  | cons byte bytes =>
    rw [symbols, symbolsFrom, start]
    split
    · exact List.cons_ne_nil _ _
    · exact symbolsFrom_some_ne_nil _ _

theorem decode?_ne_empty {bytes : Bytes} (some : bytes ≠ []) : decode? bytes ≠ Option.some "" :=
  fun decoded => symbols_ne_nil some (decode?_eq_some_iff.1 decoded)

theorem lossy_encode (text : String) : lossy (encode text) = text := by
  have same : (fun symbol : Symbol => symbol.char?.getD '\ufffd') ∘ Symbol.char = id := rfl
  rw [lossy, encode, symbols_encodeChars, List.map_map, same, List.map_id, String.ofList_toList]

theorem firstFaultFrom_map_char (index : Nat) (chars : List Char) :
    firstFaultFrom index (chars.map .char) = none := by
  induction chars generalizing index with
  | nil => rfl
  | cons c chars ih => exact ih _

theorem firstFault?_encode (text : String) : firstFault? (encode text) = none := by
  rw [firstFault?, encode, symbols_encodeChars, firstFaultFrom_map_char]

theorem encode_injective {first second : String} (same : encode first = encode second) :
    first = second :=
  String.toList_injective (encodeChars_injective same)

/-! ## Bytes behind a text -/

/-- What comes behind whole characters is read as if it stood alone. -/
theorem symbolsFrom_append {pending : Option Pending} {first : Bytes} {chars : List Char}
    (read : symbolsFrom pending first = chars.map .char) (second : Bytes) :
    symbolsFrom pending (first ++ second) = chars.map .char ++ symbols second := by
  induction first generalizing pending chars with
  | nil =>
    cases pending with
    | none =>
      rw [← read]
      rfl
    | some pending =>
      -- The bytes end inside a character.
      obtain ⟨c, _, _, stray, _⟩ := List.map_eq_cons_iff.1 read.symm
      cases stray
  | cons byte bytes ih =>
    have goesOn {symbol : Symbol} (here : symbol :: symbolsFrom none bytes = chars.map .char) :
        symbol :: symbolsFrom none (bytes ++ second) = chars.map .char ++ symbols second := by
      obtain ⟨c, others, rfl, rfl, rest⟩ := List.map_eq_cons_iff.1 here.symm
      rw [ih rest.symm, List.map_cons, List.cons_append]
    rw [List.cons_append]
    cases pending with
    | none =>
      rw [symbolsFrom, start] at read ⊢
      split at read
      · exact goesOn read
      · exact ih read
    | some pending =>
      rw [symbolsFrom] at read ⊢
      dsimp only at read ⊢
      split at read
      · next inReach =>
        rw [if_pos inReach]
        split at read
        · next last =>
          rw [if_pos last]
          exact goesOn read
        · next further =>
          rw [if_neg further]
          exact ih read
      · obtain ⟨c, _, _, stray, _⟩ := List.map_eq_cons_iff.1 read.symm
        cases stray

/-- Bytes of characters that are put behind a text make it longer by these characters. -/
theorem decode?_append {bytes : Bytes} {text : String} (read : decode? bytes = some text)
    (chars : List Char) :
    decode? (bytes ++ encodeChars chars) = some (text ++ String.ofList chars) := by
  rw [decode?_eq_some_iff] at read ⊢
  rw [symbols, symbolsFrom_append read, symbols_encodeChars, symbolsOf, String.toList_append,
    String.toList_ofList, List.map_append]

/-! ## ASCII bytes -/

/-- A byte below 128 stands for the character of its number and occurs in no other. -/
theorem ascii_mem_utf8EncodeChar {n : Nat} (small : n < 0x80) (c : Char) :
    UInt8.ofNat n ∈ String.utf8EncodeChar c ↔ c = Char.ofNat n := by
  have isNumber : c = Char.ofNat n ↔ c.val.toNat = n := by
    constructor
    · rintro rfl
      rw [Char.ofNat, dif_pos (.inl (by omega))]
      rfl
    · rintro rfl
      exact c.ofNat_toNat.symm
  have valid : c.val.toNat < 0xD800 ∨ 0xDFFF < c.val.toNat ∧ c.val.toNat < 0x110000 := c.valid
  rw [isNumber]
  unfold String.utf8EncodeChar
  generalize c.val.toNat = v at valid
  dsimp only
  repeat' split
  all_goals
    simp only [List.mem_cons, List.not_mem_nil, or_false, ← UInt8.toNat_inj, UInt8.toNat_ofNat']
    omega

theorem ascii_mem_encodeChars {n : Nat} (small : n < 0x80) (chars : List Char) :
    UInt8.ofNat n ∈ encodeChars chars ↔ Char.ofNat n ∈ chars := by
  simp only [encodeChars, List.mem_flatMap, ascii_mem_utf8EncodeChar small]
  simp

end LayerGateway.Text
