/-!
# Text over raw bytes

Bytes reach the gateway from files, request bodies and stored rows, and need not
be text.  `Text.symbols` cuts any byte sequence into characters and *stray* runs,
a stray run being a longest sequence of bytes that begins no character.  From the
symbols follow the three readings the gateway uses: exact (`Text.decode?`), lossy
(`Text.lossy`, one U+FFFD per stray run), and the place of the first fault
(`Text.firstFault?`).  Where bytes that are no text have to be written down, they are
written as two hexadecimal digits each.
-/

namespace LayerGateway

/-- Bytes of a file, a body or a stored row. -/
abbrev Bytes := List UInt8

namespace Text

/-- One piece of a byte sequence read as UTF-8. -/
inductive Symbol where
  | char (c : Char)
  /-- `count` bytes that begin no character; `cut` when the sequence ends inside them. -/
  | stray (count : Nat) (cut : Bool)
  deriving DecidableEq, Repr

def Symbol.size : Symbol → Nat
  | .char c => c.utf8Size
  | .stray count _ => count

def Symbol.char? : Symbol → Option Char
  | .char c => some c
  | .stray _ _ => none

/-- A multi-byte character being read: `owed` continuation bytes are missing, the
next of them lies in `low..high`, and `seen` bytes with payload `value` were read. -/
structure Pending where
  owed : Nat
  low : Nat
  high : Nat
  value : Nat
  seen : Nat
  deriving DecidableEq, Repr

/-- What a first byte announces: a whole character, a longer one, or nothing. -/
def lead (byte : Nat) : Symbol ⊕ Pending :=
  if byte ≤ 0x7F then .inl (.char (Char.ofNat byte))
  else if byte < 0xC2 then .inl (.stray 1 false)
  else if byte ≤ 0xDF then .inr ⟨1, 0x80, 0xBF, byte - 0xC0, 1⟩
  else if byte = 0xE0 then .inr ⟨2, 0xA0, 0xBF, byte - 0xE0, 1⟩
  else if byte = 0xED then .inr ⟨2, 0x80, 0x9F, byte - 0xE0, 1⟩
  else if byte ≤ 0xEF then .inr ⟨2, 0x80, 0xBF, byte - 0xE0, 1⟩
  else if byte = 0xF0 then .inr ⟨3, 0x90, 0xBF, byte - 0xF0, 1⟩
  else if byte ≤ 0xF3 then .inr ⟨3, 0x80, 0xBF, byte - 0xF0, 1⟩
  else if byte = 0xF4 then .inr ⟨3, 0x80, 0x8F, byte - 0xF0, 1⟩
  else .inl (.stray 1 false)

/-- Puts what a first byte announces in front of the symbols of the rest. -/
def start (byte : UInt8) (rest : Option Pending → List Symbol) : List Symbol :=
  match lead byte.toNat with
  | .inl symbol => symbol :: rest none
  | .inr pending => rest (some pending)

/-- The symbols of a byte sequence that is read from inside a character, if any. -/
def symbolsFrom : Option Pending → Bytes → List Symbol
  | none, [] => []
  | some pending, [] => [.stray pending.seen true]
  | none, byte :: bytes => start byte fun next => symbolsFrom next bytes
  | some pending, byte :: bytes =>
      if pending.low ≤ byte.toNat ∧ byte.toNat ≤ pending.high then
        let value := pending.value * 64 + (byte.toNat - 0x80)
        if pending.owed = 1 then
          .char (Char.ofNat value) :: symbolsFrom none bytes
        else
          symbolsFrom (some ⟨pending.owed - 1, 0x80, 0xBF, value, pending.seen + 1⟩) bytes
      else
        .stray pending.seen false :: start byte fun next => symbolsFrom next bytes

/-- The characters and stray runs of a byte sequence, in order. -/
def symbols (bytes : Bytes) : List Symbol :=
  symbolsFrom none bytes

/-- The symbols of a text, all of them characters. -/
def symbolsOf (text : String) : List Symbol :=
  text.toList.map .char

def encodeChars (chars : List Char) : Bytes :=
  chars.flatMap String.utf8EncodeChar

def encode (text : String) : Bytes :=
  encodeChars text.toList

/-- The text of a byte sequence that holds nothing else. -/
def decode? (bytes : Bytes) : Option String :=
  ((symbols bytes).mapM Symbol.char?).map String.ofList

/-- The text of a byte sequence, each stray run replaced by U+FFFD. -/
def lossy (bytes : Bytes) : String :=
  String.ofList ((symbols bytes).map fun symbol => symbol.char?.getD '\ufffd')

/-- Where a byte sequence stops being text: `index` bytes are, the next `count` are not. -/
structure Fault where
  index : Nat
  count : Nat
  cut : Bool
  deriving DecidableEq, Repr

/-- The first stray run among symbols that start at byte `index`. -/
def firstFaultFrom (index : Nat) : List Symbol → Option Fault
  | [] => none
  | .stray count cut :: _ => some ⟨index, count, cut⟩
  | .char c :: rest => firstFaultFrom (index + c.utf8Size) rest

/-- The first place where a byte sequence is not text. -/
def firstFault? (bytes : Bytes) : Option Fault :=
  firstFaultFrom 0 (symbols bytes)

/-- The wording of a fault: a run that more bytes could complete is called incomplete. -/
def Fault.message (fault : Fault) : String :=
  if fault.cut then
    s!"incomplete utf-8 byte sequence from index {fault.index}"
  else
    s!"invalid utf-8 sequence of {fault.count} bytes from index {fault.index}"

/-! ## Hexadecimal digits -/

/-- The value of a hexadecimal digit of either case. -/
def hexDigit? (c : Char) : Option Nat :=
  if '0' ≤ c ∧ c ≤ '9' then some (c.toNat - '0'.toNat)
  else if 'a' ≤ c ∧ c ≤ 'f' then some (c.toNat - 'a'.toNat + 10)
  else if 'A' ≤ c ∧ c ≤ 'F' then some (c.toNat - 'A'.toNat + 10)
  else none

theorem hexDigit?_digitChar : ∀ d < 16, hexDigit? (Nat.digitChar d) = some d := by
  decide

def hexOfByte (byte : UInt8) : List Char :=
  [Nat.digitChar (byte.toNat / 16), Nat.digitChar (byte.toNat % 16)]

def hexOf (bytes : Bytes) : List Char :=
  bytes.flatMap hexOfByte

def ofHex? : List Char → Option Bytes
  | [] => some []
  | [_] => none
  | high :: low :: rest => do
      let h ← hexDigit? high
      let l ← hexDigit? low
      return UInt8.ofNat (h * 16 + l) :: (← ofHex? rest)

end Text

end LayerGateway
