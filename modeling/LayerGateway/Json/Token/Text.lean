import LayerGateway.Json.Error
import LayerGateway.Text.Utf8

/-!
# Scanning a JSON string

A string is scanned one symbol at a time up to its closing quote.  Some faults end
the scan at once: a control character, an unknown escape, the end of the text.
Others leave the string whole but without a readable value: a surrogate without
its partner, bytes that are no UTF-8.  The scan remembers the first of these and
goes on, because a string that is skipped need not be readable.
-/

namespace LayerGateway.Json

open Text (Symbol hexDigit?)

/-- Where a scan stands inside a string.  `hex` counts the bytes of the four digits
that are still to come, with their value so far and whether all were digits. -/
inductive TextSite where
  | plain
  | escape
  | hex (missing : Nat) (value : Nat) (valid : Bool)
  deriving DecidableEq, Repr

/-- A string as far as it has been read, its characters newest first; `lead` is a
leading surrogate that waits for its partner. -/
structure TextScan where
  site : TextSite
  text : List Char
  lead : Option Nat
  fault : Option GrammarError
  stray : Bool
  deriving DecidableEq, Repr

/-- What a symbol does to a scan: the string goes on, it is closed, or it is broken. -/
inductive TextStep where
  | more (scan : TextScan)
  | closed (text : Except GrammarError String)
  | broken (cause : GrammarError)

/-- The character that an escape other than `\u` stands for. -/
def unescape? (c : Char) : Option Char :=
  if c = '"' ∨ c = '\\' ∨ c = '/' then some c
  else if c = 'b' then some '\x08'
  else if c = 'f' then some '\x0c'
  else if c = 'n' then some '\n'
  else if c = 'r' then some '\r'
  else if c = 't' then some '\t'
  else none

namespace TextScan

def start : TextScan :=
  ⟨.plain, [], none, none, false⟩

/-- Remembers a fault unless there was one before. -/
def blame (scan : TextScan) (fault : GrammarError) : TextScan :=
  { scan with fault := scan.fault <|> some fault, lead := none }

/-- Gives up on a leading surrogate that has not found its partner. -/
def dropLead (scan : TextScan) : TextScan :=
  if scan.lead.isSome then scan.blame .surrogateCutShort else scan

def push (scan : TextScan) (c : Char) : TextScan :=
  { scan with site := .plain, text := c :: scan.text }

/-- The scan after the unit of a `\u` escape: a character, a leading surrogate, or
the partner of one. -/
def unit (scan : TextScan) (value : Nat) : TextScan :=
  let scan := { scan with site := .plain }
  let trailing := 0xDC00 ≤ value ∧ value ≤ 0xDFFF
  match scan.lead with
  | some lead =>
      if trailing then
        { scan with lead := none }.push
          (Char.ofNat (0x10000 + (lead - 0xD800) * 0x400 + (value - 0xDC00)))
      else scan.blame .loneSurrogate
  | none =>
      if trailing then scan.blame .loneSurrogate
      else if 0xD800 ≤ value ∧ value ≤ 0xDBFF then
        if scan.fault.isSome then scan else { scan with lead := some value }
      else scan.push (Char.ofNat value)

/-- The value of the string when its closing quote has been read. -/
def close (scan : TextScan) : Except GrammarError String :=
  match scan.fault with
  | some fault => .error fault
  | none => if scan.stray then .error .badUnicode else .ok (String.ofList scan.text.reverse)

/-- One symbol of the four digits after `\u`, counted in bytes. -/
def hexStep (scan : TextScan) (missing value : Nat) (valid : Bool) (symbol : Symbol) : TextStep :=
  let (value, valid) :=
    match symbol.char?.bind hexDigit? with
    | some d => (value * 16 + d, valid)
    | none => (value, false)
  let missing := missing - symbol.size
  if missing ≠ 0 then .more { scan with site := .hex missing value valid }
  else if valid then .more (scan.unit value)
  else .broken .badEscape

def step (scan : TextScan) (symbol : Symbol) : TextStep :=
  match scan.site, symbol with
  | .plain, .char '"' => .closed scan.dropLead.close
  | .plain, .char '\\' => .more { scan with site := .escape }
  | .plain, .char c =>
      if c.toNat < 0x20 then .broken .controlCharacter else .more (scan.dropLead.push c)
  | .plain, .stray _ _ => .more { scan.dropLead with stray := true }
  | .escape, .char 'u' => .more { scan with site := .hex 4 0 true }
  | .escape, .char c =>
      match unescape? c with
      | some c => .more (scan.dropLead.push c)
      | none => .broken .badEscape
  | .escape, .stray _ _ => .broken .badEscape
  | .hex missing value valid, symbol => scan.hexStep missing value valid symbol

/-- Why the string cannot be read when the scan breaks off for `cause` where it stands.
A surrogate without its partner, or an earlier fault, comes before. -/
def readCause (scan : TextScan) (cause : GrammarError) : GrammarError :=
  match scan.fault with
  | some fault => fault
  | none =>
      match scan.site, scan.lead, cause with
      | _, none, _ => cause
      | .hex _ _ _, some _, _ => cause
      | _, some _, .endInString => cause
      | _, some _, _ => .surrogateCutShort

end TextScan

end LayerGateway.Json
