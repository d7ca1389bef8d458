import LayerGateway.Json.Decode
import LayerGateway.Proofs.Text.Utf8

/-!
# Printed text is read

What the printer makes of a value is read as the document of that value, wherever in a text
it stands.  `Reads` says so of a text and a document, and has a rule for every kind of value;
a rule for an array or object needs only that of its items.

A number goes on until something follows that does not belong to it, so the machine is said
to be *as good as* behind a value when whatever can follow is treated alike.
-/

namespace LayerGateway.Json

open Text (Symbol)

/-! ## Strings -/

namespace TextScan

/-- Inside a string of which these characters were read, the newest first. -/
def reading (text : List Char) : TextScan :=
  ⟨.plain, text, none, none, false⟩

/-- The scan after characters that leave the string open. -/
def feed (scan : TextScan) : List Char → Option TextScan
  | [] => some scan
  | c :: rest =>
      match scan.step (.char c) with
      | .more next => next.feed rest
      | .closed _ | .broken _ => none

theorem feed_append {scan next : TextScan} {first : List Char} (fed : scan.feed first = some next)
    (second : List Char) : scan.feed (first ++ second) = next.feed second := by
  induction first generalizing scan with
  | nil =>
    cases fed
    rfl
  | cons c first ih =>
    simp only [feed, List.cons_append] at fed ⊢
    split at fed
    · next further => exact ih fed
    · cases fed
    · cases fed

theorem step_plain (text : List Char) {c : Char} (notQuote : c ≠ '"') (notBackslash : c ≠ '\\')
    (notControl : ¬ c.toNat < 0x20) :
    (reading text).step (.char c) = .more (reading (c :: text)) := by
  simp only [reading, step]
  rw [if_neg notControl]
  rfl

theorem utf8Size_digitChar : ∀ d < 16, (Nat.digitChar d).utf8Size = 1 := by
  decide

theorem step_digit (text : List Char) (missing value : Nat) {d : Nat} (small : d < 16) :
    ({ reading text with site := .hex (missing + 2) value true } : TextScan).step
        (.char (Nat.digitChar d)) =
      .more { reading text with site := .hex (missing + 1) (value * 16 + d) true } := by
  simp [step, hexStep, Symbol.char?, Symbol.size, Text.hexDigit?_digitChar d small,
    utf8Size_digitChar d small, reading]

theorem step_lastDigit (text : List Char) (value : Nat) {d : Nat} (small : d < 16)
    (low : value * 16 + d < 0xD800) :
    ({ reading text with site := .hex 1 value true } : TextScan).step
        (.char (Nat.digitChar d)) =
      .more (reading (Char.ofNat (value * 16 + d) :: text)) := by
  have notTrailing : ¬ (0xDC00 ≤ value * 16 + d ∧ value * 16 + d ≤ 0xDFFF) := by omega
  have notLeading : ¬ (0xD800 ≤ value * 16 + d ∧ value * 16 + d ≤ 0xDBFF) := by omega
  simp [step, hexStep, Symbol.char?, Symbol.size, Text.hexDigit?_digitChar d small,
    utf8Size_digitChar d small, reading, unit, notTrailing, notLeading, push]

theorem feed_control (text : List Char) {c : Char} (control : c.toNat < 0x20) :
    (reading text).feed (['\\', 'u', '0', '0'] ++ hexPair c.toNat) =
      some (reading (c :: text)) := by
  have whole : c.toNat / 16 * 16 + c.toNat % 16 = c.toNat := by omega
  have opened : (reading text).feed ['\\', 'u', '0', '0'] =
      some { reading text with site := .hex 2 0 true } := rfl
  have first := step_digit text 0 0 (show c.toNat / 16 < 16 by omega)
  have last := step_lastDigit text (c.toNat / 16) (show c.toNat % 16 < 16 by omega) (by omega)
  -- The two zeros are read as part of the escape, so that two digits are missing.
  rw [feed_append opened, hexPair, feed, first]
  simp only [Nat.zero_mul, Nat.zero_add]
  rw [feed, last, whole, Char.ofNat_toNat]
  rfl

theorem feed_escapeChar (text : List Char) (c : Char) :
    (reading text).feed (escapeChar c) = some (reading (c :: text)) := by
  have of_code {n : Nat} (code : c.toNat = n) : c = Char.ofNat n := by
    rw [← code, Char.ofNat_toNat]
  -- One case for each branch of `escapeChar`, in its order.
  unfold escapeChar
  split
  · next same =>
    subst same
    rfl
  split
  · next same =>
    subst same
    rfl
  split
  · next code => exact of_code code ▸ rfl
  split
  · next code => exact of_code code ▸ rfl
  split
  · next same =>
    subst same
    rfl
  split
  · next same =>
    subst same
    rfl
  split
  · next same =>
    subst same
    rfl
  split
  · next control => exact feed_control text control
  · next notQuote notBackslash _ _ _ _ _ notControl =>
    rw [feed, step_plain text notQuote notBackslash notControl]
    rfl

theorem feed_escaped (text chars : List Char) :
    (reading text).feed (chars.flatMap escapeChar) = some (reading (chars.reverse ++ text)) := by
  induction chars generalizing text with
  | nil => rfl
  | cons c chars ih =>
    rw [List.flatMap_cons, feed_append (feed_escapeChar text c), ih, List.reverse_cons,
      List.append_assoc]
    rfl

end TextScan

/-! ## The machine -/

namespace Machine

def run (machine : Machine) (chars : List Char) : Machine :=
  chars.foldl (fun machine c => machine.step (.char c)) machine

theorem run_cons (machine : Machine) (c : Char) (chars : List Char) :
    machine.run (c :: chars) = (machine.step (.char c)).run chars := rfl

theorem run_append (machine : Machine) (first second : List Char) :
    machine.run (first ++ second) = (machine.run first).run second :=
  List.foldl_append

theorem deliver_site (stack : List Frame) (site other : Site) (document : Document) :
    deliver ⟨stack, site⟩ document = deliver ⟨stack, other⟩ document := by
  cases stack with
  | nil => rfl
  | cons frame rest =>
    cases frame with
    | array items => rfl
    | object members key => cases key <;> rfl

/-- What can follow a value finds no difference between two machines. -/
structure AsGoodAs (machine other : Machine) : Prop where
  finish : machine.finish = other.finish
  step : ∀ c ∈ [',', ']', '\x7d'], machine.step (.char c) = other.step (.char c)

theorem AsGoodAs.of_eq {machine other : Machine} (same : machine = other) :
    machine.AsGoodAs other :=
  ⟨congrArg Machine.finish same, fun _ _ => same ▸ rfl⟩

/-- A site inside a string, which goes on with the string. -/
def GoesOn (site : TextScan → Site) : Prop :=
  ∀ {scan next : TextScan} {c : Char}, scan.step (.char c) = .more next →
    ∀ stack, step ⟨stack, site scan⟩ (.char c) = ⟨stack, site next⟩

theorem text_goesOn : GoesOn .text := fun more _ => by
  simp only [step, more]

theorem key_goesOn : GoesOn .key := fun more _ => by
  simp only [step, more]

theorem run_feed {site : TextScan → Site} (goesOn : GoesOn site) {scan next : TextScan}
    {chars : List Char} (fed : scan.feed chars = some next) (stack : List Frame) :
    run ⟨stack, site scan⟩ chars = ⟨stack, site next⟩ := by
  induction chars generalizing scan with
  | nil =>
    cases fed
    rfl
  | cons c chars ih =>
    rw [TextScan.feed] at fed
    split at fed
    · next further more => rw [run_cons, goesOn more, ih fed]
    · cases fed
    · cases fed

theorem run_escaped {site : TextScan → Site} (goesOn : GoesOn site) (text : String)
    (stack : List Frame) :
    run ⟨stack, site (.reading [])⟩ (text.toList.flatMap escapeChar) =
      ⟨stack, site (.reading text.toList.reverse)⟩ := by
  have fed := TextScan.feed_escaped [] text.toList
  rw [List.append_nil] at fed
  exact run_feed goesOn fed stack

end Machine

/-- A text is read as a document, whatever is open around it. -/
def Reads (text : List Char) (document : Document) : Prop :=
  ∀ stack first, (Machine.run ⟨stack, .value first⟩ text).AsGoodAs
    (Machine.deliver ⟨stack, .afterValue⟩ document)

/-! ## Text values -/

theorem close_reading (text : String) :
    (TextScan.reading text.toList.reverse).step (.char '"') = .closed (.ok text) := by
  have closed : (TextScan.reading text.toList.reverse).step (.char '"') =
      .closed (.ok (String.ofList text.toList.reverse.reverse)) := rfl
  rw [closed, List.reverse_reverse, String.ofList_toList]

theorem reads_stringText (text : String) : Reads (stringText text) (.string (.ok text)) := by
  intro stack first
  have opened : (⟨stack, .value first⟩ : Machine).step (.char '"') =
      ⟨stack, .text (.reading [])⟩ := rfl
  have inside := Machine.run_escaped Machine.text_goesOn text stack
  have closed : (⟨stack, .text (.reading text.toList.reverse)⟩ : Machine).step (.char '"') =
      Machine.deliver ⟨stack, .text (.reading text.toList.reverse)⟩ (.string (.ok text)) := by
    simp only [Machine.step, close_reading]
  refine .of_eq ?_
  rw [stringText, List.cons_append, Machine.run_cons, opened, Machine.run_append, inside,
    Machine.run_cons, closed]
  exact Machine.deliver_site stack _ _ _

/-! ## Arrays -/

-- The induction is on the items, of which `held` are already read; the last one is closed by
-- the bracket and every other one by its comma.
theorem run_items {α : Type} {text : α → List Char} {document : α → Document} {items : List α}
    (nonempty : items ≠ []) (reads : ∀ item ∈ items, Reads (text item) (document item))
    (held : List Document) (stack : List Frame) (first : Bool) :
    Machine.run ⟨.array held :: stack, .value first⟩ (commaSeparated (items.map text) ++ [']']) =
      Machine.deliver ⟨stack, .afterValue⟩
        (.array (held.reverse ++ items.map document) .closed) := by
  induction items generalizing held first with
  | nil => exact absurd rfl nonempty
  | cons item items ih =>
    have here := reads item List.mem_cons_self (.array held :: stack) first
    cases items with
    | nil =>
      have closed : (Machine.deliver ⟨.array held :: stack, .afterValue⟩ (document item)).step
          (.char ']') = Machine.deliver ⟨stack, .afterValue⟩
            (.array (document item :: held).reverse .closed) := rfl
      rw [List.map_singleton, commaSeparated, Machine.run_append, Machine.run_cons,
        here.step ']' (by simp), closed, List.reverse_cons]
      rfl
    | cons next items =>
      have goesOn : (Machine.deliver ⟨.array held :: stack, .afterValue⟩ (document item)).step
          (.char ',') = ⟨.array (document item :: held) :: stack, .value false⟩ := rfl
      have rest := ih (by simp) (fun other member => reads other (List.mem_cons_of_mem _ member))
        (document item :: held) false
      rw [List.map_cons, List.map_cons, commaSeparated, List.append_assoc, Machine.run_append,
        List.cons_append, Machine.run_cons, here.step ',' (by simp), goesOn, ← List.map_cons, rest,
        List.reverse_cons, List.append_assoc]
      rfl

theorem reads_arrayText {α : Type} (text : α → List Char) (document : α → Document)
    {items : List α} (reads : ∀ item ∈ items, Reads (text item) (document item)) :
    Reads (arrayText (items.map text)) (.array (items.map document) .closed) := by
  intro stack first
  refine .of_eq ?_
  cases items with
  | nil => exact Machine.deliver_site stack _ _ _
  | cons item items =>
    have opened : (⟨stack, .value first⟩ : Machine).step (.char '[') =
        ⟨.array [] :: stack, .value true⟩ := rfl
    rw [arrayText, List.cons_append, Machine.run_cons, opened, run_items (by simp) reads]
    rfl

/-! ## Objects -/

/-- A member of an object that is read as it was printed. -/
structure ReadMember where
  key : String
  text : List Char
  document : Document
  reads : Reads text document

namespace ReadMember

def printed (member : ReadMember) : List Char :=
  stringText member.key ++ ':' :: member.text

def row (member : ReadMember) : DocumentMember :=
  (.ok member.key, member.document)

theorem run_printed (member : ReadMember) (held : List DocumentMember) (stack : List Frame)
    (first : Bool) :
    (Machine.run ⟨.object held none :: stack, .beforeKey first⟩ member.printed).AsGoodAs
      ⟨.object (member.row :: held) none :: stack, .afterValue⟩ := by
  have opened : (⟨.object held none :: stack, .beforeKey first⟩ : Machine).step (.char '"') =
      ⟨.object held none :: stack, .key (.reading [])⟩ := rfl
  have inside := Machine.run_escaped Machine.key_goesOn member.key (.object held none :: stack)
  have closed : (⟨.object held none :: stack, .key (.reading member.key.toList.reverse)⟩ :
      Machine).step (.char '"') = ⟨.object held none :: stack, .beforeColon (.ok member.key)⟩ := by
    simp only [Machine.step, close_reading]
  have named : Machine.run ⟨.object held none :: stack, .beforeKey first⟩ member.printed =
      Machine.run ⟨.object held (some (.ok member.key)) :: stack, .value false⟩ member.text := by
    rw [printed, stringText, List.cons_append, List.cons_append, Machine.run_cons, opened,
      List.append_assoc, Machine.run_append, inside, List.singleton_append, Machine.run_cons,
      closed]
    rfl
  rw [named]
  exact member.reads (.object held (some (.ok member.key)) :: stack) false

end ReadMember

-- The induction is on the members, of which `held` are already read; the last one is closed by
-- the brace and every other one by its comma.
theorem run_members {members : List ReadMember} (nonempty : members ≠ [])
    (held : List DocumentMember) (stack : List Frame) (first : Bool) :
    Machine.run ⟨.object held none :: stack, .beforeKey first⟩
        (commaSeparated (members.map ReadMember.printed) ++ ['\x7d']) =
      Machine.deliver ⟨stack, .afterValue⟩
        (.object (held.reverse ++ members.map ReadMember.row) .closed) := by
  induction members generalizing held first with
  | nil => exact absurd rfl nonempty
  | cons member members ih =>
    have here := member.run_printed held stack first
    cases members with
    | nil =>
      have closed : (⟨.object (member.row :: held) none :: stack, .afterValue⟩ : Machine).step
          (.char '\x7d') = Machine.deliver ⟨stack, .afterValue⟩
            (.object (member.row :: held).reverse .closed) := rfl
      rw [List.map_singleton, commaSeparated, Machine.run_append, Machine.run_cons,
        here.step '\x7d' (by simp), closed, List.reverse_cons]
      rfl
    | cons next members =>
      have goesOn : (⟨.object (member.row :: held) none :: stack, .afterValue⟩ : Machine).step
          (.char ',') = ⟨.object (member.row :: held) none :: stack, .beforeKey false⟩ := rfl
      have rest := ih (by simp) (member.row :: held) false
      rw [List.map_cons, List.map_cons, commaSeparated, List.append_assoc, Machine.run_append,
        List.cons_append, Machine.run_cons, here.step ',' (by simp), goesOn, ← List.map_cons,
        rest, List.reverse_cons, List.append_assoc]
      rfl

theorem reads_objectText (members : List ReadMember) :
    Reads (objectText (members.map fun member => (member.key, member.text)))
      (.object (members.map ReadMember.row) .closed) := by
  intro stack first
  refine .of_eq ?_
  cases members with
  | nil => exact Machine.deliver_site stack _ _ _
  | cons member members =>
    have opened : (⟨stack, .value first⟩ : Machine).step (.char '\x7b') =
        ⟨.object [] none :: stack, .beforeKey true⟩ := rfl
    rw [objectText, List.cons_append, Machine.run_cons, opened, List.map_map]
    exact run_members (by simp) [] stack true

/-! ## Whole texts -/

/-- A text that is read as a document is that document when it stands alone. -/
theorem Reads.ofBytes {text : List Char} {document : Document} (reads : Reads text document) :
    Source.ofBytes (Text.encodeChars text) = ⟨document, false⟩ := by
  have whole := (reads [] false).finish
  rw [Source.ofBytes, Source.ofSymbols, Text.symbols_encodeChars, List.foldl_map]
  exact whole

theorem Reads.ofText {text : List Char} {document : Document} (reads : Reads text document) :
    Source.ofText (String.ofList text) = ⟨document, false⟩ := by
  rw [← reads.ofBytes, Source.ofText, Source.ofBytes, Text.symbols_encodeChars, Text.symbolsOf,
    String.toList_ofList]

end LayerGateway.Json
