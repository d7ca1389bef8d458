import LayerGateway.Proofs.Json.Nesting
import LayerGateway.Proofs.Json.Reading

/-!
# Printed values are read

A value is read from its print whenever its numbers are.  A number is written as it is read only
where its digits give back the number they were made of, so that is asked of every number:
`Json.Survives`.
-/

namespace LayerGateway

namespace Json

/-! ## Numbers -/

namespace NumberScan

/-- The scan after characters that all belong to the number. -/
def feed (scan : NumberScan) : List Char → Option NumberScan
  | [] => some scan
  | c :: rest =>
      match scan.step c with
      | .more next => next.feed rest
      | .over | .broken => none

def ofChars? : List Char → Option NumberScan
  | [] => none
  | c :: rest => (start? c).bind (·.feed rest)

theorem no_part_of_number : ∀ c ∈ [',', ']', '\x7d'],
    digit? c = none ∧ ¬ c = '.' ∧ ¬ (c = 'e' ∨ c = 'E') := by
  intro c follows
  simp only [List.mem_cons, List.not_mem_nil, or_false] at follows
  rcases follows with rfl | rfl | rfl
  all_goals decide

theorem step_over {scan : NumberScan} (complete : scan.isComplete = true) :
    ∀ c ∈ [',', ']', '\x7d'], scan.step c = .over := by
  intro c follows
  obtain ⟨notDigit, notPoint, notMark⟩ := no_part_of_number c follows
  obtain ⟨site, negative, whole, fraction, exponentNegative, exponent⟩ := scan
  cases site with
  | leadingZero | whole => simp only [step, notDigit, afterWhole, notPoint, notMark, if_false]
  | fraction | exponent => simp only [step, notDigit, notMark, if_false]
  | minus | point | exponentMark | exponentSign => cases complete

end NumberScan

namespace Machine

theorem step_start {c : Char} {scan : NumberScan} (started : NumberScan.start? c = some scan)
    (stack : List Frame) (first : Bool) :
    step ⟨stack, .value first⟩ (.char c) = ⟨stack, .number scan⟩ := by
  -- No symbol that means anything else before a value starts a number.
  have differ (x : Char) (noNumber : NumberScan.start? x = none) : c ≠ x := by
    rintro rfl
    rw [noNumber] at started
    cases started
  have notSpace : isSpace (.char c) = false := by
    simp [isSpace, differ ' ' rfl, differ '\n' rfl, differ '\t' rfl, differ '\r' rfl]
  simp only [step, notSpace, stepValue, started]
  simp [differ '"' rfl, differ '[' rfl, differ '\x7b' rfl, differ 'n' rfl, differ 't' rfl,
    differ 'f' rfl, differ ']' rfl]

theorem run_number {scan last : NumberScan} {chars : List Char} (fed : scan.feed chars = some last)
    (stack : List Frame) : run ⟨stack, .number scan⟩ chars = ⟨stack, .number last⟩ := by
  induction chars generalizing scan with
  | nil =>
    cases fed
    rfl
  | cons c chars ih =>
    rw [NumberScan.feed] at fed
    split at fed
    · next next more =>
      have further : step ⟨stack, .number scan⟩ (.char c) = ⟨stack, .number next⟩ := by
        simp [step, stepNumber, Text.Symbol.char?, more]
      rw [run_cons, further, ih fed]
    · cases fed
    · cases fed

/-- A number has no closing mark of its own: behind its last digit the machine is only as good
as behind a value. -/
theorem asGoodAs_number {scan : NumberScan} (complete : scan.isComplete = true)
    (stack : List Frame) :
    AsGoodAs ⟨stack, .number scan⟩ (deliver ⟨stack, .afterValue⟩ (.number scan.value?)) := by
  constructor
  · have ended : finish ⟨stack, .number scan⟩ =
        finish (deliver ⟨stack, .number scan⟩ (.number scan.value?)) := by
      simp only [finish, complete, if_true]
      cases stack with
      | nil => rfl
      | cons frame rest => rcases frame with items | ⟨members, _ | key⟩ <;> rfl
    rw [ended, deliver_site stack _ .afterValue]
  · intro c follows
    have delivered : step ⟨stack, .number scan⟩ (.char c) =
        (deliver ⟨stack, .number scan⟩ (.number scan.value?)).stepOutside (.char c) := by
      simp [step, stepNumber, Text.Symbol.char?, NumberScan.step_over complete c follows]
    rw [delivered, deliver_site stack _ .afterValue]
    cases stack with
    | nil => rfl
    | cons frame rest => rcases frame with items | ⟨members, _ | key⟩ <;> rfl

end Machine

end Json

/-- The number that is read in the text of a number. -/
def Number.reread? (number : Number) : Option Number :=
  ((Json.NumberScan.ofChars? number.text).filter (·.isComplete)).bind (·.value?)

/-- A number is read in its own text. -/
abbrev Number.Survives (number : Number) : Prop :=
  number.reread? = some number

namespace Json

theorem reads_number {number : Number} (survives : number.Survives) :
    Reads number.text (.number (some number)) := by
  intro stack first
  obtain ⟨last, scanned, value⟩ := Option.bind_eq_some_iff.1 survives
  obtain ⟨scanned, complete⟩ := Option.filter_eq_some_iff.1 scanned
  have asGood := Machine.asGoodAs_number complete stack
  rw [value] at asGood
  cases chars : number.text with
  | nil =>
    rw [chars] at scanned
    cases scanned
  | cons c rest =>
    rw [chars] at scanned
    obtain ⟨scan, started, fed⟩ := Option.bind_eq_some_iff.1 scanned
    rw [Machine.run_cons, Machine.step_start started, Machine.run_number fed]
    exact asGood

/-! ## Values -/

/-- Every number of a value is read in its own text. -/
abbrev Survives : Json → Prop :=
  Every Number.Survives fun _ => True

theorem printItems_eq (items : List Json) : printItems items = items.map print := by
  induction items with
  | nil => rfl
  | cons item items ih => rw [printItems, ih, List.map_cons]

-- The rule for objects is about members that come with their documents; here they are joined.
theorem exists_readMembers {members : List (String × Json)}
    (reads : ∀ member ∈ members, Reads member.2.print (Document.ofJson member.2)) :
    ∃ list : List ReadMember,
      list.map (fun member => (member.key, member.text)) = printMembers members ∧
        list.map ReadMember.row = Document.ofJsonMembers members := by
  induction members with
  | nil => exact ⟨[], rfl, rfl⟩
  | cons member members ih =>
    obtain ⟨key, value⟩ := member
    obtain ⟨list, texts, rows⟩ := ih fun other further => reads other (List.mem_cons_of_mem _ further)
    refine ⟨⟨key, _, _, reads (key, value) List.mem_cons_self⟩ :: list, ?_, ?_⟩
    · rw [List.map_cons, texts, printMembers]
    · rw [List.map_cons, rows, Document.ofJsonMembers]
      rfl

theorem reads_print {json : Json} (survives : json.Survives) :
    Reads json.print (Document.ofJson json) := by
  induction survives with
  | null => exact fun stack _ => .of_eq (Machine.deliver_site stack _ _ _)
  | bool value =>
    cases value <;> exact fun stack _ => .of_eq (Machine.deliver_site stack _ _ _)
  | number survives => exact reads_number survives
  | string text => exact reads_stringText text
  | @array items _ ih =>
    rw [print, printItems_eq, Document.ofJson, Document.ofJsonItems_eq]
    exact reads_arrayText print Document.ofJson ih
  | @object members _ _ ih =>
    obtain ⟨list, texts, rows⟩ := exists_readMembers ih
    rw [print, Document.ofJson, ← texts, ← rows]
    exact reads_objectText list

end Json

end LayerGateway
