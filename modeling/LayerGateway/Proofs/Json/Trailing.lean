import LayerGateway.Proofs.Json.Decoding
import LayerGateway.Proofs.Json.Reading
import LayerGateway.Text.Pieces

/-!
# What stands behind a value

A text that is read as an array or object ends with its bracket or brace.  Whatever is put behind
such a text is therefore trailing text, and the longer text is refused unless only blanks were
added.

* `Document.Whole` says that the text of a document does not break; whatever is read is whole.
* `Machine.done_of_whole` says that a machine has read a whole document only when it is done with
  it; a number is an exception, because only what follows says where it ends.
* `decode_append` says that a text that was read cannot be added to.
-/

namespace LayerGateway.Json

open Text (Symbol)

/-! ## Documents that do not break -/

namespace Document

/-- A document whose text does not break anywhere. -/
def Whole (document : Document) : Prop :=
  document.skipCause? = none

theorem skipItems_eq_none {items : List Document} :
    skipItems items = none ↔ ∀ item ∈ items, item.Whole := by
  induction items with
  | nil => simp [skipItems]
  | cons item items ih => simp [skipItems, ih, Whole]

theorem skipMembers_eq_none {members : List DocumentMember} :
    skipMembers members = none ↔ ∀ member ∈ members, member.2.Whole := by
  induction members with
  | nil => simp [skipMembers]
  | cons member members ih => simp [skipMembers, ih, Whole]

theorem whole_array {items : List Document} {ending : ArrayEnd} :
    (array items ending).Whole ↔ (∀ item ∈ items, item.Whole) ∧ ending.skipCause? = none := by
  simp [Whole, skipCause?, skipItems_eq_none]

theorem whole_object {members : List DocumentMember} {ending : ObjectEnd} :
    (object members ending).Whole ↔
      (∀ member ∈ members, member.2.Whole) ∧ ending.skipCause? = none := by
  simp [Whole, skipCause?, skipMembers_eq_none]

theorem not_whole_broken (token : BrokenToken) (onRead onSkip : GrammarError) :
    ¬ (broken token onRead onSkip).Whole := by
  simp [Whole, skipCause?]

end Document

open Document (Whole)

theorem ArrayEnd.skipCause?_of_readCause? {ending : ArrayEnd} (none : ending.readCause? = none) :
    ending.skipCause? = Option.none := by
  cases ending <;> first | rfl | cases none

theorem ArrayEnd.skipCause?_of_overrunCause? {ending : ArrayEnd}
    (none : ending.overrunCause? = none) : ending.skipCause? = Option.none := by
  cases ending <;> first | rfl | cases none

theorem ObjectEnd.skipCause?_of_readCause? {ending : ObjectEnd} (none : ending.readCause? = none) :
    ending.skipCause? = Option.none := by
  cases ending with
  | noColon key cut => cases key <;> cases none
  | _ => first | rfl | cases none

theorem of_check {cause : Option GrammarError} {done : Unit} (passed : check cause = .ok done) :
    cause = none := by
  cases cause with
  | none => rfl
  | some cause => cases passed

/-! ## What is read is whole -/

mutual

theorem toJson_whole {document : Document} {origin : Origin} {json : Json}
    (read : document.toJson origin = .ok json) : document.Whole := by
  cases document with
  | null | bool _ | number _ | string _ => rfl
  | array items ending =>
    rw [Document.toJson] at read
    obtain ⟨inner, _, read⟩ := ok_of_bind read
    obtain ⟨values, readItems, read⟩ := ok_of_bind read
    obtain ⟨_, closed, _⟩ := ok_of_bind read
    exact Document.whole_array.2
      ⟨toItems_whole readItems, ending.skipCause?_of_readCause? (of_check closed)⟩
  | object members ending =>
    rw [Document.toJson] at read
    obtain ⟨inner, _, read⟩ := ok_of_bind read
    obtain ⟨values, readMembers, read⟩ := ok_of_bind read
    obtain ⟨_, closed, _⟩ := ok_of_bind read
    exact Document.whole_object.2
      ⟨toMembers_whole readMembers, ending.skipCause?_of_readCause? (of_check closed)⟩
  | broken token onRead onSkip => cases read

theorem toItems_whole {items : List Document} {origin : Origin} {values : List Json}
    (read : Document.toItems origin items = .ok values) : ∀ item ∈ items, item.Whole := by
  cases items with
  | nil => exact nofun
  | cons item items =>
    rw [Document.toItems] at read
    obtain ⟨first, readFirst, read⟩ := ok_of_bind read
    obtain ⟨others, readOthers, _⟩ := ok_of_bind read
    exact List.forall_mem_cons.2 ⟨toJson_whole readFirst, toItems_whole readOthers⟩

theorem toMembers_whole {members : List DocumentMember} {origin : Origin}
    {values : List (String × Json)} (read : Document.toMembers origin members = .ok values) :
    ∀ member ∈ members, member.2.Whole := by
  cases members with
  | nil => exact nofun
  | cons member members =>
    obtain ⟨key, value⟩ := member
    rw [Document.toMembers] at read
    obtain ⟨name, _, read⟩ := ok_of_bind read
    obtain ⟨first, readFirst, read⟩ := ok_of_bind read
    obtain ⟨others, readOthers, _⟩ := ok_of_bind read
    exact List.forall_mem_cons.2 ⟨toJson_whole readFirst, toMembers_whole readOthers⟩

end

/-- What a decoder reads is whole. -/
def Strict {α : Type} (decoder : Decoder α) : Prop :=
  ∀ {origin document value}, decoder origin document = .ok value → document.Whole

theorem strict_anyValue : Strict anyValue := toJson_whole

theorem strict_textCalled (expected : String) : Strict (textCalled expected) := by
  intro origin document value read
  cases document with
  | string text => rfl
  | _ => exact absurd read mismatch_ne_ok

namespace Shape

variable {σ : Type} {shape : Shape σ} {origin : Origin} {draft blank : σ}

/-- What a field reads is whole. -/
def StrictField (field : Field σ) : Prop :=
  ∀ {origin document draft next}, field.set origin document draft = .ok next → document.Whole

theorem strictField_of {α : Type} {decoder : Decoder α} (strict : Strict decoder) (name : String)
    (put : α → σ → σ) : StrictField (Field.of name decoder put) := by
  intro origin document draft next set
  obtain ⟨value, read, _⟩ := map_eq_ok.1 set
  exact strict read

theorem fill_whole (strict : ∀ field ∈ shape.fields, StrictField field) {seen : List String}
    {members : List DocumentMember} {result : σ × List Unit}
    (filled : shape.fill origin skip seen draft members = .ok result) :
    ∀ member ∈ members, member.2.Whole := by
  induction members generalizing seen draft result with
  | nil => exact nofun
  | cons member members ih =>
    obtain ⟨key, value⟩ := member
    rw [fill] at filled
    obtain ⟨key, _, filled⟩ := ok_of_bind filled
    refine List.forall_mem_cons.2 ?_
    split at filled
    · next field known =>
      split at filled
      · cases filled
      · obtain ⟨next, set, filled⟩ := ok_of_bind filled
        exact ⟨strict field (List.mem_of_find?_eq_some known) set, ih filled⟩
    · obtain ⟨extra, skipped, filled⟩ := ok_of_bind filled
      obtain ⟨rest, filled, _⟩ := ok_of_bind filled
      obtain ⟨_, passed, _⟩ := ok_of_bind skipped
      exact ⟨of_check passed, ih filled⟩

theorem fillInOrder_whole {fields : List (Field σ)} (strict : ∀ field ∈ fields, StrictField field)
    {depth : Nat} {ending : ArrayEnd} {count : Nat} {items : List Document} {result : σ}
    (filled : shape.fillInOrder (.text depth) ending count fields items draft = .ok result) :
    (∀ item ∈ items, item.Whole) ∧ ending.skipCause? = none := by
  induction fields generalizing count items draft with
  | nil =>
    obtain ⟨_, passed, _⟩ := ok_of_bind filled
    cases items with
    | nil => exact ⟨nofun, ending.skipCause?_of_overrunCause? (of_check passed)⟩
    | cons item items => cases passed
  | cons field fields ih =>
    obtain ⟨here, rest⟩ := List.forall_mem_cons.1 strict
    cases items with
    | nil =>
      obtain ⟨_, passed, _⟩ := ok_of_bind filled
      exact ⟨nofun, ending.skipCause?_of_readCause? (of_check passed)⟩
    | cons item items =>
      obtain ⟨next, set, filled⟩ := ok_of_bind filled
      obtain ⟨others, closed⟩ := ih rest filled
      exact ⟨List.forall_mem_cons.2 ⟨here set, others⟩, closed⟩

end Shape

/-- What a decoder reads of a text ends by itself: it is whole, and no number. -/
def Delimited {α : Type} (decoder : Decoder α) : Prop :=
  ∀ {depth document value}, decoder (.text depth) document = .ok value →
    document.Whole ∧ ∀ number, document ≠ .number number

theorem delimited_closed {σ : Type} {shape : Shape σ}
    (strict : ∀ field ∈ shape.fields, Shape.StrictField field) (blank : σ) :
    Delimited (shape.closed blank) := by
  intro depth document value read
  cases document with
  | object members ending =>
    obtain ⟨inner, _, read⟩ := ok_of_bind read
    obtain ⟨filled, fills, read⟩ := ok_of_bind read
    obtain ⟨_, closed, _⟩ := ok_of_bind read
    refine ⟨Document.whole_object.2 ⟨Shape.fill_whole strict fills, ?_⟩, nofun⟩
    exact ending.skipCause?_of_readCause? (of_check closed)
  | array items ending =>
    obtain ⟨inner, entered, read⟩ := ok_of_bind read
    cases depth with
    | zero => cases entered
    | succ depth =>
      cases entered
      exact ⟨Document.whole_array.2 (Shape.fillInOrder_whole strict read), nofun⟩
  | _ => exact absurd read mismatch_ne_ok

/-! ## Where a machine stands that has read a whole document -/

namespace Machine

variable {machine : Machine} {document : Document} {stack : List Frame}

/-- A document that breaks is not made whole by what is open around it. -/
theorem whole_of_unwind (whole : (unwind document stack).Whole) : document.Whole := by
  -- What is open is closed from the inside, so each frame holds the document of the one before.
  induction stack generalizing document with
  | nil => exact whole
  | cons frame stack ih =>
    cases frame with
    | array items =>
      obtain ⟨each, -⟩ := Document.whole_array.1 (ih whole)
      exact each document (by simp)
    | object members key =>
      cases key with
      | some key =>
        obtain ⟨each, -⟩ := Document.whole_object.1 (ih whole)
        exact each (key, document) (by simp)
      | none =>
        obtain ⟨-, ended⟩ := Document.whole_object.1 (ih whole)
        cases ended

/-- A machine is not done, or is done with a document that breaks. -/
def Spoilt (machine : Machine) : Prop :=
  ∀ document trailing, machine.site = .done document trailing → ¬ document.Whole

theorem stop_spoilt (breaks : ¬ document.Whole) : (machine.stop document).Spoilt := by
  intro other trailing done
  cases done
  exact fun whole => breaks (whole_of_unwind whole)

theorem stopAt_spoilt (cause : GrammarError) : (machine.stopAt cause).Spoilt :=
  stop_spoilt (Document.not_whole_broken _ _ _)

theorem endArray_spoilt (spoilt : machine.Spoilt) {ending : ArrayEnd}
    (faulty : ending.skipCause? ≠ none) : (machine.endArray ending).Spoilt := by
  unfold endArray
  split
  · dsimp only
    split
    · next closed => exact absurd (closed ▸ rfl) faulty
    · exact stop_spoilt fun whole => faulty (Document.whole_array.1 whole).2
  · exact spoilt

theorem breakObject_spoilt (spoilt : machine.Spoilt) {ending : ObjectEnd}
    (faulty : ending.skipCause? ≠ none) : (machine.breakObject ending).Spoilt := by
  unfold breakObject
  split
  · exact stop_spoilt fun whole => faulty (Document.whole_object.1 whole).2
  · exact spoilt

theorem deliver_spoilt {frame : Frame} (site : Site) (document : Document) :
    (deliver ⟨frame :: stack, site⟩ document).Spoilt := by
  cases frame with
  | array items => nofun
  | object members key =>
    cases key with
    | some key => nofun
    | none => exact stop_spoilt fun whole => nomatch (Document.whole_object.1 whole).2

/-- Where a machine stands when the text ends, with the arrays and objects still open in which a
value has just ended. -/
def ended (machine : Machine) : Machine :=
  match machine.site with
  | .value true => machine.endArray .cutOff
  | .value false => machine.stop (.broken .absent .endInValue .endInValue)
  | .word _ _ => machine.stopAt .endInValue
  | .number scan =>
      if scan.isComplete then machine.deliver (.number scan.value?)
      else machine.stop (.broken .other .endInValue .badNumber)
  | .text scan => machine.stop (.broken .text (scan.readCause .endInString) .endInString)
  | .key scan => machine.breakObject (.brokenKey (scan.readCause .endInString) .endInString)
  | .beforeKey first => machine.breakObject (if first then .cutOff else .cutAfterComma)
  | .beforeColon key => machine.breakObject (.noColon key true)
  | .afterValue | .done _ _ => machine

/-- The machine with the innermost of what is still open broken off. -/
def settled (machine : Machine) : Machine :=
  match machine.site with
  | .afterValue => if machine.inArray then machine.endArray .cutOff else machine.breakObject .cutOff
  | _ => machine

/-- What a machine has read that goes on no more. -/
def source (machine : Machine) : Source :=
  match machine.site with
  | .done document trailing => ⟨document, trailing⟩
  | _ => ⟨.broken .absent .endInValue .endInValue, false⟩

theorem finish_eq (machine : Machine) : machine.finish = machine.ended.settled.source := rfl

theorem Spoilt.settled (spoilt : machine.Spoilt) : machine.settled.Spoilt := by
  unfold Machine.settled
  split
  · split
    · exact endArray_spoilt spoilt (by decide)
    · exact breakObject_spoilt spoilt (by simp [ObjectEnd.skipCause?, ObjectEnd.readCause?])
  · exact spoilt

theorem Spoilt.source (spoilt : machine.Spoilt) : ¬ machine.source.document.Whole := by
  unfold Machine.source
  split
  · next done => exact spoilt _ _ done
  · exact Document.not_whole_broken _ _ _

/-- A text that ends anywhere but behind its value has broken, or is a number. -/
theorem ended_spoilt (undone : ∀ document trailing, machine.site ≠ .done document trailing) :
    machine.ended.Spoilt ∨ ∃ number, machine.ended = ⟨[], .done (.number number) false⟩ := by
  have spoilt : machine.Spoilt := fun document trailing done =>
    absurd done (undone document trailing)
  unfold ended
  split
  · exact .inl (endArray_spoilt spoilt (by decide))
  · exact .inl (stop_spoilt (Document.not_whole_broken _ _ _))
  · exact .inl (stopAt_spoilt _)
  -- Only a number can end with the text, and only alone does it become the document.
  · next scan _ =>
    split
    · obtain ⟨stack, site⟩ := machine
      cases stack with
      | nil => exact .inr ⟨scan.value?, rfl⟩
      | cons frame stack => exact .inl (deliver_spoilt _ _)
    · exact .inl (stop_spoilt (Document.not_whole_broken _ _ _))
  · exact .inl (stop_spoilt (Document.not_whole_broken _ _ _))
  · exact .inl (breakObject_spoilt spoilt nofun)
  · next first _ => exact .inl (breakObject_spoilt spoilt (by cases first <;> nofun))
  · exact .inl (breakObject_spoilt spoilt nofun)
  · exact .inl spoilt
  · next document trailing done => exact absurd done (undone document trailing)

/-- A machine has read a whole document that is no number only when it is done with it. -/
theorem done_of_whole (whole : machine.finish.document.Whole)
    (noNumber : ∀ number, machine.finish.document ≠ .number number) :
    machine.site = .done machine.finish.document machine.finish.trailing := by
  by_cases done : ∃ document trailing, machine.site = .done document trailing
  · obtain ⟨document, trailing, done⟩ := done
    have finished : machine.finish = ⟨document, trailing⟩ := by
      rw [finish_eq, ended, done]
      simp only [settled, source, done]
    rw [finished, done]
  · have undone : ∀ document trailing, machine.site ≠ .done document trailing :=
      fun document trailing here => done ⟨document, trailing, here⟩
    rcases ended_spoilt undone with spoilt | ⟨number, ended⟩
    · exact absurd whole spoilt.settled.source
    · have read : machine.finish.document = .number number := by
        rw [finish_eq, ended]
        rfl
      exact absurd read (noNumber number)

theorem run_done (document : Document) (trailing : Bool) (chars : List Char) :
    run ⟨stack, .done document trailing⟩ chars =
      ⟨stack, .done document (trailing || !chars.all (isSpace ∘ Symbol.char))⟩ := by
  induction chars generalizing trailing with
  | nil => simp [run]
  | cons c chars ih =>
    have stepped : step ⟨stack, .done document trailing⟩ (.char c) =
        ⟨stack, .done document (trailing || !isSpace (.char c))⟩ := rfl
    rw [run_cons, stepped, ih, List.all_cons, Bool.not_and, Bool.or_assoc]
    rfl

theorem run_spaces {chars : List Char} (spaces : chars.all (isSpace ∘ Symbol.char) = true)
    (first : Bool) : run ⟨stack, .value first⟩ chars = ⟨stack, .value first⟩ := by
  induction chars with
  | nil => rfl
  | cons c chars ih =>
    obtain ⟨space, rest⟩ := Bool.and_eq_true_iff.1 spaces
    have stepped : step ⟨stack, .value first⟩ (.char c) = ⟨stack, .value first⟩ := if_pos space
    rw [run_cons, stepped, ih rest]

end Machine

/-! ## Texts that are added to -/

section Texts

variable {α : Type} {decoder : Decoder α} {text further : List Char} {value : α}

theorem ofText_eq (text : List Char) :
    Source.ofText (String.ofList text) = (Machine.start.run text).finish := by
  rw [Source.ofText, Source.ofSymbols, Text.symbolsOf, String.toList_ofList, List.foldl_map]
  rfl

/-- Blanks before a value are not seen. -/
theorem ofText_spaces {spaces : List Char} (all : spaces.all (isSpace ∘ Symbol.char) = true)
    (text : List Char) :
    Source.ofText (String.ofList (spaces ++ text)) = Source.ofText (String.ofList text) := by
  rw [ofText_eq, ofText_eq, Machine.run_append, Machine.start, Machine.run_spaces all]

/-- Behind a value that cannot go on, anything but blanks is noted, and nothing is read. -/
theorem ofText_append {source : Source} (read : Source.ofText (String.ofList text) = source)
    (whole : source.document.Whole) (noNumber : ∀ number, source.document ≠ .number number)
    (further : List Char) :
    Source.ofText (String.ofList (text ++ further)) =
      ⟨source.document, source.trailing || !further.all (isSpace ∘ Symbol.char)⟩ := by
  rw [ofText_eq] at read ⊢
  rw [Machine.run_append]
  generalize Machine.start.run text = machine at read
  -- The machine was done before anything was added.
  have done : machine.site = .done machine.finish.document machine.finish.trailing :=
    Machine.done_of_whole (by rwa [read]) (by rwa [read])
  rw [read] at done
  obtain ⟨stack, site⟩ := machine
  cases done
  rw [Machine.run_done]
  rfl

/-- A text that was read cannot be added to, but for blanks. -/
theorem decode_append (delimited : Delimited decoder)
    (read : decode decoder (.ofText (String.ofList text)) = .ok value)
    (more : further.all (isSpace ∘ Symbol.char) = false) :
    decode decoder (.ofText (String.ofList (text ++ further))) =
      .error (.grammar .trailingText) := by
  generalize same : Source.ofText (String.ofList text) = source at read
  obtain ⟨decoded, inside, -⟩ := ok_of_bind read
  obtain ⟨whole, noNumber⟩ := delimited inside
  rw [ofText_append same whole noNumber, more, decode, bind_of_ok inside, Bool.not_false,
    Bool.or_true]
  rfl

theorem digit?_blank {c : Char} (blank : Text.isBlank c = true) : digit? c = none := by
  refine if_neg fun ⟨above, below⟩ => ?_
  have above : 48 ≤ c.toNat := above
  have below : c.toNat ≤ 57 := below
  simp only [Text.isBlank, Bool.or_eq_true, Bool.and_eq_true, decide_eq_true_eq,
    beq_iff_eq] at blank
  omega

theorem step_blank {c : Char} (blank : Text.isBlank c = true)
    (noSpace : isSpace (.char c) = false) :
    Machine.start.step (.char c) = Machine.start.stopAt .valueExpected := by
  have differs {other : Char} (notBlank : Text.isBlank other = false) : c ≠ other := by
    rintro rfl
    cases blank.symm.trans notBlank
  have noNumber : NumberScan.start? c = none := by
    rw [NumberScan.start?, if_neg (differs (by decide)), digit?_blank blank]
  have noBracket : ¬ (c = ']' ∧ Machine.start.inArray = true) := nofun
  change (if isSpace (.char c) then Machine.start else Machine.start.stepValue false c) = _
  rw [noSpace, if_neg nofun, Machine.stepValue, if_neg (differs (by decide)),
    if_neg (differs (by decide)), if_neg (differs (by decide)), if_neg (differs (by decide)),
    if_neg (differs (by decide)), if_neg (differs (by decide)), if_neg noBracket, noNumber]

/-- A blank that is none of the grammar breaks every text that it starts. -/
theorem decode_blank (delimited : Delimited decoder) (blank : Text.isBlankLine text = true)
    (strange : text.all (isSpace ∘ Symbol.char) = false) (further : List Char) :
    ∃ cause, decode decoder (.ofText (String.ofList (text ++ further))) = .error cause := by
  -- The blanks of the grammar are skipped, and the first other one stops the machine for good.
  induction text with
  | nil => cases strange
  | cons c text ih =>
    obtain ⟨blankHere, blankRest⟩ := Bool.and_eq_true_iff.1 blank
    cases space : isSpace (.char c) with
    | true =>
      have spaces : [c].all (isSpace ∘ Symbol.char) = true := by simp [space]
      have rest := ofText_spaces spaces (text ++ further)
      rw [List.cons_append, ← List.singleton_append, rest]
      exact ih blankRest (by simpa [space] using strange)
    | false =>
      have stopped : Machine.start.run (c :: (text ++ further)) =
          Machine.run ⟨[], .done (.broken .other .valueExpected .valueExpected) false⟩
            (text ++ further) := by
        rw [Machine.run_cons, step_blank blankHere space]
        rfl
      rw [List.cons_append, ofText_eq, stopped, Machine.run_done]
      cases read : decode decoder (Machine.finish ⟨[], .done
          (.broken .other .valueExpected .valueExpected)
          (false || !(text ++ further).all (isSpace ∘ Symbol.char))⟩) with
      | error cause => exact ⟨cause, rfl⟩
      | ok value =>
        obtain ⟨_, inside, _⟩ := ok_of_bind read
        exact absurd (delimited inside).1 (Document.not_whole_broken _ _ _)

end Texts

end LayerGateway.Json
