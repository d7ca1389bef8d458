/-!
# Computations that may fail
-/

namespace LayerGateway

variable {ε α β δ : Type}

instance decidableEqExcept [DecidableEq ε] [DecidableEq α] : DecidableEq (Except ε α)
  | .error cause, .error other =>
    decidable_of_iff (cause = other) ⟨congrArg Except.error, Except.error.inj⟩
  | .ok value, .ok other => decidable_of_iff (value = other) ⟨congrArg Except.ok, Except.ok.inj⟩
  | .error _, .ok _ => isFalse fun same => by cases same
  | .ok _, .error _ => isFalse fun same => by cases same

theorem ok_of_bind {first : Except ε α} {next : α → Except ε β} {result : β}
    (ran : (first >>= next) = .ok result) :
    ∃ value, first = .ok value ∧ next value = .ok result := by
  cases first with
  | error cause => cases ran
  | ok value => exact ⟨value, rfl, ran⟩

theorem bind_of_ok {first : Except ε α} {value : α} (ran : first = .ok value)
    (next : α → Except ε β) : (first >>= next) = next value := by
  rw [ran]
  rfl

theorem mapError_ok (wrap : ε → δ) (value : α) :
    Except.mapError wrap (.ok value) = .ok value :=
  rfl

theorem mapError_error (wrap : ε → δ) (cause : ε) :
    (Except.error cause : Except ε α).mapError wrap = .error (wrap cause) :=
  rfl

theorem mapError_eq_ok {computed : Except ε α} {wrap : ε → δ} {value : α} :
    computed.mapError wrap = .ok value ↔ computed = .ok value := by
  cases computed <;> simp [mapError_ok, mapError_error]

theorem mapError_eq_error {computed : Except ε α} {wrap : ε → δ} {failure : δ} :
    computed.mapError wrap = .error failure ↔ ∃ cause, computed = .error cause ∧ wrap cause = failure := by
  cases computed <;> simp [mapError_ok, mapError_error]

theorem map_eq_ok {computed : Except ε α} {f : α → β} {result : β} :
    computed.map f = .ok result ↔ ∃ value, computed = .ok value ∧ f value = result := by
  cases computed <;> simp [Except.map]

/-- What a list of computations gave was given by its items. -/
theorem of_mapM {compute : α → Except ε β} {items : List α} {values : List β}
    (succeeded : items.mapM compute = .ok values) :
    ∀ value ∈ values, ∃ item ∈ items, compute item = .ok value := by
  induction items generalizing values with
  | nil =>
    cases succeeded
    exact nofun
  | cons item items ih =>
    rw [List.mapM_cons] at succeeded
    obtain ⟨first, here, succeeded⟩ := ok_of_bind succeeded
    obtain ⟨others, further, succeeded⟩ := ok_of_bind succeeded
    cases succeeded
    refine List.forall_mem_cons.2 ⟨⟨item, List.mem_cons_self, here⟩, fun value member => ?_⟩
    obtain ⟨origin, among, computed⟩ := ih further value member
    exact ⟨origin, List.mem_cons_of_mem _ among, computed⟩

/-- Where every item succeeds, the list does, and holds what the items gave. -/
theorem mapM_ok {compute : α → Except ε β} {items : List α}
    (succeeds : ∀ item ∈ items, ∃ value, compute item = .ok value) :
    ∃ values, items.mapM compute = .ok values ∧
      ∀ value, value ∈ values ↔ ∃ item ∈ items, compute item = .ok value := by
  induction items with
  | nil => exact ⟨[], rfl, by simp⟩
  | cons item items ih =>
    obtain ⟨value, here⟩ := succeeds item List.mem_cons_self
    obtain ⟨values, rest, given⟩ := ih fun other member =>
      succeeds other (List.mem_cons_of_mem _ member)
    refine ⟨value :: values, ?_, fun other => ?_⟩
    · rw [List.mapM_cons, here, rest]
      rfl
    · rw [List.mem_cons, given]
      constructor
      · rintro (rfl | ⟨further, member, computed⟩)
        · exact ⟨item, List.mem_cons_self, here⟩
        · exact ⟨further, List.mem_cons_of_mem _ member, computed⟩
      · rintro ⟨further, member, computed⟩
        rcases List.mem_cons.1 member with rfl | member
        · cases here.symm.trans computed
          exact .inl rfl
        · exact .inr ⟨further, member, computed⟩

end LayerGateway
