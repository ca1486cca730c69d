import CommandPlan.Yaml.Reader

/-! Readers by what they read. The outcome of a reader leaves out its problem and the
count of aliases that it hands on; two readers agree when no document and no count makes
a difference between their outcomes. -/
namespace CommandPlan.Yaml.Read

variable {α β γ : Type}

/-- What a reader reads, if it reads anything. -/
def outcome (read : Read α) (anchors : List (Nat × Node)) (left : Nat) : Option α :=
  ((read anchors left).toOption).map Prod.fst

/-- One outcome, whichever nodes have anchors and however many aliases may be followed. A
reader that agrees with itself depends on neither. -/
def Agree (read other : Read α) : Prop :=
  ∀ anchors left anchors' left', read.outcome anchors left = other.outcome anchors' left'

/-- A reader that reads nothing in any document. -/
def Fails (read : Read α) : Prop :=
  ∀ anchors left, read.outcome anchors left = none

variable {read read' : Read α} {other other' : Read β}

theorem outcome_bind (read : Read α) (next : α → Read β) (anchors : List (Nat × Node)) (left : Nat) :
    (read >>= next).outcome anchors left =
      match read anchors left with
      | .ok (value, left) => (next value).outcome anchors left
      | .error _ => none := by
  change ((Except.bind (read anchors left) fun result => next result.1 anchors result.2).toOption).map Prod.fst = _
  cases read anchors left <;> rfl

theorem outcome_located (trail : Trail) (position : Position) (read : Read α)
    (anchors : List (Nat × Node)) (left : Nat) :
    (read.located trail position).outcome anchors left = read.outcome anchors left := by
  unfold outcome located
  cases read anchors left <;> rfl

namespace Agree

theorem symm (agree : Agree read read') : Agree read' read :=
  fun anchors left anchors' left' => (agree anchors' left' anchors left).symm

theorem trans {read'' : Read α} (first : Agree read read') (second : Agree read' read'') : Agree read read'' :=
  fun anchors left anchors' left' =>
    (first anchors left anchors left).trans (second anchors left anchors' left')

theorem pure (value : α) : Agree (pure value) (pure value) :=
  fun _ _ _ _ => rfl

theorem throw (error error' : ReadError) : Agree (throw error : Read α) (throw error') :=
  fun _ _ _ _ => rfl

theorem fail (problem problem' : Problem) : Agree (Read.fail problem : Read α) (Read.fail problem') :=
  throw _ _

/-- Where one of two agreeing readers ends well, the other does so everywhere. -/
theorem passes (agree : Agree read read') {anchors : List (Nat × Node)} {left after : Nat} {value : α}
    (ended : read anchors left = .ok (value, after)) (anchors' : List (Nat × Node)) (left' : Nat) :
    ∃ after', read' anchors' left' = .ok (value, after') := by
  have same := agree anchors left anchors' left'
  unfold outcome at same
  rw [ended] at same
  cases other : read' anchors' left' with
  | error error =>
    rw [other] at same
    cases same
  | ok result =>
    obtain ⟨value', after'⟩ := result
    rw [other] at same
    cases same
    exact ⟨after', rfl⟩

/-- Where one of two agreeing readers fails, the other fails everywhere. -/
theorem fails (agree : Agree read read') {anchors : List (Nat × Node)} {left : Nat} {error : ReadError}
    (ended : read anchors left = .error error) (anchors' : List (Nat × Node)) (left' : Nat) :
    ∃ error', read' anchors' left' = .error error' := by
  cases other : read' anchors' left' with
  | error error' => exact ⟨error', rfl⟩
  | ok result =>
    obtain ⟨after, passed⟩ := agree.symm.passes other anchors left
    rw [ended] at passed
    cases passed

theorem bind {next next' : α → Read β} (agree : Agree read read')
    (onward : ∀ value, Agree (next value) (next' value)) : Agree (read >>= next) (read' >>= next') := by
  intro anchors left anchors' left'
  rw [outcome_bind, outcome_bind]
  cases ended : read anchors left with
  | error error =>
    obtain ⟨error', ended'⟩ := agree.fails ended anchors' left'
    rw [ended']
  | ok result =>
    obtain ⟨after', ended'⟩ := agree.passes ended anchors' left'
    rw [ended']
    exact onward result.1 anchors result.2 anchors' after'

theorem map (change : α → β) (agree : Agree read read') : Agree (change <$> read) (change <$> read') := by
  rw [map_eq_pure_bind, map_eq_pure_bind]
  exact agree.bind fun value => .pure (change value)

theorem located (agree : Agree read read') (trail trail' : Trail) (position position' : Position) :
    Agree (read.located trail position) (read'.located trail' position') := by
  intro anchors left anchors' left'
  rw [outcome_located, outcome_located]
  exact agree anchors left anchors' left'

/-- Readers that depend on nothing else may take turns. -/
theorem swap {next next' : α → β → Read γ} (first : Agree read read) (second : Agree other other)
    (onward : ∀ value result, Agree (next value result) (next' value result)) :
    Agree (read >>= fun value => other >>= fun result => next value result)
      (other >>= fun result => read >>= fun value => next' value result) := by
  intro anchors left anchors' left'
  rw [outcome_bind, outcome_bind]
  cases ended : read anchors left with
  | error error =>
    cases other anchors' left' with
    | error error' => rfl
    | ok result =>
      obtain ⟨error', ended'⟩ := first.fails ended anchors' result.2
      simp only [outcome_bind, ended']
  | ok result =>
    simp only [outcome_bind]
    cases ended' : other anchors result.2 with
    | error error =>
      obtain ⟨error', failed⟩ := second.fails ended' anchors' left'
      rw [failed]
    | ok result' =>
      obtain ⟨after, passed⟩ := second.passes ended' anchors' left'
      obtain ⟨after', passed'⟩ := first.passes ended anchors' after
      simp only [passed, passed']
      exact onward result.1 result'.1 anchors result'.2 anchors' after'

end Agree

namespace Fails

theorem fail (problem : Problem) : Fails (Read.fail problem : Read α) :=
  fun _ _ => rfl

theorem agree (failed : Fails read) (failed' : Fails read') : Agree read read' :=
  fun anchors left anchors' left' => (failed anchors left).trans (failed' anchors' left').symm

theorem bind (failed : Fails read) (next : α → Read β) : Fails (read >>= next) := by
  intro anchors left
  have none := failed anchors left
  unfold outcome at none
  rw [outcome_bind]
  cases ended : read anchors left with
  | error error => rfl
  | ok result =>
    rw [ended] at none
    cases none

/-- A reader fails that is bound to fail in the end. -/
theorem after (read : Read α) {next : α → Read β} (failed : ∀ value, Fails (next value)) :
    Fails (read >>= next) := by
  intro anchors left
  rw [outcome_bind]
  cases read anchors left with
  | error error => rfl
  | ok result => exact failed result.1 anchors result.2

theorem located (failed : Fails read) (trail : Trail) (position : Position) :
    Fails (read.located trail position) := by
  intro anchors left
  rw [outcome_located]
  exact failed anchors left

end Fails

/-- A text is read as its root is, unless there is a fault in it or another document follows. -/
theorem run_to_option (read : Trail → Node → Read α) (text : String) :
    (run read text).toOption = (Document.parse text).toOption.bind fun document =>
      if document.isOnly then
        (read .root document.root).outcome document.anchors (document.root.size * aliasFactor)
      else none := by
  unfold run outcome Document.parse
  obtain ⟨document, fault?⟩ := Document.load text.toList
  dsimp only
  cases ended : read .root document.root document.anchors (document.root.size * aliasFactor) with
  | error error => cases fault? <;> simp [ended, bind, Except.bind, Except.toOption]
  | ok result =>
    cases fault? with
    | some error => simp [bind, Except.bind, Except.toOption]
    | none => cases only : document.isOnly <;> simp [ended, only, bind, Except.bind, Except.toOption]

end CommandPlan.Yaml.Read
