/-
Which markers lead on, and what a refused marker leaves behind.

A reader that changes what it holds in place gives the same answers as the reader
that returns what it holds next, and a line that it refuses has changed nothing:
all checks on a marker come before the first change.

Whether a marker is taken is decided in several places, by what is open, by the
phase and by the table of keywords that lead on from a phase.  All of them come to
the table and a condition on the arguments.  The rules of `Refused` give the fault
of every other marker.
-/

import ChangeScript.Proofs.Step

set_option autoImplicit false

namespace ChangeScript

open Text Grammar

/-- Reading with one memory.  What is changed before a fault stays changed. -/
abbrev InPlace := ExceptT Fault (StateM Progress)

namespace InPlace

def apply {Result : Type} (action : InPlace Result) (progress : Progress) :
    Except Fault Result × Progress :=
  action.run.run progress

def require (keyword : Keyword) : InPlace Unit := do
  let held ← get
  if held.phase = .idle then throw (.noActiveOperation keyword)
  if !held.phase.admits keyword then throw (.invalidMarker keyword held.phase)

def openKind (number : Nat) (kind : Kind) (arguments : Text) : InPlace Unit := do
  let held ← get
  if kind = .tasks ∧ held.tasks.isSome then throw .nestedTasks
  if held.phase.collects then throw (.invalidMarker (.opens kind) held.phase)
  match Attribute.readList arguments with
  | .error fault => throw (.attribute fault)
  | .ok attributes =>
      match Draft.begin? kind with
      | none => modify fun held => { held with tasks := some ⟨⟨number, attributes⟩, []⟩ }
      | some draft =>
          modify fun held => { held with operation := some ⟨⟨number, attributes⟩, draft⟩ }

def enter (keyword : Keyword) (change : Draft → Draft) : InPlace Unit := do
  require keyword
  modify (Progress.mapDraft change)

def attach (operation : Operation) (held : Progress) : Progress :=
  match held.tasks with
  | some group =>
      { held with tasks := some { group with operations := group.operations ++ [operation] } }
  | none => { held with complete := held.complete ++ [operation] }

def close (arguments : Text) : InPlace Unit := do
  let held ← get
  if held.phase = .idle then throw (.noActiveOperation .close)
  if arguments ≠ [] then throw .closeWithArguments
  require .close
  match held.operation, held.tasks with
  | some inner, _ =>
      modify fun held => { held with operation := none }
      modify (attach (inner.draft.complete inner.header))
  | none, some group =>
      modify fun held => { held with tasks := none }
      modify (attach (.tasks group.header group.operations))
  | none, none => pure ()

def follow (number : Nat) (marker : Marker) : InPlace Unit :=
  match Keyword.ofName? marker.name with
  | some (.opens kind) => openKind number kind marker.arguments
  | some .upTo => enter .upTo Draft.enterTo
  | some .replace => enter .replace Draft.enterReplacement
  | some .close => close marker.arguments
  | none => throw (.unknownOperation marker.name)

def step (delimiters : Delimiters) (number : Nat) (line : Text) : InPlace Unit := do
  let held ← get
  match LineClass.ofLine delimiters held.phase line with
  | .error fault => throw fault
  | .ok .content => modify (Progress.mapDraft (Draft.push line))
  | .ok (.marker found) => follow number found

/-! ### The same answers -/

/-- What is answered and held after a step whose next state is known. -/
def settle (progress : Progress) : Except Fault Progress → Except Fault Unit × Progress
  | .ok next => (.ok (), next)
  | .error fault => (.error fault, progress)

theorem settle_eq_ok_iff {progress after : Progress} {result : Except Fault Progress} :
    settle progress result = (.ok (), after) ↔ result = .ok after := by
  cases result with
  | ok next => simp [settle]
  | error fault => simp [settle]

theorem settle_eq_error_iff {progress after : Progress} {result : Except Fault Progress}
    {fault : Fault} :
    settle progress result = (.error fault, after) ↔ after = progress ∧ result = .error fault := by
  cases result with
  | ok next => simp [settle]
  | error other => simp [settle, and_comm, eq_comm]

private theorem apply_get_bind {Result : Type} (next : Progress → InPlace Result)
    (progress : Progress) : (get >>= next).apply progress = (next progress).apply progress := rfl

private theorem apply_bind_of_ok {First Second : Type} {action : InPlace First}
    {progress after : Progress} {result : First} (next : First → InPlace Second)
    (taken : action.apply progress = (.ok result, after)) :
    (action >>= next).apply progress = (next result).apply after := by
  unfold apply at taken ⊢
  rw [ExceptT.run_bind, StateT.run_bind, taken]
  rfl

private theorem apply_bind_of_error {First Second : Type} {action : InPlace First}
    {progress after : Progress} {fault : Fault} (next : First → InPlace Second)
    (refused : action.apply progress = (.error fault, after)) :
    (action >>= next).apply progress = (.error fault, after) := by
  unfold apply at refused ⊢
  rw [ExceptT.run_bind, StateT.run_bind, refused]
  rfl

theorem apply_require (progress : Progress) (keyword : Keyword) :
    (require keyword).apply progress = (progress.require keyword, progress) := by
  unfold require Progress.require
  rw [apply_get_bind]
  by_cases idle : progress.phase = .idle
  · rw [if_pos idle, if_pos idle]
    rfl
  · rw [if_neg idle, if_neg idle]
    cases progress.phase.admits keyword with
    | true => rfl
    | false => rfl

theorem apply_openKind (progress : Progress) (number : Nat) (kind : Kind) (arguments : Text) :
    (openKind number kind arguments).apply progress =
      settle progress (progress.openKind number kind arguments) := by
  unfold openKind Progress.openKind
  rw [apply_get_bind]
  by_cases nested : kind = .tasks ∧ progress.tasks.isSome
  · rw [if_pos nested, if_pos nested]
    rfl
  · rw [if_neg nested, if_neg nested]
    cases progress.phase.collects with
    | true => rfl
    | false =>
        cases Attribute.readList arguments with
        | error fault => rfl
        | ok attributes => cases kind <;> rfl

theorem apply_enter (progress : Progress) (keyword : Keyword) (change : Draft → Draft) :
    (enter keyword change).apply progress = settle progress (progress.enter keyword change) := by
  have answer := apply_require progress keyword
  unfold enter Progress.enter
  cases required : progress.require keyword with
  | error fault =>
      rw [required] at answer
      exact apply_bind_of_error _ answer
  | ok granted =>
      rw [required] at answer
      exact apply_bind_of_ok _ answer

theorem apply_close (progress : Progress) (arguments : Text) :
    (close arguments).apply progress = settle progress (progress.close arguments) := by
  have answer := apply_require progress .close
  unfold close Progress.close
  rw [apply_get_bind]
  by_cases idle : progress.phase = .idle
  · have bare : ¬(progress.phase ≠ .idle ∧ arguments ≠ []) := fun both => both.1 idle
    rw [if_pos idle, if_neg bare, Progress.require, if_pos idle]
    rfl
  · by_cases argued : arguments ≠ []
    · rw [if_neg idle, if_pos argued]
      simp only [if_pos (And.intro idle argued)]
      rfl
    · have bare : ¬(progress.phase ≠ .idle ∧ arguments ≠ []) := fun both => argued both.2
      rw [if_neg idle, if_neg argued, if_neg bare]
      cases required : progress.require .close with
      | error fault =>
          rw [required] at answer
          exact apply_bind_of_error _ answer
      | ok granted =>
          rw [required] at answer
          refine (apply_bind_of_ok _ answer).trans ?_
          obtain ⟨complete, tasks, operation⟩ := progress
          cases operation <;> cases tasks <;> rfl

theorem apply_follow (progress : Progress) (number : Nat) (marker : Marker) :
    (follow number marker).apply progress = settle progress (progress.follow number marker) := by
  unfold follow Progress.follow
  cases Keyword.ofName? marker.name with
  | none => rfl
  | some keyword =>
      cases keyword with
      | opens kind => exact apply_openKind progress number kind marker.arguments
      | upTo => exact apply_enter progress .upTo Draft.enterTo
      | replace => exact apply_enter progress .replace Draft.enterReplacement
      | close => exact apply_close progress marker.arguments

/-- A line that is taken leads to the next state, and a refused one leaves all as it
was. -/
theorem apply_step (delimiters : Delimiters) (progress : Progress) (number : Nat) (line : Text) :
    (step delimiters number line).apply progress =
      settle progress (progress.step delimiters number line) := by
  unfold step Progress.step
  rw [apply_get_bind]
  cases LineClass.ofLine delimiters progress.phase line with
  | error fault => rfl
  | ok meaning =>
      cases meaning with
      | content => rfl
      | marker found => exact apply_follow progress number found

end InPlace

/-! ### Rules of refusal -/

structure Marker.Suits (marker : Marker) : Prop where
  opens : ∀ kind : Kind, marker.name = (Keyword.opens kind).name →
    ∃ attributes, Attribute.readList marker.arguments = .ok attributes
  closes : marker.name = Keyword.close.name → marker.arguments = []

namespace Progress

/-- The fault of a marker that is not taken. -/
inductive Refused (progress : Progress) (marker : Marker) : Fault → Prop
  | closeIdle (named : marker.name = Keyword.close.name) (idle : progress.phase = .idle) :
      Refused progress marker (.noActiveOperation .close)
  | closeArguments (named : marker.name = Keyword.close.name) (active : progress.phase ≠ .idle)
      (argued : marker.arguments ≠ []) :
      Refused progress marker .closeWithArguments
  | closeMisplaced (named : marker.name = Keyword.close.name) (active : progress.phase ≠ .idle)
      (bare : marker.arguments = []) (misplaced : progress.phase.accepts marker.name = false) :
      Refused progress marker (.invalidMarker .close progress.phase)
  | divideIdle {keyword : Keyword} (divides : keyword = .upTo ∨ keyword = .replace)
      (named : marker.name = keyword.name) (idle : progress.phase = .idle) :
      Refused progress marker (.noActiveOperation keyword)
  | divideMisplaced {keyword : Keyword} (divides : keyword = .upTo ∨ keyword = .replace)
      (named : marker.name = keyword.name) (active : progress.phase ≠ .idle)
      (misplaced : progress.phase.accepts marker.name = false) :
      Refused progress marker (.invalidMarker keyword progress.phase)
  | nested (named : marker.name = (Keyword.opens .tasks).name)
      (grouped : progress.tasks.isSome = true) :
      Refused progress marker .nestedTasks
  | openCollecting {kind : Kind} (named : marker.name = (Keyword.opens kind).name)
      (single : ¬(kind = .tasks ∧ progress.tasks.isSome = true))
      (collects : progress.phase.collects = true) :
      Refused progress marker (.invalidMarker (.opens kind) progress.phase)
  | unreadable {kind : Kind} {fault : Attribute.Fault}
      (named : marker.name = (Keyword.opens kind).name)
      (single : ¬(kind = .tasks ∧ progress.tasks.isSome = true))
      (drops : progress.phase.collects = false)
      (unread : Attribute.readList marker.arguments = .error fault) :
      Refused progress marker (.attribute fault)
  | unknown (nameless : ∀ keyword : Keyword, marker.name ≠ keyword.name) :
      Refused progress marker (.unknownOperation marker.name)

theorem accepts_of_name {phase : Phase} {name : Text} {keyword : Keyword}
    (named : name = keyword.name) : phase.accepts name = phase.admits keyword := by
  rw [Phase.accepts, Keyword.ofName?_eq_some_iff.mpr named]

theorem require_eq_error_iff {progress : Progress} {keyword : Keyword} {fault : Fault} :
    progress.require keyword = .error fault ↔
      (progress.phase = .idle ∧ fault = .noActiveOperation keyword) ∨
      (progress.phase ≠ .idle ∧ progress.phase.admits keyword = false ∧
        fault = .invalidMarker keyword progress.phase) := by
  unfold require
  constructor
  · intro denied
    split at denied
    · next idle =>
        cases denied
        exact .inl ⟨idle, rfl⟩
    · next active =>
        split at denied
        · cases denied
        · next absent =>
            cases denied
            exact .inr ⟨active, Bool.eq_false_iff.mpr absent, rfl⟩
  · rintro (⟨idle, rfl⟩ | ⟨active, absent, rfl⟩)
    · rw [if_pos idle]
    · rw [if_neg active, absent]
      rfl

/-- An opening keyword is in the table exactly when nothing that is open forbids it:
no operation collects lines, and no tasks block is open around another. -/
theorem admits_opens_iff (progress : Progress) (kind : Kind) :
    progress.phase.admits (.opens kind) = true ↔
      progress.phase.collects = false ∧ ¬(kind = .tasks ∧ progress.tasks.isSome = true) := by
  obtain ⟨complete, tasks, operation⟩ := progress
  cases operation with
  | some inner =>
      obtain ⟨header, draft⟩ := inner
      cases draft <;> simp [phase, Draft.phase, Phase.admits, Phase.collects]
  | none =>
      cases tasks with
      | none => simp [phase, Phase.admits, Phase.collects]
      | some group => simp [phase, Phase.admits, Phase.collects]

variable {progress : Progress} {number : Nat} {marker : Marker} {fault : Fault}

private theorem refused_of_openKind {kind : Kind}
    (named : marker.name = (Keyword.opens kind).name)
    (refused : progress.openKind number kind marker.arguments = .error fault) :
    Refused progress marker fault := by
  unfold openKind at refused
  split at refused
  · next nested =>
      cases refused
      obtain ⟨rfl, grouped⟩ := nested
      exact .nested named grouped
  · next single =>
      split at refused
      · next collects =>
          cases refused
          exact .openCollecting named single collects
      · next drops =>
          split at refused
          · next unread =>
              cases refused
              exact .unreadable named single (Bool.eq_false_iff.mpr drops) unread
          · cases kind <;> cases refused

private theorem refused_of_enter {keyword : Keyword} {change : Draft → Draft}
    (divides : keyword = .upTo ∨ keyword = .replace) (named : marker.name = keyword.name)
    (refused : progress.enter keyword change = .error fault) : Refused progress marker fault := by
  unfold enter at refused
  split at refused
  · next denied =>
      cases refused
      rcases require_eq_error_iff.mp denied with ⟨idle, rfl⟩ | ⟨active, absent, rfl⟩
      · exact .divideIdle divides named idle
      · exact .divideMisplaced divides named active ((accepts_of_name named).trans absent)
  · cases refused

private theorem refused_of_close (named : marker.name = Keyword.close.name)
    (refused : progress.close marker.arguments = .error fault) : Refused progress marker fault := by
  unfold close at refused
  split at refused
  · next argued =>
      cases refused
      exact .closeArguments named argued.1 argued.2
  · next free =>
      split at refused
      · next denied =>
          cases refused
          rcases require_eq_error_iff.mp denied with ⟨idle, rfl⟩ | ⟨active, absent, rfl⟩
          · exact .closeIdle named idle
          · have bare : marker.arguments = [] :=
              Classical.byContradiction fun argued => free ⟨active, argued⟩
            exact .closeMisplaced named active bare ((accepts_of_name named).trans absent)
      · cases refused

theorem refused_of_follow (refused : progress.follow number marker = .error fault) :
    Refused progress marker fault := by
  unfold follow at refused
  split at refused
  · next kind named =>
      exact refused_of_openKind (Keyword.ofName?_eq_some_iff.mp named) refused
  · next named =>
      exact refused_of_enter (.inl rfl) (Keyword.ofName?_eq_some_iff.mp named) refused
  · next named =>
      exact refused_of_enter (.inr rfl) (Keyword.ofName?_eq_some_iff.mp named) refused
  · next named => exact refused_of_close (Keyword.ofName?_eq_some_iff.mp named) refused
  · next missing =>
      cases refused
      exact .unknown (Keyword.ofName?_eq_none_iff.mp missing)

private theorem follow_of_divides {keyword : Keyword}
    (divides : keyword = .upTo ∨ keyword = .replace) (named : marker.name = keyword.name)
    (denied : progress.require keyword = .error fault) :
    progress.follow number marker = .error fault := by
  rw [follow, Keyword.ofName?_eq_some_iff.mpr named]
  rcases divides with rfl | rfl
  · simp only [enter, denied]
  · simp only [enter, denied]

theorem follow_of_refused (refused : Refused progress marker fault) :
    progress.follow number marker = .error fault := by
  cases refused with
  | closeIdle named idle =>
      rw [follow, Keyword.ofName?_eq_some_iff.mpr named]
      simp [close, require, idle]
  | closeArguments named active argued =>
      rw [follow, Keyword.ofName?_eq_some_iff.mpr named]
      simp [close, active, argued]
  | closeMisplaced named active bare misplaced =>
      rw [accepts_of_name named] at misplaced
      rw [follow, Keyword.ofName?_eq_some_iff.mpr named]
      simp [close, require, active, bare, misplaced]
  | divideIdle divides named idle =>
      exact follow_of_divides divides named (require_eq_error_iff.mpr (.inl ⟨idle, rfl⟩))
  | divideMisplaced divides named active misplaced =>
      rw [accepts_of_name named] at misplaced
      exact follow_of_divides divides named
        (require_eq_error_iff.mpr (.inr ⟨active, misplaced, rfl⟩))
  | nested named grouped =>
      rw [follow, Keyword.ofName?_eq_some_iff.mpr named]
      simp [openKind, grouped]
  | openCollecting named single collects =>
      rw [follow, Keyword.ofName?_eq_some_iff.mpr named]
      simp only [openKind, if_neg single, collects, if_true]
  | unreadable named single drops unread =>
      rw [follow, Keyword.ofName?_eq_some_iff.mpr named]
      simp only [openKind, if_neg single, drops, Bool.false_eq_true, if_false, unread]
  | unknown nameless => rw [follow, Keyword.ofName?_eq_none_iff.mpr nameless]

theorem not_refused_of_accepts (accepted : progress.phase.accepts marker.name = true)
    (suits : marker.Suits) : ¬Refused progress marker fault := by
  intro refused
  cases refused with
  | closeIdle named idle =>
      rw [accepts_of_name named, idle] at accepted
      cases accepted
  | closeArguments named active argued => exact argued (suits.closes named)
  | closeMisplaced named active bare misplaced =>
      rw [misplaced] at accepted
      cases accepted
  | divideIdle divides named idle =>
      rw [accepts_of_name named, idle] at accepted
      rcases divides with rfl | rfl <;> cases accepted
  | divideMisplaced divides named active misplaced =>
      rw [misplaced] at accepted
      cases accepted
  | nested named grouped =>
      rw [accepts_of_name named, admits_opens_iff] at accepted
      exact accepted.2 ⟨rfl, grouped⟩
  | openCollecting named single collects =>
      rw [accepts_of_name named, admits_opens_iff, collects] at accepted
      cases accepted.1
  | unreadable named single drops unread =>
      obtain ⟨attributes, read⟩ := suits.opens _ named
      rw [unread] at read
      cases read
  | unknown nameless =>
      rw [Phase.accepts, Keyword.ofName?_eq_none_iff.mpr nameless] at accepted
      cases accepted

private theorem accepts_opens {kind : Kind} (named : marker.name = (Keyword.opens kind).name)
    (granted : ∀ fault, ¬Refused progress marker fault) :
    progress.phase.accepts marker.name = true := by
  rw [accepts_of_name named, admits_opens_iff]
  have single : ¬(kind = .tasks ∧ progress.tasks.isSome = true) := by
    rintro ⟨rfl, grouped⟩
    exact granted _ (.nested named grouped)
  refine ⟨?_, single⟩
  rw [Bool.eq_false_iff]
  intro collects
  exact granted _ (.openCollecting named single collects)

private theorem accepts_divides {keyword : Keyword}
    (divides : keyword = .upTo ∨ keyword = .replace) (named : marker.name = keyword.name)
    (granted : ∀ fault, ¬Refused progress marker fault) :
    progress.phase.accepts marker.name = true := by
  have active : progress.phase ≠ .idle := fun idle => granted _ (.divideIdle divides named idle)
  rw [← Bool.not_eq_false]
  exact fun misplaced => granted _ (.divideMisplaced divides named active misplaced)

private theorem accepts_close (named : marker.name = Keyword.close.name)
    (suits : marker.Suits) (granted : ∀ fault, ¬Refused progress marker fault) :
    progress.phase.accepts marker.name = true := by
  have active : progress.phase ≠ .idle := fun idle => granted _ (.closeIdle named idle)
  rw [← Bool.not_eq_false]
  exact fun misplaced => granted _ (.closeMisplaced named active (suits.closes named) misplaced)

theorem suits_of_not_refused (granted : ∀ fault, ¬Refused progress marker fault) :
    marker.Suits where
  opens kind named := by
    cases read : Attribute.readList marker.arguments with
    | ok attributes => exact ⟨attributes, rfl⟩
    | error fault =>
        have accepted := accepts_opens named granted
        rw [accepts_of_name named, admits_opens_iff] at accepted
        exact absurd (.unreadable named accepted.2 accepted.1 read) (granted _)
  closes named := by
    have active : progress.phase ≠ .idle := fun idle => granted _ (.closeIdle named idle)
    exact Classical.byContradiction fun argued => granted _ (.closeArguments named active argued)

theorem accepts_of_not_refused (granted : ∀ fault, ¬Refused progress marker fault) :
    progress.phase.accepts marker.name = true := by
  cases found : Keyword.ofName? marker.name with
  | none => exact absurd (.unknown (Keyword.ofName?_eq_none_iff.mp found)) (granted _)
  | some keyword =>
      have named := Keyword.ofName?_eq_some_iff.mp found
      cases keyword with
      | opens kind => exact accepts_opens named granted
      | upTo => exact accepts_divides (.inl rfl) named granted
      | replace => exact accepts_divides (.inr rfl) named granted
      | close => exact accepts_close named (suits_of_not_refused granted) granted

theorem follow_eq_error_iff :
    progress.follow number marker = .error fault ↔ Refused progress marker fault :=
  ⟨refused_of_follow, follow_of_refused⟩

theorem follow_taken_iff :
    (∃ next, progress.follow number marker = .ok next) ↔
      progress.phase.accepts marker.name = true ∧ marker.Suits := by
  constructor
  · rintro ⟨next, taken⟩
    have granted : ∀ fault, ¬Refused progress marker fault := by
      intro fault refused
      rw [follow_of_refused refused] at taken
      cases taken
    exact ⟨accepts_of_not_refused granted, suits_of_not_refused granted⟩
  · rintro ⟨accepted, suits⟩
    cases taken : progress.follow number marker with
    | ok next => exact ⟨next, rfl⟩
    | error fault => exact absurd (refused_of_follow taken) (not_refused_of_accepts accepted suits)

theorem step_of_marker {delimiters : Delimiters} {line : Text}
    (marks : LineClass.ofLine delimiters progress.phase line = .ok (.marker marker)) :
    progress.step delimiters number line = progress.follow number marker := by
  rw [step, marks]

end Progress

/-- A line that is a marker in the phase of a reader, whatever the reader holds, is
taken exactly when the name of the marker leads on from the phase and its arguments
suit it.  Otherwise it has the one fault that the rules give, and the reader holds
exactly what it held before.  Reading in place and reading step by step agree. -/
theorem marker_taken_or_refused {delimiters : Delimiters} {progress : Progress} {number : Nat}
    {line : Text} {marker : Marker}
    (marks : LineClass.ofLine delimiters progress.phase line = .ok (.marker marker)) :
    ((∃ after, (InPlace.step delimiters number line).apply progress = (.ok (), after)) ↔
      progress.phase.accepts marker.name = true ∧ marker.Suits) ∧
    (∀ fault after, (InPlace.step delimiters number line).apply progress = (.error fault, after) ↔
      after = progress ∧ Progress.Refused progress marker fault) ∧
    (∀ after, (InPlace.step delimiters number line).apply progress = (.ok (), after) ↔
      progress.step delimiters number line = .ok after) := by
  rw [InPlace.apply_step]
  refine ⟨?_, ?_, fun after => InPlace.settle_eq_ok_iff⟩
  · simp only [InPlace.settle_eq_ok_iff, Progress.step_of_marker marks]
    exact Progress.follow_taken_iff
  · intro fault after
    rw [InPlace.settle_eq_error_iff, Progress.step_of_marker marks, Progress.follow_eq_error_iff]

/-- In a search inside a tasks block, a second block is refused for the first one and
not for the search or for its own arguments, and `TO` is taken whatever its arguments
are. -/
theorem marker_taken_or_refused_in_nested_search :
    ∃ progress, Progress.start.advance ⟨['<'], ['>']⟩ 1
        ["<TASKS>".toList, "<SEARCH>".toList, "x".toList] = .ok progress ∧
      (InPlace.step ⟨['<'], ['>']⟩ 4 "<TASKS a>".toList).apply progress =
        (.error .nestedTasks, progress) ∧
      ∃ after,
        (InPlace.step ⟨['<'], ['>']⟩ 4 "<TO a>".toList).apply progress = (.ok (), after) := by
  let held : Progress := ⟨[], some ⟨⟨1, []⟩, []⟩, some ⟨⟨2, []⟩, .searchPattern ["x".toList]⟩⟩
  have second : LineClass.ofLine ⟨['<'], ['>']⟩ held.phase "<TASKS a>".toList =
      .ok (.marker ⟨"TASKS".toList, "a".toList⟩) := rfl
  have divider : LineClass.ofLine ⟨['<'], ['>']⟩ held.phase "<TO a>".toList =
      .ok (.marker ⟨"TO".toList, "a".toList⟩) := rfl
  have unargued : Attribute.readList [] = .ok [] := by cbv
  have group : Opens ⟨['<'], ['>']⟩ .tasks [] "<TASKS>".toList := ⟨[], rfl, unargued⟩
  have search : Opens ⟨['<'], ['>']⟩ .search [] "<SEARCH>".toList := ⟨[], rfl, unargued⟩
  have pattern : Content ⟨['<'], ['>']⟩ (Draft.phase (.searchPattern [])) "x".toList := by decide
  have reached : Progress.start.advance ⟨['<'], ['>']⟩ 1
      ["<TASKS>".toList, "<SEARCH>".toList, "x".toList] = .ok held := by
    rw [Progress.start, Progress.advance_cons_of_moves (.openTasks group),
      Progress.advance_cons_of_moves (.openLeaf rfl search)]
    exact Progress.advance_cons_of_moves (.collect pattern) []
  refine ⟨held, reached, ?_, ?_⟩
  · exact ((marker_taken_or_refused second).2.1 _ _).mpr ⟨rfl, .nested rfl rfl⟩
  · apply (marker_taken_or_refused divider).1.mpr
    refine ⟨rfl, ?_, fun named => by cases named⟩
    intro kind named
    cases kind <;> cases named

end ChangeScript
