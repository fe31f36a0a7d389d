import Shapefile.Proofs.Dataset.Lockstep

/-! The life of a dataset: unopened, then being read or being written, then
closed. A call that does not go with the stage is refused and changes nothing.
Opening for reading sets what it has to set after the last step that can fail. -/
namespace Shapefile.Dataset

/-! ### Opening step by step -/

/-- Take over the spatial reference of the projection file, if it has one. -/
def adoptSrid (disk : Disk) (file : Option Path) : Query Unit := do
  match file with
  | none => pure ()
  | some file =>
    match ← (Companions.readSrid disk file).mapError DatasetError.storage with
    | some srid => modify fun d => d.setSrid srid
    | none => pure ()

/-- Open a dataset, changing it in place, one field after the other. -/
def openInPlace (disk : Disk) (path : Path) (label : Option String) : Query Unit := do
  let options := (← get).options
  (← get).checkUnopened
  let files ← Companions.find disk path
  let codePage ← resolveCodePage disk (label.or options.forcedCodePage) files.codePage
  let r ← openFiles disk options files codePage
  adoptSrid disk files.projection
  modify fun d => { d with state := .reading r }
  modify fun d => { d with files := some files }

theorem runOn_adoptSrid (disk : Disk) (file : Option Path) (d : Dataset) :
    runOn (adoptSrid disk file) d =
      match resolveSrid disk file d.srid with
      | .ok srid => (.ok (), { d with srid })
      | .error e => (.error e, d) := by
  cases file with
  | none => rfl
  | some file =>
      simp only [adoptSrid, resolveSrid, runOn_bind, runOn_lift]
      cases Companions.readSrid disk file with
      | error e => rfl
      | ok found =>
          cases found with
          | none => rfl
          | some srid => rfl

/-- Opening in place gives the opened dataset, and leaves a dataset that could
not be opened as it was. -/
theorem runOn_openInPlace (disk : Disk) (path : Path) (label : Option String) (d : Dataset) :
    runOn (openInPlace disk path label) d =
      match d.openForReading disk path label with
      | .ok next => (.ok (), next)
      | .error e => (.error e, d) := by
  simp only [openInPlace, openForReading, runOn_bind, runOn_get, runOn_lift, runOn_adoptSrid]
  -- no step before the spatial reference touches the dataset, and no step behind it can fail
  cases d.checkUnopened with
  | error e => rfl
  | ok _ =>
      simp only [ok_bind]
      cases Companions.find disk path with
      | error e => rfl
      | ok files =>
          simp only [ok_bind]
          cases resolveCodePage disk (label.or d.options.forcedCodePage) files.codePage with
          | error e => rfl
          | ok codePage =>
              simp only [ok_bind]
              cases openFiles disk d.options files codePage with
              | error e => rfl
              | ok r =>
                  simp only [ok_bind]
                  cases resolveSrid disk files.projection d.srid with
                  | error e => rfl
                  | ok srid => rfl

/-! ### One call -/

/-- What the stage of a dataset says of a call: why it is refused, or the stage
that it leads to if it succeeds. -/
def Call.outcome (stage : Stage) : Call → Except StateFault Stage
  | .create _ _ _ => if stage = .unopened then .ok .writing else .error (.cannotOpen stage)
  | .openForReading _ _ => if stage = .unopened then .ok .reading else .error (.cannotOpen stage)
  | .insert _ => if stage = .writing then .ok .writing else .error .notWriting
  | .row _ | .field _ _ | .rowSize _ =>
    if stage = .reading then .ok .reading else .error .notReading
  | .setGeometryIndex _ | .setSrid _ => .ok stage
  | .close => if stage = .closed then .error .alreadyClosed else .ok .closed

/-- A call that is there to change files. -/
def Call.Writes : Call → Prop
  | .create _ _ _ | .insert _ | .close => True
  | _ => False

/-- A call goes by the stage. Refused, it changes nothing; else it leads to its
stage, or nowhere if it fails. Closing what is not closed never fails, and what
is not there to change files does not. -/
structure Follows [Host] (d : Dataset) (disk : Disk) (call : Call) : Prop where
  refused : ∀ fault, call.outcome d.state.stage = .error fault →
    d.perform disk call = (.error (.state fault), d, disk)
  moved : ∀ stage, call.outcome d.state.stage = .ok stage →
    (d.perform disk call).2.1.state.stage =
      if (d.perform disk call).1.isOk then stage else d.state.stage
  closes : d.state.stage ≠ .closed → call = .close → (d.perform disk call).1 = .ok ()
  kept : ¬call.Writes → (d.perform disk call).2.2 = disk

theorem stage_eq_reading {d : Dataset} (hStage : d.state.stage = .reading) :
    ∃ r, d.state = .reading r := by
  cases hState : d.state with
  | reading r => exact ⟨r, rfl⟩
  | _ =>
      rw [hState] at hStage
      cases hStage

/-- What a call is refused with, if anything, and where it leads. -/
theorem outcome_error {stage needed led : Stage} {fault other : StateFault}
    (hOutcome : (if stage = needed then .ok led else .error fault : Except StateFault Stage) =
      .error other) : stage ≠ needed ∧ other = fault := by
  split at hOutcome
  next => cases hOutcome
  next hStage =>
    cases hOutcome
    exact ⟨hStage, rfl⟩

theorem outcome_ok {stage needed led next : Stage} {fault : StateFault}
    (hOutcome : (if stage = needed then .ok led else .error fault : Except StateFault Stage) =
      .ok next) : stage = needed ∧ next = led := by
  split at hOutcome
  next hStage =>
    cases hOutcome
    exact ⟨hStage, rfl⟩
  next => cases hOutcome

theorem checkUnopened_error {d : Dataset} (hStage : d.state.stage ≠ .unopened) :
    d.checkUnopened = .error (.state (.cannotOpen d.state.stage)) := by
  unfold checkUnopened
  cases hState : d.state with
  | unopened =>
      rw [hState] at hStage
      exact absurd rfl hStage
  | _ => rfl

section Follows

variable (d : Dataset) (disk : Disk)

/-- An operation that only ever gives datasets in this stage leads there, or
leaves the stage if it fails. -/
theorem moved_by_replaceBy {result : Except DatasetError Dataset × Disk} {stage : Stage}
    (hNext : ∀ next last, result = (.ok next, last) → next.state.stage = stage) :
    (d.replaceBy result).2.1.state.stage =
      if (d.replaceBy result).1.isOk then stage else d.state.stage := by
  obtain ⟨_ | next, last⟩ := result
  · rfl
  · exact hNext next last rfl

theorem follows_create [Host] (path : Path) (shapeType : ShapeType) (header : TableHeader) :
    d.Follows disk (.create path shapeType header) where
  refused fault hFault := by
    obtain ⟨hStage, rfl⟩ := outcome_error hFault
    have hRefused : runOn (d.create path shapeType header) disk =
        (.error (.state (.cannotOpen d.state.stage)), disk) := by
      rw [create, runOn_bind, runOn_lift, checkUnopened_error hStage]
    rw [perform, hRefused]
    rfl
  moved stage hOutcome := by
    obtain ⟨_, rfl⟩ := outcome_ok hOutcome
    refine d.moved_by_replaceBy fun next last hCreate => ?_
    obtain ⟨_, w, hState, _⟩ := create_ok hCreate
    rw [hState]
    rfl
  closes _ hClose := by cases hClose
  kept hReads := absurd True.intro hReads

theorem follows_openForReading [Host] (path : Path) (label : Option String) :
    d.Follows disk (.openForReading path label) where
  refused fault hFault := by
    obtain ⟨hStage, rfl⟩ := outcome_error hFault
    rw [perform, openForReading, checkUnopened_error hStage]
    rfl
  moved stage hOutcome := by
    obtain ⟨_, rfl⟩ := outcome_ok hOutcome
    refine d.moved_by_replaceBy fun next last hOpen => ?_
    obtain ⟨_, _, _, r, _, _, _, hState⟩ := openForReading_ok (congrArg Prod.fst hOpen)
    rw [hState]
    rfl
  closes _ hClose := by cases hClose
  kept _ := by
    rw [perform]
    cases d.openForReading disk path label with
    | error e => rfl
    | ok next => rfl

theorem follows_insert [Host] (values : List Value) : d.Follows disk (.insert values) where
  refused fault hFault := by
    obtain ⟨hStage, rfl⟩ := outcome_error hFault
    rw [perform, insert]
    cases hState : d.state with
    | writing w =>
        rw [hState] at hStage
        exact absurd rfl hStage
    | _ => rfl
  moved stage hOutcome := by
    obtain ⟨hStage, rfl⟩ := outcome_ok hOutcome
    rw [perform]
    rcases d.insert_cases disk values with
      ⟨e, hRefused⟩ | ⟨w, g, attributes, record, payload, _, _, _, _, _, _, hAdded⟩
    · rw [hRefused]
      rfl
    · rw [hAdded]
      rfl
  closes _ hClose := by cases hClose
  kept hReads := absurd True.intro hReads

/-- A query of a row: refused unless the dataset is being read, which it stays. -/
theorem follows_query [Host] {α : Type} {call : Call} {row : Nat} {rest : Nat → Query α}
    (hCall : d.perform disk call = afterQuery disk (runOn (checkRow row >>= rest) d))
    (hOutcome : call.outcome d.state.stage =
      if d.state.stage = .reading then .ok .reading else .error .notReading)
    (hConfined : Confined (checkRow row >>= rest)) (hNotClose : call ≠ .close) :
    d.Follows disk call where
  refused fault hFault := by
    rw [hOutcome] at hFault
    obtain ⟨hStage, rfl⟩ := outcome_error hFault
    have hOther : ∀ r, d.state ≠ .reading r := by
      intro r hReading
      rw [hReading] at hStage
      exact hStage rfl
    rw [hCall, runOn_of_checkRow hOther]
    rfl
  moved stage hLed := by
    rw [hOutcome] at hLed
    obtain ⟨hStage, rfl⟩ := outcome_ok hLed
    obtain ⟨r, hState⟩ := stage_eq_reading hStage
    obtain ⟨later, hLater⟩ := hConfined d r hState
    rw [hCall, afterQuery, hLater, hStage, ite_self]
    rfl
  closes _ hClose := absurd hClose hNotClose
  kept _ := by
    rw [hCall]
    rfl

theorem follows_close [Host] : d.Follows disk .close where
  refused fault hFault := by
    simp only [Call.outcome] at hFault
    split at hFault
    next hStage =>
      cases hFault
      rw [perform, close]
      cases hState : d.state with
      | closed => rfl
      | _ =>
          rw [hState] at hStage
          cases hStage
    next => cases hFault
  moved stage hOutcome := by
    simp only [Call.outcome] at hOutcome
    split at hOutcome
    next => cases hOutcome
    next =>
      cases hOutcome
      refine d.moved_by_replaceBy fun next last hClose => ?_
      rw [close_ok hClose]
      rfl
  closes hOpen _ := by
    rw [perform, close]
    cases hState : d.state with
    | closed =>
        rw [hState] at hOpen
        exact absurd rfl hOpen
    | _ => rfl
  kept hReads := absurd True.intro hReads

/-- Every call on every dataset goes by the stage. -/
theorem follows [Host] (call : Call) : d.Follows disk call := by
  cases call with
  | create path shapeType header => exact d.follows_create disk path shapeType header
  | openForReading path label => exact d.follows_openForReading disk path label
  | insert values => exact d.follows_insert disk values
  | row row => exact d.follows_query disk rfl rfl (Confined.row disk row) nofun
  | field row column => exact d.follows_query disk rfl rfl (Confined.field disk row column) nofun
  | rowSize row => exact d.follows_query disk rfl rfl (Confined.rowSize disk row) nofun
  | setGeometryIndex index => exact ⟨nofun, fun _ hLed => by cases hLed; rfl, nofun, fun _ => rfl⟩
  | setSrid srid => exact ⟨nofun, fun _ hLed => by cases hLed; rfl, nofun, fun _ => rfl⟩
  | close => exact d.follows_close disk

end Follows

/-! ### Any sequence of events -/

/-- What can happen: a call, or other programs leave the disk in some way. -/
inductive Event where
  | call (call : Call)
  | outside (disk : Disk)

/-- The dataset and the disk after some events, whatever the calls gave. -/
def afterEvents [Host] (d : Dataset) (disk : Disk) : List Event → Dataset × Disk
  | [] => (d, disk)
  | .call call :: events =>
    (d.perform disk call).2.1.afterEvents (d.perform disk call).2.2 events
  | .outside changed :: events => d.afterEvents changed events

/-- The disk as the other programs left it. -/
def outsideDisk (disk : Disk) : List Event → Disk
  | [] => disk
  | .call _ :: events => outsideDisk disk events
  | .outside changed :: events => outsideDisk changed events

/-- From the first stage on to the last, with no way from reading to writing
or back. -/
def Leads (first last : Stage) : Prop := first = last ∨ first = .unopened ∨ last = .closed

theorem Leads.trans {first middle last : Stage} (hFirst : Leads first middle)
    (hLast : Leads middle last) : Leads first last := by
  rcases hFirst with rfl | hUnopened | rfl
  · exact hLast
  · exact Or.inr (Or.inl hUnopened)
  · rcases hLast with rfl | hUnopened | hClosed
    · exact Or.inr (Or.inr rfl)
    · cases hUnopened
    · exact Or.inr (Or.inr hClosed)

/-- A call leads where it may. -/
theorem outcome_leads {call : Call} {stage next : Stage}
    (hOutcome : call.outcome stage = .ok next) : Leads stage next := by
  cases call with
  | create | openForReading => exact Or.inr (Or.inl (outcome_ok hOutcome).1)
  | insert | row | field | rowSize =>
      obtain ⟨hStage, hNext⟩ := outcome_ok hOutcome
      exact Or.inl (hStage.trans hNext.symm)
  | setGeometryIndex | setSrid => exact Or.inl (Except.ok.inj hOutcome)
  | close =>
      simp only [Call.outcome] at hOutcome
      split at hOutcome
      next => cases hOutcome
      next =>
        cases hOutcome
        exact Or.inr (Or.inr rfl)

theorem Follows.leads [Host] {d : Dataset} {disk : Disk} {call : Call} (h : d.Follows disk call) :
    Leads d.state.stage (d.perform disk call).2.1.state.stage := by
  cases hOutcome : call.outcome d.state.stage with
  | error fault =>
      rw [h.refused fault hOutcome]
      exact Or.inl rfl
  | ok stage =>
      rw [h.moved stage hOutcome]
      split
      · exact outcome_leads hOutcome
      · exact Or.inl rfl

theorem afterEvents_leads [Host] (d : Dataset) (disk : Disk) (events : List Event) :
    Leads d.state.stage (d.afterEvents disk events).1.state.stage := by
  induction events generalizing d disk with
  | nil => exact Or.inl rfl
  | cons event events ih =>
      cases event with
      | call call => exact (d.follows disk call).leads.trans (ih _ _)
      | outside changed => exact ih d changed

/-- No call on a closed dataset changes a file. -/
theorem perform_of_closed [Host] {d : Dataset} (hClosed : d.state.stage = .closed) (disk : Disk)
    (call : Call) :
    (d.perform disk call).2.1.state.stage = .closed ∧ (d.perform disk call).2.2 = disk := by
  have hFollows := d.follows disk call
  constructor
  · rcases hFollows.leads with hSame | hUnopened | hStays
    · rw [← hSame, hClosed]
    · rw [hClosed] at hUnopened
      cases hUnopened
    · exact hStays
  · cases hOutcome : call.outcome d.state.stage with
    | error fault => rw [hFollows.refused fault hOutcome]
    | ok stage =>
        apply hFollows.kept
        rw [hClosed] at hOutcome
        cases call with
        | create | insert | close => cases hOutcome
        | _ => exact fun hWrites => hWrites

theorem afterEvents_of_closed [Host] {d : Dataset} (hClosed : d.state.stage = .closed) (disk : Disk)
    (events : List Event) :
    (d.afterEvents disk events).1.state.stage = .closed ∧
      (d.afterEvents disk events).2 = outsideDisk disk events := by
  induction events generalizing d disk with
  | nil => exact ⟨hClosed, rfl⟩
  | cons event events ih =>
      cases event with
      | outside changed => exact ih hClosed changed
      | call call =>
          obtain ⟨hStill, hKept⟩ := perform_of_closed hClosed disk call
          obtain ⟨hLast, hDisk⟩ := ih hStill (d.perform disk call).2.2
          refine ⟨hLast, ?_⟩
          rw [afterEvents, hDisk, hKept, outsideDisk]

/-- Outside reading and writing there are no rows and no fields. -/
theorem counts_of_stage {d : Dataset}
    (hStage : d.state.stage = .unopened ∨ d.state.stage = .closed) :
    d.rowCount = 0 ∧ d.fieldCount = 0 := by
  unfold rowCount fieldCount tableHeader?
  cases hState : d.state with
  | unopened => exact ⟨rfl, rfl⟩
  | closed => exact ⟨rfl, rfl⟩
  | reading r =>
      rw [hState] at hStage
      rcases hStage with hNot | hNot <;> cases hNot
  | writing w =>
      rw [hState] at hStage
      rcases hStage with hNot | hNot <;> cases hNot

/-- The life cycle of a dataset, after any calls on a new one, while other
programs change the disk in between. A call that the stage does not allow is
refused and changes neither the dataset nor the disk; any other call leads to
its stage if it succeeds, and leaves the stage if it fails. Closing what is not
closed succeeds. Reads, openings and settings never change the disk. Before
opening and after closing there are no rows and no fields. A closed dataset
stays closed, and no call on it changes a file. An opening that fails, at
whichever step, leaves the dataset and the disk, so all that happens later is
as if it had not been tried. -/
theorem life_cycle [Host] (options : DatasetOptions) (disk : Disk) (events : List Event) :
    let (d, now) := ({ options } : Dataset).afterEvents disk events
    (∀ call, d.Follows now call) ∧
    (∀ later, Leads d.state.stage (d.afterEvents now later).1.state.stage) ∧
    (d.state.stage = .unopened ∨ d.state.stage = .closed → d.rowCount = 0 ∧ d.fieldCount = 0) ∧
    (d.state.stage = .closed → ∀ later,
      (d.afterEvents now later).1.state.stage = .closed ∧
        (d.afterEvents now later).2 = outsideDisk now later) ∧
    ∀ path label e, d.openForReading now path label = .error e →
      runOn (openInPlace now path label) d = (.error e, d) ∧
        d.perform now (.openForReading path label) = (.error e, d, now) ∧
        ∀ later, d.afterEvents now (.call (.openForReading path label) :: later) =
          d.afterEvents now later := by
  rcases ({ options } : Dataset).afterEvents disk events with ⟨d, now⟩
  refine ⟨d.follows now, d.afterEvents_leads now, counts_of_stage, ?_, ?_⟩
  · exact fun hClosed => afterEvents_of_closed hClosed now
  · intro path label e hFailed
    have hPerform : d.perform now (.openForReading path label) = (.error e, d, now) := by
      rw [perform, hFailed]
      rfl
    refine ⟨?_, hPerform, fun later => ?_⟩
    · rw [runOn_openInPlace, hFailed]
    · rw [afterEvents, hPerform]

end Shapefile.Dataset
