import RpcStubs.Command.Session

/-!
# What steps do to a disk

Of the steps of a script only those that make directories and write reach the disk. What becomes of
the disk of a session, and whether the session is refused something, follows from these steps alone,
whatever is logged and printed between them (`allOnDisk_performAll`, `allOnDisk_filter`).
-/

namespace RpcStubs.Command

namespace Step

/-- Whether a step makes directories or writes. -/
def touchesDisk : Step → Bool
  | makeDirectories _ | write _ _ => true
  | log _ | print _ => false

/-- The disk after a step. -/
def onDisk (disk : Disk) : Step → Except Refusal Disk
  | makeDirectories path => disk.makeDirectories path
  | write path content => disk.write path (.text content)
  | log _ | print _ => .ok disk

/-- The disk after some steps, up to the first that is refused, and why it is. -/
def allOnDisk (disk : Disk) : List Step → Disk × Option Failure
  | [] => (disk, none)
  | step :: rest =>
      match step.onDisk disk with
      | .ok next => allOnDisk next rest
      | .error refusal => (disk, step.failure? refusal.message)

theorem onDisk_of_not_touchesDisk {step : Step} (apart : step.touchesDisk = false) (disk : Disk) :
    step.onDisk disk = .ok disk := by
  cases step with
  | log entry => rfl
  | print text => rfl
  | makeDirectories path => cases apart
  | write path content => cases apart

/-- A refused step has its failure. -/
theorem exists_failure_of_onDisk_eq_error {step : Step} {disk : Disk} {refusal : Refusal}
    (refused : step.onDisk disk = .error refusal) (reason : String) :
    ∃ failure, step.failure? reason = some failure := by
  cases step with
  | log entry => cases refused
  | print text => cases refused
  | makeDirectories path => exact ⟨_, rfl⟩
  | write path content => exact ⟨_, rfl⟩

/-- Some steps do to a disk what those of them do that touch it. -/
theorem allOnDisk_filter (disk : Disk) (steps : List Step) :
    allOnDisk disk (steps.filter touchesDisk) = allOnDisk disk steps := by
  induction steps generalizing disk with
  | nil => rfl
  | cons step rest ih =>
      by_cases touches : step.touchesDisk = true
      · rw [List.filter_cons_of_pos touches, allOnDisk, allOnDisk]
        cases step.onDisk disk with
        | ok next => exact ih next
        | error refusal => rfl
      · rw [List.filter_cons_of_neg touches, ih, allOnDisk,
          onDisk_of_not_touchesDisk (Bool.eq_false_iff.mpr touches)]

/-- Where all steps are done so is the first, and all others are done behind it. -/
theorem exists_onDisk_of_allOnDisk_cons {disk later : Disk} {step : Step} {rest : List Step}
    (done : allOnDisk disk (step :: rest) = (later, none)) :
    ∃ next, step.onDisk disk = .ok next ∧ allOnDisk next rest = (later, none) := by
  rw [allOnDisk] at done
  cases first : step.onDisk disk with
  | ok next =>
      rw [first] at done
      exact ⟨next, rfl, done⟩
  | error refusal =>
      rw [first] at done
      rcases exists_failure_of_onDisk_eq_error first refusal.message with ⟨failure, named⟩
      cases named.symm.trans (Prod.mk.inj done).2

/-- Steps that are all done change the disk one after the other. -/
theorem foldlM_onDisk_of_allOnDisk {disk later : Disk} {steps : List Step}
    (done : allOnDisk disk steps = (later, none)) : steps.foldlM onDisk disk = .ok later := by
  induction steps generalizing disk with
  | nil =>
      obtain rfl := (Prod.mk.inj done).1
      rfl
  | cons step rest ih =>
      rcases exists_onDisk_of_allOnDisk_cons done with ⟨next, first, restDone⟩
      rw [List.foldlM_cons, first]
      exact ih restDone

theorem allOnDisk_append {disk later : Disk} {steps : List Step}
    (done : allOnDisk disk steps = (later, none)) (others : List Step) :
    allOnDisk disk (steps ++ others) = allOnDisk later others := by
  induction steps generalizing disk with
  | nil =>
      obtain rfl := (Prod.mk.inj done).1
      rfl
  | cons step rest ih =>
      rcases exists_onDisk_of_allOnDisk_cons done with ⟨next, first, restDone⟩
      rw [List.cons_append, allOnDisk, first]
      exact ih restDone

end Step

namespace Session

/-- A step does to the disk of a session what it does to the disk by itself. -/
theorem map_disk_perform (session : Session) (step : Step) :
    (session.perform step).map Session.disk = step.onDisk session.disk := by
  cases step with
  | log entry => rfl
  | print text => rfl
  | makeDirectories path =>
      simp only [perform, Step.onDisk]
      cases session.disk.makeDirectories path <;> rfl
  | write path content =>
      simp only [perform, Step.onDisk]
      cases session.disk.write path (.text content) <;> rfl

theorem allOnDisk_performAll (session : Session) (steps : List Step) :
    ((session.performAll steps).1.disk, (session.performAll steps).2) =
      Step.allOnDisk session.disk steps := by
  induction steps generalizing session with
  | nil => rfl
  | cons step rest ih =>
      rw [performAll, Step.allOnDisk, ← map_disk_perform]
      cases session.perform step with
      | ok next => exact ih next
      | error refusal => rfl

/-- A session that is refused nothing ends as its script does. -/
theorem run_of_granted {session : Session} {script : Script}
    (granted : (session.performAll script.steps).2 = none) :
    session.run script = ((session.performAll script.steps).1, script.failure) := by
  have ended : session.performAll script.steps = ((session.performAll script.steps).1, none) :=
    Prod.ext rfl granted
  rw [run, ended]

/-- A session whose disk takes all steps of a script is refused nothing. -/
theorem exists_run_eq_of_allOnDisk {session : Session} {script : Script} {later : Disk}
    (done : Step.allOnDisk session.disk script.steps = (later, none)) :
    (session.performAll script.steps).2 = none
      ∧ ∃ ended, session.run script = (ended, script.failure) ∧ ended.disk = later := by
  rw [← allOnDisk_performAll] at done
  rcases Prod.mk.inj done with ⟨disk, granted⟩
  exact ⟨granted, _, run_of_granted granted, disk⟩

/-- A session that does not fail is refused nothing, and its script does not fail. -/
theorem performAll_of_run_eq {session ended : Session} {script : Script}
    (done : session.run script = (ended, none)) :
    session.performAll script.steps = (ended, none) ∧ script.failure = none := by
  rw [run] at done
  split at done
  next last performed =>
    obtain ⟨rfl, fine⟩ := Prod.mk.inj done
    exact ⟨performed, fine⟩
  next stopped =>
    exact absurd done (stopped ended)

end Session

end RpcStubs.Command
