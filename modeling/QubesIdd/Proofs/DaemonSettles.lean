import QubesIdd.Daemon
import QubesIdd.Library.Mailbox
import QubesIdd.Proofs.Debounce
import QubesIdd.Proofs.ExactMode
import QubesIdd.Proofs.ResdLogHistory

/-! The daemon from the gui-agent's logs to the display: once the newest log has been read to
its end and nothing more is written, the mode that is set is the last one that log asks for. -/

namespace QubesIdd.Resd
open Library Library.Runs

/-- The pending size and the calls of `SetExact`, as a slot for the latest request. -/
def State.box (state : State) : Mailbox Size := ⟨(state.pendW, state.pendH), state.pendTick ≠ 0, state.applied⟩

/-- Requests have been read at one time, and no look at the pause has been taken. -/
structure Pends (time : Nat) (state : State) (requests : List Size) (after : State) : Prop where
  applied : after.applied = state.applied
  updates : after.updates = state.updates ++ requests
  size : (after.pendW, after.pendH) = requests.getLast?.getD (state.pendW, state.pendH)
  ticked : after.pendTick = if requests = [] then state.pendTick else getTickCount time

theorem Pends.trans {time : Nat} {state middle after : State} {first last : List Size} (begun : Pends time state first middle)
    (ended : Pends time middle last after) : Pends time state (first ++ last) after where
  applied := ended.applied.trans begun.applied
  updates := by rw [ended.updates, begun.updates, List.append_assoc]
  size := by
    rw [ended.size, begun.size, List.getLast?_append]
    cases last.getLast? <;> simp
  ticked := by
    rw [ended.ticked, begun.ticked]
    cases last <;> simp

theorem act_updates (time : Nat) (state : State) (action : Action) :
    (act time state action).updates = state.updates ++ (completes state action).toList := by
  cases action with
  | followNewest newest =>
    have kept : (followNewest newest state).updates = state.updates :=
      followNewest_preserves (fun later => later.updates = state.updates) (fun _ _ kept => kept) newest state rfl
    exact kept.trans (List.append_nil _).symm
  | seek pos => exact (List.append_nil _).symm
  | readByte c =>
    simp only [act, readByte, completes]
    split
    next => cases pendingRequest state.line <;> simp
    next => split <;> simp
  | debounce =>
    exact (debounce_frame _ state).2.2.2.trans (List.append_nil _).symm

theorem act_pends (time : Nat) (state : State) {action : Action} (other : action ≠ .debounce) :
    Pends time state (completes state action).toList (act time state action) := by
  cases read : completes state action with
  | none =>
    obtain ⟨wide, high, ticked, applied⟩ := act_quiet time other read
    refine ⟨applied, read ▸ act_updates time state action, ?_, by simpa using ticked⟩
    rw [wide, high]
    rfl
  | some size =>
    obtain ⟨wide, high, ticked, applied⟩ := act_read time read
    refine ⟨applied, read ▸ act_updates time state action, ?_, by simpa using ticked⟩
    rw [wide, high]
    rfl

theorem Leads.pends {time : Nat} {state after : State} (leads : Leads time state after) :
    ∃ requests, Pends time state requests after := by
  obtain ⟨actions, quiet, rfl⟩ := leads
  induction actions generalizing state with
  | nil => exact ⟨[], rfl, (List.append_nil _).symm, rfl, rfl⟩
  | cons action actions ih =>
    have now := act_pends time state (Ne.symm (List.ne_of_not_mem_cons quiet))
    obtain ⟨requests, later⟩ := @ih (act time state action) (List.not_mem_of_not_mem_cons quiet)
    exact ⟨_, now.trans later⟩

namespace Daemon

/-- The reader of a turn once it has read, before it looks at the pause. -/
def reader (daemon : Daemon) (turn : DaemonTurn) : State :=
  readLog (daemon.logs.input (daemon.logTurn turn)) (followNewest (daemon.logs.input (daemon.logTurn turn)).newest daemon.logs.reader)

/-- The pause is over when a turn looks at it. -/
def due (daemon : Daemon) (turn : DaemonTurn) : Prop :=
  (daemon.reader turn).pendTick ≠ 0 ∧ getTickCount (daemon.nowTime turn) - (daemon.reader turn).pendTick > 400

instance (daemon : Daemon) (turn : DaemonTurn) : Decidable (daemon.due turn) := inferInstanceAs (Decidable (_ ∧ _))

/-- What a turn does to the reader and with `SetExact`. -/
theorem loop_cases (daemon : Daemon) (turn : DaemonTurn) :
    let read := daemon.reader turn
    let after := daemon.loop turn
    (daemon.due turn ∧ after.exact = exactStep daemon.exact ((read.pendW, read.pendH), turn.answers) ∧
        after.logs.reader = { read with applied := read.applied ++ [(read.pendW, read.pendH)], pendTick := 0 }) ∨
      (¬ daemon.due turn ∧ after.exact = daemon.exact ∧ after.logs.reader = read) := by
  intro read after
  by_cases due : daemon.due turn
  · exact .inl ⟨due, if_pos due, if_pos due⟩
  · exact .inr ⟨due, if_neg due, if_neg due⟩

theorem loop_logs (daemon : Daemon) (turn : DaemonTurn) :
    (daemon.loop turn).logs = daemon.logs.step (.poll (daemon.logTurn turn)) := rfl

/-- The reader once it has turned to the newest log. -/
def turned (daemon : Daemon) (turn : DaemonTurn) : State :=
  followNewest (daemon.logs.input (daemon.logTurn turn)).newest daemon.logs.reader

/-- What a turn reads, and the requests that it makes of it. -/
def bytes (daemon : Daemon) (turn : DaemonTurn) : Bytes := pollRead (daemon.turned turn) (daemon.logs.input (daemon.logTurn turn))

def requests (daemon : Daemon) (turn : DaemonTurn) : List Size := recorded (daemon.turned turn).line (daemon.bytes turn)

theorem reader_pends (daemon : Daemon) (turn : DaemonTurn) :
    Pends (daemon.readTime turn) daemon.logs.reader (daemon.requests turn) (daemon.reader turn) := by
  obtain ⟨requests, pends⟩ := (readLog_leads daemon.logs.reader (daemon.logs.input (daemon.logTurn turn))
    (daemon.readTime turn) rfl).pends
  obtain ⟨read, _⟩ := readLog_reads (daemon.logs.input (daemon.logTurn turn)) (daemon.turned turn)
  have kept : (daemon.turned turn).updates = daemon.logs.reader.updates :=
    followNewest_preserves (fun later => later.updates = daemon.logs.reader.updates) (fun _ _ kept => kept) _ _ rfl
  have same : daemon.logs.reader.updates ++ requests = daemon.logs.reader.updates ++ daemon.requests turn := by
    rw [← pends.updates, ← kept]
    exact read.updates
  exact List.append_cancel_left same ▸ pends

/-- Two looks at the pause are less than a turn of the tick count, less the pause, apart, and
no request is read when the tick count is 0. -/
def Timely (daemon : Daemon) : DaemonEvent → Prop
  | .turn turn => turn.slept + turn.reading < 2 ^ 32 - 400 ∧ (daemon.requests turn ≠ [] → getTickCount (daemon.readTime turn) ≠ 0)
  | _ => True

instance (daemon : Daemon) : (event : DaemonEvent) → Decidable (daemon.Timely event)
  | .turn _ => inferInstanceAs (Decidable (_ ∧ _))
  | .create .. => inferInstanceAs (Decidable True)
  | .append .. => inferInstanceAs (Decidable True)

/-- What reading posts to the slot, and what the look at the pause does with it. -/
def posted (requests : List Size) : Mailbox.Event Size :=
  match requests.getLast? with
  | some size => .post size false
  | none => .idle

theorem loop_box {daemon : Daemon} {turn : DaemonTurn} (timely : daemon.Timely (.turn turn)) :
    (daemon.loop turn).logs.reader.box =
      (daemon.logs.reader.box.step (posted (daemon.requests turn))).step (if daemon.due turn then .collect else .idle) := by
  have pends := reader_pends daemon turn
  have read : (daemon.reader turn).box = daemon.logs.reader.box.step (posted (daemon.requests turn)) := by
    rw [State.box, pends.size, pends.ticked, pends.applied]
    cases last : (daemon.requests turn).getLast? with
    | none =>
      rw [posted, last, if_pos (List.getLast?_eq_none_iff.mp last)]
      rfl
    | some size =>
      have some_read : daemon.requests turn ≠ [] := by
        intro none
        simp [none] at last
      rw [posted, last, if_neg some_read]
      simp [Mailbox.step, State.box, timely.2 some_read]
  rw [← read]
  rcases loop_cases daemon turn with ⟨due, _, after⟩ | ⟨early, _, after⟩
  · rw [after, if_pos due]
    simp [State.box, Mailbox.step, due.1]
  · rw [after, if_neg early]
    rfl

theorem posted_last (requests : List Size) : (posted requests).posted = requests.getLast? := by
  unfold posted
  cases requests.getLast? <;> rfl

/-- What has been applied or still will be ends in the request read last. -/
def Owing (state : State) : Prop := state.box.owed.getLast? = state.updates.getLast?

theorem loop_updates (daemon : Daemon) (turn : DaemonTurn) :
    (daemon.loop turn).logs.reader.updates = daemon.logs.reader.updates ++ daemon.requests turn := by
  rw [← (reader_pends daemon turn).updates]
  rcases loop_cases daemon turn with ⟨_, _, after⟩ | ⟨_, _, after⟩ <;> rw [after]

theorem loop_owing {daemon : Daemon} {turn : DaemonTurn} (timely : daemon.Timely (.turn turn))
    (owing : Owing daemon.logs.reader) : Owing (daemon.loop turn).logs.reader := by
  have looked (box : Mailbox Size) : (box.step (if daemon.due turn then .collect else .idle)).owed = box.owed := by
    split <;> exact (box.step_quiet rfl).2
  rw [Owing, loop_box timely, looked, Mailbox.step_owed_last, posted_last, owing, loop_updates, List.getLast?_append]

/-- A pending request was read not after a time and not more than the pause before the last
look. -/
def Young (time : Nat) (daemon : Daemon) : Prop :=
  daemon.logs.reader.pendTick ≠ 0 → ∃ read ≤ time, daemon.logs.reader.pendTick = getTickCount read ∧
    read ≤ daemon.time ∧ daemon.time ≤ read + 400

theorem loop_young {daemon : Daemon} {turn : DaemonTurn} {time : Nat} (timely : daemon.Timely (.turn turn))
    (young : Young time daemon) (reads : daemon.requests turn ≠ [] → daemon.readTime turn ≤ time) : Young time (daemon.loop turn) := by
  intro pending
  have pends := reader_pends daemon turn
  rcases loop_cases daemon turn with ⟨_, _, after⟩ | ⟨early, _, after⟩
  · rw [after] at pending
    exact absurd rfl pending
  · rw [after] at pending ⊢
    have aged : ∃ read ≤ time, (daemon.reader turn).pendTick = getTickCount read ∧
        read ≤ daemon.nowTime turn ∧ daemon.nowTime turn - read < 2 ^ 32 := by
      have elapsed := timely.1
      rw [pends.ticked] at pending ⊢
      unfold nowTime readTime
      by_cases none : daemon.requests turn = []
      · rw [if_pos none] at pending ⊢
        obtain ⟨read, bound, ticked, past, recent⟩ := young pending
        exact ⟨read, bound, ticked, by omega, by omega⟩
      · rw [if_neg none]
        exact ⟨_, reads none, rfl, by unfold readTime; omega, by unfold readTime; omega⟩
    obtain ⟨read, bound, ticked, past, recent⟩ := aged
    have exceeds : getTickCount (daemon.nowTime turn) - getTickCount read > 400 ↔ read + 400 < daemon.nowTime turn :=
      getTickCount_exceeds past recent (by decide)
    refine ⟨read, bound, ticked, past, ?_⟩
    by_contra old
    have late : getTickCount (daemon.nowTime turn) - getTickCount read > 400 := exceeds.mpr (Nat.lt_of_not_ge old)
    exact early ⟨pending, ticked ▸ late⟩

@[simp] theorem step_turn (daemon : Daemon) (turn : DaemonTurn) : daemon.step (.turn turn) = daemon.loop turn := rfl

/-- The logs and the reader are as they can come to be. -/
def Written (daemon : Daemon) : Prop := ∃ traced : Traced, traced.system = daemon.logs ∧ traced.Sound

theorem turn_written {daemon : Daemon} (written : Written daemon) (turn : DaemonTurn) : Written (daemon.loop turn) := by
  obtain ⟨traced, system, sound⟩ := written
  refine ⟨traced.step (.poll (daemon.logTurn turn)), ?_, Traced.poll_sound sound _⟩
  rw [Traced.step_system, system, loop_logs]

/-- What holds between the events: the logs are as they can come to be, the updates end in
what the followed log has asked for so far, and the last of them has been or will be applied. -/
structure Kept (daemon : Daemon) : Prop where
  written : Written daemon
  asked : ∀ file ∈ daemon.logs.files, daemon.logs.reader.curLog = some file.path →
    recorded [] (file.content.take daemon.logs.reader.pos) <:+ daemon.logs.reader.updates
  owing : Owing daemon.logs.reader
  young : Young daemon.time daemon

theorem start_kept (time : Nat) : Kept (start time) where
  written := ⟨{}, rfl, List.nodup_nil, nofun, fun _ _ => ⟨rfl, nofun⟩, nofun, nofun⟩
  asked := nofun
  owing := rfl
  young := fun pending => absurd rfl pending

/-- Logs that are created or written to behind the reader keep what has been read. -/
theorem Kept.behind {daemon : Daemon} (kept : Kept daemon) {logs : LogSystem} (reader : logs.reader = daemon.logs.reader)
    (sound : Written { daemon with logs })
    (before : ∀ file ∈ logs.files, daemon.logs.reader.curLog = some file.path →
      ∃ earlier ∈ daemon.logs.files, earlier.path = file.path ∧
        file.content.take daemon.logs.reader.pos = earlier.content.take daemon.logs.reader.pos) :
    Kept { daemon with logs } := by
  refine ⟨sound, ?_, ?_, ?_⟩
  · intro file member followed
    change logs.reader.curLog = some file.path at followed
    change _ <:+ logs.reader.updates
    rw [reader] at followed ⊢
    obtain ⟨earlier, inside, same, content⟩ := before file member followed
    rw [content]
    exact kept.asked earlier inside (same ▸ followed)
  · change Owing logs.reader
    exact reader ▸ kept.owing
  · intro pending
    change logs.reader.pendTick ≠ 0 at pending
    change ∃ read ≤ daemon.time, logs.reader.pendTick = _ ∧ _
    rw [reader] at pending ⊢
    exact kept.young pending

theorem create_kept {daemon : Daemon} (kept : Kept daemon) (place : Nat) (cFileName : String) (written : Nat) :
    Kept (daemon.step (.create place cFileName written)) := by
  obtain ⟨traced, system, sound⟩ := kept.written
  have stepped : (traced.step (.create place cFileName written)).system = daemon.logs.step (.create place cFileName written) := by
    rw [Traced.step_system, system]
  have later := Traced.create_sound sound place cFileName written
  rcases Traced.create_cases traced place cFileName written with same | ⟨absent, files, perm, created⟩
  · apply kept.behind
    · rw [← stepped, same, system]
    · exact ⟨_, stepped, later⟩
    · intro file member followed
      rw [← stepped, same, system] at member
      exact ⟨file, member, rfl, rfl⟩
  · rw [created] at stepped
    apply kept.behind
    · rw [← stepped, ← system]
    · exact ⟨_, created ▸ stepped, later⟩
    · intro file member followed
      rw [← stepped] at member
      rcases List.mem_cons.mp (perm.mem_iff.mp member) with rfl | inside
      · obtain ⟨other, inside, same⟩ := sound.followed _ (system ▸ followed)
        exact absurd same (absent other inside)
      · exact ⟨file, system ▸ inside, rfl, rfl⟩

theorem append_kept {daemon : Daemon} (kept : Kept daemon) (path : String) (bytes : Bytes) (written : Nat) :
    Kept (daemon.step (.append path bytes written)) := by
  obtain ⟨traced, system, sound⟩ := kept.written
  have stepped : (traced.step (.append path bytes written)).system = daemon.logs.step (.append path bytes written) := by
    rw [Traced.step_system, system]
  refine @Kept.behind daemon kept _ rfl ⟨_, stepped, Traced.append_sound sound path bytes written⟩ ?_
  intro file member followed
  obtain ⟨earlier, inside, rfl⟩ : ∃ earlier ∈ daemon.logs.files, Traced.grown path bytes written earlier = file :=
    List.mem_map.mp member
  rw [Traced.grown_path] at followed ⊢
  refine ⟨earlier, inside, rfl, ?_⟩
  obtain ⟨more, whole⟩ := Traced.grown_content path bytes written earlier
  rw [← system] at inside followed ⊢
  have reached := (sound.reading earlier inside followed).1.trans (sound.within earlier inside)
  rw [← whole, List.take_append_of_le_length reached]

/-- What a turn reads on in the log it follows, if it follows one. -/
structure ReadsOn (daemon : Daemon) (turn : DaemonTurn) (file : LogFile) : Prop where
  member : file ∈ daemon.logs.files
  followed : (daemon.turned turn).curLog = some file.path
  after : (daemon.loop turn).logs.reader.curLog = some file.path
  content : (daemon.logs.input (daemon.logTurn turn)).content = file.content
  start : startPos (daemon.turned turn) (daemon.logs.input (daemon.logTurn turn)) = (daemon.turned turn).pos
  line : (daemon.turned turn).line = lineBuffer.rest [] (file.content.take (daemon.turned turn).pos)
  slice : file.content.take (daemon.turned turn).pos ++ daemon.bytes turn =
    file.content.take ((daemon.turned turn).pos + (daemon.bytes turn).length)
  bound : (daemon.turned turn).pos + (daemon.bytes turn).length ≤ file.content.length
  pos : (daemon.loop turn).logs.reader.pos = (daemon.turned turn).pos + (daemon.bytes turn).length

theorem turn_cases {daemon : Daemon} (written : Written daemon) (turn : DaemonTurn) :
    (daemon.loop turn).logs.files = daemon.logs.files ∧
      ((daemon.turned turn).curLog = none ∧ (daemon.loop turn).logs.reader.curLog = none ∨ ∃ file, ReadsOn daemon turn file) := by
  obtain ⟨traced, system, sound⟩ := written
  have stepped : (traced.step (.poll (daemon.logTurn turn))).system = (daemon.loop turn).logs := by
    rw [Traced.step_system, system, loop_logs]
  have turned : traced.turned (daemon.logTurn turn) = daemon.turned turn := by rw [Traced.turned, turned, system]
  have read : traced.bytes (daemon.logTurn turn) = daemon.bytes turn := by rw [Traced.bytes, bytes, system, turned]
  obtain ⟨files, cases⟩ := Traced.poll_cases sound (daemon.logTurn turn)
  rw [stepped, system] at files
  refine ⟨files, ?_⟩
  rw [stepped] at cases
  rcases cases with ⟨closed, _, _, after⟩ | ⟨file, member, followed, polled, _, _, after, _⟩
  · exact .inl ⟨turned ▸ closed, after⟩
  · refine .inr ⟨file, system ▸ member, turned ▸ followed, after, ?_, ?_, ?_, ?_, ?_, ?_⟩
    · exact system ▸ polled.content
    · have start := polled.start
      rwa [turned, system] at start
    · exact turned ▸ polled.line
    · have slice := polled.slice
      rwa [turned, read] at slice
    · have bound := polled.bound
      rwa [turned, read] at bound
    · have pos := polled.after
      rwa [stepped, turned, read] at pos

theorem same_file {daemon : Daemon} (written : Written daemon) {file other : LogFile} (member : file ∈ daemon.logs.files)
    (inside : other ∈ daemon.logs.files) (same : file.path = other.path) : file = other := by
  obtain ⟨traced, system, sound⟩ := written
  rw [← system] at member inside
  exact List.inj_on_of_nodup_map sound.distinct member inside same

theorem turn_kept {daemon : Daemon} (kept : Kept daemon) {turn : DaemonTurn} (timely : daemon.Timely (.turn turn)) :
    Kept (daemon.loop turn) := by
  refine ⟨turn_written kept.written turn, ?_, loop_owing timely kept.owing, ?_⟩
  · intro file member followed
    obtain ⟨files, ⟨_, closed⟩ | ⟨other, reads⟩⟩ := turn_cases kept.written turn
    · cases closed.symm.trans followed
    · rw [files] at member
      obtain rfl := same_file kept.written member reads.member (Option.some.inj (followed.symm.trans reads.after))
      have earlier : recorded [] (file.content.take (daemon.turned turn).pos) <:+ daemon.logs.reader.updates := by
        cases moved : turns daemon.logs.reader (daemon.logs.input (daemon.logTurn turn)) with
        | true =>
          rw [turned, followNewest_turns moved]
          exact List.nil_suffix
        | false =>
          have stays : daemon.turned turn = daemon.logs.reader := followNewest_stays moved
          rw [stays]
          exact kept.asked file reads.member (stays ▸ reads.followed)
      obtain ⟨prior, whole⟩ := earlier
      rw [loop_updates, reads.pos, ← reads.slice, recorded_append, ← reads.line, ← whole, List.append_assoc]
      exact List.suffix_append prior _
  · apply loop_young timely
    · intro pending
      obtain ⟨read, bound, aged⟩ := kept.young pending
      exact ⟨read, by change read ≤ daemon.nowTime turn; unfold nowTime readTime; omega, aged⟩
    · exact fun _ => Nat.le_add_right _ _

theorem step_kept (daemon : Daemon) (event : DaemonEvent) (kept : Kept daemon) (timely : daemon.Timely event) :
    Kept (daemon.step event) := by
  cases event with
  | create place cFileName written => exact create_kept kept place cFileName written
  | append path bytes written => exact append_kept kept path bytes written
  | turn turn => exact turn_kept kept timely

theorem run_kept {daemon : Daemon} (kept : Kept daemon) (events : List DaemonEvent) (timely : Along step Timely daemon events) :
    Kept (run step daemon events) := by
  induction events generalizing daemon with
  | nil => exact kept
  | cons event rest ih => exact ih (step_kept daemon event kept timely.1) timely.2

/-- How much the reads hand over at most, up to one that hands over nothing. -/
def capacity (reads : List Nat) : Nat := ((reads.takeWhile (· ≠ 0)).map (min · BUFFER_SIZE)).sum

theorem chunksRead_whole (content : Bytes) (reads : List Nat) (pos : Nat) (enough : content.length ≤ pos + capacity reads) :
    content.length ≤ pos + (chunksRead content reads pos).length := by
  induction reads generalizing pos with
  | nil => exact enough
  | cons size reads ih =>
    have bounded : 0 < BUFFER_SIZE := by decide
    simp only [chunksRead]
    by_cases nothing : size = 0
    · have spent : capacity (size :: reads) = 0 := by simp [capacity, nothing]
      omega
    · have spent : capacity (size :: reads) = min size BUFFER_SIZE + capacity reads := by simp [capacity, nothing]
      have taken : ((content.drop pos).take (min size BUFFER_SIZE)).length = min (min size BUFFER_SIZE) (content.length - pos) := by
        rw [List.length_take, List.length_drop]
      split
      next empty =>
        rw [List.isEmpty_iff.mp empty, List.length_nil] at taken
        omega
      next =>
        rw [List.length_append, ← Nat.add_assoc]
        apply ih
        omega

/-- The newest log has been read to its end. -/
structure Caught (daemon : Daemon) (file : LogFile) : Prop where
  member : file ∈ daemon.logs.files
  newest : newestLog daemon.logs.files = some file.path
  followed : daemon.logs.reader.curLog = some file.path
  whole : daemon.logs.reader.pos = file.content.length

/-- A turn that finds the newest log reads on in it. -/
theorem reads_newest {daemon : Daemon} (written : Written daemon) {file : LogFile} (member : file ∈ daemon.logs.files)
    (newest : newestLog daemon.logs.files = some file.path) (turn : DaemonTurn) : ReadsOn daemon turn file := by
  have followed : (daemon.turned turn).curLog = some file.path := by
    change (followNewest (newestLog daemon.logs.files) daemon.logs.reader).curLog = _
    rw [newest, followNewest]
    split <;> first | assumption | rfl
  obtain ⟨_, ⟨closed, _⟩ | ⟨other, reads⟩⟩ := turn_cases written turn
  · cases closed.symm.trans followed
  · have same : file = other := same_file written member reads.member (Option.some.inj (followed.symm.trans reads.followed))
    exact same ▸ reads

theorem turn_catches {daemon : Daemon} (written : Written daemon) {file : LogFile} (member : file ∈ daemon.logs.files)
    (newest : newestLog daemon.logs.files = some file.path) {turn : DaemonTurn} (opened : turn.opened = true)
    (enough : file.content.length ≤ (daemon.turned turn).pos + capacity turn.reads) : Caught (daemon.loop turn) file := by
  have reads := reads_newest written member newest turn
  have found : (daemon.logs.files.find? fun other => (daemon.turned turn).curLog = some other.path).isSome = true := by
    rw [List.find?_isSome, reads.followed]
    exact ⟨file, member, by simp⟩
  have open_log : ((daemon.turned turn).curLog.isNone || !(daemon.logs.input (daemon.logTurn turn)).opened) = false := by
    change ((daemon.turned turn).curLog.isNone ||
      !(turn.opened && (daemon.logs.files.find? fun other => (daemon.turned turn).curLog = some other.path).isSome)) = false
    rw [found, opened, reads.followed]
    rfl
  have whole : file.content.length ≤ (daemon.turned turn).pos + (daemon.bytes turn).length := by
    rw [bytes, pollRead, open_log, reads.start, reads.content]
    exact chunksRead_whole file.content turn.reads _ enough
  exact ⟨member, newest, reads.after, reads.pos.trans (Nat.le_antisymm reads.bound whole)⟩

/-- Once everything has been read, a turn reads nothing. -/
theorem turn_idle {daemon : Daemon} (written : Written daemon) {file : LogFile} (caught : Caught daemon file) (turn : DaemonTurn) :
    daemon.requests turn = [] ∧ Caught (daemon.loop turn) file := by
  have reads := reads_newest written caught.member caught.newest turn
  have stays : daemon.turned turn = daemon.logs.reader := by
    apply followNewest_stays
    change (newestLog daemon.logs.files).any (fun log => daemon.logs.reader.curLog ≠ some log) = false
    rw [caught.newest, caught.followed]
    simp
  have bound := reads.bound
  have moved := reads.pos
  rw [stays, caught.whole] at bound moved
  have nothing : daemon.bytes turn = [] := List.eq_nil_of_length_eq_zero (by omega)
  refine ⟨by rw [requests, nothing, recorded_nil], caught.member, caught.newest, reads.after, ?_⟩
  rw [moved, nothing, List.length_nil, Nat.add_zero]

/-- Milliseconds that turns take. -/
def duration (turns : List DaemonTurn) : Nat := (turns.map fun turn => turn.slept + turn.reading).sum

/-- While nothing is written, turns only wait for the pause to end. -/
theorem idle_run {daemon : Daemon} {file : LogFile} (time : Nat) (turns : List DaemonTurn) (kept : Kept daemon)
    (caught : Caught daemon file) (young : Young time daemon) (timely : Along step Timely daemon (turns.map .turn)) :
    let final := run step daemon (turns.map .turn)
    Kept final ∧ Caught final file ∧ Young time final ∧ final.logs.reader.updates = daemon.logs.reader.updates ∧
      final.time = daemon.time + duration turns := by
  induction turns generalizing daemon with
  | nil => exact ⟨kept, caught, young, rfl, rfl⟩
  | cons turn turns ih =>
    obtain ⟨now, later⟩ := timely
    obtain ⟨silent, still⟩ := turn_idle kept.written caught turn
    have aged := loop_young now young fun some_read => absurd silent some_read
    obtain ⟨kept, caught, young, updates, passed⟩ := ih (turn_kept kept now) still aged later
    refine ⟨kept, caught, young, ?_, ?_⟩
    · rw [List.map_cons, run_cons, step_turn, updates, loop_updates, silent, List.append_nil]
    · rw [List.map_cons, run_cons, step_turn, passed]
      change daemon.nowTime turn + duration turns = daemon.time + duration (turn :: turns)
      simp only [duration, List.map_cons, List.sum_cons, nowTime, readTime]
      omega

/-- With nothing to read and nothing pending, turns call nothing. -/
theorem settled_run {daemon : Daemon} {file : LogFile} (turns : List DaemonTurn) (written : Written daemon)
    (caught : Caught daemon file) (clear : daemon.logs.reader.pendTick = 0) :
    (run step daemon (turns.map .turn)).exact = daemon.exact ∧
      (run step daemon (turns.map .turn)).logs.reader.applied = daemon.logs.reader.applied := by
  induction turns generalizing daemon with
  | nil => exact ⟨rfl, rfl⟩
  | cons turn turns ih =>
    obtain ⟨silent, still⟩ := turn_idle written caught turn
    have pends := reader_pends daemon turn
    have unticked : (daemon.reader turn).pendTick = 0 := by rw [pends.ticked, if_pos silent, clear]
    rcases loop_cases daemon turn with ⟨due, _⟩ | ⟨_, exact, after⟩
    · exact absurd unticked due.1
    · obtain ⟨same, calls⟩ := ih (turn_written written turn) still (by rw [after, unticked])
      rw [List.map_cons, run_cons, step_turn, same, calls, exact, after, pends.applied]
      exact ⟨rfl, rfl⟩

/-- Driver and display do as they are told in a turn. -/
def Obeyed : DaemonEvent → Prop
  | .turn turn => Accepting turn.answers
  | _ => True

instance : (event : DaemonEvent) → Decidable (Obeyed event)
  | .turn _ => inferInstanceAs (Decidable (Accepting _))
  | .create .. => inferInstanceAs (Decidable True)
  | .append .. => inferInstanceAs (Decidable True)

/-- Driver and display are at the size that was applied last. -/
structure Shown (daemon : Daemon) : Prop where
  coherent : Coherent daemon.exact
  positive : AppliesPositive daemon.logs.reader
  shown : ∀ size, daemon.logs.reader.applied.getLast? = some size →
    lastAccepted daemon.exact = some size ∧ lastChanged daemon.exact = some size

theorem start_shown (time : Nat) : Shown (start time) where
  coherent := ⟨nofun, .inl ⟨rfl, rfl, rfl⟩⟩
  positive := ⟨fun never => absurd rfl never, nofun⟩
  shown := nofun

theorem step_shown (daemon : Daemon) (event : DaemonEvent) (shown : Shown daemon) (obeyed : Obeyed event) :
    Shown (daemon.step event) := by
  cases event with
  | create place cFileName written =>
    have reader : (daemon.logs.step (.create place cFileName written)).reader = daemon.logs.reader := by
      simp only [LogSystem.step]
      split <;> rfl
    exact ⟨shown.coherent, reader.symm ▸ shown.positive, reader.symm ▸ shown.shown⟩
  | append path bytes written => exact ⟨shown.coherent, shown.positive, shown.shown⟩
  | turn turn =>
    have accepting : Accepting turn.answers := obeyed
    have positive : AppliesPositive (daemon.loop turn).logs.reader := poll_positive _ _ shown.positive
    have applied := (reader_pends daemon turn).applied
    rcases loop_cases daemon turn with ⟨_, exact, after⟩ | ⟨_, exact, after⟩
    · have calls : (daemon.loop turn).logs.reader.applied =
          (daemon.reader turn).applied ++ [((daemon.reader turn).pendW, (daemon.reader turn).pendH)] := by rw [after]
      generalize ((daemon.reader turn).pendW, (daemon.reader turn).pendH) = size at exact calls
      have asked : Positive size := positive.applied size (by simp [calls])
      have promise : KeepsPromise daemon.exact (size, turn.answers) := by
        apply (keepsPromise_iff _ _ shown.coherent).mpr
        have whole := @noHalfChange_positive daemon.exact (size, turn.answers) shown.coherent.remembers asked
        exact whole.mpr fun _ _ _ => accepting.2
      rw [step_turn]
      refine ⟨?_, positive, ?_⟩
      · rw [exact]
        exact ⟨promise.2, step_remembers _ _ shown.coherent.remembers⟩
      · intro last called
        rw [calls, List.getLast?_concat] at called
        rw [exact, ← Option.some.inj called]
        apply promise.1
        exact setExact_accepting size daemon.exact accepting
    · rw [step_turn]
      refine ⟨exact ▸ shown.coherent, positive, ?_⟩
      rw [after, applied, exact]
      exact shown.shown

theorem run_shown {daemon : Daemon} (shown : Shown daemon) (events : List DaemonEvent) (obeyed : ∀ event ∈ events, Obeyed event) :
    Shown (run step daemon events) := by
  induction events generalizing daemon with
  | nil => exact shown
  | cons event rest ih =>
    apply ih (step_shown daemon event shown (obeyed event List.mem_cons_self))
    exact fun later member => obeyed later (List.mem_cons_of_mem _ member)

/-- However the logs are created and written to and the loop takes its turns: after a turn has
read the newest log to its end, and turns that together last longer than the pause find
nothing new, the last call of `SetExact` is for the last request read, which is the last one
the log asks for, if it asks for any. If driver and display do as they are told, both are at
this size. No later turn calls `SetExact` before something is written. -/
theorem settles (time : Nat) (history : List DaemonEvent) (turn : DaemonTurn) (quiet : List DaemonTurn) (file : LogFile)
    (timely : Along step Timely (start time) (history ++ .turn turn :: quiet.map .turn))
    (member : file ∈ (run step (start time) history).logs.files)
    (newest : newestLog (run step (start time) history).logs.files = some file.path)
    (opened : turn.opened = true)
    (enough : file.content.length ≤ ((run step (start time) history).turned turn).pos + capacity turn.reads)
    (paused : 400 < duration quiet) :
    let settled := run step (start time) (history ++ .turn turn :: quiet.map .turn)
    settled.logs.reader.applied.getLast? = settled.logs.reader.updates.getLast? ∧
    (∀ size, (recorded [] file.content).getLast? = some size →
      settled.logs.reader.applied.getLast? = some size ∧
      ((∀ event ∈ history ++ .turn turn :: quiet.map .turn, Obeyed event) →
        lastAccepted settled.exact = some size ∧ lastChanged settled.exact = some size)) ∧
    ∀ later : List DaemonTurn, (run step settled (later.map .turn)).exact = settled.exact ∧
      (run step settled (later.map .turn)).logs.reader.applied = settled.logs.reader.applied := by
  intro settled
  obtain ⟨before, now, after⟩ := (along_append _ _ _).mp timely
  have kept : Kept ((run step (start time) history).loop turn) := turn_kept (run_kept (start_kept time) history before) now
  have caught : Caught ((run step (start time) history).loop turn) file :=
    turn_catches (run_kept (start_kept time) history before).written member newest opened enough
  have split : settled = run step ((run step (start time) history).loop turn) (quiet.map .turn) := by
    rw [show settled = _ from run_append _ _ _, run_cons, step_turn]
  obtain ⟨kept, caught, young, updates, passed⟩ := idle_run _ quiet kept caught kept.young after
  rw [← split] at kept caught young updates passed
  have clear : settled.logs.reader.pendTick = 0 := by
    by_contra pending
    obtain ⟨read, bound, _, _, recent⟩ := young pending
    omega
  have applied : settled.logs.reader.applied.getLast? = settled.logs.reader.updates.getLast? := by
    have owing := kept.owing
    rw [Owing, State.box, Mailbox.owed] at owing
    simpa [clear] using owing
  refine ⟨applied, ?_, fun later => settled_run later kept.written caught clear⟩
  intro size last
  have asked := kept.asked file caught.member caught.followed
  rw [caught.whole, List.take_length] at asked
  obtain ⟨prior, whole⟩ := asked
  have called : settled.logs.reader.applied.getLast? = some size := by
    rw [applied, ← whole, List.getLast?_append, last]
    rfl
  exact ⟨called, fun obeyed => (run_shown (start_shown time) _ obeyed).shown size called⟩

private def resize (w : String) : Bytes := ("resolution change: " ++ w ++ "\n").toList.map char

/-- A second log takes over while the request of the first is pending. -/
private def takeover : List DaemonEvent :=
  [.create 0 "gui-agent-1.log" 5, .append (logPath "gui-agent-1.log") (resize "800x600") 6, .turn {},
    .create 0 "gui-agent-2.log" 7, .append (logPath "gui-agent-2.log") (resize "640x480" ++ resize "900x700") 8]

private def chunked : DaemonTurn := { reads := [7, 8192] }

private def waits : List DaemonTurn := [{}, { slept := 301 }]

theorem settles_takeover :
    let settled := run step (start 1000) (takeover ++ .turn chunked :: waits.map .turn)
    settled.logs.reader.applied.getLast? = some (900, 700) ∧ lastChanged settled.exact = some (900, 700) := by
  intro settled
  obtain ⟨_, shown, _⟩ := settles 1000 takeover chunked waits ⟨"gui-agent-2.log", 8, resize "640x480" ++ resize "900x700"⟩
    (by decide +kernel) (by decide +kernel) (by decide +kernel) rfl (by decide +kernel) (by decide)
  have asked : (recorded [] (resize "640x480" ++ resize "900x700")).getLast? = some (900, 700) := by decide +kernel
  obtain ⟨applied, displayed⟩ := shown (900, 700) asked
  exact ⟨applied, (displayed (by decide +kernel)).2⟩

end Daemon
end QubesIdd.Resd
