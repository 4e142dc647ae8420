import Mathlib.Data.List.Nodup
import Mathlib.Logic.Function.Basic
import QubesIdd.Proofs.ResdFollow
import QubesIdd.ResdLogs

/-! Which line of which log has led to which update, how far each log has been read, and when
each part of it was written. What holds between the events, whatever their order. -/

namespace QubesIdd.Resd
open Library

/-- An update, with the log and the number of the line that have led to it. `written` is
when the character that ended the line was appended, counted in appends. -/
structure LineUpdate where
  log : String
  number : Nat
  written : Nat
  size : UInt32 × UInt32
  deriving DecidableEq, Repr

def LineUpdate.of (log : String) (times : List Nat) (request : Place × UInt32 × UInt32) : LineUpdate where
  log
  number := request.1.number
  written := times.getD request.1.offset 0
  size := request.2

/-- The requests that bytes record, each with its place in the log. -/
def requestsAt (place : Place) (line bytes : Bytes) : List (Place × UInt32 × UInt32) :=
  (lineBuffer.placed place line bytes).filterMap fun (place, line) => (pendingRequest line).map (place, ·)

theorem requestsAt_sizes (place : Place) (line bytes : Bytes) :
    (requestsAt place line bytes).map Prod.snd = recorded line bytes := by
  rw [recorded, ← lineBuffer.placed_lines place, requestsAt, List.map_filterMap, List.filterMap_map]
  apply List.filterMap_congr
  intro handedOver _
  simp

theorem requestsAt_append (place : Place) (line first last : Bytes) :
    requestsAt place line (first ++ last) =
      requestsAt place line first ++ requestsAt (lineBuffer.behind place first) (lineBuffer.rest line first) last := by
  rw [requestsAt, lineBuffer.placed_append, List.filterMap_append]
  rfl

theorem requestsAt_nil {place : Place} {line bytes : Bytes} (silent : recorded line bytes = []) :
    requestsAt place line bytes = [] := by
  rw [← requestsAt_sizes place] at silent
  exact List.map_eq_nil_iff.mp silent

/-- A request stands where a line has been handed over. -/
theorem requestsAt_places (place : Place) (line bytes : Bytes) :
    ((requestsAt place line bytes).map Prod.fst).Sublist ((lineBuffer.placed place line bytes).map Prod.fst) := by
  unfold requestsAt
  induction lineBuffer.placed place line bytes with
  | nil => exact .slnil
  | cons first later ih =>
    obtain ⟨here, handedOver⟩ := first
    cases asked : pendingRequest handedOver with
    | none =>
      rw [List.filterMap_cons_none (by simp [asked])]
      exact ih.cons here
    | some size =>
      rw [List.filterMap_cons_some (b := (here, size)) (by simp [asked])]
      exact ih.cons_cons here

theorem requestsAt_offsets (place : Place) (line bytes : Bytes) :
    ((requestsAt place line bytes).map (·.1.offset)).Sublist (List.range' place.offset bytes.length) := by
  have places := (requestsAt_places place line bytes).map Place.offset
  rw [List.map_map, List.map_map] at places
  exact places.trans (lineBuffer.placed_offsets place line bytes)

theorem requestsAt_bounds {place : Place} {line bytes : Bytes} {request : Place × UInt32 × UInt32}
    (member : request ∈ requestsAt place line bytes) :
    place.offset ≤ request.1.offset ∧ request.1.offset < place.offset + bytes.length :=
  List.mem_range'_1.mp ((requestsAt_offsets place line bytes).subset (List.mem_map_of_mem member))

/-- The logs and the reader, with how far each log has been read so far, when its characters
were appended, and every update. -/
structure Traced where
  system : LogSystem := {}
  read : String → Nat := fun _ => 0
  appends : Nat := 0
  written : String → List Nat := fun _ => []
  history : List LineUpdate := []

namespace Traced

/-- The reader once it has turned to the newest log. -/
def turned (traced : Traced) (turn : LogTurn) : State := followNewest (traced.system.input turn).newest traced.system.reader

/-- What the turn reads. -/
def bytes (traced : Traced) (turn : LogTurn) : Bytes := pollRead (traced.turned turn) (traced.system.input turn)

def step (traced : Traced) (event : LogEvent) : Traced :=
  let system := traced.system.step event
  match event with
  | .create _ _ _ => { traced with system }
  | .append path bytes _ =>
    let times := traced.written path ++ List.replicate bytes.length traced.appends
    { traced with
      system
      appends := traced.appends + 1
      written := if traced.system.files.any (·.path = path) then Function.update traced.written path times else traced.written }
  | .poll turn =>
    match (traced.turned turn).curLog with
    | none => { traced with system }
    | some log =>
      let input := traced.system.input turn
      let start := startPos (traced.turned turn) input
      let requests := requestsAt (lineBuffer.behind {} (input.content.take start)) (traced.turned turn).line (traced.bytes turn)
      { traced with
        system
        read := Function.update traced.read log (max (traced.read log) (start + (traced.bytes turn).length))
        history := traced.history ++ requests.map (.of log (traced.written log)) }

theorem step_system (traced : Traced) (event : LogEvent) : (traced.step event).system = traced.system.step event := by
  cases event with
  | create place cFileName time => rfl
  | append path bytes time => rfl
  | poll turn =>
    simp only [step]
    split <;> rfl

/-- The history is the list of updates that the reader has made. -/
theorem step_history (traced : Traced) (event : LogEvent)
    (same : traced.history.map LineUpdate.size = traced.system.reader.updates) :
    (traced.step event).history.map LineUpdate.size = (traced.step event).system.reader.updates := by
  cases event with
  | create place cFileName time =>
    simp only [step, LogSystem.step]
    split <;> exact same
  | append path bytes time => exact same
  | poll turn =>
    obtain ⟨read, _⟩ := poll_reads traced.system.reader (traced.system.input turn)
    have kept : (traced.turned turn).updates = traced.system.reader.updates :=
      followNewest_preserves (fun state => state.updates = traced.system.reader.updates) (fun _ _ kept => kept) _ _ rfl
    have updates : (traced.system.step (.poll turn)).reader.updates =
        traced.system.reader.updates ++ recorded (traced.turned turn).line (traced.bytes turn) :=
      read.updates.trans (congrArg (· ++ _) kept)
    rw [step_system, updates]
    simp only [step]
    split
    next closed =>
      have nothing : traced.bytes turn = [] := by
        simp [bytes, pollRead, closed]
      rw [nothing, recorded_nil, List.append_nil]
      exact same
    next log _ =>
      rw [List.map_append, same, List.map_map]
      exact congrArg _ (requestsAt_sizes _ _ _)

/-- What holds between the events: logs have different names, and the reader holds the
beginning of the log it follows, not beyond what has been read of it. -/
structure Sound (traced : Traced) : Prop where
  distinct : (traced.system.files.map LogFile.path).Nodup
  followed : ∀ log, traced.system.reader.curLog = some log → ∃ file ∈ traced.system.files, file.path = log
  unread : ∀ log, (∀ file ∈ traced.system.files, file.path ≠ log) →
    traced.read log = 0 ∧ ∀ update ∈ traced.history, update.log ≠ log
  within : ∀ file ∈ traced.system.files, traced.read file.path ≤ file.content.length
  reading : ∀ file ∈ traced.system.files, traced.system.reader.curLog = some file.path →
    traced.system.reader.pos ≤ traced.read file.path ∧
      traced.system.reader.line = lineBuffer.rest [] (file.content.take traced.system.reader.pos)

theorem newest_listed {files : List LogFile} {log : String} (newest : newestLog files = some log) :
    ∃ file ∈ files, file.path = log := by
  have listed (later : List LogFile) (inside : later ⊆ files) (best : Nat × String)
      (named : best.2 ≠ "" → ∃ file ∈ files, file.cFileName = best.2) :
      (later.foldl newer best).2 ≠ "" → ∃ file ∈ files, file.cFileName = (later.foldl newer best).2 := by
    induction later generalizing best with
    | nil => exact named
    | cons file later ih =>
      obtain ⟨member, rest⟩ := List.cons_subset.mp inside
      apply ih rest
      unfold newer
      split
      next => exact fun _ => ⟨file, member, rfl⟩
      next => exact named
  unfold newestLog at newest
  dsimp only at newest
  split at newest
  next => cases newest
  next some_name =>
    obtain ⟨file, member, name⟩ := listed files (List.Subset.refl _) (0, "") (fun nonempty => absurd rfl nonempty) some_name
    exact ⟨file, member, (congrArg logPath name).trans (Option.some.inj newest)⟩

/-- What a turn finds in the log it follows: it reads on behind the offset, which what has
been read of the log reaches. -/
structure Polled (traced : Traced) (turn : LogTurn) (file : LogFile) : Prop where
  content : (traced.system.input turn).content = file.content
  start : startPos (traced.turned turn) (traced.system.input turn) = (traced.turned turn).pos
  reached : (traced.turned turn).pos ≤ traced.read file.path
  line : (traced.turned turn).line = lineBuffer.rest [] (file.content.take (traced.turned turn).pos)
  slice : file.content.take (traced.turned turn).pos ++ traced.bytes turn =
    file.content.take ((traced.turned turn).pos + (traced.bytes turn).length)
  bound : (traced.turned turn).pos + (traced.bytes turn).length ≤ file.content.length
  after : (traced.step (.poll turn)).system.reader.pos = (traced.turned turn).pos + (traced.bytes turn).length

theorem turned_followed {traced : Traced} (sound : traced.Sound) {turn : LogTurn} {log : String}
    (followed : (traced.turned turn).curLog = some log) :
    ∃ file ∈ traced.system.files, file.path = log := by
  cases moved : turns traced.system.reader (traced.system.input turn) with
  | false =>
    rw [turned, followNewest_stays moved] at followed
    exact sound.followed log followed
  | true =>
    rw [turned, followNewest_turns moved] at followed
    exact newest_listed followed

theorem find_file {traced : Traced} (sound : traced.Sound) {file : LogFile} (member : file ∈ traced.system.files) :
    (traced.system.files.find? fun other => some file.path = some other.path) = some file := by
  cases found : traced.system.files.find? fun other => some file.path = some other.path with
  | none =>
    have absent := List.find?_eq_none.mp found file member
    simp at absent
  | some other =>
    have same : file.path = other.path := by simpa using List.find?_some found
    exact congrArg some (List.inj_on_of_nodup_map sound.distinct (List.mem_of_find?_eq_some found) member same.symm)

theorem polled {traced : Traced} (sound : traced.Sound) {turn : LogTurn} {file : LogFile} (member : file ∈ traced.system.files)
    (followed : (traced.turned turn).curLog = some file.path) : Polled traced turn file := by
  have found : (traced.system.files.find? fun other => (traced.turned turn).curLog = some other.path) = some file := by
    rw [followed]
    exact find_file sound member
  have content : (traced.system.input turn).content = file.content := by
    change ((traced.system.files.find? fun other => (traced.turned turn).curLog = some other.path).map LogFile.content).getD [] = _
    rw [found]
    rfl
  have position : (traced.turned turn).pos ≤ traced.read file.path ∧
      (traced.turned turn).line = lineBuffer.rest [] (file.content.take (traced.turned turn).pos) := by
    cases moved : turns traced.system.reader (traced.system.input turn) with
    | false =>
      rw [turned, followNewest_stays moved] at followed ⊢
      exact sound.reading file member followed
    | true =>
      rw [turned, followNewest_turns moved]
      exact ⟨Nat.zero_le _, rfl⟩
  have inside : (traced.turned turn).pos ≤ file.content.length := position.1.trans (sound.within file member)
  have start : startPos (traced.turned turn) (traced.system.input turn) = (traced.turned turn).pos := by
    have size : (traced.system.input turn).size = file.content.length := congrArg List.length content
    exact if_neg (by omega)
  have slice : file.content.take (traced.turned turn).pos ++ traced.bytes turn =
      file.content.take ((traced.turned turn).pos + (traced.bytes turn).length) ∧
        (traced.turned turn).pos + (traced.bytes turn).length ≤ file.content.length := by
    rw [bytes, pollRead, start, content]
    split
    next => simpa using inside
    next => exact chunksRead_slice List.prefix_rfl _ inside
  refine ⟨content, start, position.1, position.2, slice.1, slice.2, ?_⟩
  rw [step_system]
  refine (poll_reads traced.system.reader (traced.system.input turn)).2.trans ?_
  change (if _ then (traced.turned turn).pos else startPos (traced.turned turn) _ + (traced.bytes turn).length) = _
  split
  next closed =>
    have nothing : traced.bytes turn = [] := if_pos closed
    simp [nothing]
  next => rw [start]

theorem create_cases (traced : Traced) (place : Nat) (cFileName : String) (time : Nat) :
    traced.step (.create place cFileName time) = traced ∨
      (∀ file ∈ traced.system.files, file.path ≠ logPath cFileName) ∧
        ∃ files, files.Perm (⟨cFileName, time, []⟩ :: traced.system.files) ∧
          traced.step (.create place cFileName time) = { traced with system := { traced.system with files } } := by
  by_cases taken : traced.system.files.any (·.path = logPath cFileName) = true
  · left
    simp only [step, LogSystem.step, if_pos taken]
  · have middle := @List.perm_middle _ ⟨cFileName, time, []⟩ (traced.system.files.take place) (traced.system.files.drop place)
    rw [List.take_append_drop] at middle
    refine .inr ⟨by simpa using taken, _, middle, ?_⟩
    simp only [step, LogSystem.step, if_neg taken]

theorem create_sound {traced : Traced} (sound : traced.Sound) (place : Nat) (cFileName : String) (time : Nat) :
    (traced.step (.create place cFileName time)).Sound := by
  rcases create_cases traced place cFileName time with same | ⟨absent, files, perm, created⟩
  · exact same.symm ▸ sound
  · have members (file : LogFile) : file ∈ files ↔ file = ⟨cFileName, time, []⟩ ∨ file ∈ traced.system.files := by
      rw [perm.mem_iff, List.mem_cons]
    rw [created]
    refine ⟨?_, ?_, ?_, ?_, ?_⟩
    · rw [(perm.map LogFile.path).nodup_iff, List.map_cons, List.nodup_cons]
      refine ⟨fun member => ?_, sound.distinct⟩
      obtain ⟨file, inside, same⟩ := List.mem_map.mp member
      exact absent file inside same
    · intro log followed
      obtain ⟨file, member, same⟩ := sound.followed log followed
      exact ⟨file, (members file).mpr (.inr member), same⟩
    · exact fun log others => sound.unread log fun file member => others file ((members file).mpr (.inr member))
    · intro file member
      rcases (members file).mp member with rfl | inside
      · exact Nat.le_of_eq (sound.unread _ absent).1
      · exact sound.within file inside
    · intro file member followed
      rcases (members file).mp member with rfl | inside
      · obtain ⟨other, inside, same⟩ := sound.followed _ followed
        exact absurd same (absent other inside)
      · exact sound.reading file inside followed

/-- A log after something has been written to one of the logs. -/
def grown (path : String) (bytes : Bytes) (time : Nat) (file : LogFile) : LogFile :=
  if file.path = path then { file with ftLastWriteTime := time, content := file.content ++ bytes } else file

theorem grown_path (path : String) (bytes : Bytes) (time : Nat) (file : LogFile) : (grown path bytes time file).path = file.path := by
  unfold grown
  split <;> rfl

theorem grown_content (path : String) (bytes : Bytes) (time : Nat) (file : LogFile) :
    file.content <+: (grown path bytes time file).content := by
  unfold grown
  split
  next => exact List.prefix_append _ _
  next => exact List.prefix_rfl

theorem append_sound {traced : Traced} (sound : traced.Sound) (path : String) (bytes : Bytes) (time : Nat) :
    (traced.step (.append path bytes time)).Sound := by
  have members {file : LogFile} (member : file ∈ (traced.step (.append path bytes time)).system.files) :
      ∃ earlier ∈ traced.system.files, grown path bytes time earlier = file := List.mem_map.mp member
  have paths : (traced.step (.append path bytes time)).system.files.map LogFile.path = traced.system.files.map LogFile.path := by
    change (traced.system.files.map (grown path bytes time)).map LogFile.path = _
    rw [List.map_map]
    exact List.map_congr_left fun file _ => grown_path path bytes time file
  refine ⟨paths ▸ sound.distinct, ?_, ?_, ?_, ?_⟩
  · intro log followed
    obtain ⟨file, member, same⟩ := sound.followed log followed
    exact ⟨grown path bytes time file, List.mem_map_of_mem member, (grown_path ..).trans same⟩
  · exact fun log others => sound.unread log fun file member => grown_path path bytes time file ▸
      others (grown path bytes time file) (List.mem_map_of_mem member)
  · intro file member
    obtain ⟨earlier, inside, rfl⟩ := members member
    rw [grown_path]
    exact (sound.within earlier inside).trans (grown_content path bytes time earlier).length_le
  · intro file member followed
    obtain ⟨earlier, inside, rfl⟩ := members member
    rw [grown_path] at followed ⊢
    obtain ⟨reached, line⟩ := sound.reading earlier inside followed
    obtain ⟨later, whole⟩ := grown_content path bytes time earlier
    have begun : (grown path bytes time earlier).content.take traced.system.reader.pos =
        earlier.content.take traced.system.reader.pos := by
      rw [← whole, List.take_append_of_le_length (reached.trans (sound.within earlier inside))]
    exact ⟨reached, line.trans (congrArg _ begun.symm)⟩

theorem poll_closed {traced : Traced} {turn : LogTurn} (closed : (traced.turned turn).curLog = none) :
    (traced.step (.poll turn)).system.files = traced.system.files ∧ (traced.step (.poll turn)).read = traced.read ∧
      (traced.step (.poll turn)).history = traced.history ∧ (traced.step (.poll turn)).system.reader.curLog = none := by
  obtain ⟨read, _⟩ := poll_reads traced.system.reader (traced.system.input turn)
  have same : traced.step (.poll turn) = { traced with system := traced.system.step (.poll turn) } := by
    simp only [step, closed]
  rw [same]
  exact ⟨rfl, rfl, rfl, read.log.trans closed⟩

/-- What a turn adds to the history of the log it follows. -/
def added (traced : Traced) (turn : LogTurn) (file : LogFile) : List (Place × UInt32 × UInt32) :=
  requestsAt (lineBuffer.behind {} (file.content.take (traced.turned turn).pos)) (traced.turned turn).line (traced.bytes turn)

theorem poll_followed {traced : Traced} {turn : LogTurn} {file : LogFile} (polled : Polled traced turn file)
    (followed : (traced.turned turn).curLog = some file.path) :
    (traced.step (.poll turn)).system.files = traced.system.files ∧
      (traced.step (.poll turn)).read = Function.update traced.read file.path
        (max (traced.read file.path) ((traced.turned turn).pos + (traced.bytes turn).length)) ∧
      (traced.step (.poll turn)).history =
        traced.history ++ (traced.added turn file).map (.of file.path (traced.written file.path)) ∧
      (traced.step (.poll turn)).system.reader.curLog = some file.path ∧
      (traced.step (.poll turn)).system.reader.line = lineBuffer.rest (traced.turned turn).line (traced.bytes turn) := by
  obtain ⟨read, _⟩ := poll_reads traced.system.reader (traced.system.input turn)
  have same : traced.step (.poll turn) =
      { traced with
        system := traced.system.step (.poll turn)
        read := Function.update traced.read file.path
          (max (traced.read file.path) ((traced.turned turn).pos + (traced.bytes turn).length))
        history := traced.history ++ (traced.added turn file).map (.of file.path (traced.written file.path)) } := by
    simp only [step, followed, polled.start, polled.content, added]
  rw [same]
  exact ⟨rfl, rfl, rfl, read.log.trans followed, read.line⟩

/-- What a turn does: nothing where no log is followed, or it reads on in one of the logs. -/
theorem poll_cases {traced : Traced} (sound : traced.Sound) (turn : LogTurn) :
    let after := traced.step (.poll turn)
    after.system.files = traced.system.files ∧
      (((traced.turned turn).curLog = none ∧ after.read = traced.read ∧ after.history = traced.history ∧
          after.system.reader.curLog = none) ∨
        ∃ file ∈ traced.system.files, (traced.turned turn).curLog = some file.path ∧ Polled traced turn file ∧
          after.read = Function.update traced.read file.path
            (max (traced.read file.path) ((traced.turned turn).pos + (traced.bytes turn).length)) ∧
          after.history = traced.history ++ (traced.added turn file).map (.of file.path (traced.written file.path)) ∧
          after.system.reader.curLog = some file.path ∧
          after.system.reader.line = lineBuffer.rest (traced.turned turn).line (traced.bytes turn)) := by
  intro after
  cases curLog : (traced.turned turn).curLog with
  | none =>
    obtain ⟨files, closed⟩ := poll_closed curLog
    exact ⟨files, .inl ⟨rfl, closed⟩⟩
  | some log =>
    obtain ⟨file, member, rfl⟩ := turned_followed sound curLog
    have polled := polled sound member curLog
    obtain ⟨files, followed⟩ := poll_followed polled curLog
    exact ⟨files, .inr ⟨file, member, rfl, polled, followed⟩⟩

theorem poll_sound {traced : Traced} (sound : traced.Sound) (turn : LogTurn) : (traced.step (.poll turn)).Sound := by
  obtain ⟨files, ⟨_, read, history, closed⟩ | ⟨file, member, _, polled, read, history, followed, line⟩⟩ := poll_cases sound turn
  · refine ⟨files ▸ sound.distinct, ?_, ?_, ?_, ?_⟩
    · rw [closed]
      exact nofun
    · rw [files, read, history]
      exact sound.unread
    · rw [files, read]
      exact sound.within
    · rw [closed]
      exact fun _ _ => nofun
  · refine ⟨files ▸ sound.distinct, ?_, ?_, ?_, ?_⟩
    · intro other same
      rw [followed] at same
      rw [files]
      exact ⟨file, member, Option.some.inj same⟩
    · intro other others
      rw [files] at others
      obtain ⟨never, nothing⟩ := sound.unread other others
      have apart : file.path ≠ other := others file member
      rw [read, history, Function.update_of_ne (Ne.symm apart)]
      refine ⟨never, fun update inside => ?_⟩
      rcases List.mem_append.mp inside with earlier | new
      · exact nothing update earlier
      · obtain ⟨request, _, rfl⟩ := List.mem_map.mp new
        exact apart
    · intro other inside
      rw [files] at inside
      by_cases same : other.path = file.path
      · obtain rfl := List.inj_on_of_nodup_map sound.distinct inside member same
        rw [read, Function.update_self]
        exact max_le (sound.within other inside) polled.bound
      · rw [read, Function.update_of_ne same]
        exact sound.within other inside
    · intro other inside same
      rw [followed, Option.some.injEq] at same
      rw [files] at inside
      obtain rfl := List.inj_on_of_nodup_map sound.distinct inside member same.symm
      rw [read, Function.update_self, polled.after, line, polled.line, ← lineBuffer.rest_append, polled.slice]
      exact ⟨le_max_right _ _, rfl⟩

/-- Every character of a log has the time of its append, and times only grow. -/
structure Stamped (traced : Traced) : Prop where
  lengths : ∀ file ∈ traced.system.files, (traced.written file.path).length = file.content.length
  absent : ∀ log, (∀ file ∈ traced.system.files, file.path ≠ log) → traced.written log = []
  sorted : ∀ log, (traced.written log).Pairwise (· ≤ ·)
  past : ∀ log, ∀ time ∈ traced.written log, time < traced.appends

theorem create_stamped {traced : Traced} (stamped : traced.Stamped) (place : Nat) (cFileName : String) (time : Nat) :
    (traced.step (.create place cFileName time)).Stamped := by
  rcases create_cases traced place cFileName time with same | ⟨absent, files, perm, created⟩
  · exact same.symm ▸ stamped
  · rw [created]
    refine ⟨fun file member => ?_, fun log others => ?_, stamped.sorted, stamped.past⟩
    · rcases List.mem_cons.mp (perm.mem_iff.mp member) with rfl | inside
      · exact congrArg List.length (stamped.absent _ absent)
      · exact stamped.lengths file inside
    · exact stamped.absent log fun file inside => others file (perm.mem_iff.mpr (List.mem_cons_of_mem _ inside))

theorem append_written (traced : Traced) (path : String) (bytes : Bytes) (time : Nat) (log : String) :
    (traced.step (.append path bytes time)).written log =
      traced.written log ++ if log = path ∧ ∃ file ∈ traced.system.files, file.path = path
        then List.replicate bytes.length traced.appends else [] := by
  by_cases listed : ∃ file ∈ traced.system.files, file.path = path
  · have found : traced.system.files.any (·.path = path) = true := by simpa using listed
    simp only [step, found, if_true]
    by_cases same : log = path
    · rw [same, Function.update_self, if_pos ⟨rfl, listed⟩]
    · rw [Function.update_of_ne same, if_neg fun both => same both.1, List.append_nil]
  · have none : traced.system.files.any (·.path = path) = false := by simpa using listed
    simp only [step, none, Bool.false_eq_true, if_false]
    rw [if_neg fun both => listed both.2, List.append_nil]

theorem append_stamped {traced : Traced} (stamped : traced.Stamped) (path : String) (bytes : Bytes) (time : Nat) :
    (traced.step (.append path bytes time)).Stamped := by
  have files : (traced.step (.append path bytes time)).system.files = traced.system.files.map (grown path bytes time) := rfl
  have counted : (traced.step (.append path bytes time)).appends = traced.appends + 1 := rfl
  refine ⟨fun file member => ?_, fun log others => ?_, fun log => ?_, fun log stamp inside => ?_⟩
  · rw [files] at member
    obtain ⟨earlier, inside, rfl⟩ := List.mem_map.mp member
    rw [append_written, grown_path, List.length_append, stamped.lengths earlier inside]
    by_cases same : earlier.path = path
    · rw [if_pos ⟨same, earlier, inside, same⟩, List.length_replicate, grown, if_pos same, List.length_append]
    · rw [if_neg fun both => same both.1, grown, if_neg same, List.length_nil, Nat.add_zero]
  · have before : ∀ file ∈ traced.system.files, file.path ≠ log := fun file inside => by
      have apart := others (grown path bytes time file) (files ▸ List.mem_map_of_mem inside)
      rwa [grown_path] at apart
    rw [append_written, stamped.absent log before, if_neg, List.append_nil]
    rintro ⟨rfl, file, inside, same⟩
    exact before file inside same
  · rw [append_written]
    split
    next =>
      refine List.pairwise_append.mpr ⟨stamped.sorted log, by simp, fun earlier inside later now => ?_⟩
      rw [(List.mem_replicate.mp now).2]
      exact Nat.le_of_lt (stamped.past log earlier inside)
    next => simpa using stamped.sorted log
  · rw [append_written] at inside
    rw [counted]
    rcases List.mem_append.mp inside with earlier | now
    · exact Nat.lt_succ_of_lt (stamped.past log stamp earlier)
    · split at now
      next => exact Nat.lt_succ_of_le (Nat.le_of_eq (List.mem_replicate.mp now).2)
      next => cases now

theorem poll_times (traced : Traced) (turn : LogTurn) :
    (traced.step (.poll turn)).written = traced.written ∧ (traced.step (.poll turn)).appends = traced.appends := by
  simp only [step]
  split <;> exact ⟨rfl, rfl⟩

theorem poll_stamped {traced : Traced} (sound : traced.Sound) (stamped : traced.Stamped) (turn : LogTurn) :
    (traced.step (.poll turn)).Stamped := by
  obtain ⟨written, appends⟩ := poll_times traced turn
  obtain ⟨files, _⟩ := poll_cases sound turn
  refine ⟨?_, ?_, ?_, ?_⟩
  · rw [files, written]
    exact stamped.lengths
  · rw [files, written]
    exact stamped.absent
  · rw [written]
    exact stamped.sorted
  · rw [written, appends]
    exact stamped.past

end Traced
end QubesIdd.Resd
