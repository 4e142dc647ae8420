import Mathlib.Data.List.GetD
import Mathlib.Data.List.Nodup
import QubesIdd.Proofs.ResdLogHistory

/-! A log that is turned to again is read from its start, and one that is turned to late may
have been written before what has been read: when a line leads to one update at most, and
updates come in the order in which their lines were written. -/

namespace QubesIdd.Resd
open Library Library.Lines Library.Runs

theorem recorded_take_nil {line bytes : Bytes} {size other : Nat} (silent : recorded line (bytes.take size) = [])
    (shorter : other ≤ size) : recorded line (bytes.take other) = [] := by
  obtain ⟨later, whole⟩ := List.take_prefix_take_left shorter (l := bytes)
  rw [← whole, recorded_append] at silent
  exact (List.append_eq_nil_iff.mp silent).1

/-- What makes no request in its first part makes its requests behind it. -/
theorem requestsAt_behind {place : Place} {line bytes : Bytes} {size : Nat} (silent : recorded line (bytes.take size) = [])
    {request : Place × UInt32 × UInt32} (member : request ∈ requestsAt place line bytes) :
    place.offset + size ≤ request.1.offset := by
  have whole := List.take_append_drop size bytes
  rw [← whole, requestsAt_append, requestsAt_nil silent, List.nil_append] at member
  obtain ⟨low, high⟩ := requestsAt_bounds member
  simp only [LineBuffer.behind, List.length_take, List.length_drop] at low high
  omega

section
variable {times : List Nat} (sorted : times.Pairwise (· ≤ ·))
include sorted

theorem getD_mono {earlier later : Nat} (ordered : earlier ≤ later) (inside : later < times.length) :
    times.getD earlier 0 ≤ times.getD later 0 := by
  rcases Nat.eq_or_lt_of_le ordered with rfl | before
  · exact Nat.le_refl _
  · rw [List.getD_eq_getElem _ _ inside, List.getD_eq_getElem _ _ (by omega)]
    exact List.pairwise_iff_getElem.mp sorted _ _ _ _ before

/-- In sorted times, those before a moment are the first ones. -/
theorem getD_lt_iff {moment index : Nat} (inside : index < times.length) :
    times.getD index 0 < moment ↔ index < (times.takeWhile (· < moment)).length := by
  induction times generalizing index with
  | nil => cases inside
  | cons first times ih =>
    obtain ⟨least, sorted⟩ := List.pairwise_cons.mp sorted
    by_cases before : first < moment
    · rw [List.takeWhile_cons_of_pos (by simpa using before), List.length_cons]
      cases index with
      | zero => simpa using before
      | succ index =>
        have later := ih sorted (Nat.lt_of_succ_lt_succ inside)
        rw [Nat.succ_lt_succ_iff, ← later]
        rfl
    · rw [List.takeWhile_cons_of_neg (by simpa using before), List.length_nil]
      have bound : first ≤ (first :: times).getD index 0 :=
        getD_mono (List.pairwise_cons.mpr ⟨least, sorted⟩) (Nat.zero_le index) inside
      omega

end

namespace Traced

section
variable {content bytes : Bytes} {pos high : Nat}
  (slice : content.take pos ++ bytes = content.take (pos + bytes.length)) (bound : pos + bytes.length ≤ content.length)
  (reached : pos ≤ high)
include slice bound reached

/-- The part of what is read from an offset that lies before the mark. -/
theorem slice_take (short : high ≤ pos + bytes.length) : content.take pos ++ bytes.take (high - pos) = content.take high := by
  have cut := congrArg (List.take high) slice
  rwa [List.take_append, List.take_take, List.take_take, List.length_take, Nat.min_eq_right reached, Nat.min_eq_left short,
    Nat.min_eq_left (by omega)] at cut

/-- Reading on past what has been read before adds to the requests of the log. -/
theorem requestsAt_onward (silent : recorded (lineBuffer.rest [] (content.take pos)) (bytes.take (high - pos)) = []) :
    requestsAt {} [] (content.take (max high (pos + bytes.length))) =
      requestsAt {} [] (content.take high) ++
        requestsAt (lineBuffer.behind {} (content.take pos)) (lineBuffer.rest [] (content.take pos)) bytes := by
  by_cases short : high ≤ pos + bytes.length
  · obtain ⟨fresh, split⟩ : ∃ fresh, bytes = bytes.take (high - pos) ++ fresh := ⟨_, (List.take_append_drop _ _).symm⟩
    rw [Nat.max_eq_right short, ← slice, ← slice_take slice bound reached short]
    generalize bytes.take (high - pos) = again at silent split ⊢
    generalize content.take pos = done at silent ⊢
    rw [split, ← List.append_assoc, requestsAt_append {} [] (done ++ again), requestsAt_append _ _ again, requestsAt_nil silent,
      lineBuffer.rest_append, lineBuffer.behind_append, List.nil_append]
  · have whole : bytes.take (high - pos) = bytes := List.take_of_length_le (by omega)
    rw [whole] at silent
    rw [Nat.max_eq_left (by omega), requestsAt_nil silent, List.append_nil]

/-- What is read again has been among the requests of the log before. -/
theorem requestsAt_again :
    requestsAt (lineBuffer.behind {} (content.take pos)) (lineBuffer.rest [] (content.take pos)) (bytes.take (high - pos)) ⊆
      requestsAt {} [] (content.take high) := by
  have begins : content.take pos ++ bytes.take (high - pos) <+: content.take high := by
    by_cases short : high ≤ pos + bytes.length
    · exact ⟨[], (List.append_nil _).trans (slice_take slice bound reached short)⟩
    · have whole : bytes.take (high - pos) = bytes := List.take_of_length_le (by omega)
      rw [whole, slice]
      exact List.take_prefix_take_left (by omega)
  obtain ⟨later, whole⟩ := begins
  rw [← whole, requestsAt_append, requestsAt_append, List.append_assoc]
  exact fun request member => List.mem_append_right _ (List.mem_append_left _ member)

end

/-- No line of the log makes two requests when the log is read once. -/
def SingleRequests (content : Bytes) : Prop :=
  ∀ number < content.count newline, (requestsAt {} [] content).countP (·.1.number = number) ≤ 1

/-- Every complete line has led to one update at most. -/
def LinesOnce (traced : Traced) : Prop :=
  ∀ file ∈ traced.system.files, ∀ number < file.content.count newline,
    traced.history.countP (fun update => update.log = file.path ∧ update.number = number) ≤ 1

/-- No update is by a line that was written before the line of an earlier update. -/
def InOrder (traced : Traced) : Prop :=
  traced.history.Pairwise fun earlier later => earlier.written ≤ later.written

/-- No request has been replayed, and none has overridden a newer one. -/
structure NoReplay (traced : Traced) : Prop where
  once : traced.LinesOnce
  inOrder : traced.InOrder

/-- When the request that was read last had been written. -/
def latest (traced : Traced) : Nat := (traced.history.getLast?.map LineUpdate.written).getD 0

/-- How far a log is stale: as far as it has been read before, or was written before the
request that was read last. -/
def stale (traced : Traced) (log : String) : Nat :=
  max (traced.read log) ((traced.written log).takeWhile (· < traced.latest)).length

/-- What a turn of the loop reads in the stale part of the log makes no request. -/
def NoStale (traced : Traced) : LogEvent → Prop
  | .poll turn => ∀ log, (traced.turned turn).curLog = some log →
    recorded (traced.turned turn).line ((traced.bytes turn).take (traced.stale log - (traced.turned turn).pos)) = []
  | _ => True

/-- What is written to a log leaves it with the property. -/
def Writes (good : Bytes → Prop) (traced : Traced) : LogEvent → Prop
  | .append path bytes _ => ∀ file ∈ traced.system.files, file.path = path → good (file.content ++ bytes)
  | _ => True

/-- The history has of every log what reading it once so far gives. -/
structure ReadOnce (good : Bytes → Prop) (traced : Traced) : Prop extends Sound traced, Stamped traced where
  once : ∀ file ∈ traced.system.files, traced.history.filter (·.log = file.path) =
    (requestsAt {} [] (file.content.take (traced.read file.path))).map (.of file.path (traced.written file.path))
  contents : ∀ file ∈ traced.system.files, good file.content

theorem history_count {history : List LineUpdate} {log : String} {times : List Nat} {requests : List (Place × UInt32 × UInt32)}
    (same : history.filter (·.log = log) = requests.map (.of log times)) (number : Nat) :
    history.countP (fun update => update.log = log ∧ update.number = number) = requests.countP (·.1.number = number) := by
  have restricted : (history.filter (·.log = log)).countP (·.number = number) = requests.countP (·.1.number = number) := by
    rw [same, List.countP_map]
    rfl
  rw [← restricted, List.countP_filter]
  apply List.countP_congr
  intro update _
  simp [and_comm]

theorem tagged_filter (log other : String) (times : List Nat) (requests : List (Place × UInt32 × UInt32)) :
    (requests.map (LineUpdate.of log times)).filter (·.log = other) =
      if log = other then requests.map (LineUpdate.of log times) else [] := by
  split
  next same =>
    rw [List.filter_eq_self]
    intro update member
    obtain ⟨request, _, rfl⟩ := List.mem_map.mp member
    exact decide_eq_true same
  next apart =>
    rw [List.filter_eq_nil_iff]
    intro update member
    obtain ⟨request, _, rfl⟩ := List.mem_map.mp member
    exact decide_eq_true_iff.not.mpr apart

theorem requestsAt_take (content : Bytes) (high : Nat) :
    requestsAt {} [] (content.take high) <+: requestsAt {} [] content := by
  conv => rhs; rw [← List.take_append_drop high content, requestsAt_append]
  exact List.prefix_append _ _

theorem ReadOnce.linesOnce {good : Bytes → Prop} (single : ∀ content, good content → SingleRequests content) {traced : Traced}
    (sound : ReadOnce good traced) : traced.LinesOnce := by
  intro file member number complete
  rw [history_count (sound.once file member)]
  exact (requestsAt_take file.content _).sublist.countP_le.trans (single _ (sound.contents file member) number complete)

section
variable {good : Bytes → Prop} (empty : good []) {traced : Traced} (sound : ReadOnce good traced)
include sound

theorem readOnce_append {path : String} {bytes : Bytes} {time : Nat} (writes : Writes good traced (.append path bytes time)) :
    ReadOnce good (traced.step (.append path bytes time)) := by
  refine ⟨append_sound sound.toSound path bytes time, append_stamped sound.toStamped path bytes time, ?_, ?_⟩
  · intro file member
    obtain ⟨earlier, inside, rfl⟩ := List.mem_map.mp member
    change traced.history.filter (·.log = (grown path bytes time earlier).path) =
      (requestsAt {} [] ((grown path bytes time earlier).content.take (traced.read (grown path bytes time earlier).path))).map
        (.of (grown path bytes time earlier).path
          ((traced.step (.append path bytes time)).written (grown path bytes time earlier).path))
    obtain ⟨later, whole⟩ := grown_content path bytes time earlier
    rw [grown_path, append_written, ← whole, List.take_append_of_le_length (sound.within earlier inside),
      sound.once earlier inside]
    refine List.map_congr_left fun request asked => ?_
    -- What has been read was written before.
    have place : request.1.offset < 0 + (earlier.content.take (traced.read earlier.path)).length := (requestsAt_bounds asked).2
    have old : request.1.offset < (traced.written earlier.path).length := by
      rw [sound.lengths earlier inside]
      rw [List.length_take] at place
      omega
    rw [LineUpdate.of, LineUpdate.of, List.getD_append _ _ _ _ old]
  · intro file member
    obtain ⟨earlier, inside, rfl⟩ := List.mem_map.mp member
    change good (grown path bytes time earlier).content
    unfold grown
    split
    next same => exact writes earlier inside same
    next => exact sound.contents earlier inside

theorem readOnce_poll {turn : LogTurn} (fresh : NoStale traced (.poll turn)) : ReadOnce good (traced.step (.poll turn)) := by
  refine ⟨poll_sound sound.toSound turn, poll_stamped sound.toSound sound.toStamped turn, ?_, ?_⟩
  · obtain ⟨files, ⟨_, read, history, _⟩ | ⟨file, member, curLog, polled, read, history, _, _⟩⟩ :=
      poll_cases sound.toSound turn
    · rw [files, read, history, (poll_times traced turn).1]
      exact sound.once
    · intro other inside
      rw [files] at inside
      rw [read, history, (poll_times traced turn).1, List.filter_append, sound.once other inside]
      by_cases same : other.path = file.path
      · obtain rfl := List.inj_on_of_nodup_map sound.distinct inside member same
        have quiet := recorded_take_nil (fresh other.path curLog) (Nat.sub_le_sub_right (le_max_left _ _) _)
        rw [polled.line] at quiet
        rw [tagged_filter, if_pos rfl, Function.update_self, requestsAt_onward polled.slice polled.bound polled.reached quiet,
          List.map_append, added, polled.line]
      · rw [tagged_filter, if_neg (Ne.symm same), Function.update_of_ne same, List.append_nil]
  · intro file member
    rw [step_system] at member
    exact sound.contents file member

include empty

theorem readOnce_create (place : Nat) (cFileName : String) (time : Nat) :
    ReadOnce good (traced.step (.create place cFileName time)) := by
  have stepped := create_sound sound.toSound place cFileName time
  have stamped := create_stamped sound.toStamped place cFileName time
  rcases create_cases traced place cFileName time with same | ⟨absent, files, perm, created⟩
  · exact same.symm ▸ sound
  · obtain ⟨never, nothing⟩ := sound.unread _ absent
    rw [created] at stepped stamped ⊢
    refine ⟨stepped, stamped, ?_, ?_⟩
    · intro file member
      rcases List.mem_cons.mp (perm.mem_iff.mp member) with rfl | inside
      · change traced.history.filter (·.log = logPath cFileName) = _
        rw [List.filter_eq_nil_iff.mpr fun update inside => by simpa using nothing update inside, List.take_nil]
        rfl
      · exact sound.once file inside
    · intro file member
      rcases List.mem_cons.mp (perm.mem_iff.mp member) with rfl | inside
      · exact empty
      · exact sound.contents file inside

theorem readOnce_step (event : LogEvent) (writes : Writes good traced event) (fresh : NoStale traced event) :
    ReadOnce good (traced.step event) := by
  cases event with
  | create place cFileName time => exact readOnce_create empty sound place cFileName time
  | append path bytes time => exact readOnce_append sound writes
  | poll turn => exact readOnce_poll sound fresh

end

/-- In order, the last update is the one that was written last. -/
theorem InOrder.latest {traced : Traced} (inOrder : traced.InOrder) {update : LineUpdate} (member : update ∈ traced.history) :
    update.written ≤ traced.latest := by
  rcases List.eq_nil_or_concat traced.history with nothing | ⟨earlier, last, split⟩
  · rw [nothing] at member
    cases member
  · rw [InOrder, split, List.concat_eq_append, List.pairwise_append] at inOrder
    rw [split, List.concat_eq_append] at member
    have final : traced.latest = last.written := by simp [Traced.latest, split]
    rw [final]
    rcases List.mem_append.mp member with before | here
    · exact inOrder.2.2 update before last (List.mem_singleton_self _)
    · rw [List.mem_singleton.mp here]

section
variable {traced : Traced} {turn : LogTurn} {file : LogFile} (stamped : traced.Stamped) (member : file ∈ traced.system.files)
  (polled : Polled traced turn file)
include stamped member polled

/-- What a turn reads was appended at some time. -/
theorem added_bounds {request : Place × UInt32 × UInt32} (asked : request ∈ traced.added turn file) :
    (traced.turned turn).pos ≤ request.1.offset ∧ request.1.offset < (traced.written file.path).length := by
  have bounds := requestsAt_bounds asked
  have bound := polled.bound
  simp only [LineBuffer.behind, List.length_take, Nat.min_eq_left (show (traced.turned turn).pos ≤ file.content.length by omega)]
    at bounds
  rw [stamped.lengths file member]
  omega

/-- A log makes its requests in the order in which it was written. -/
theorem added_sorted : ((traced.added turn file).map (LineUpdate.of file.path (traced.written file.path))).Pairwise
    fun earlier later => earlier.written ≤ later.written := by
  have offsets : (traced.added turn file).Pairwise fun earlier later => earlier.1.offset < later.1.offset :=
    List.pairwise_map.mp ((List.pairwise_lt_range' _).sublist (requestsAt_offsets _ _ _))
  refine List.pairwise_map.mpr (offsets.imp_of_mem fun {earlier later} _ inside ordered => ?_)
  exact getD_mono (stamped.sorted file.path) (Nat.le_of_lt ordered) (added_bounds stamped member polled inside).2

end

theorem inOrder_step {good : Bytes → Prop} {traced : Traced} (sound : ReadOnce good traced) (inOrder : traced.InOrder)
    {event : LogEvent} (fresh : NoStale traced event) : (traced.step event).InOrder := by
  cases event with
  | create place cFileName time => exact inOrder
  | append path bytes time => exact inOrder
  | poll turn =>
    obtain ⟨_, ⟨_, _, history, _⟩ | ⟨file, member, curLog, polled, _, history, _, _⟩⟩ := poll_cases sound.toSound turn
    · rw [InOrder, history]
      exact inOrder
    · rw [InOrder, history, List.pairwise_append]
      refine ⟨inOrder, added_sorted sound.toStamped member polled, fun earlier before later now => ?_⟩
      obtain ⟨request, asked, rfl⟩ := List.mem_map.mp now
      refine (inOrder.latest before).trans ?_
      by_contra older
      -- A request from before the last one stands in the stale part.
      have bounds := added_bounds sound.toStamped member polled asked
      have outdated := (getD_lt_iff (sound.sorted file.path) bounds.2).mp (Nat.lt_of_not_ge older)
      have behind := requestsAt_behind (fresh file.path curLog) asked
      have place : (lineBuffer.behind {} (file.content.take (traced.turned turn).pos)).offset = (traced.turned turn).pos := by
        have bound := polled.bound
        simp only [LineBuffer.behind, List.length_take]
        omega
      have reached := le_max_right (traced.read file.path) ((traced.written file.path).takeWhile (· < traced.latest)).length
      rw [place, stale] at behind
      omega

/-- Every line of the log, the unfinished one too, fits the buffer. -/
def FitsBuffer (content : Bytes) : Prop :=
  ∀ line, line ∈ (cut newline content).complete ∨ line = (cut newline content).rest → (withoutCR line).length < LINE_LIMIT

/-- A log whose lines fit makes its requests at its newlines, one at most at each. -/
theorem FitsBuffer.numbers {content : Bytes} (fits : FitsBuffer content) :
    ((requestsAt {} [] content).map (·.1.number)).Sublist (List.range (content.count newline)) := by
  have splits := cut_splits newline content
  have placed := @LineBuffer.placed_fit _ _ lineBuffer _ _ {} splits.unbroken (fun line member => fits line (.inl member))
    splits.unfinished (fits _ (.inr rfl))
  have joined : (cut newline content).complete.flatMap (· ++ [lineBuffer.separator]) ++ (cut newline content).rest = content :=
    splits.joined.symm
  have places := (requestsAt_places {} [] content).map Place.number
  rw [joined] at placed
  rw [List.map_map, List.map_map] at places
  rw [splits.count, List.range_eq_range']
  exact placed ▸ places

theorem FitsBuffer.single {content : Bytes} (fits : FitsBuffer content) : SingleRequests content := by
  intro number _
  have distinct := List.nodup_iff_count_le_one.mp (fits.numbers.nodup List.nodup_range) number
  rwa [List.count_eq_countP, List.countP_map] at distinct

theorem FitsBuffer.complete {content : Bytes} (fits : FitsBuffer content) {request : Place × UInt32 × UInt32}
    (member : request ∈ requestsAt {} [] content) : request.1.number < content.count newline :=
  List.mem_range.mp (fits.numbers.subset (List.mem_map_of_mem member))

theorem fitsBuffer_nil : FitsBuffer [] := by
  intro line place
  have nothing : line = [] := by simpa [cut] using place
  rw [nothing]
  decide

section
variable {traced : Traced} (sound : ReadOnce FitsBuffer traced) {turn : LogTurn} (kept : (traced.step (.poll turn)).NoReplay)
  {file : LogFile} (member : file ∈ traced.system.files) (polled : Polled traced turn file)
  (history : (traced.step (.poll turn)).history =
    traced.history ++ (traced.added turn file).map (.of file.path (traced.written file.path)))
  {request : Place × UInt32 × UInt32} (now : request ∈ traced.added turn file)
include sound kept member polled history now

/-- A request that a turn reads once more is the second of its line. -/
theorem not_read_before : traced.read file.path ≤ request.1.offset := by
  by_contra early
  have before : request ∈ requestsAt {} [] (file.content.take (traced.read file.path)) := by
    apply requestsAt_again polled.slice polled.bound polled.reached
    have whole := List.take_append_drop (traced.read file.path - (traced.turned turn).pos) (traced.bytes turn)
    have bound := polled.bound
    have reached := polled.reached
    rw [added, polled.line, ← whole, requestsAt_append] at now
    refine (List.mem_append.mp now).resolve_right fun later => ?_
    obtain ⟨low, high⟩ := requestsAt_bounds later
    simp only [LineBuffer.behind, List.length_take, List.length_drop] at low high
    omega
  have ended := (sound.contents file member).complete ((requestsAt_take _ _).subset before)
  have files : (traced.step (.poll turn)).system.files = traced.system.files := (poll_cases sound.toSound turn).1
  have once := kept.once file (files.symm ▸ member) request.1.number ended
  have both : (traced.step (.poll turn)).history.filter (·.log = file.path) =
      (requestsAt {} [] (file.content.take (traced.read file.path)) ++ traced.added turn file).map
        (.of file.path (traced.written file.path)) := by
    rw [history, List.filter_append, sound.once file member, tagged_filter, if_pos rfl, List.map_append]
  rw [history_count both, List.countP_append] at once
  have counted {requests : List (Place × UInt32 × UInt32)} (inside : request ∈ requests) :
      1 ≤ requests.countP (·.1.number = request.1.number) := List.countP_pos_iff.mpr ⟨request, inside, by simp⟩
  have two : 1 + 1 ≤ 1 := (Nat.add_le_add (counted before) (counted now)).trans once
  exact absurd two (by decide)

theorem not_written_before : ((traced.written file.path).takeWhile (· < traced.latest)).length ≤ request.1.offset := by
  by_contra early
  have bounds := added_bounds sound.toStamped member polled now
  have older := (getD_lt_iff (sound.sorted file.path) bounds.2).mpr (Nat.lt_of_not_ge early)
  have ordered := kept.inOrder
  rw [InOrder, history, List.pairwise_append] at ordered
  rcases List.eq_nil_or_concat traced.history with nothing | ⟨earlier, last, split⟩
  · simp [latest, nothing] at older
  · have inside : last ∈ traced.history := by simp [split]
    have final : traced.latest = last.written := by simp [latest, split]
    have newer := ordered.2.2 last inside _ (List.mem_map_of_mem now)
    rw [final] at older
    exact absurd older (Nat.not_lt_of_ge newer)

end

theorem noStale_of_noReplay {traced : Traced} (sound : ReadOnce FitsBuffer traced) {event : LogEvent}
    (kept : (traced.step event).NoReplay) : NoStale traced event := by
  cases event with
  | create place cFileName time => trivial
  | append path bytes time => trivial
  | poll turn =>
    intro log curLog
    obtain ⟨_, ⟨closed, _⟩ | ⟨file, member, followed, polled, _, history, _, _⟩⟩ := poll_cases sound.toSound turn
    · exact nomatch curLog.symm.trans closed
    obtain rfl : file.path = log := Option.some.inj (followed.symm.trans curLog)
    by_contra repeated
    obtain ⟨request, early⟩ : ∃ request, request ∈ requestsAt (lineBuffer.behind {} (file.content.take (traced.turned turn).pos))
        (traced.turned turn).line ((traced.bytes turn).take (traced.stale file.path - (traced.turned turn).pos)) := by
      apply List.exists_mem_of_ne_nil
      intro silent
      rw [← requestsAt_sizes (lineBuffer.behind {} (file.content.take (traced.turned turn).pos)), silent] at repeated
      exact repeated rfl
    have now : request ∈ traced.added turn file := by
      have whole := List.take_append_drop (traced.stale file.path - (traced.turned turn).pos) (traced.bytes turn)
      rw [added, ← whole, requestsAt_append]
      exact List.mem_append_left _ early
    have unread := not_read_before sound kept member polled history now
    have unwritten := not_written_before sound kept member polled history now
    obtain ⟨low, high⟩ := requestsAt_bounds early
    have inside := polled.bound
    simp only [LineBuffer.behind, List.length_take, stale] at low high
    omega

theorem initial_readOnce {good : Bytes → Prop} : ReadOnce good {} where
  distinct := List.nodup_nil
  followed := nofun
  unread _ _ := ⟨rfl, nofun⟩
  within := nofun
  reading := nofun
  lengths := nofun
  absent _ _ := rfl
  sorted _ := .nil
  past _ := nofun
  once := nofun
  contents := nofun

theorem run_history (events : List LogEvent) :
    (run step {} events).system = run LogSystem.step {} events ∧
      (run step {} events).history.map LineUpdate.size = (run LogSystem.step {} events).reader.updates := by
  have same (traced : Traced) : (run step traced events).system = run LogSystem.step traced.system events := by
    induction events generalizing traced with
    | nil => rfl
    | cons event events ih => rw [run_cons, run_cons, ih, step_system]
  have accounted := run_preserves (fun traced : Traced => traced.history.map LineUpdate.size = traced.system.reader.updates)
    step_history {} events rfl
  exact ⟨same {}, accounted.trans (congrArg (·.reader.updates) (same {}))⟩

/-- The history is what reading every log once gives, in the order of writing. -/
structure Ordered (good : Bytes → Prop) (traced : Traced) : Prop extends ReadOnce good traced where
  inOrder : traced.InOrder

theorem Ordered.noReplay {good : Bytes → Prop} (single : ∀ content, good content → SingleRequests content) {traced : Traced}
    (ordered : Ordered good traced) : traced.NoReplay :=
  ⟨ordered.linesOnce single, ordered.inOrder⟩

theorem ordered_step {good : Bytes → Prop} (empty : good []) {traced : Traced} (ordered : Ordered good traced) (event : LogEvent)
    (writes : traced.Writes good event) (fresh : traced.NoStale event) : Ordered good (traced.step event) :=
  ⟨readOnce_step empty ordered.toReadOnce event writes fresh, inOrder_step ordered.toReadOnce ordered.inOrder fresh⟩

theorem initial_ordered {good : Bytes → Prop} : Ordered good {} := ⟨initial_readOnce, .nil⟩

theorem noReplay_of_noStale {events : List LogEvent}
    (meets : Along step (fun traced event => traced.Writes SingleRequests event ∧ traced.NoStale event) {} events) :
    Always step NoReplay {} events := by
  have empty : SingleRequests [] := by simp [SingleRequests]
  have implies (traced : Traced) (ordered : Ordered SingleRequests traced) : traced.NoReplay :=
    ordered.noReplay fun _ single => single
  exact always_of_along implies (fun _ event ordered meets => ordered_step empty ordered event meets.1 meets.2) {} events
    initial_ordered meets

/-- Where all lines fit, only what is stale can break the property, and it does. -/
theorem noReplay_iff_noStale {events : List LogEvent} (fit : Along step (Writes FitsBuffer) {} events) :
    Always step NoReplay {} events ↔ Along step NoStale {} events := by
  have implies (traced : Traced) (ordered : Ordered FitsBuffer traced) : traced.NoReplay :=
    ordered.noReplay fun _ => FitsBuffer.single
  exact always_iff_along implies (fun _ event ordered writes fresh => ordered_step fitsBuffer_nil ordered event writes fresh)
    (fun _ _ ordered _ kept => noStale_of_noReplay ordered.toReadOnce kept) {} events initial_ordered fit

/-- The history accounts for every update. Where no line makes two requests by itself, a
request has been replayed or has overridden a newer one only if a turn has read a request in
a stale part of a log; where all lines fit the buffer, that is exactly when one has. -/
theorem linesOnce_run (events : List LogEvent) :
    let final := run Traced.step {} events
    (final.system = run LogSystem.step {} events ∧
      final.history.map LineUpdate.size = (run LogSystem.step {} events).reader.updates) ∧
    (Along Traced.step (fun traced event => traced.Writes SingleRequests event ∧ traced.NoStale event) {} events →
      Always Traced.step NoReplay {} events) ∧
    (Along Traced.step (Writes FitsBuffer) {} events →
      (Always Traced.step NoReplay {} events ↔ Along Traced.step NoStale {} events)) :=
  ⟨run_history events, noReplay_of_noStale, noReplay_iff_noStale⟩

instance (content : Bytes) : Decidable (SingleRequests content) :=
  inferInstanceAs (Decidable (∀ number < content.count newline, (requestsAt {} [] content).countP (·.1.number = number) ≤ 1))

instance (traced : Traced) : Decidable traced.LinesOnce :=
  inferInstanceAs (Decidable (∀ file ∈ traced.system.files, ∀ number < file.content.count newline,
    traced.history.countP (fun update => update.log = file.path ∧ update.number = number) ≤ 1))

instance (good : Bytes → Prop) [DecidablePred good] (traced : Traced) : (event : LogEvent) → Decidable (Writes good traced event)
  | .create _ _ _ => isTrue trivial
  | .append path bytes _ =>
    inferInstanceAs (Decidable (∀ file ∈ traced.system.files, file.path = path → good (file.content ++ bytes)))
  | .poll _ => isTrue trivial

instance (traced : Traced) : (event : LogEvent) → Decidable (NoStale traced event)
  | .create _ _ _ => isTrue trivial
  | .append _ _ _ => isTrue trivial
  | .poll turn => inferInstanceAs (Decidable (∀ log ∈ (traced.turned turn).curLog,
      recorded (traced.turned turn).line ((traced.bytes turn).take (traced.stale log - (traced.turned turn).pos)) = []))

/-- Two logs are written to in turn, each before a poll. -/
def alternating (first second again : String) : List LogEvent :=
  [.create 0 "gui-agent-1.log" 1, .append (logPath "gui-agent-1.log") (first.toList.map char) 2, .poll {},
    .create 1 "gui-agent-2.log" 3, .append (logPath "gui-agent-2.log") (second.toList.map char) 4, .poll {},
    .append (logPath "gui-agent-1.log") (again.toList.map char) 5, .poll {}]

/-- The first log is turned to again before it has a request. -/
theorem linesOnce_late : Always Traced.step NoReplay {}
    (alternating "started\n" "resolution change: 1024x768\n" "resolution change: 800x600\n") :=
  (linesOnce_run (alternating "started\n" "resolution change: 1024x768\n" "resolution change: 800x600\n")).2.1 (by decide +kernel)

/-- The request of the first log is recorded again, after that of the second. -/
theorem linesOnce_violated : ¬ ∀ events, Always Traced.step LinesOnce {} events := by
  intro claim
  have always := claim (alternating "resolution change: 800x600\n" "resolution change: 1024x768\n" "resized\n")
  have final := (always_iff_runs _ _).mp always _ List.prefix_rfl
  exact absurd final (by decide +kernel)

end Traced
end QubesIdd.Resd
