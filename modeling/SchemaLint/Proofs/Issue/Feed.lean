import SchemaLint.Issue.Feed
import SchemaLint.Proofs.Issue.Stream

/-!
# A writer on an output that fills up

An output with a limit keeps the octets that still fit, wherever the limit cuts: in a
document, behind it, or between the two octets of its terminator. `limitedTo` is the
writer that was given some issues on such an output, in closed form: the first octets
of their stream, and the number of those that stand there whole. One more issue takes
it to the closed form of one more (`emit_limitedTo`), whether it fits or not, so a
writer fed with lines is known after each of them (`fedWith_limitedTo`).

Once the stream is longer than the limit the closed form no longer changes
(`limitedTo_append`), which is why no issue gets through after one that failed.
-/

namespace SchemaLint

/-- What an output keeps of what it was sent is as much as its limit allows, and so is
what it keeps of more. -/
theorem Output.write_take (limit : Nat) (sent data : List UInt8) :
    write { bytes := sent.take limit, limit := some limit } data =
      (decide (data.length ≤ limit - sent.length),
        { bytes := (sent ++ data).take limit, limit := some limit }) := by
  have room : room { bytes := sent.take limit, limit := some limit } =
      some (limit - sent.length) := by
    have left : limit - min limit sent.length = limit - sent.length := by omega
    rw [Output.room, Option.map_some, List.length_take, left]
  rw [write, room, List.take_append]

namespace Issue

/-- How many of some issues stand whole on an output, each with its document and its
terminator at the place that the stream has for it. -/
def countWhole (issues : List Issue) (bytes : List UInt8) : Nat :=
  (List.range issues.length).countP fun k => (stream (issues.take (k + 1))).isPrefixOf bytes

theorem stream_append (issues more : List Issue) :
    stream (issues ++ more) = stream issues ++ stream more :=
  List.flatMap_append

theorem stream_concat (issues : List Issue) (i : Issue) :
    stream (issues ++ [i]) = stream issues ++ i.document ++ terminator := by
  rw [stream_append, stream_cons, List.append_assoc]
  rfl

/-- A beginning of a stream stands whole on an output that fits it. -/
theorem isPrefixOf_take_stream (issues more : List Issue) (limit : Nat) :
    (stream issues).isPrefixOf ((stream (issues ++ more)).take limit) =
      decide ((stream issues).length ≤ limit) := by
  rw [Bool.eq_iff_iff, List.isPrefixOf_iff_prefix, decide_eq_true_iff, List.prefix_take_iff,
    stream_append]
  exact and_iff_right (List.prefix_append _ _)

/-- An issue is whole on an output if the stream up to its terminator fits. -/
theorem countWhole_take_stream (issues : List Issue) (limit : Nat) :
    countWhole issues ((stream issues).take limit) =
      (List.range issues.length).countP fun k =>
        decide ((stream (issues.take (k + 1))).length ≤ limit) := by
  refine List.countP_congr fun k _ => ?_
  have fits := isPrefixOf_take_stream (issues.take (k + 1)) (issues.drop (k + 1)) limit
  rw [List.take_append_drop] at fits
  rw [fits]

theorem countWhole_concat (issues : List Issue) (i : Issue) (limit : Nat) :
    countWhole (issues ++ [i]) ((stream (issues ++ [i])).take limit) =
      countWhole issues ((stream issues).take limit) +
        if (stream (issues ++ [i])).length ≤ limit then 1 else 0 := by
  have last : (issues ++ [i]).take (issues.length + 1) = issues ++ [i] :=
    List.take_of_length_le (by simp)
  have earlier : ∀ k ∈ List.range issues.length,
      (issues ++ [i]).take (k + 1) = issues.take (k + 1) := by
    intro k held
    exact List.take_append_of_le_length (List.mem_range.mp held)
  rw [countWhole_take_stream, countWhole_take_stream, List.length_append, List.length_singleton,
    List.range_succ, List.countP_append, List.countP_singleton, last]
  simp only [decide_eq_true_eq]
  congr 1
  exact List.countP_congr fun k held => by rw [earlier k held]

end Issue

namespace IssueWriter

open Issue

/-- A writer that was given issues on an output with a limit. -/
def limitedTo (limit : Nat) (issues : List Issue) : IssueWriter where
  output := { bytes := (stream issues).take limit, limit := some limit }
  written := countWhole issues ((stream issues).take limit)

/-- Such a writer takes an issue exactly if the stream up to its terminator fits, and
keeps what fits in any case. -/
theorem emit_limitedTo (r : Record) (i : Issue) (limit : Nat) (issues : List Issue) :
    emit r i (limitedTo limit issues) =
      ⟨if (stream (issues ++ [i])).length ≤ limit then .ok () else .error (.system .diskFull),
        limitedTo limit (issues ++ [i]), [.issued r]⟩ := by
  have whole := countWhole_concat issues i limit
  have octets : (stream issues ++ i.document).length = (stream issues).length + i.document.length :=
    List.length_append
  have total : (stream (issues ++ [i])).length =
      (stream issues ++ i.document).length + terminator.length := by
    rw [stream_concat, List.length_append]
  have two : terminator.length = 2 := rfl
  rw [emit, write, limitedTo]
  simp only [Output.write_take, Bool.not_eq_true', decide_eq_false_iff_not, ← stream_concat]
  by_cases document : i.document.length ≤ limit - (stream issues).length
  · rw [if_neg (fun cut => cut document)]
    by_cases ending : terminator.length ≤ limit - (stream issues ++ i.document).length
    · have fits : (stream (issues ++ [i])).length ≤ limit := by omega
      rw [if_neg (fun cut => cut ending), if_pos fits, limitedTo, whole, if_pos fits]
    · have full : ¬ (stream (issues ++ [i])).length ≤ limit := by omega
      rw [if_pos ending, if_neg full, limitedTo, whole, if_neg full]
      rfl
  · have full : ¬ (stream (issues ++ [i])).length ≤ limit := by omega
    have kept : (stream (issues ++ [i])).take limit = (stream issues ++ i.document).take limit := by
      rw [stream_concat, List.take_append_of_le_length (by omega)]
    rw [if_pos document, if_neg full, limitedTo, whole, if_neg full, kept]
    rfl

/-- Once the stream does not fit, more issues change nothing. -/
theorem limitedTo_append {limit : Nat} {issues : List Issue}
    (full : limit < (stream issues).length) (more : List Issue) :
    limitedTo limit (issues ++ more) = limitedTo limit issues := by
  induction more generalizing issues with
  | nil => rw [List.append_nil]
  | cons i more ih =>
    have longer : limit < (stream (issues ++ [i])).length := by
      rw [stream_append, List.length_append]
      omega
    have bytes : (stream (issues ++ [i])).take limit = (stream issues).take limit := by
      rw [stream_append, List.take_append_of_le_length (Nat.le_of_lt full)]
    have whole : countWhole (issues ++ [i]) ((stream (issues ++ [i])).take limit) =
        countWhole issues ((stream issues).take limit) := by
      rw [countWhole_concat, if_neg (Nat.not_le.mpr longer), Nat.add_zero]
    rw [List.append_cons, ih longer, limitedTo, whole, bytes, limitedTo]

/-! ## Feeding lines -/

/-- The record and the issue that a line has for a writer, if it is read, is not kept
back and names a discovered file. -/
def attempt? (d : Discovery) (line : Text) : Option (Record × Issue) :=
  match Line.classify line with
  | .error _ => none
  | .ok r =>
    match r.issue d with
    | .ok (some issue) => some (r, issue)
    | _ => none

/-- The issues that lines have for a writer. -/
def attempted (d : Discovery) (lines : List Text) : List Issue :=
  (lines.filterMap (attempt? d)).map (·.2)

/-- The writer after lines were fed to it. -/
def fedWith (d : Discovery) (w : IssueWriter) (lines : List Text) : IssueWriter :=
  lines.foldl (fun w line => (feed d w line).writer) w

variable {d : Discovery} {line : Text}

theorem attempt?_eq_some_iff {call : Record × Issue} :
    attempt? d line = some call ↔
      Line.classify line = .ok call.1 ∧ call.1.issue d = .ok (some call.2) := by
  unfold attempt?
  split
  · next unreadable => simp [unreadable]
  next r read =>
  split
  · next issue made =>
    rw [read, Option.some.injEq]
    constructor
    · rintro rfl
      exact ⟨rfl, made⟩
    · rintro ⟨same, other⟩
      cases same
      rw [made] at other
      cases other
      rfl
  · next none =>
    refine ⟨nofun, ?_⟩
    rintro ⟨same, made⟩
    rw [read] at same
    cases same
    exact (none _ made).elim

/-- A line without an issue leaves the writer as it is, and is not written. -/
theorem feed_of_attempt?_eq_none (absent : attempt? d line = none) (w : IssueWriter) :
    (feed d w line).writer = w ∧ (feed d w line).fate ≠ .written := by
  unfold feed
  split
  · exact ⟨rfl, nofun⟩
  next r read =>
  split
  · exact ⟨rfl, nofun⟩
  · exact ⟨rfl, nofun⟩
  · next issue made =>
    have found : attempt? d line = some (r, issue) := attempt?_eq_some_iff.mpr ⟨read, made⟩
    rw [found] at absent
    cases absent

/-- A line with an issue gives it to the writer. -/
theorem feed_of_attempt? {r : Record} {i : Issue} (found : attempt? d line = some (r, i))
    (w : IssueWriter) :
    (feed d w line).writer = (emit r i w).state ∧
      (feed d w line).fate =
        match (emit r i w).result with
        | .ok () => .written
        | .error e => .failed e := by
  obtain ⟨read, made⟩ := attempt?_eq_some_iff.mp found
  simp only [feed, read, made]
  cases (emit r i w).result <;> exact ⟨rfl, rfl⟩

theorem attempted_concat (lines : List Text) :
    attempted d (lines ++ [line]) = attempted d lines ++ ((attempt? d line).map (·.2)).toList := by
  cases found : attempt? d line <;> simp [attempted, found]

theorem fedWith_concat (w : IssueWriter) (lines : List Text) :
    fedWith d w (lines ++ [line]) = (feed d (fedWith d w lines) line).writer := by
  rw [fedWith, List.foldl_append]
  rfl

/-- A writer of a form that each issue goes on with has that form after any lines. -/
theorem fedWith_of_step {form : List Issue → IssueWriter}
    (step : ∀ r i issues, (emit r i (form issues)).state = form (issues ++ [i]))
    (lines : List Text) : fedWith d (form []) lines = form (attempted d lines) := by
  suffices onwards : ∀ issues,
      fedWith d (form issues) lines = form (issues ++ attempted d lines) from onwards []
  induction lines with
  | nil =>
    intro issues
    exact congrArg form (List.append_nil issues).symm
  | cons line lines ih =>
    intro issues
    rw [fedWith, List.foldl_cons, ← fedWith]
    cases found : attempt? d line with
    | none =>
      rw [(feed_of_attempt?_eq_none found _).1, ih]
      simp [attempted, found]
    | some call =>
      rw [(feed_of_attempt? found _).1, step, ih]
      simp [attempted, found]

/-- What feeding does at a line is what one step does from the writer so far. -/
theorem getElem?_feedAll (w : IssueWriter) (lines : List Text) (k : Nat) :
    (feedAll d w lines)[k]? = lines[k]?.map (feed d (fedWith d w (lines.take k))) := by
  induction lines generalizing w k with
  | nil => rfl
  | cons line lines ih =>
    cases k with
    | zero => rfl
    | succ k =>
      rw [feedAll, List.getElem?_cons_succ, ih, List.getElem?_cons_succ]
      rfl

/-- The writers that feeding goes through, the first one included. -/
theorem getElem?_writers (w : IssueWriter) {lines : List Text} {k : Nat}
    (present : lines[k]? = some line) :
    (w :: (feedAll d w lines).map (·.writer))[k]? = some (fedWith d w (lines.take k)) := by
  cases k with
  | zero => rfl
  | succ k =>
    obtain ⟨last, held⟩ : ∃ last, lines[k]? = some last := by
      have inside := (List.getElem?_eq_some_iff.mp present).1
      exact ⟨_, List.getElem?_eq_getElem (Nat.lt_of_succ_lt inside)⟩
    rw [List.getElem?_cons_succ, List.getElem?_map, getElem?_feedAll, held, List.take_add_one, held]
    exact congrArg some (fedWith_concat w _).symm

/-! ## The accounts of a writer -/

section

variable (d)

/-- A writer on an output without a limit has the stream of all issues so far. -/
theorem fedWith_having (lines : List Text) : fedWith d {} lines = having (attempted d lines) := by
  have step (r : Record) (i : Issue) (issues : List Issue) :
      (emit r i (having issues)).state = having (issues ++ [i]) := by
    rw [emit_having]
  exact fedWith_of_step step lines

theorem fedWith_limitedTo (limit : Nat) (lines : List Text) :
    fedWith d { output := { limit := some limit } } lines =
      limitedTo limit (attempted d lines) := by
  have start : limitedTo limit [] = { output := { limit := some limit } } := by
    rw [limitedTo, stream, List.flatMap_nil, List.take_nil]
    rfl
  rw [← start]
  exact fedWith_of_step (fun r i issues => by rw [emit_limitedTo]) lines

/-- The issues up to a line are those of an earlier line and more. -/
theorem exists_attempted_take (lines : List Text) {j k : Nat} (before : j ≤ k) :
    ∃ more, attempted d (lines.take k) = attempted d (lines.take j) ++ more := by
  obtain ⟨rest, parts⟩ := List.take_prefix_take_left (l := lines) before
  refine ⟨attempted d rest, ?_⟩
  rw [← parts, attempted, List.filterMap_append, List.map_append, attempted, attempted]

end

/-- The step at a line of a writer on an output with a limit. -/
theorem exists_limited_step (limit : Nat) {lines : List Text} {k : Nat}
    (present : lines[k]? = some line) :
    ∃ step, (feedAll d { output := { limit := some limit } } lines)[k]? = some step ∧
      step.writer = limitedTo limit (attempted d (lines.take (k + 1))) ∧
      (∀ call, attempt? d line = some call →
        step.fate = if (stream (attempted d (lines.take (k + 1)))).length ≤ limit then .written
          else .failed (.system .diskFull)) ∧
      (attempt? d line = none → step.fate ≠ .written) := by
  have issues : attempted d (lines.take (k + 1)) =
      attempted d (lines.take k) ++ ((attempt? d line).map (·.2)).toList := by
    rw [List.take_add_one, present]
    exact attempted_concat _
  refine ⟨feed d (limitedTo limit (attempted d (lines.take k))) line, ?_, ?_, ?_, ?_⟩
  · rw [getElem?_feedAll, present, fedWith_limitedTo]
    rfl
  · rw [← fedWith_limitedTo, ← fedWith_limitedTo, ← fedWith_concat, List.take_add_one, present]
    rfl
  · intro call found
    have last : attempted d (lines.take (k + 1)) = attempted d (lines.take k) ++ [call.2] := by
      rw [issues, found]
      rfl
    rw [(feed_of_attempt? found _).2, emit_limitedTo, last]
    by_cases fits : (stream (attempted d (lines.take k) ++ [call.2])).length ≤ limit
    · rw [if_pos fits, if_pos fits]
    · rw [if_neg fits, if_neg fits]
  · exact fun absent => (feed_of_attempt?_eq_none absent _).2

/-- What a writer on an output with a limit has done after each line. The output holds
the first octets of the stream that a writer without a limit has made so far, and the
writer counts the issues that are whole there. An issue is written exactly if the
stream up to its terminator fits; after one that was not, none is, and nothing
changes; and a line without an issue changes nothing. -/
theorem feedAll_limited (limit : Nat) {lines : List Text} {k : Nat}
    (present : lines[k]? = some line) :
    let start : IssueWriter := { output := { limit := some limit } }
    ∃ before step free,
      (start :: (feedAll d start lines).map (·.writer))[k]? = some before ∧
      (feedAll d start lines)[k]? = some step ∧
      (feedAll d {} lines)[k]? = some free ∧
      step.writer.output.bytes = free.writer.output.bytes.take limit ∧
      free.writer.output.bytes = stream (attempted d (lines.take (k + 1))) ∧
      step.writer.written =
        countWhole (attempted d (lines.take (k + 1))) step.writer.output.bytes ∧
      (∀ call, attempt? d line = some call →
        step.fate = if free.writer.output.bytes.length ≤ limit then .written
          else .failed (.system .diskFull)) ∧
      (∀ j earlier failing call, j < k → lines[j]? = some earlier →
        attempt? d earlier = some call → (feedAll d start lines)[j]? = some failing →
        failing.fate ≠ .written → step.fate ≠ .written ∧ step.writer = failing.writer) ∧
      (attempt? d line = none → step.fate ≠ .written ∧ step.writer = before) := by
  intro start
  obtain ⟨step, found, writer, fate, idle⟩ := exists_limited_step (d := d) limit present
  have free : (feedAll d {} lines)[k]? =
      some (feed d (fedWith d {} (lines.take k)) line) := by
    rw [getElem?_feedAll, present]
    rfl
  have freeWriter : (feed d (fedWith d {} (lines.take k)) line).writer =
      having (attempted d (lines.take (k + 1))) := by
    rw [← fedWith_having, ← fedWith_concat, List.take_add_one, present]
    rfl
  refine ⟨fedWith d start (lines.take k), step, _, getElem?_writers start present, found, free,
    ?_, ?_, ?_, ?_, ?_, ?_⟩
  · rw [writer, freeWriter]
    rfl
  · rw [freeWriter]
    rfl
  · rw [writer]
    rfl
  · rw [freeWriter]
    exact fate
  · intro j earlier failing call before held attempt failed cut
    obtain ⟨_, same, earlierWriter, earlierFate, -⟩ := exists_limited_step (d := d) limit held
    cases failed.symm.trans same
    have full : limit < (stream (attempted d (lines.take (j + 1)))).length :=
      Nat.lt_of_not_le fun fits => cut ((earlierFate call attempt).trans (if_pos fits))
    obtain ⟨more, issues⟩ := exists_attempted_take d lines (Nat.succ_le_succ (Nat.le_of_lt before))
    rw [issues] at writer fate
    refine ⟨?_, by rw [writer, earlierWriter, limitedTo_append full]⟩
    cases found : attempt? d line with
    | none => exact idle found
    | some call =>
      have longer : ¬ (stream (attempted d (lines.take (j + 1)) ++ more)).length ≤ limit := by
        rw [stream_append, List.length_append]
        omega
      rw [fate call found, if_neg longer]
      exact nofun
  · intro absent
    refine ⟨idle absent, ?_⟩
    rw [writer, ← fedWith_limitedTo, List.take_add_one, present]
    rw [show (some line).toList = [line] from rfl, fedWith_concat]
    exact (feed_of_attempt?_eq_none absent _).1

/-- An output that is cut inside the terminator of the first issue: the issue is not
counted, and neither it nor what is fed after it leaves anything more. -/
theorem feedAll_limited_inTerminator :
    let d : Discovery := ⟨⟨"/"⟩, [⟨"/"⟩], [⟨"/a.proto"⟩]⟩
    let lines : List Text := ["a.proto:3:7: Missing field number.", "gone.proto: File not found.",
      "a.proto:3:7: Missing field number."]
    ∃ i, attempted d (lines.take 1) = [i] ∧
      let start : IssueWriter := { output := { limit := some (i.document.length + 1) } }
      ∃ step, (feedAll d start lines)[2]? = some step ∧ step.fate ≠ .written ∧
        step.writer.output.bytes = i.document ++ [0] ∧ step.writer.written = 0 := by
  intro d lines
  have read : Line.classify "a.proto:3:7: Missing field number." =
      .ok (.make (.compile .missingFieldNumber) .compiler "a.proto:3:7: Missing field number."
        "a.proto" 3 7 none) := by
    rfl
  have known : d.find? "a.proto" = some ⟨"/a.proto"⟩ := by decide
  obtain ⟨i, made⟩ : ∃ i, Record.issue (.make (.compile .missingFieldNumber) .compiler
      "a.proto:3:7: Missing field number." "a.proto" 3 7 none) d = .ok (some i) := by
    rw [Record.issue, if_neg (by decide), Discovery.location]
    simp only [Record.make, known]
    exact ⟨_, rfl⟩
  have found : attempt? d "a.proto:3:7: Missing field number." = some (_, i) :=
    attempt?_eq_some_iff.mpr ⟨read, made⟩
  have first : attempted d (lines.take 1) = [i] := by
    simp only [lines, List.take_succ_cons, List.take_zero, attempted,
      List.filterMap_cons_some found]
    rfl
  have framed : stream [i] = i.document ++ [0] ++ [10] := by
    simpa [terminator, stream] using stream_concat [] i
  refine ⟨i, first, ?_⟩
  obtain ⟨_, cut, free, -, failed, -, bytes, all, whole, fate, -⟩ :=
    feedAll_limited (d := d) (i.document.length + 1) (rfl : lines[0]? = some _)
  obtain ⟨_, step, _, -, last, -, -, -, -, -, after, -⟩ :=
    feedAll_limited (d := d) (i.document.length + 1) (rfl : lines[2]? = some _)
  rw [first, framed] at all
  have notWritten : cut.fate ≠ .written := by
    rw [fate _ found, all, if_neg (by simp)]
    rintro ⟨⟩
  obtain ⟨lost, same⟩ := after 0 _ cut _ (by decide) rfl found failed notWritten
  have kept : cut.writer.output.bytes = i.document ++ [0] := by
    rw [bytes, all, List.take_append_of_le_length (by simp), List.take_of_length_le (by simp)]
  refine ⟨step, last, lost, by rw [same, kept], ?_⟩
  have incomplete : ¬ stream [i] <+: i.document ++ [0] := by
    intro begins
    have shorter := begins.length_le
    simp [framed] at shorter
  rw [same, whole, first, kept]
  simpa [countWhole, List.countP_cons] using incomplete

end IssueWriter

end SchemaLint
