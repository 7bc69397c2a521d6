import LoopScope.Proofs.Lines
import LoopScope.Proofs.Session.Undrained
/-!
# The text of a log over a run

A client that reads the text of a log just before it drains it, each time, and once more at the end,
has read piece by piece the text that the log would have without the drains.
-/
namespace LoopScope

/-- The text that a call was answered with, if it was answered with one. -/
def Answer.texts : Answer → List String
  | .text s => [s]
  | _ => []

namespace Session

variable {digest : Layout.DigestFunction} {s : Session} {name : String} {op : Operator}
  {calls : List Call}

/-- What a client reads of the log of an operator just before a call that drains it. -/
def textBeforeDrain (digest : Layout.DigestFunction) (name : String) (s : Session) (call : Call)
    (_ : Answer) : List String :=
  if call = .drain name then (s.stepBy digest (.lines name)).1.texts else []

/-- What it reads before the drains of a run, in order. -/
def textsBeforeDrains (digest : Layout.DigestFunction) (name : String) (s : Session)
    (calls : List Call) : List String :=
  s.collect digest (textBeforeDrain digest name) calls

theorem lines_stepBy (hop : s.operators.get? name = some op) :
    (s.stepBy digest (.lines name)).1 = .text (Event.renderLines op.log) :=
  queryOperator_of_get? hop _

/-- What is read before a drain is the text of what is drained. -/
theorem join_textBeforeDrain (hop : s.operators.get? name = some op) (call : Call) :
    String.join (textBeforeDrain digest name s call (s.stepBy digest call).1) =
      Event.renderLines (drained name call (s.stepBy digest call).1) := by
  by_cases hcall : call = .drain name
  · subst hcall
    have hanswer : (s.stepBy digest (.drain name)).1 = .events op.log := by
      simp only [stepBy, drainCall, hop]
      rfl
    rw [textBeforeDrain, if_pos rfl, lines_stepBy hop, hanswer, drained, if_pos rfl,
      Answer.texts, String.join_cons, String.join_nil, String.append_empty]
  · have hnone : drained name call (s.stepBy digest call).1 = [] := by
      unfold drained
      split
      · rw [if_neg hcall]
      · rfl
    rw [textBeforeDrain, if_neg hcall, hnone]
    rfl

theorem join_textsBeforeDrains (h : s.Sound digest)
    (hkept : ∀ call ∈ calls, call.operatorName? ≠ some name)
    (hop : s.operators.get? name = some op) :
    String.join (s.textsBeforeDrains digest name calls) =
      Event.renderLines (s.collect digest (fun _ => drained name) calls) := by
  induction calls generalizing s op with
  | nil => rfl
  | cons call calls ih =>
    obtain ⟨used, hused, -⟩ := use_of_stepBy h hop (hkept call List.mem_cons_self)
    have hrest := ih (h.stepBy call) (fun later hm => hkept later (List.mem_cons_of_mem _ hm)) hused
    rw [textsBeforeDrains, collect, String.join_append, join_textBeforeDrain hop call,
      ← textsBeforeDrains, hrest, ← Event.renderLines_append]
    rfl

/-- The text of a log has one line break for each event, at its end, and no other control
character. What stands between the line breaks is read back as the events, so no two logs have one
text. The text of two logs in a row is their texts in a row: the texts that are read before the
drains of a run, and the last one, make up the text of the log of a run without these drains. -/
theorem events_framed_by_lines (hs : s.Reachable digest) :
    (∀ events : List Event,
      (Event.renderLines events).toList.count '\n' = events.length ∧
      (Event.renderLines events).toList.splitOn '\n' =
        events.map (fun e => (Json.encode e).toList) ++ [[]] ∧
      ∀ line ∈ Event.lines (Event.renderLines events), Json.Visible line.toList) ∧
    (∀ events : List Event, (∀ e ∈ events, e.Fits) →
      Event.readLines? (Event.renderLines events) = some events) ∧
    (∀ a b : List Event, (∀ e ∈ a, e.Fits) → (∀ e ∈ b, e.Fits) →
      Event.renderLines a = Event.renderLines b → a = b) ∧
    (∀ a b : List Event,
      Event.renderLines (a ++ b) = Event.renderLines a ++ Event.renderLines b) ∧
    ∀ name op calls, s.operators.get? name = some op →
      (∀ call ∈ calls, call.operatorName? ≠ some name) →
      ∃ used whole, (s.runBy digest calls).operators.get? name = some used ∧
        (s.runBy digest (undrained name calls)).operators.get? name = some whole ∧
        whole.log = s.collect digest (fun _ => drained name) calls ++ used.log ∧
        ((s.runBy digest calls).stepBy digest (.lines name)).1 =
          .text (Event.renderLines used.log) ∧
        ((s.runBy digest (undrained name calls)).stepBy digest (.lines name)).1 =
          .text (String.join (s.textsBeforeDrains digest name calls) ++
            Event.renderLines used.log) := by
  have hsound := sound_of_reachable hs
  refine ⟨?framing, fun events => Event.readLines?_renderLines, fun a b => Event.renderLines_inj,
    Event.renderLines_append, ?drains⟩
  case framing =>
    intro events
    refine ⟨Event.count_newline_renderLines events, Event.splitOn_renderLines events, ?_⟩
    intro line hm
    rw [Event.lines_renderLines] at hm
    obtain ⟨e, -, rfl⟩ := List.mem_map.mp hm
    exact e.visible_encode
  case drains =>
    intro name op calls hop hkept
    obtain ⟨used, whole, hused, hwhole, hlog⟩ := log_undrained hsound hkept hop
    refine ⟨used, whole, hused, hwhole, hlog, lines_stepBy hused, ?_⟩
    rw [lines_stepBy hwhole, hlog, Event.renderLines_append,
      join_textsBeforeDrains hsound hkept hop]

/-- Correlation ids that would break lines if they were printed as they are. -/
def breakingContext : Context := ⟨"a\nb\r", "\u2028", "\"\\\t"⟩

/-- A client makes an operator with these ids that traces its copies. -/
def breakingCalls : List Call :=
  sampleCalls ++ [.operator "broken" (.given .strict) breakingContext (.schema "loop")]

/-- The session after these calls, with debug checks and with empty digests. -/
def breakingSession : Session := runBy (fun _ => []) (empty true) breakingCalls

/-- It then makes a record, drains the log, and makes another record. -/
def drainingCalls : List Call :=
  [.materialize "third" "broken" "first", .drain "broken", .materialize "fourth" "broken" "third"]

theorem events_framed_by_lines_sample :
    Event.readLines? (Event.renderLines [.make breakingContext "materialize" none "sha256:" 2]) =
      some [.make breakingContext "materialize" none "sha256:" 2] ∧
    ∃ used, (breakingSession.runBy (fun _ => []) drainingCalls).operators.get? "broken" =
        some used ∧
      ((breakingSession.runBy (fun _ => []) (undrained "broken" drainingCalls)).stepBy
          (fun _ => []) (.lines "broken")).1 =
        .text (String.join (breakingSession.textsBeforeDrains (fun _ => []) "broken"
          drainingCalls) ++ Event.renderLines used.log) := by
  have hreachable : breakingSession.Reachable fun _ => [] := ⟨_, breakingCalls, rfl⟩
  obtain ⟨-, hread, -, -, hdrains⟩ := events_framed_by_lines hreachable
  have hfits : ∀ e ∈ [Event.make breakingContext "materialize" none "sha256:" 2], e.Fits := by
    intro e hm
    rw [List.mem_singleton.mp hm]
    exact (by decide : 2 < UInt64.size)
  have hop : breakingSession.operators.get? "broken" =
      some ⟨sampleSchema, [.fresh 0, .fresh 1], [.fresh 0, .fresh 1], .strict, breakingContext,
        [.make breakingContext "iteration_scope_created" none "sha256:" 2]⟩ := by cbv
  obtain ⟨used, whole, hused, -, -, -, htext⟩ :=
    hdrains "broken" _ drainingCalls hop (by decide)
  exact ⟨hread _ hfits, used, hused, htext⟩

end Session

end LoopScope
