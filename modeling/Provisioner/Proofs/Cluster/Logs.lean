import Provisioner.Cluster.Inspect
import Provisioner.Proofs.Cluster.Watch
/-!
# The log of a container

A log is told line by line, and the lines tell all of it: with line feeds between them they are the
text again, whatever stands in it and wherever its line feeds are.  Only a text with nothing in it
has no line, where one empty line would also do.  A container that is still waiting is not asked
for its log.
-/

namespace Provisioner

open Program

/-- With line feeds between them the lines are the text, and no line has a line feed in it, so that
there is one line more than line feeds. -/
structure IsLines (text : String) (lines : List String) : Prop where
  joined : "\n".intercalate lines = text
  plain : ∀ line ∈ lines, '\n' ∉ line.toList
  length : lines.length = text.toList.count '\n' + 1

namespace Cluster

/-! ## The lines of a text -/

variable {text : String}

lemma linesOf_of_ne_empty (htext : text ≠ "") : linesOf text = Text.pieces '\n' text := by
  rw [linesOf, if_neg htext]

lemma isLines_linesOf (htext : text ≠ "") : IsLines text (linesOf text) := by
  rw [linesOf_of_ne_empty htext]
  exact ⟨Text.intercalate_pieces '\n' text, fun line => Text.not_mem_of_mem_pieces,
    Text.length_pieces '\n' text⟩

/-- A text that is not empty has no other lines. -/
lemma eq_linesOf {lines : List String} (htext : text ≠ "") (hlines : IsLines text lines) :
    lines = linesOf text := by
  -- There is one line at least, so that joining them can be undone.
  have hsome : lines ≠ [] := by
    intro hnil
    have hlength := hlines.length
    simp [hnil] at hlength
  have hpieces : Text.pieces '\n' ("\n".intercalate lines) = lines :=
    Text.pieces_intercalate hsome hlines.plain
  rw [linesOf_of_ne_empty htext, ← hpieces, hlines.joined]

/-! ## Asking for a log -/

variable {σ : Type} {h : Handler Platform σ} {now : Duration} {s : σ} {log : List (Event Platform)}
  {o : Outcome σ Error (List String)} {statuses : List ContainerStatus} {pod : ObjectKey}
  {container : String}

lemma anyIn_waiting_iff :
    ContainerStatus.anyIn statuses .waiting = true ↔
      ∃ status ∈ statuses, status.waiting = true := by
  rw [ContainerStatus.anyIn, List.any_eq_true]
  rfl

/-- The failure to get a log. -/
def logError (e : Error) : Error := .internal "get_logs" ("couldn't get logs: " ++ e.message)

lemma logLines_of_waiting (waiting : ∃ status ∈ statuses, status.waiting = true) :
    logLines statuses pod container = .done [] := by
  rw [logLines, if_pos (anyIn_waiting_iff.mpr waiting)]
  rfl

lemma logLines_of_none_waiting (ready : ∀ status ∈ statuses, status.waiting = false) :
    logLines statuses pod container =
      ((Call.getLogs pod container).perform.mapError logError).bind fun text =>
        .done (linesOf text) := by
  have hnone : ¬ ContainerStatus.anyIn statuses .waiting = true := by
    rw [anyIn_waiting_iff]
    rintro ⟨status, hmem, hwaiting⟩
    exact absurd hwaiting (by simp [ready status hmem])
  rw [logLines, if_neg hnone]
  rfl

/-- Where no container is waiting the log is asked for once, and its answer decides. -/
lemma runs_logLines (ready : ∀ status ∈ statuses, status.waiting = false)
    (hr : Runs h (logLines statuses pod container) now s log o) :
    ∃ reply, log = [.ofCall (.getLogs pod container) reply now] ∧
      o.result = some ((reply.map linesOf).mapError logError) := by
  rw [logLines_of_none_waiting ready] at hr
  rcases runs_perform_mapError_bind hr with ⟨e, rfl, ho⟩ | ⟨text, mid, t, rest, rfl, hrest⟩
  · exact ⟨.error e, rfl, ho⟩
  · obtain ⟨rfl, rfl⟩ := runs_done_iff.mp hrest
    exact ⟨.ok text, rfl, rfl⟩

/-- **Nothing of a log is lost.**  A waiting container has no lines and is not asked for any.
Otherwise the log is asked for once: a refusal is told with what was wanted, an empty text gives no
lines, and the lines of any other text are the only ones that it has. -/
theorem logLines_lossless (hr : Runs h (logLines statuses pod container) now s log o) :
    ((∃ status ∈ statuses, status.waiting = true) → log = [] ∧ o = ⟨some (.ok []), now, s⟩) ∧
    ((∀ status ∈ statuses, status.waiting = false) →
      ∃ reply : Except Error String, log = [.ofCall (.getLogs pod container) reply now] ∧
        (∀ e, reply = .error e → o.result = some (.error
          (.internal "get_logs" ("couldn't get logs: " ++ e.message)))) ∧
        (reply = .ok "" → o.result = some (.ok [])) ∧
        ∀ text, reply = .ok text → text ≠ "" →
          ∃ lines, o.result = some (.ok lines) ∧ IsLines text lines ∧
            ∀ others, IsLines text others → others = lines) := by
  refine ⟨fun waiting => ?_, fun ready => ?_⟩
  · rw [logLines_of_waiting waiting] at hr
    exact runs_done_iff.mp hr
  · obtain ⟨reply, hlog, ho⟩ := runs_logLines ready hr
    refine ⟨reply, hlog, ?_, ?_, ?_⟩
    · rintro e rfl
      exact ho
    · rintro rfl
      exact ho
    · rintro text rfl htext
      exact ⟨linesOf text, ho, isLines_linesOf htext, fun others => eq_linesOf htext⟩

/-- A text with line feeds at both ends, two in a row and a carriage return. -/
def unevenText : String := "\n\nbereit für Anfragen\r\n"

/-- A cluster that answers with a text wherever it is asked for a log. -/
def telling (text : String) : Handler Platform Unit :=
  answering fun
    | .getLogs .. => .ok text
    | _ => .error (.notFound "")

theorem logLines_lossless_uneven :
    (run (telling unevenText) (logLines [{ running := true }] ⟨"db", "db-0"⟩ "mysql") 0 ()).result =
        some (.ok ["", "", "bereit für Anfragen\r", ""]) ∧
      (run (telling unevenText) (logLines [{ running := true }, { waiting := true }] ⟨"db", "db-0"⟩
        "mysql") 0 ()).result = some (.ok []) := by
  have hready : ∀ status ∈ [({ running := true } : ContainerStatus)], status.waiting = false := by
    simp
  constructor
  · obtain ⟨reply, hlog, -, -, hlines⟩ := (logLines_lossless (runs_self (telling unevenText)
      (logLines [{ running := true }] ⟨"db", "db-0"⟩ "mysql") 0 ())).2 hready
    obtain rfl : reply = .ok unevenText := by
      cases hlog
      rfl
    obtain ⟨lines, hresult, -, honly⟩ := hlines unevenText rfl (by decide)
    rw [hresult, honly ["", "", "bereit für Anfragen\r", ""]]
    exact ⟨by decide +kernel, by decide +kernel, by decide +kernel⟩
  · have hrun := (logLines_lossless (runs_self (telling unevenText)
      (logLines [{ running := true }, { waiting := true }] ⟨"db", "db-0"⟩ "mysql") 0 ())).1
      ⟨{ waiting := true }, by simp, rfl⟩
    rw [hrun.2]

end Cluster

end Provisioner
