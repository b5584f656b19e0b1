import Mathlib
import Phrasebook.Telemetry.LogSetup

/-!
# Phrasebook.Proofs.LogSetup

The thresholds in force after any calls that set up the logs.

A call sets thresholds or leaves everything as it was: it does the latter if the logs were set up
before and it is not forced, and if it fails. `next_cases` says so of one call. Of a run only the
calls that return count; the first of them and the forced ones set thresholds, so the last of these
settles what is in force (`settling?`). `thresholds_after` carries that along a run.
-/

namespace Phrasebook

namespace LogSetup

@[simp] theorem level_install (s : LogSetup) (t : Threshold) (force : Bool) (logger : String) :
    (s.install t force).level logger = s.level logger := by
  unfold install
  split <;> rfl

theorem level_setLevel (s : LogSetup) (t : Threshold) (loggers : List String) (logger : String) :
    (s.setLevel t loggers).level logger = if logger ∈ loggers then t else s.level logger := by
  induction loggers generalizing s with
  | nil => simp [setLevel]
  | cons l loggers ih =>
    have hcons : s.setLevel t (l :: loggers) = (s.setLevel t [l]).setLevel t loggers := rfl
    have hone : (s.setLevel t [l]).level logger = if logger = l then t else s.level logger := by
      simp only [level, setLevel, List.foldl_cons, List.foldl_nil, Pairs.at?_put]
      by_cases h : logger = l
      · simp [h]
      · simp [h, Ne.symm h]
    rw [hcons, ih, hone]
    by_cases h : logger = l <;> simp [h]

theorem chattyFor_of_le {t : Threshold} (h : t.rank ≤ Threshold.debug.rank) : chattyFor t = t := by
  rw [chattyFor, if_neg (Int.not_lt.2 h)]

theorem rank_chattyFor {t : Threshold} (h : Threshold.debug.rank < t.rank) :
    (chattyFor t).rank = max t.rank Threshold.warning.rank := by
  rw [chattyFor, if_pos h]
  split
  · rename_i hle
    exact (max_eq_left hle).symm
  · rename_i hlt
    exact (max_eq_right (Int.le_of_not_le hlt)).symm

/-- The project has the threshold, and the chatty loggers have the one beside it. -/
structure SetTo (s : LogSetup) (t : Threshold) : Prop where
  isDone : s.isDone = true
  project : s.level projectLogger = t
  chatty : ∀ logger ∈ chattyLoggers, s.level logger = chattyFor t

def setUp (s : LogSetup) (t : Threshold) (force : Bool) : LogSetup :=
  { ((s.install t force).setLevel t [projectLogger]).setLevel (chattyFor t) chattyLoggers with
    isDone := true }

theorem level_setUp (s : LogSetup) (t : Threshold) (force : Bool) (logger : String) :
    (s.setUp t force).level logger =
      if logger ∈ chattyLoggers then chattyFor t
      else if logger ∈ [projectLogger] then t else s.level logger := by
  rw [← level_install s t force, ← level_setLevel, ← level_setLevel]
  rfl

theorem setTo_setUp (s : LogSetup) (t : Threshold) (force : Bool) : (s.setUp t force).SetTo t where
  isDone := rfl
  project := by
    rw [level_setUp, if_neg (by decide), if_pos List.mem_cons_self]
  chatty := by
    intro logger hlogger
    rw [level_setUp, if_pos hlogger]

/-- From the first set-up on, records of the project pass from the threshold that was asked for, also
where that is none: the root has it as well. -/
theorem effective_setUp_initial (t : Threshold) (force : Bool) :
    (initial.setUp t force).effective = t.rank := by
  have hproject : (initial.setUp t force).project = t := (setTo_setUp initial t force).project
  have hroot : (initial.setUp t force).root = t := rfl
  rw [effective, hproject, hroot, ite_self]

/-! ## One call -/

/-- A call that sets up the logs, with what the environment names at that time. -/
structure Call where
  given : Value
  named : Option String
  force : Bool

def Call.asked (c : Call) : Except Fault Threshold := Threshold.ofValue (wanted c.given c.named)

def answer (s : LogSetup) (c : Call) : Except Fault Threshold :=
  (s.configure c.given c.named c.force).map Prod.fst

/-- The set-up behind a call; a call that fails leaves it. -/
def next (s : LogSetup) (c : Call) : LogSetup :=
  match s.configure c.given c.named c.force with
  | .ok (_, s') => s'
  | .error _ => s

theorem configure_eq (s : LogSetup) (c : Call) :
    s.configure c.given c.named c.force =
      if s.isDone = true ∧ c.force = false then .ok (s.project, s)
      else c.asked.map fun t => (t, s.setUp t c.force) := by
  rw [configure, Call.asked]
  cases Threshold.ofValue (wanted c.given c.named) <;> simp <;> rfl

/-- What a call does: nothing where the logs are set up and it is not forced, and otherwise what it
asks for. -/
theorem next_cases (s : LogSetup) (c : Call) :
    (s.isDone = true ∧ c.force = false ∧ s.answer c = .ok (s.level projectLogger) ∧ s.next c = s) ∨
    ((s.isDone = true → c.force = true) ∧ s.answer c = c.asked ∧
      ((∃ e, c.asked = .error e ∧ s.next c = s) ∨ ∃ t, c.asked = .ok t ∧ (s.next c).SetTo t)) := by
  rw [answer, next, configure_eq]
  by_cases hkeeps : s.isDone = true ∧ c.force = false
  · rw [if_pos hkeeps]
    exact .inl ⟨hkeeps.1, hkeeps.2, rfl, rfl⟩
  · rw [if_neg hkeeps]
    right
    refine ⟨fun hdone => by simpa [hdone] using hkeeps, ?_⟩
    cases c.asked with
    | error e => exact ⟨rfl, .inl ⟨e, rfl, rfl⟩⟩
    | ok t => exact ⟨rfl, .inr ⟨t, rfl, s.setTo_setUp t c.force⟩⟩

theorem project_of_answer {s : LogSetup} {c : Call} {t : Threshold} (h : s.answer c = .ok t) :
    (s.next c).level projectLogger = t := by
  rcases s.next_cases c with
    ⟨-, -, hanswer, hnext⟩ | ⟨-, hanswer, ⟨e, hasked, -⟩ | ⟨t', hasked, hset⟩⟩
  · rw [hnext]
    exact Except.ok.inj (hanswer.symm.trans h)
  · rw [hanswer, hasked] at h
    cases h
  · rw [hset.project]
    exact Except.ok.inj ((hanswer.trans hasked).symm.trans h)

/-- A call that fails asked for no threshold, and leaves the set-up. -/
theorem next_of_error {s : LogSetup} {c : Call} {e : Fault} (h : s.answer c = .error e) :
    c.asked = .error e ∧ s.next c = s := by
  rcases s.next_cases c with
    ⟨-, -, hanswer, -⟩ | ⟨-, hanswer, ⟨e', hasked, hnext⟩ | ⟨t, hasked, -⟩⟩
  · rw [hanswer] at h
    cases h
  · exact ⟨hanswer.symm.trans h, hnext⟩
  · rw [hanswer, hasked] at h
    cases h

/-! ## Runs -/

def after (s : LogSetup) (cs : List Call) : LogSetup := cs.foldl next s

/-- The calls among those of a run that return. -/
def returned (s : LogSetup) : List Call → List Call
  | [] => []
  | c :: cs =>
    match s.answer c with
    | .ok _ => c :: (s.next c).returned cs
    | .error _ => (s.next c).returned cs

/-- Of calls that return, the last that is the first of them or is forced. -/
def settling? : List Call → Option Call
  | [] => none
  | c :: cs => (c :: cs.filter (·.force)).getLast?

theorem after_concat (s : LogSetup) (cs : List Call) (c : Call) :
    s.after (cs ++ [c]) = (s.after cs).next c := by
  rw [after, List.foldl_append]
  rfl

theorem returned_append (s : LogSetup) (cs ds : List Call) :
    s.returned (cs ++ ds) = s.returned cs ++ (s.after cs).returned ds := by
  induction cs generalizing s with
  | nil => rfl
  | cons c cs ih =>
    rw [List.cons_append, returned, returned, ih]
    cases s.answer c <;> rfl

theorem returned_concat_ok {s : LogSetup} {cs : List Call} {c : Call} {t : Threshold}
    (h : (s.after cs).answer c = .ok t) : s.returned (cs ++ [c]) = s.returned cs ++ [c] := by
  rw [returned_append, returned, h]
  rfl

theorem returned_concat_error {s : LogSetup} {cs : List Call} {c : Call} {e : Fault}
    (h : (s.after cs).answer c = .error e) : s.returned (cs ++ [c]) = s.returned cs := by
  rw [returned_append, returned, h]
  exact List.append_nil _

theorem settling?_concat_forced {cs : List Call} {c : Call} (h : cs = [] ∨ c.force = true) :
    settling? (cs ++ [c]) = some c := by
  cases cs with
  | nil => rfl
  | cons d cs =>
    have hforce : c.force = true := h.resolve_left (List.cons_ne_nil d cs)
    have hfilter : (cs ++ [c]).filter (·.force) = cs.filter (·.force) ++ [c] := by
      simp [List.filter_append, hforce]
    rw [List.cons_append, settling?, hfilter, ← List.cons_append, List.getLast?_concat]

theorem settling?_concat_unforced {cs : List Call} {c : Call} (hne : cs ≠ [])
    (h : c.force = false) : settling? (cs ++ [c]) = settling? cs := by
  obtain ⟨d, cs, rfl⟩ := List.exists_cons_of_ne_nil hne
  have hfilter : (cs ++ [c]).filter (·.force) = cs.filter (·.force) := by
    simp [List.filter_append, h]
  rw [List.cons_append, settling?, hfilter, settling?]

/-- What is in force once calls have returned: what the settling one of them asked for. -/
structure Settled (s : LogSetup) (rs : List Call) : Prop where
  isDone_iff : s.isDone = true ↔ rs ≠ []
  setTo : rs ≠ [] → ∃ x t, settling? rs = some x ∧ x.asked = .ok t ∧ s.SetTo t

/-- One call more: the three things a call does keep what is in force in step with the calls that
returned. -/
theorem Settled.next {start : LogSetup} {cs : List Call}
    (h : (start.after cs).Settled (start.returned cs)) (c : Call) :
    (start.after (cs ++ [c])).Settled (start.returned (cs ++ [c])) := by
  rw [after_concat]
  rcases (start.after cs).next_cases c with
    ⟨hdone, hforce, hanswer, hnext⟩ | ⟨hdone, hanswer, ⟨e, hasked, hnext⟩ | ⟨t, hasked, hset⟩⟩
  · -- An ignored call returns, but it is neither the first to do so nor forced.
    have hne := h.isDone_iff.1 hdone
    rw [hnext, returned_concat_ok hanswer]
    exact {
      isDone_iff := iff_of_true hdone (by simp)
      setTo := fun _ => by
        rw [settling?_concat_unforced hne hforce]
        exact h.setTo hne }
  · rw [hnext, returned_concat_error (hanswer.trans hasked)]
    exact h
  · rw [returned_concat_ok (hanswer.trans hasked)]
    -- It had something to do, so it settles what is in force.
    have hsettles : start.returned cs = [] ∨ c.force = true := by
      by_cases hrs : start.returned cs = []
      · exact .inl hrs
      · exact .inr (hdone (h.isDone_iff.2 hrs))
    exact {
      isDone_iff := iff_of_true hset.isDone (by simp)
      setTo := fun _ => ⟨c, t, settling?_concat_forced hsettles, hasked, hset⟩ }

theorem settled_after {start : LogSetup} (hstart : start.isDone = false) (cs : List Call) :
    (start.after cs).Settled (start.returned cs) := by
  induction cs using List.reverseRecOn with
  | nil => exact ⟨by simp [after, returned, hstart], fun hne => absurd rfl hne⟩
  | append_singleton cs c ih => exact ih.next c

end LogSetup

end Phrasebook
