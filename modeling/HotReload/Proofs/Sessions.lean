/-
# One log for each file

The store of sessions is changed by events: a file is started anew, a model is added to
its session, or the file is marked as rewritten. An event changes the session of its own
file alone, so the session of a file after a history is what the events of that file make,
in order, of the session that it had before (`Sessions.get_perform`). From this follows what
can be read off the store: the models that were added and whether the file was marked, both
since the file was last started anew (`sessions_are_logs`).

Key definitions: `Action`, `Event`, `Event.on`, `Sessions.perform`, `Session.perform`,
`actionsOn`, `modelsAdded`.
Key theorems: `Event.on_eq_set`, `Sessions.get_perform`, `Sessions.get_perform_restart`,
`Session.perform_of_noRestart`, `sessions_are_logs`.
-/
import HotReload.Session

namespace HotReload

/-- What can be done to the session of a file. -/
inductive Action where
  | restart
  | addModel (path : String)
  | markRewritten
deriving DecidableEq

namespace Action

/-- What the action makes of the session of its file. -/
def on : Action → Session → Session
  | restart, _ => .empty
  | addModel path, s => s.addModel path
  | markRewritten, s => s.markRewritten

/-- The model that the action adds. -/
def model? : Action → Option String
  | addModel path => some path
  | restart | markRewritten => none

end Action

/-- An action on the session of one file. -/
structure Event where
  file : FileIdentity
  action : Action
deriving DecidableEq

namespace Event

/-- What the event makes of the store. -/
def on (e : Event) (s : Sessions) : Sessions :=
  match e.action with
  | .restart => s.restart e.file
  | .addModel path => s.addModel e.file path
  | .markRewritten => s.markRewritten e.file

/-- The model that the event adds to the session of the file. -/
def model? (file : FileIdentity) (e : Event) : Option String :=
  if e.file = file then e.action.model? else none

/-! ### One event -/

/-- **What an event does.** It sets the session of its file to what its action makes of it,
also where the file was never heard of. -/
theorem on_eq_set (e : Event) (s : Sessions) :
    e.on s = s.set e.file (e.action.on (s.get e.file)) := by
  obtain ⟨file, action⟩ := e
  cases action <;> rfl

theorem get_on_self (e : Event) (s : Sessions) :
    (e.on s).get e.file = e.action.on (s.get e.file) := by
  rw [on_eq_set, Sessions.get_set_self]

/-- An event leaves the session of every other file as it was. -/
theorem get_on_of_ne {e : Event} {file : FileIdentity} (h : e.file ≠ file) (s : Sessions) :
    (e.on s).get file = s.get file := by
  rw [on_eq_set]
  exact Sessions.get_set_of_ne s _ (Ne.symm h)

end Event

/-! ### A history of events -/

/-- The store after a history of events. -/
def Sessions.perform (s : Sessions) (history : List Event) : Sessions :=
  history.foldl (fun s e => e.on s) s

/-- The session of a file after actions on it. -/
def Session.perform (s : Session) (actions : List Action) : Session :=
  actions.foldl (fun s a => a.on s) s

/-- The log of a file: what a history does to its session, in order. -/
def actionsOn (file : FileIdentity) (history : List Event) : List Action :=
  (history.filter (·.file == file)).map Event.action

/-- The models that a history adds to the session of a file, in order. -/
def modelsAdded (file : FileIdentity) (history : List Event) : List String :=
  history.filterMap (Event.model? file)

theorem actionsOn_cons_self (e : Event) (history : List Event) :
    actionsOn e.file (e :: history) = e.action :: actionsOn e.file history := by
  simp [actionsOn]

theorem actionsOn_cons_of_ne {e : Event} {file : FileIdentity} (h : e.file ≠ file)
    (history : List Event) : actionsOn file (e :: history) = actionsOn file history := by
  simp [actionsOn, h]

theorem actionsOn_append (file : FileIdentity) (before after : List Event) :
    actionsOn file (before ++ after) = actionsOn file before ++ actionsOn file after := by
  simp [actionsOn]

theorem mem_actionsOn {file : FileIdentity} {history : List Event} {action : Action} :
    action ∈ actionsOn file history ↔ ⟨file, action⟩ ∈ history := by
  unfold actionsOn
  rw [List.mem_map]
  constructor
  · rintro ⟨⟨other, action⟩, hmem, rfl⟩
    obtain ⟨hevent, hfile⟩ := List.mem_filter.mp hmem
    obtain rfl : other = file := beq_iff_eq.mp hfile
    exact hevent
  · intro h
    exact ⟨_, List.mem_filter.mpr ⟨h, beq_self_eq_true file⟩, rfl⟩

/-- What a history adds to the session of a file is what the actions of its log add. -/
theorem filterMap_model?_actionsOn (file : FileIdentity) (history : List Event) :
    (actionsOn file history).filterMap Action.model? = modelsAdded file history := by
  unfold actionsOn modelsAdded
  rw [List.filterMap_map, List.filterMap_filter]
  congr 1
  funext e
  unfold Event.model?
  by_cases hfile : e.file = file
  · rw [if_pos hfile, if_pos (beq_iff_eq.mpr hfile)]
    rfl
  · rw [if_neg hfile, if_neg (by simpa using hfile)]

/-- **The store is one log for each file.** The session of a file after a history is what
its own log makes of the session that it had. Induction on the history: an event of the file
is the next action of the log, any other one changes nothing of the file. -/
theorem Sessions.get_perform (s : Sessions) (history : List Event) (file : FileIdentity) :
    (s.perform history).get file = (s.get file).perform (actionsOn file history) := by
  induction history generalizing s with
  | nil => rfl
  | cons e history ih =>
    by_cases hfile : e.file = file
    · subst hfile
      calc (s.perform (e :: history)).get e.file
          = ((e.on s).get e.file).perform (actionsOn e.file history) := ih (e.on s)
        _ = (e.action.on (s.get e.file)).perform (actionsOn e.file history) := by
            rw [Event.get_on_self]
        _ = (s.get e.file).perform (actionsOn e.file (e :: history)) := by
            rw [actionsOn_cons_self]
            rfl
    · calc (s.perform (e :: history)).get file
          = ((e.on s).get file).perform (actionsOn file history) := ih (e.on s)
        _ = (s.get file).perform (actionsOn file history) := by rw [Event.get_on_of_ne hfile]
        _ = (s.get file).perform (actionsOn file (e :: history)) := by
            rw [actionsOn_cons_of_ne hfile]

/-! ### The log of one file -/

namespace Session

/-- Starting anew forgets what was before. -/
theorem perform_restart (s : Session) (before after : List Action) :
    s.perform (before ++ .restart :: after) = Session.empty.perform after := by
  unfold perform
  rw [List.foldl_append, List.foldl_cons]
  rfl

/-- Until the file is started anew, its session gains the added models and is marked once
an action marks it. -/
theorem perform_of_noRestart {actions : List Action} (h : .restart ∉ actions) (s : Session) :
    (s.perform actions).models = s.models ++ actions.filterMap Action.model? ∧
    ((s.perform actions).rewritten = true ↔ s.rewritten = true ∨ .markRewritten ∈ actions) := by
  induction actions generalizing s with
  | nil => simp [perform]
  | cons a actions ih =>
    obtain ⟨hfirst, hothers⟩ : .restart ≠ a ∧ .restart ∉ actions := by simpa using h
    obtain ⟨hmodels, hmarked⟩ := ih hothers (a.on s)
    have hnext : s.perform (a :: actions) = (a.on s).perform actions := rfl
    rw [hnext, hmodels, hmarked]
    cases a with
    | restart => exact absurd rfl hfirst
    | addModel path => simp [Action.on, addModel, Action.model?]
    | markRewritten => simp [Action.on, markRewritten, Action.model?, List.filterMap_cons]

end Session

/-- What happened to a file before it was started anew does not count. -/
theorem Sessions.get_perform_restart (s : Sessions) (before after : List Event)
    (file : FileIdentity) :
    (s.perform (before ++ ⟨file, .restart⟩ :: after)).get file =
      Session.empty.perform (actionsOn file after) := by
  have hlog : actionsOn file (before ++ ⟨file, .restart⟩ :: after) =
      actionsOn file before ++ .restart :: actionsOn file after := by
    rw [actionsOn_append]
    exact congrArg _ (actionsOn_cons_self ⟨file, .restart⟩ after)
  rw [Sessions.get_perform, hlog, Session.perform_restart]

/-- **The session of a file is its log since it was last started anew.** After any history on
any store: for a file that was started anew in it, the models are those that were added since
the last time, in order and with repetitions, and the file counts as rewritten exactly if it
was marked since then; for any other file the models and the mark that it had at first come
before those of the whole history. Two histories with the same events of the file, in the same
order, leave it the same session, whatever they do to other files. -/
theorem sessions_are_logs (sessions : Sessions) (history : List Event) (file : FileIdentity) :
    (⟨file, .restart⟩ ∈ history →
      ∃ before after, history = before ++ ⟨file, .restart⟩ :: after ∧ ⟨file, .restart⟩ ∉ after ∧
        ((sessions.perform history).get file).models = modelsAdded file after ∧
        (((sessions.perform history).get file).rewritten = true ↔
          ⟨file, .markRewritten⟩ ∈ after)) ∧
    (⟨file, .restart⟩ ∉ history →
      ((sessions.perform history).get file).models =
        (sessions.get file).models ++ modelsAdded file history ∧
      (((sessions.perform history).get file).rewritten = true ↔
        (sessions.get file).rewritten = true ∨ ⟨file, .markRewritten⟩ ∈ history)) ∧
    ∀ (sessions' : Sessions) (history' : List Event),
      sessions'.get file = sessions.get file →
      history'.filter (·.file == file) = history.filter (·.file == file) →
        (sessions'.perform history').get file = (sessions.perform history).get file := by
  refine ⟨fun hrestart => ?_, fun hrestart => ?_, fun sessions' history' hfirst hevents => ?_⟩
  · -- the last time is the first one from behind
    obtain ⟨after, before, hsplit, hafter⟩ :=
      List.eq_append_cons_of_mem (List.mem_reverse.mpr hrestart)
    obtain rfl : history = before.reverse ++ ⟨file, .restart⟩ :: after.reverse := by
      rw [← List.reverse_reverse history, hsplit]
      simp
    have hlast : ⟨file, .restart⟩ ∉ after.reverse := fun h => hafter (List.mem_reverse.mp h)
    obtain ⟨hmodels, hmarked⟩ :=
      Session.perform_of_noRestart (fun h => hlast (mem_actionsOn.mp h)) Session.empty
    refine ⟨before.reverse, after.reverse, rfl, hlast, ?_, ?_⟩
    · rw [Sessions.get_perform_restart, hmodels, filterMap_model?_actionsOn]
      rfl
    · rw [Sessions.get_perform_restart, hmarked, mem_actionsOn]
      simp [Session.empty]
  · obtain ⟨hmodels, hmarked⟩ :=
      Session.perform_of_noRestart (fun h => hrestart (mem_actionsOn.mp h)) (sessions.get file)
    rw [Sessions.get_perform, hmodels, hmarked, filterMap_model?_actionsOn, mem_actionsOn]
    exact ⟨rfl, Iff.rfl⟩
  · have hlog : actionsOn file history' = actionsOn file history := by
      unfold actionsOn
      rw [hevents]
    rw [Sessions.get_perform, Sessions.get_perform, hfirst, hlog]

end HotReload
