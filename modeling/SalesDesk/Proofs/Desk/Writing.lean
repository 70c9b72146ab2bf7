import SalesDesk.Proofs.Desk.View

/-!
# Having a reply written

A generator that answers text, takes too long or fails leaves a reply in every case: its text where
the guard lets it pass, and the fallback text otherwise. Writing changes no counter and no status.
Only the errands that are run while a generator of fixed behaviour is at work can do that.
-/

namespace SalesDesk

namespace Generation

variable {completion : Except CompletionError Completion}

/-- What came back is text, unless nothing came back. -/
def IsText (completion : Except CompletionError Completion) : Prop :=
  ∀ c, completion = .ok c → ∃ text, c.content = .str text

/-- A generator answers text, takes too long or fails. -/
def Generator.AnswersText (network : Network) : Generator → Prop
  | .rehearsed behaviour _ => IsText behaviour.result
  | .service s => ∀ request, IsText (s.complete request network.completions)

theorem isText_error (e : CompletionError) : IsText (.error e) := by
  intro c h
  cases h

theorem Guard.eq_of_after {guard : Guard} {text sent : String} (h : guard.after text = .ok sent) :
    sent = text := by
  unfold Guard.after at h
  split at h
  · cases h
  · split at h
    · cases h
    · cases h
      rfl

/-- A text that passes the guard is sent. -/
theorem Draft.finish_of_passes (draft : Draft) (guard : Guard) (elapsed : Binary64) {c : Completion}
    {text : String} (htext : c.content = .str text) (hafter : guard.after text = .ok text) :
    draft.finish guard elapsed (.ok c) =
      (.ok { text, accepted := true, prompt := draft.prompt, rawResponse := some (.text text) },
        [timingNotice c elapsed]) := by
  have hjudge : guard.judge (.text text) = .ok none := by simp only [Guard.judge, hafter]
  simp only [Draft.finish, htext, Words.ofJson?, hjudge]

/-- Words that the guard rejects are replaced. -/
theorem Draft.finish_of_rejected (draft : Draft) (guard : Guard) (elapsed : Binary64)
    {c : Completion} {words : Words} {reason : Rejection}
    (hwords : Words.ofJson? c.content = some words) (hjudge : guard.judge words = .ok (some reason)) :
    draft.finish guard elapsed (.ok c) =
      (.ok (draft.fallback guard reason.code (some words)),
        [timingNotice c elapsed, rejectedNotice reason]) := by
  simp only [Draft.finish, hwords, hjudge]

theorem Guard.judge_of_after {guard : Guard} {text : String} {reason : Rejection}
    (h : guard.after text = .error reason) : guard.judge (.text text) = .ok (some reason) := by
  simp only [judge, h]

theorem Draft.exists_finish (draft : Draft) (guard : Guard) (elapsed : Binary64)
    (h : IsText completion) :
    ∃ outcome notices, draft.finish guard elapsed completion = (.ok outcome, notices) := by
  cases completion with
  | error e => cases e <;> exact ⟨_, _, rfl⟩
  | ok c =>
    obtain ⟨text, htext⟩ := h c rfl
    cases hafter : guard.after text with
    | ok sent =>
      cases Guard.eq_of_after hafter
      exact ⟨_, _, draft.finish_of_passes guard elapsed htext hafter⟩
    | error reason =>
      have hwords : Words.ofJson? c.content = some (.text text) := by rw [htext]; rfl
      exact ⟨_, _, draft.finish_of_rejected guard elapsed hwords (Guard.judge_of_after hafter)⟩

theorem Draft.generator_of_start {draft : Draft} {guard : Guard} {c : Catalogue}
    {given : Option Generator} {generator : Generator} {call : Call}
    (h : draft.start guard c given = .ok (generator, call)) : given = some generator := by
  unfold Draft.start at h
  cases hbefore : guard.before c draft.product draft.action with
  | error e => simp [hbefore] at h
  | ok _ =>
    cases given with
    | none => simp [hbefore] at h
    | some g =>
      simp only [hbefore, Except.ok.injEq, Prod.mk.injEq] at h
      rw [h.1]

end Generation

open Generation

/-- Errands that leave the desk as it is. -/
def Desk.Errands.Idle (errands : Desk.Errands) : Prop :=
  ∀ list d, (errands list d).2 = d

namespace Desk

variable {d : Desk} {v : View} {t : Timestamp} {errands : Errands}

theorem clock_notify (notices : List Log.Notice) (d : Desk) :
    ((notify notices).run d).2.clock = d.clock := by
  cases hclock : d.clock.toUtc with
  | ok t => rw [run_notify hclock]; rfl
  | error e =>
    cases notices with
    | nil => rfl
    | cons n rest => rw [run_notify_error hclock]

/-- Judging what came back of a call. -/
def judge (guard : Guard) (draft : Draft) (generator : Generator) (call : Call)
    (completion : Except CompletionError Completion) : Act (Outcome × Option Call) := do
  let (outcome, notices) := draft.finish guard generationMs completion
  notify notices
  let outcome ← Act.ofExcept (fun e => .notText e.content) outcome
  return (outcome, if generator.isService then none else some call)

theorem generate_eq (errands : Errands) (guard : Guard) (draft : Draft) :
    generate errands guard draft = (do
      match ← Act.look fun d => draft.start guard d.catalogue d.generator with
      | .error (outcome, notices) =>
        notify notices
        return (outcome, none)
      | .ok (generator, call) =>
        ask errands generator call >>= judge guard draft generator call) :=
  rfl

variable {guard : Guard} {draft : Draft} {generator : Generator} {call : Call}
  {completion : Except CompletionError Completion}

theorem clock_judge (d : Desk) :
    ((judge guard draft generator call completion).run d).2.clock = d.clock := by
  have hclock := clock_notify (draft.finish guard generationMs completion).2 d
  unfold judge
  cases hnotify : (notify (draft.finish guard generationMs completion).2).run d with
  | mk result later =>
    rw [hnotify] at hclock
    cases result with
    | error e => rw [Act.run_bind_error hnotify]; exact hclock
    | ok _ =>
      rw [Act.run_bind_ok hnotify]
      cases (draft.finish guard generationMs completion).1 <;> exact hclock

/-- Judging ends as the second step of the draft does. -/
theorem run_judge (hclock : d.clock.toUtc = .ok t) :
    (judge guard draft generator call completion).run d =
      (((draft.finish guard generationMs completion).1.mapError fun e => .notText e.content).map
          fun o => (o, if generator.isService then none else some call),
        d.logged t (draft.finish guard generationMs completion).2) := by
  unfold judge
  rw [Act.run_bind_ok (run_notify hclock _)]
  cases (draft.finish guard generationMs completion).1 with
  | ok o => rfl
  | error e => rfl

private theorem yields_judge (hv : d.view = v) (hclock : v.clock.toUtc = .ok t)
    (htext : IsText completion) :
    (judge guard draft generator call completion).Yields d fun _ later => later.view = v := by
  obtain ⟨outcome, notices, hfinish⟩ := draft.exists_finish guard generationMs htext
  subst hv
  have hrun : (judge guard draft generator call completion).run d = _ := run_judge hclock
  rw [hfinish] at hrun
  exact ⟨_, d.logged t notices, hrun, rfl⟩

/-- A generator of fixed behaviour gives something back, and a text where it has one. -/
theorem exists_ask_rehearsed (errands : Errands) (behaviour : Behaviour) (list : List Json)
    (call : Call) (d : Desk) : ∃ completion,
      (ask errands (.rehearsed behaviour list) call).run d = (.ok completion, (errands list d).2) ∧
      (IsText behaviour.result → IsText completion) := by
  cases herrands : errands list d with
  | mk stopped after =>
    cases stopped with
    | none => exact ⟨behaviour.result, by simp [ask, Act.run, herrands], id⟩
    | some message =>
      exact ⟨.error (.transport message), by simp [ask, Act.run, herrands], fun _ => isText_error _⟩

private theorem yields_ask_service (hv : d.view = v) (hclock : v.clock.toUtc = .ok t) (s : Service)
    (call : Call) (htext : ∀ request, IsText (s.complete request v.network.completions)) :
    (ask errands (.service s) call).Yields d fun completion later =>
      IsText completion ∧ ∃ posts, later.view = { v with posts := v.posts ++ posts } := by
  unfold ask consult
  refine (yields_notify hv hclock _).bind fun _ later h => ?_
  refine (yields_send h _).bind fun _ last hlast => ?_
  have hnetwork : last.network = v.network := congrArg View.network hlast
  refine Act.yields_look _ ⟨?_, _, hlast⟩
  rw [hnetwork]
  exact htext _

/-- A reply is generated. Where errands are idle, requests may have been sent, and nothing else has
changed. The clock matters at the end as well, since errands can have set it. -/
theorem yields_generate (hv : d.view = v) (hclock : v.clock.toUtc = .ok t)
    (htext : ∀ g, d.generator = some g → g.AnswersText v.network)
    (hlater : ∃ later, ((generate errands guard draft).run d).2.clock.toUtc = .ok later) :
    (generate errands guard draft).Yields d fun _ later => errands.Idle →
      ∃ posts, later.view = { v with posts := v.posts ++ posts } := by
  have hsame : v = { v with posts := v.posts ++ [] } := by simp
  have hlook := Act.run_look (fun d => draft.start guard d.catalogue d.generator) d
  rw [generate_eq] at hlater ⊢
  rw [Act.run_bind_ok hlook] at hlater
  refine Act.Yields.bind (p := fun start later =>
    start = draft.start guard d.catalogue d.generator ∧ later = d)
    (Act.yields_look _ ⟨rfl, rfl⟩) fun start later h => ?_
  obtain ⟨rfl, rfl⟩ := h
  cases hstart : draft.start guard later.catalogue later.generator with
  | error fallback =>
    exact (yields_notify hv hclock _).bind fun _ _ h => Act.yields_pure fun _ => ⟨[], h.trans hsame⟩
  | ok started =>
    obtain ⟨generator, call⟩ := started
    have hanswers := htext generator (Draft.generator_of_start hstart)
    cases generator with
    | service s =>
      refine (yields_ask_service hv hclock s call hanswers).bind fun completion last h => ?_
      obtain ⟨hcompletion, posts, hview⟩ := h
      exact (yields_judge hview hclock hcompletion).mono fun _ _ h _ => ⟨posts, h⟩
    | rehearsed behaviour list =>
      obtain ⟨completion, hask, htextual⟩ :=
        exists_ask_rehearsed errands behaviour list call later
      -- Judging leaves the clock, so the clock at the end is the one that the errands have left.
      simp only [hstart, Act.run_bind_ok hask, clock_judge] at hlater
      obtain ⟨last, hlast⟩ := hlater
      have hjudge : (judge guard draft (.rehearsed behaviour list) call completion).Yields
          (errands list later).2 fun _ end_ => end_.view = (errands list later).2.view :=
        yields_judge rfl hlast (htextual hanswers)
      obtain ⟨a, final, hrun, hview⟩ := hjudge
      refine ⟨a, final, (Act.run_bind_ok hask).trans hrun, fun hidle => ⟨[], ?_⟩⟩
      rw [hview, hidle, hv, ← hsame]

theorem yields_write (hv : d.view = v) (hclock : v.clock.toUtc = .ok t)
    (htext : ∀ g, d.generator = some g → g.AnswersText v.network) {r : Incoming} {action : Action}
    (hlater : ∃ later, ((write errands r action).run d).2.clock.toUtc = .ok later) :
    (write errands r action).Yields d fun _ later => errands.Idle →
      ∃ posts, later.view = { v with posts := v.posts ++ posts } := by
  have hrun : (write errands r action).run d = (generate errands d.settings.guard
      { product := r.product, action := action.name, prompt := r.promptText
        timeout := d.settings.generationTimeout }).run d := rfl
  rw [hrun] at hlater
  obtain ⟨a, later, hgenerate, hpost⟩ := yields_generate hv hclock htext hlater
  exact ⟨a, later, hrun.trans hgenerate, hpost⟩

end Desk

end SalesDesk
