import SalesDesk.Proofs.Desk.Consulting
import SalesDesk.Proofs.Desk.Writing

/-!
# What a guarded generation ends in

Whatever a generator does, a generation ends in an outcome whose text the guard lets pass or is the
fallback, as long as what comes back is text, is too long or nothing comes back. Other values in the
place of the text are not caught, for the guard looks at a text outside of what is watched. One without
a length is a fault, and so is a list or an object while there are terms to look for in it. Where there
are none, a list or an object is sent as if it were a text.
-/

namespace SalesDesk

open Generation

namespace Generation

variable {guard : Guard} {completion : Except CompletionError Completion} {c : Completion}

/-- The text of an outcome passes the guard or is the fallback. -/
def Outcome.Guarded (o : Outcome) (guard : Guard) : Prop :=
  (∃ text, o.text = .text text ∧ guard.after text = .ok text) ∨ o.text = .text guard.fallback

/-- A content that has no length: it is neither a text nor made of parts. -/
def IsScalar : Json → Prop
  | .str _ => False
  | .arr _ => False
  | .obj _ => False
  | _ => True

/-- How many parts a list or an object has. -/
def parts? : Json → Option Nat
  | .arr items => some items.length
  | .obj members => some members.length
  | _ => none

/-- A list or an object that has no more parts than a text may have characters. -/
def Guard.HoldsParts (guard : Guard) (content : Json) : Prop :=
  ∃ n, parts? content = some n ∧ (n : Int) ≤ guard.maxLength

/-- A content that the guard can judge: a text, or one that is too long. -/
def Guard.Settles (guard : Guard) (content : Json) : Prop :=
  ¬ IsScalar content ∧ ¬ guard.HoldsParts content

theorem Guard.settles_of_isText (h : IsText (.ok c)) : guard.Settles c.content := by
  obtain ⟨text, htext⟩ := h c rfl
  rw [htext]
  exact ⟨nofun, nofun⟩

/-- A content is a text, or it is made of parts, or it has no length. -/
theorem content_cases (content : Json) : (∃ text, content = .str text) ∨
    (∃ words, Words.ofJson? content = some words ∧ words.text? = none ∧
      parts? content = some words.length) ∨ IsScalar content := by
  cases content with
  | str text => exact Or.inl ⟨text, rfl⟩
  | arr items => exact Or.inr (Or.inl ⟨.list items, rfl, rfl, rfl⟩)
  | obj members => exact Or.inr (Or.inl ⟨.object members, rfl, rfl, rfl⟩)
  | _ => exact Or.inr (Or.inr trivial)

theorem words_of_holdsParts {content : Json} (h : guard.HoldsParts content) :
    ∃ words, Words.ofJson? content = some words ∧ words.text? = none ∧ words.toJson = content ∧
      ¬ guard.maxLength < words.length := by
  obtain ⟨n, hparts, hshort⟩ := h
  cases content with
  | arr items =>
    cases hparts
    exact ⟨.list items, rfl, rfl, rfl, Int.not_lt.mpr hshort⟩
  | obj members =>
    cases hparts
    exact ⟨.object members, rfl, rfl, rfl, Int.not_lt.mpr hshort⟩
  | _ => cases hparts

/-- Words that are no text are judged by their length alone, unless there is a term to look for. -/
theorem Guard.judge_of_no_text (guard : Guard) {words : Words} (h : words.text? = none) :
    guard.judge words =
      if guard.maxLength < words.length then .ok (some (.tooLong words.length guard.maxLength))
      else if guard.forbidden.any (· ≠ "") then .error { content := words.toJson }
      else .ok none := by
  cases words with
  | text s => cases h
  | _ => rfl

/-- A content that can be judged is sent as it is, or replaced. -/
theorem Draft.guarded_finish (draft : Draft) (elapsed : Binary64)
    (h : ∀ c, completion = .ok c → guard.Settles c.content) :
    ∃ outcome notices, draft.finish guard elapsed completion = (.ok outcome, notices) ∧
      outcome.Guarded guard := by
  cases completion with
  | error e => cases e <;> exact ⟨_, _, rfl, Or.inr rfl⟩
  | ok c =>
    obtain ⟨hscalar, hparts⟩ := h c rfl
    rcases content_cases c.content with ⟨text, htext⟩ | ⟨words, hwords, hnone, hlength⟩ | hnot
    · cases hafter : guard.after text with
      | ok sent =>
        cases Guard.eq_of_after hafter
        exact ⟨_, _, draft.finish_of_passes guard elapsed htext hafter, Or.inl ⟨text, rfl, hafter⟩⟩
      | error reason =>
        have hwords : Words.ofJson? c.content = some (.text text) := by rw [htext]; rfl
        exact ⟨_, _, draft.finish_of_rejected guard elapsed hwords (Guard.judge_of_after hafter),
          Or.inr rfl⟩
    · have hlong : guard.maxLength < words.length := by
        by_contra hshort
        exact hparts ⟨_, hlength, Int.not_lt.mp hshort⟩
      have hjudge := guard.judge_of_no_text hnone
      rw [if_pos hlong] at hjudge
      exact ⟨_, _, draft.finish_of_rejected guard elapsed hwords hjudge, Or.inr rfl⟩
    · exact absurd hnot hscalar

theorem Draft.guarded_start {draft : Draft} {c : Catalogue} {given : Option Generator}
    {outcome : Outcome} {notices : List Log.Notice}
    (h : draft.start guard c given = .error (outcome, notices)) : outcome.Guarded guard := by
  unfold Draft.start at h
  cases hbefore : guard.before c draft.product draft.action with
  | error rejection =>
    simp only [hbefore] at h
    cases h
    exact Or.inr rfl
  | ok _ =>
    cases given with
    | none =>
      simp only [hbefore] at h
      cases h
      exact Or.inr rfl
    | some generator => simp [hbefore] at h

theorem Draft.finish_of_isScalar (draft : Draft) (elapsed : Binary64) (h : IsScalar c.content) :
    draft.finish guard elapsed (.ok c) = (.error ⟨c.content⟩, [timingNotice c elapsed]) := by
  have hnone : Words.ofJson? c.content = none := by
    cases hcontent : c.content <;> first | rfl | simp [hcontent, IsScalar] at h
  simp only [Draft.finish, hnone]

/-- Where there is a term to look for, parts are a fault. -/
theorem Draft.finish_of_parts (draft : Draft) (elapsed : Binary64)
    (hparts : guard.HoldsParts c.content) (hterm : ∃ term ∈ guard.forbidden, term ≠ "") :
    draft.finish guard elapsed (.ok c) = (.error ⟨c.content⟩, [timingNotice c elapsed]) := by
  obtain ⟨words, hwords, hnone, hjson, hshort⟩ := words_of_holdsParts hparts
  have hjudge := guard.judge_of_no_text hnone
  rw [if_neg hshort, if_pos (by simpa using hterm), hjson] at hjudge
  simp only [Draft.finish, hwords, hjudge]

/-- Where there is no term to look for, parts are sent. -/
theorem Draft.finish_of_parts_sent (draft : Draft) (elapsed : Binary64)
    (hparts : guard.HoldsParts c.content) (hterms : ∀ term ∈ guard.forbidden, term = "") :
    ∃ words, words.text? = none ∧ words.toJson = c.content ∧
      draft.finish guard elapsed (.ok c) =
        (.ok { text := words, accepted := true, prompt := draft.prompt, rawResponse := some words },
          [timingNotice c elapsed]) := by
  obtain ⟨words, hwords, hnone, hjson, hshort⟩ := words_of_holdsParts hparts
  have hjudge := guard.judge_of_no_text hnone
  rw [if_neg hshort, if_neg (by simpa using hterms)] at hjudge
  exact ⟨words, hnone, hjson, by simp only [Draft.finish, hwords, hjudge]⟩

end Generation

namespace Desk

variable {d : Desk} {t : Timestamp} {errands : Errands} {guard : Guard} {draft : Draft}

/-- What comes back to a draft; nothing where no generator is asked. -/
def comesBack (d : Desk) (errands : Errands) (guard : Guard) (draft : Draft) :
    Option (Except CompletionError Completion) :=
  match draft.start guard d.catalogue d.generator with
  | .error _ => none
  | .ok (generator, call) => ((ask errands generator call).run d).1.toOption

/-- A generator that is asked gives something back in any case. -/
theorem exists_ask (hclock : d.clock.toUtc = .ok t) (errands : Errands) (generator : Generator)
    (call : Call) :
    ∃ completion later, (ask errands generator call).run d = (.ok completion, later) := by
  cases generator with
  | service s => exact ⟨_, _, run_consult hclock s _⟩
  | rehearsed behaviour list =>
    obtain ⟨completion, hrun, -⟩ := exists_ask_rehearsed errands behaviour list call d
    exact ⟨completion, _, hrun⟩

theorem isText_of_comesBack (hclock : d.clock.toUtc = .ok t)
    (h : ∀ g, d.generator = some g → g.AnswersText d.network)
    {completion : Except CompletionError Completion}
    (hback : d.comesBack errands guard draft = some completion) : IsText completion := by
  cases hstart : draft.start guard d.catalogue d.generator with
  | error fallback => simp [comesBack, hstart] at hback
  | ok started =>
    obtain ⟨generator, call⟩ := started
    have hanswers := h generator (Draft.generator_of_start hstart)
    simp only [comesBack, hstart] at hback
    cases generator with
    | service s =>
      simp only [ask, run_consult hclock] at hback
      cases hback
      exact hanswers _
    | rehearsed behaviour list =>
      obtain ⟨given, hrun, htext⟩ := exists_ask_rehearsed errands behaviour list call d
      rw [hrun] at hback
      cases hback
      exact htext hanswers

/-- A generation ends in a guarded outcome unless something comes back that the guard cannot judge. A
value that has no length is a fault, and so is a list or an object of few parts where there is a term
to look for; where there is none, it is sent. -/
theorem generate_guarded (hclock : ∃ t, d.clock.toUtc = .ok t)
    (hlater : ∃ t, ((generate errands guard draft).run d).2.clock.toUtc = .ok t) :
    ((∀ c, d.comesBack errands guard draft = some (.ok c) → guard.Settles c.content) →
      ∃ o call after, (generate errands guard draft).run d = (.ok (o, call), after) ∧
        o.Guarded guard) ∧
    (∀ c, d.comesBack errands guard draft = some (.ok c) →
      IsScalar c.content ∨ guard.HoldsParts c.content ∧ (∃ term ∈ guard.forbidden, term ≠ "") →
      ∃ after, (generate errands guard draft).run d = (.error (.notText c.content), after)) ∧
    (∀ c, d.comesBack errands guard draft = some (.ok c) →
      guard.HoldsParts c.content ∧ (∀ term ∈ guard.forbidden, term = "") →
      ∃ o call after, (generate errands guard draft).run d = (.ok (o, call), after) ∧
        o.accepted = true ∧ o.text.text? = none ∧ o.text.toJson = c.content) := by
  obtain ⟨t, hclock⟩ := hclock
  have hlook := Act.run_look (fun d => draft.start guard d.catalogue d.generator) d
  rw [generate_eq] at hlater ⊢
  rw [Act.run_bind_ok hlook] at hlater ⊢
  cases hstart : draft.start guard d.catalogue d.generator with
  | error fallback =>
    have hnone : d.comesBack errands guard draft = none := by
      simp only [comesBack, hstart]
    refine ⟨fun _ => ?_, fun c hc => ?_, fun c hc => ?_⟩
    · exact ⟨fallback.1, none, _, Act.run_bind_ok (run_notify hclock _),
        Draft.guarded_start hstart⟩
    · simp [hnone] at hc
    · simp [hnone] at hc
  | ok started =>
    obtain ⟨generator, call⟩ := started
    obtain ⟨completion, later, hask⟩ := exists_ask hclock errands generator call
    have hback : d.comesBack errands guard draft = some completion := by
      simp [comesBack, hstart, hask, Except.toOption]
    simp only [hstart, Act.run_bind_ok hask] at hlater ⊢
    -- Judging leaves the clock, so the clock at the end is the one that the errands have left.
    rw [clock_judge] at hlater
    obtain ⟨last, hlast⟩ := hlater
    rw [run_judge hlast, hback]
    refine ⟨fun hsettled => ?_, ?_, ?_⟩
    · obtain ⟨o, notices, hfinish, hguarded⟩ :=
        draft.guarded_finish generationMs fun c (hc : completion = .ok c) =>
          hsettled c (congrArg some hc)
      rw [hfinish]
      exact ⟨o, _, _, rfl, hguarded⟩
    · rintro c ⟨⟩ (hscalar | ⟨hparts, hterm⟩)
      · rw [draft.finish_of_isScalar generationMs hscalar]
        exact ⟨_, rfl⟩
      · rw [draft.finish_of_parts generationMs hparts hterm]
        exact ⟨_, rfl⟩
    · rintro c ⟨⟩ ⟨hparts, hterms⟩
      obtain ⟨words, hnone, hjson, hfinish⟩ :=
        draft.finish_of_parts_sent generationMs hparts hterms
      rw [hfinish]
      exact ⟨_, _, _, rfl, rfl, hnone, hjson⟩

/-- A text that says too much ends in the fallback. -/
theorem generate_guarded_robot :
    let noon : Timestamp := ⟨738000 * Timestamp.day + 43200 * Timestamp.second, some 0⟩
    let generator : Generator := .rehearsed (.reply (.str "Je suis un robot") (.str "stub"))
    let d : Desk := { Desk.new {} (some generator) default noon with
      catalogue := Catalogue.load [{ id := "soap", name := "Savon" }] }
    let draft : Draft := { product := some "soap", action := "RespondText", prompt := some "Bonjour"
                           timeout := defaultTimeout }
    let errands : Errands := fun _ d => (none, d)
    d.clock.toUtc = .ok noon ∧ ((generate errands {} draft).run d).2.clock = noon ∧
    (∀ c, d.comesBack errands {} draft = some (.ok c) → Guard.Settles {} c.content) ∧
    ∃ o call after, (generate errands {} draft).run d = (.ok (o, call), after) ∧
      o.Guarded {} := by
  intro noon generator d draft errands
  have hclock : d.clock.toUtc = .ok noon := rfl
  have hlater : ((generate errands {} draft).run d).2.clock = noon := by decide +kernel
  have hanswers : ∀ g, d.generator = some g → g.AnswersText d.network := by
    intro g hg
    cases hg
    intro c hc
    cases hc
    exact ⟨_, rfl⟩
  have hsettled : ∀ c, d.comesBack errands {} draft = some (.ok c) →
      Guard.Settles {} c.content := fun _ hback =>
    Guard.settles_of_isText (isText_of_comesBack hclock hanswers hback)
  refine ⟨hclock, hlater, hsettled, ?_⟩
  exact (generate_guarded ⟨noon, hclock⟩ ⟨noon, by rw [hlater]; exact hclock⟩).1 hsettled

/-- A service that answers with a number in the place of the text makes a generation fail. -/
theorem generate_fails_number :
    let noon : Timestamp := ⟨738000 * Timestamp.day + 43200 * Timestamp.second, some 0⟩
    let body : Json := .obj [("choices", .arr [.obj [("message", .obj [("content", .int 5)])]])]
    let d : Desk := { Desk.new {} (some (.service { apiKey := "key" })) default noon with
      catalogue := Catalogue.load [{ id := "soap", name := "Savon" }]
      network := { completions := .status 200 body } }
    let draft : Draft := { product := some "soap", action := "RespondText", prompt := some "Bonjour"
                           timeout := defaultTimeout }
    ((generate (fun _ d => (none, d)) {} draft).run d).1.toOption.map (·.1) = none := by
  decide +kernel

end Desk

end SalesDesk
