import SalesDesk.Proofs.Desk.Writing

/-!
# Runs side by side

Two runs of the desk are compared act by act. From desks in a relation, two acts in parallel end in
the same fault or in results that match, and leave desks in the relation. Most acts read and change
only what the desk keeps in memory, so any relation of desks with one memory is respected by them,
whatever the two desks do not share. Where two desks have one set of rules and one generator as well,
their cycles go the same way up to the conclusion.
-/

namespace SalesDesk

open Quota

namespace Act

variable {α β γ δ : Type} {R : Desk → Desk → Prop} {p : α → β → Prop} {q : γ → δ → Prop}
  {act : Act α} {other : Act β} {next : α → Act γ} {otherNext : β → Act δ}

/-- Two results are the same fault, or values that match. -/
def Matched (p : α → β → Prop) : Except Fault α → Except Fault β → Prop
  | .ok a, .ok b => p a b
  | .error e, .error f => e = f
  | _, _ => False

theorem Matched.eq {first second : Except Fault α} (h : Matched Eq first second) :
    first = second := by
  cases first with
  | error e =>
    cases second with
    | error f => exact congrArg Except.error h
    | ok b => exact h.elim
  | ok a =>
    cases second with
    | error f => exact h.elim
    | ok b => exact congrArg Except.ok h

def Parallel (R : Desk → Desk → Prop) (p : α → β → Prop) (act : Act α) (other : Act β) : Prop :=
  ∀ d e, R d e → Matched p (act.run d).1 (other.run e).1 ∧ R (act.run d).2 (other.run e).2

/-- An act has one result on desks in a relation, and leaves them in it. -/
def Respects (R : Desk → Desk → Prop) (act : Act α) : Prop := Parallel R Eq act act

theorem parallel_pure {a : α} {b : β} (h : p a b) : Parallel R p (pure a) (pure b) :=
  fun _ _ hR => ⟨h, hR⟩

theorem Parallel.bind (h : Parallel R p act other)
    (hnext : ∀ a b, p a b → Parallel R q (next a) (otherNext b)) :
    Parallel R q (act >>= next) (other >>= otherNext) := by
  intro d e hR
  obtain ⟨hmatched, hlater⟩ := h d e hR
  rcases hfirst : act.run d with ⟨x | a, later⟩
  · rcases hsecond : other.run e with ⟨y | b, last⟩
    · rw [hfirst, hsecond] at hmatched hlater
      rw [run_bind_error hfirst, run_bind_error hsecond]
      exact ⟨hmatched, hlater⟩
    · rw [hfirst, hsecond] at hmatched
      exact hmatched.elim
  · rcases hsecond : other.run e with ⟨y | b, last⟩
    · rw [hfirst, hsecond] at hmatched
      exact hmatched.elim
    · rw [hfirst, hsecond] at hmatched hlater
      rw [run_bind_ok hfirst, run_bind_ok hsecond]
      exact hnext a b hmatched later last hlater

theorem Parallel.mono {weaker : α → β → Prop} (h : Parallel R p act other)
    (himp : ∀ a b, p a b → weaker a b) : Parallel R weaker act other := by
  intro d e hR
  obtain ⟨hmatched, hlater⟩ := h d e hR
  refine ⟨?_, hlater⟩
  generalize (act.run d).1 = first at hmatched ⊢
  generalize (other.run e).1 = second at hmatched ⊢
  cases first with
  | error x =>
    cases second with
    | error y => exact hmatched
    | ok b => exact hmatched.elim
  | ok a =>
    cases second with
    | error y => exact hmatched.elim
    | ok b => exact himp a b hmatched

theorem Parallel.map {f : α → γ} {g : β → δ} (h : Parallel R p act other)
    (hmap : ∀ a b, p a b → q (f a) (g b)) : Parallel R q (f <$> act) (g <$> other) :=
  h.bind fun a b hab => parallel_pure (hmap a b hab)

theorem parallel_look {f : Desk → α} {g : Desk → β} (h : ∀ d e, R d e → p (f d) (g e)) :
    Parallel R p (look f) (look g) :=
  fun d e hR => ⟨h d e hR, hR⟩

theorem respects_pure (a : α) : (pure a : Act α).Respects R := parallel_pure rfl

theorem respects_fail (e : Fault) : (fail e : Act α).Respects R := fun _ _ hR => ⟨rfl, hR⟩

theorem respects_ofExcept {ε : Type} (fault : ε → Fault) (r : Except ε α) :
    (ofExcept fault r).Respects R := by
  cases r with
  | ok a => exact respects_pure a
  | error e => exact respects_fail (fault e)

theorem Respects.bind (h : act.Respects R) (hnext : ∀ a, (next a).Respects R) :
    (act >>= next).Respects R :=
  Parallel.bind h fun a _ hab => hab ▸ hnext a

theorem Respects.map (h : act.Respects R) (f : α → γ) : (f <$> act).Respects R :=
  Parallel.map h fun _ _ hab => congrArg f hab

/-! ### What two runs come to -/

variable {W : Desk → Desk → Prop} {d e : Desk} {mid : α → Desk → β → Desk → Prop}
  {post : γ → Desk → δ → Desk → Prop}

/-- Two acts have results, which satisfy a condition with the desks afterwards, or they end in one
fault and leave the desks in a relation. -/
inductive Met (W : Desk → Desk → Prop) (post : α → Desk → β → Desk → Prop) :
    Except Fault α × Desk → Except Fault β × Desk → Prop
  | done {a later b last} (h : post a later b last) : Met W post (.ok a, later) (.ok b, last)
  | fault {x later last} (h : W later last) : Met W post (.error x, later) (.error x, last)

/-- Two acts run on two desks, one on each. -/
def Abreast (W : Desk → Desk → Prop) (act : Act α) (other : Act β) (d e : Desk)
    (post : α → Desk → β → Desk → Prop) : Prop :=
  Met W post (act.run d) (other.run e)

theorem abreast_pure {a : γ} {b : δ} (h : post a d b e) : Abreast W (pure a) (pure b) d e post :=
  .done h

theorem Abreast.bind (h : Abreast W act other d e mid)
    (hnext : ∀ a later b last, mid a later b last →
      Abreast W (next a) (otherNext b) later last post) :
    Abreast W (act >>= next) (other >>= otherNext) d e post := by
  unfold Abreast at h ⊢
  generalize hfirst : act.run d = ended at h
  generalize hsecond : other.run e = otherEnded at h
  cases h with
  | done hmid =>
    rw [run_bind_ok hfirst, run_bind_ok hsecond]
    exact hnext _ _ _ _ hmid
  | fault hweak =>
    rw [run_bind_error hfirst, run_bind_error hsecond]
    exact .fault hweak

/-- Acts in parallel run abreast. -/
theorem Parallel.abreast (h : Parallel R p act other) (hweak : ∀ d e, R d e → W d e) (hR : R d e) :
    Abreast W act other d e fun a later b last => p a b ∧ R later last := by
  obtain ⟨hmatched, hlater⟩ := h d e hR
  unfold Abreast
  rcases hfirst : act.run d with ⟨x | a, later⟩
  · rcases hsecond : other.run e with ⟨y | b, last⟩
    · rw [hfirst, hsecond] at hmatched hlater
      cases hmatched
      exact .fault (hweak _ _ hlater)
    · rw [hfirst, hsecond] at hmatched
      exact hmatched.elim
  · rcases hsecond : other.run e with ⟨y | b, last⟩
    · rw [hfirst, hsecond] at hmatched
      exact hmatched.elim
    · rw [hfirst, hsecond] at hmatched hlater
      exact .done ⟨hmatched, hlater⟩

theorem Respects.after {otherNext : α → Act δ} (h : act.Respects R)
    (hweak : ∀ d e, R d e → W d e) (hR : R d e)
    (hnext : ∀ a later last, R later last → Abreast W (next a) (otherNext a) later last post) :
    Abreast W (act >>= next) (act >>= otherNext) d e post := by
  refine (Parallel.abreast h hweak hR).bind fun a later b last hlater => ?_
  obtain ⟨rfl, hlater⟩ := hlater
  exact hnext a later last hlater

theorem parallel_of_abreast
    (h : ∀ d e, R d e → Abreast R act other d e fun a later b last => p a b ∧ R later last) :
    Parallel R p act other := by
  intro d e hR
  have hmet := h d e hR
  unfold Abreast at hmet
  generalize act.run d = first at hmet ⊢
  generalize other.run e = second at hmet ⊢
  cases hmet with
  | done hdone => exact hdone
  | fault hlater => exact ⟨rfl, hlater⟩

end Act

/-! ## Acts on what is in memory -/

/-- What most acts read and change: accounts, statuses, the numbers to be drawn, and the number of
the last audit record. -/
structure Memory where
  ledger : Ledger
  registry : Conversation.Registry
  draws : Draws
  lastId : Int

namespace Desk

def memory (d : Desk) : Memory :=
  { ledger := d.ledger, registry := d.registry, draws := d.draws, lastId := d.lastId }

def remembering (d : Desk) (m : Memory) : Desk :=
  { d with ledger := m.ledger, registry := m.registry, draws := m.draws, lastId := m.lastId }

/-- Desks in a relation share their memory and a readable clock, and stay in the relation whatever
is remembered by both and whatever is logged by each. -/
structure Likeness (R : Desk → Desk → Prop) : Prop where
  clock : ∀ {d e}, R d e → e.clock = d.clock
  readable : ∀ {d e}, R d e → ∃ t, d.clock.toUtc = .ok t
  memory : ∀ {d e}, R d e → e.memory = d.memory
  remembering : ∀ {d e}, R d e → ∀ m, R (d.remembering m) (e.remembering m)
  logged : ∀ {d e}, R d e → ∀ t first second, R (d.logged t first) (e.logged t second)

namespace Likeness

variable {α : Type} {R : Desk → Desk → Prop} {tenant id : String} (hR : Likeness R)

include hR

theorem respects_of_memory {act : Act α} (f : Timestamp → Memory → Except Fault α × Memory)
    (h : ∀ d, act.run d = ((f d.clock d.memory).1, d.remembering (f d.clock d.memory).2)) :
    act.Respects R := by
  intro d e hrelated
  rw [h d, h e, hR.clock hrelated, hR.memory hrelated]
  refine ⟨?_, hR.remembering hrelated _⟩
  cases (f d.clock d.memory).1 <;> rfl

theorem respects_now : now.Respects R := by
  intro d e hrelated
  obtain ⟨t, hclock⟩ := hR.readable hrelated
  have hother : e.clock.toUtc = .ok t := by rw [hR.clock hrelated, hclock]
  rw [run_now hclock, run_now hother]
  exact ⟨rfl, hrelated⟩

/-- What is written to the log does not have to agree. -/
theorem parallel_notify (first second : List Log.Notice) :
    Act.Parallel R Eq (notify first) (notify second) := by
  intro d e hrelated
  obtain ⟨t, hclock⟩ := hR.readable hrelated
  have hother : e.clock.toUtc = .ok t := by rw [hR.clock hrelated, hclock]
  rw [run_notify hclock, run_notify hother]
  exact ⟨rfl, hR.logged hrelated t first second⟩

theorem respects_notify (notices : List Log.Notice) : (notify notices).Respects R :=
  hR.parallel_notify notices notices

theorem respects_drawBase : drawBase.Respects R :=
  hR.respects_of_memory
    (fun _ m => (.ok (m.draws.next baseDelayMin baseDelayMax), { m with draws := m.draws.advance }))
    fun _ => rfl

/-! ### Accounts -/

theorem respects_onAccount (tenant : String) (f : Account → α × Account) :
    (onAccount tenant f).Respects R := by
  refine hR.respects_of_memory (fun clock m =>
    let served := m.ledger.act tenant clock.toUtc f
    ((served.map Prod.fst).mapError Fault.time,
      { m with ledger := served.toOption.elim m.ledger Prod.snd })) fun d => ?_
  generalize hact : d.memory.ledger.act tenant d.clock.toUtc f = served
  have hledger : d.ledger.act tenant d.clock.toUtc f = served := hact
  cases served with
  | ok answered =>
    simp only [Act.run, onAccount, hledger]
    rfl
  | error e =>
    simp only [Act.run, onAccount, hledger]
    rfl

theorem respects_account (tenant : String) (f : Account → α) : (account tenant f).Respects R :=
  hR.respects_onAccount tenant _

theorem respects_pause (tenant : String) : (pause tenant).Respects R := by
  unfold pause
  apply (hR.respects_account tenant _).bind
  intro _
  apply hR.respects_drawBase.bind
  intro base
  apply (hR.respects_account tenant _).bind
  intro r
  exact Act.respects_ofExcept _ r

theorem respects_trySend (tenant : String) (x : Send) : (trySend tenant x).Respects R := by
  have hgrant (base : Int) : (do
      let admission ← Act.ofExcept .quota
        (← onAccount tenant fun a => a.grant (x.can a) (x.count a.snapshot) base)
      if admission.allowed then return admission
      notify [x.refused tenant admission.before]
      return admission : Act Admission).Respects R := by
    apply (hR.respects_onAccount tenant _).bind
    intro r
    apply (Act.respects_ofExcept _ r).bind
    intro admission
    cases admission.allowed with
    | true => exact Act.respects_pure _
    | false => exact (hR.respects_notify _).bind fun _ => Act.respects_pure _
  rw [trySend_eq]
  apply (hR.respects_account tenant _).bind
  intro can
  cases can with
  | true => exact hR.respects_drawBase.bind hgrant
  | false => exact (Act.respects_pure 0).bind hgrant

theorem respects_runReset (tenant : String) (r : Reset) : (runReset tenant r).Respects R := by
  rw [runReset_eq]
  apply (hR.respects_onAccount tenant _).bind
  intro _
  apply hR.respects_now.bind
  intro time
  apply (hR.respects_onAccount tenant _).bind
  intro usage
  exact (hR.respects_notify _).bind fun _ => Act.respects_pure _

theorem respects_needsResets (tenant : String) : (needsResets tenant).Respects R := by
  unfold needsResets
  apply hR.respects_now.bind
  intro time
  apply (hR.respects_account tenant _).bind
  intro r
  exact Act.respects_ofExcept _ r

theorem respects_applyDue (tenant : String) : (applyDue tenant).Respects R := by
  unfold applyDue
  apply hR.respects_now.bind
  intro time
  apply (hR.respects_onAccount tenant _).bind
  intro r
  apply (Act.respects_ofExcept _ r).bind
  intro applied
  by_cases hnone : applied = []
  · rw [if_pos hnone]
    exact Act.respects_pure _
  · rw [if_neg hnone]
    exact (hR.respects_notify _).bind fun _ => Act.respects_pure _

theorem respects_runDue (tenants : List String) : (runDue tenants).Respects R := by
  induction tenants with
  | nil => exact Act.respects_pure _
  | cons tenant rest ih =>
    unfold runDue
    apply (hR.respects_applyDue tenant).bind
    intro applied
    exact ih.bind fun _ => Act.respects_pure _

/-! ### Conversations -/

theorem respects_status (id : String) : (status id).Respects R :=
  hR.respects_of_memory
    (fun _ m => (.ok (m.registry.status id), { m with registry := m.registry.touch id }))
    fun _ => rfl

/-- Changing the status of a conversation. -/
theorem respects_update (id : String) (f : Conversation.Status → Conversation.Status) :
    (Act.change fun d => { d with registry := d.registry.update id f }).Respects R :=
  hR.respects_of_memory (fun _ m => (.ok (), { m with registry := m.registry.update id f }))
    fun _ => rfl

theorem respects_applyEvent (id : String) (e : Conversation.Event) :
    (applyEvent id e).Respects R := by
  unfold applyEvent
  apply (hR.respects_status id).bind
  intro before
  apply (hR.respects_update id _).bind
  intro _
  dsimp only
  split
  · exact Act.respects_pure _
  · exact (hR.respects_notify _).bind fun _ => Act.respects_pure _

theorem respects_stopAutomation (id : String) : (stopAutomation id).Respects R := by
  unfold stopAutomation
  exact (hR.respects_update id _).bind fun _ => hR.respects_notify _

theorem respects_override (id : String) (state : Option Conversation.State) :
    (override id state).Respects R := by
  unfold override
  apply (hR.respects_update id _).bind
  intro _
  exact (hR.respects_notify _).bind fun _ => Act.respects_pure _

theorem respects_close (conversation : String) (state : Conversation.State)
    (event : Option Conversation.Event) : (close conversation state event).Respects R := by
  cases event with
  | none => exact Act.respects_pure state
  | some e => exact (hR.respects_applyEvent conversation e).bind fun _ => Act.respects_pure _

/-- Two entries become records of one id and one time. -/
theorem parallel_makeRecord (first second : Audit.Entry) (time : Option Timestamp) :
    Act.Parallel R (fun r s => r.toEntry = first ∧ s = { r with toEntry := second })
      (makeRecord first time) (makeRecord second time) := by
  have hnumber : (Act.change fun d : Desk => { d with lastId := d.lastId + 1 }).Respects R :=
    hR.respects_of_memory (fun _ m => (.ok (), { m with lastId := m.lastId + 1 })) fun _ => rfl
  have hid : (Act.look fun d : Desk => Audit.idText d.lastId).Respects R :=
    hR.respects_of_memory (fun _ m => (.ok (Audit.idText m.lastId), m)) fun _ => rfl
  have hstamped (id : String) {stamp : Act Timestamp} (h : stamp.Respects R) :
      Act.Parallel R (fun r s => r.toEntry = first ∧ s = { r with toEntry := second })
        (stamp >>= fun time => pure ({ toEntry := first, id, time } : Audit.Record))
        (stamp >>= fun time => pure ({ toEntry := second, id, time } : Audit.Record)) := by
    apply Act.Parallel.bind h
    rintro time _ rfl
    exact Act.parallel_pure ⟨rfl, rfl⟩
  unfold makeRecord
  apply Act.Parallel.bind hnumber
  rintro _ _ rfl
  apply Act.Parallel.bind hid
  rintro id _ rfl
  cases time with
  | some t => exact hstamped id (Act.respects_ofExcept _ _)
  | none => exact hstamped id hR.respects_now

theorem respects_makeRecord (e : Audit.Entry) (time : Option Timestamp) :
    (makeRecord e time).Respects R := by
  refine (hR.parallel_makeRecord e e time).mono ?_
  rintro r _ ⟨rfl, rfl⟩
  rfl

/-! ### Replies -/

theorem respects_settle (r : Incoming) (g : Generation.Outcome) : (settle r g).Respects R := by
  unfold settle
  apply (hR.respects_trySend r.tenant .message).bind
  intro admission
  cases admission.allowed with
  | true => exact Act.respects_pure _
  | false => exact (hR.respects_notify _).bind fun _ => Act.respects_pure _

theorem respects_judge (guard : Generation.Guard) (draft : Generation.Draft)
    (generator : Generation.Generator) (call : Generation.Call)
    (completion : Except Generation.CompletionError Generation.Completion) :
    (judge guard draft generator call completion).Respects R := by
  unfold judge
  apply (hR.respects_notify _).bind
  intro _
  exact (Act.respects_ofExcept _ _).bind fun _ => Act.respects_pure _

end Likeness

/-- Desks in a relation run cycles by the same rules and write replies with the same generator, and
stay in the relation whatever both of them post. -/
structure Concord (R : Desk → Desk → Prop) : Prop extends Likeness R where
  number : ∀ {d e}, R d e → e.number = d.number
  settings : ∀ {d e}, R d e → e.settings = d.settings
  catalogue : ∀ {d e}, R d e → e.catalogue = d.catalogue
  generator : ∀ {d e}, R d e → e.generator = d.generator
  completions : ∀ {d e}, R d e → e.network.completions = d.network.completions
  respects_send : ∀ posts, (send posts).Respects R

namespace Concord

variable {R : Desk → Desk → Prop} {errands : Errands} (hR : Concord R)

include hR

theorem respects_ask_service (s : Generation.Service) (call : Generation.Call) :
    (ask errands (.service s) call).Respects R := by
  unfold ask consult
  apply (hR.respects_notify _).bind
  intro _
  apply (hR.respects_send _).bind
  intro _
  exact Act.parallel_look fun d e h => by rw [hR.completions h]

variable (hask : ∀ behaviour list call, (ask errands (.rehearsed behaviour list) call).Respects R)

include hask

/-- Where a generator of fixed behaviour is asked on both desks alike, a reply is written alike. -/
theorem respects_write (r : Incoming) (action : Action) : (write errands r action).Respects R := by
  unfold write
  apply Act.Respects.bind (Act.parallel_look fun d e h => by rw [hR.settings h])
  intro guard
  apply Act.Respects.bind (Act.parallel_look fun d e h => by rw [hR.settings h])
  intro timeout
  rw [generate_eq]
  apply Act.Respects.bind
    (Act.parallel_look fun d e h => by rw [hR.catalogue h, hR.generator h])
  intro started
  cases started with
  | error fallback => exact (hR.respects_notify _).bind fun _ => Act.respects_pure _
  | ok asked =>
    obtain ⟨generator, call⟩ := asked
    have hasked : (ask errands generator call).Respects R := by
      cases generator with
      | service s => exact hR.respects_ask_service s call
      | rehearsed behaviour list => exact hask behaviour list call
    exact hasked.bind fun _ => hR.respects_judge _ _ _ _ _

/-- Up to its conclusion a cycle goes the same way on both desks. -/
theorem abreast_cycle {W : Desk → Desk → Prop} {r : Incoming} {d e : Desk}
    {post : CycleOutcome → Desk → CycleOutcome → Desk → Prop} (hweak : ∀ d e, R d e → W d e)
    (hend : ∀ process state before trigger first generated d e, R d e →
      Act.Abreast W (onProcess process (conclude r state before trigger first generated))
        (onProcess process (conclude r state before trigger first generated)) d e post)
    (h : R d e) : Act.Abreast W (cycle errands r) (cycle errands r) d e post := by
  have hlook {α : Type} (f : Settings → α) : (Act.look fun d => f d.settings).Respects R :=
    Act.parallel_look fun d e h => by rw [hR.settings h]
  have hnumber : (Act.look Desk.number).Respects R :=
    Act.parallel_look fun d e h => (hR.number h).symm
  unfold cycle
  refine hnumber.after hweak h fun process d e h => ?_
  refine (hR.respects_status r.conversation).after hweak h fun status d e h => ?_
  refine (hR.respects_account r.tenant _).after hweak h fun before d e h => ?_
  refine (hlook fun s => s.detector.detect r.message r.misunderstandings).after hweak h
    fun trigger d e h => ?_
  refine (hR.respects_account r.tenant _).after hweak h fun quotasAvailable d e h => ?_
  refine hR.respects_now.after hweak h fun time d e h => ?_
  refine (hlook fun s => s.isOpen time).after hweak h fun hours d e h => ?_
  refine (Act.respects_ofExcept _ hours).after hweak h fun inside d e h => ?_
  refine (hR.respects_status r.conversation).after hweak h fun again d e h => ?_
  have hgo (first : Action) {generate : Act _} (hgenerate : generate.Respects R) :
      Act.Abreast W
        (generate >>= fun generated =>
          onProcess process (conclude r status.state before trigger first generated))
        (generate >>= fun generated =>
          onProcess process (conclude r status.state before trigger first generated))
        d e post :=
    hgenerate.after hweak h fun generated d e h => hend _ _ _ _ first generated d e h
  dsimp only
  split
  · exact hgo _ ((hR.respects_write hask r _).map some)
  · exact hgo _ (Act.respects_pure none)

end Concord

end Desk

end SalesDesk
