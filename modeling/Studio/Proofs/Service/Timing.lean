import Mathlib.Logic.Relation
import Studio.Proofs.Conductor.Action
import Studio.Proofs.Conductor.Topics
import Studio.Proofs.Service.Draining

/-! What the client of a service receives does not depend on timing. Turns that find no
input change nothing, since every dispatch leaves the device's queues empty; so the
answers are an account of the inputs up to the first quit, however the client's sends
and the service's turns interleave. -/

namespace Studio.Service

open Conductor (Reports emitted emitted_congr)

variable {D W : Type} [AudioDevice D] [FileStore W]

/-! ### The account -/

/-- The conductor after the inputs, each with its dispatch. -/
def after (inputs : List Input) (c : Conductor D W) : Conductor D W :=
  inputs.foldl (fun c i => (i.perform c).dispatch) c

/-- What the inputs emit, each followed by what its dispatch emits. -/
def account : List Input → Conductor D W → List Event
  | [], _ => []
  | i :: inputs, c =>
    emitted i.perform c ++ emitted Conductor.dispatch (i.perform c) ++
      account inputs (i.perform c).dispatch

/-- What the client is to receive for its inputs. -/
def due (inputs : List Input) (c : Conductor D W) : List Answer :=
  (account (inputs.takeWhile (· ≠ .quit)) c).map .event ++ if .quit ∈ inputs then [.quit] else []

theorem account_append (as bs : List Input) (c : Conductor D W) :
    account (as ++ bs) c = account as c ++ account bs (after as c) := by
  induction as generalizing c with
  | nil => rfl
  | cons i as ih =>
    rw [List.cons_append, account, account, ih, List.append_assoc (_ ++ _)]
    rfl

theorem account_concat (as : List Input) (i : Input) (c : Conductor D W) :
    account (as ++ [i]) c = account as c ++ (emitted i.perform (after as c) ++
      emitted Conductor.dispatch (i.perform (after as c))) := by
  rw [account_append, account, account, List.append_nil]

theorem after_concat (as : List Input) (i : Input) (c : Conductor D W) :
    after (as ++ [i]) c = (i.perform (after as c)).dispatch := List.foldl_append

theorem due_quit (inputs : List Input) (c : Conductor D W) : due (.quit :: inputs) c = [.quit] := by
  simp [due, account]

theorem due_append {as : List Input} (h : .quit ∉ as) (bs : List Input) (c : Conductor D W) :
    due (as ++ bs) c = (account as c).map .event ++ due bs (after as c) := by
  have hw : (as ++ bs).takeWhile (· ≠ .quit) = as ++ bs.takeWhile (· ≠ .quit) := by
    refine List.takeWhile_append_of_pos fun i hi => decide_eq_true ?_
    rintro rfl
    exact h hi
  simp only [due, hw, account_append, List.map_append, List.append_assoc, List.mem_append, h,
    false_or]

theorem due_of_not_mem {inputs : List Input} (h : .quit ∉ inputs) (c : Conductor D W) :
    due inputs c = (account inputs c).map .event := by
  have hd := due_append h [] c
  rw [List.append_nil] at hd
  rw [hd]
  exact List.append_nil _

theorem due_cons {i : Input} (h : i ≠ .quit) (inputs : List Input) (c : Conductor D W) :
    due (i :: inputs) c =
      (emitted i.perform c ++ emitted Conductor.dispatch (i.perform c)).map .event ++
        due inputs (i.perform c).dispatch := by
  have hq : .quit ∉ [i] := by simpa using h.symm
  have hd := due_append hq inputs c
  rw [account, account, List.append_nil] at hd
  exact hd

/-- Nothing after a quit matters. -/
theorem due_append_of_mem {as : List Input} (h : .quit ∈ as) (bs : List Input)
    (c : Conductor D W) : due (as ++ bs) c = due as c := by
  obtain ⟨before, later, rfl, hn⟩ := List.eq_append_cons_of_mem h
  rw [List.append_assoc, due_append hn, due_append hn, List.cons_append, due_quit, due_quit]

/-! ### One turn -/

/-- The conductor of the service is the given one with the client as a listener that has
fetched all it heard, and the device has nothing left to report. -/
structure Serves (d c : Conductor D W) : Prop where
  same : d.alone = c.alone
  once : ∀ channel, d.bus.times client channel = 1
  unheard : d.heard client = []
  drained : d.Drained

omit [AudioDevice D] [FileStore W] in
theorem fetch_answers (c : Conductor D W) : (fetch c).1 = (c.heard client).map .event :=
  (List.map_map ..).symm

theorem run_idle (d : Conductor D W) : run [.idle] d = fetch d.dispatch :=
  Prod.ext (List.append_nil _) rfl

theorem run_input {i : Input} (h : i ≠ .quit) (d : Conductor D W) :
    run [.input i] d = fetch (i.perform (d.say .debug i.text)).dispatch := by
  cases i with
  | quit => exact absurd rfl h
  | _ => exact Prod.ext (List.append_nil _) rfl

theorem run_cons {turn : Turn} (h : turn ≠ .input .quit) (turns : List Turn)
    (d : Conductor D W) :
    (run (turn :: turns) d).1 = (run [turn] d).1 ++ (run turns (run [turn] d).2).1 := by
  cases turn with
  | idle => rw [run_idle]; rfl
  | input i =>
    have hi : i ≠ .quit := fun hi => h (congrArg Turn.input hi)
    rw [run_input hi]
    cases i with
    | quit => exact absurd rfl hi
    | _ => rfl

theorem Serves.idle {d c : Conductor D W} (h : Serves d c) :
    (run [.idle] d).1 = [] ∧ Serves (run [.idle] d).2 c := by
  rw [run_idle, h.drained.dispatch, fetch_answers, h.unheard]
  exact ⟨rfl, h.same, h.once, rfl, h.drained.events, h.drained.positions⟩

theorem Serves.input [LawfulQueues D] {d c : Conductor D W} (h : Serves d c) {i : Input}
    (hq : i ≠ .quit) :
    (run [.input i] d).1 =
        (emitted i.perform c ++ emitted Conductor.dispatch (i.perform c)).map .event ∧
      Serves (run [.input i] d).2 (i.perform c).dispatch := by
  have hi : Reports Topic.all (D := D) (W := W) i.perform := (Reports.perform i).mono (by decide)
  have hd : Reports Topic.all (D := D) (W := W) fun c => c.dispatch :=
    .dispatch (by decide) (by decide)
  have hr := hi.comp hd
  let said := d.say .debug i.text
  have hs : said.alone = c.alone := h.same
  have hheard : ((i.perform said).dispatch).heard client =
      emitted i.perform c ++ emitted Conductor.dispatch (i.perform c) := by
    have honce (e : Event) : List.replicate (said.bus.times client e.channel) e = [e] :=
      congrArg (List.replicate · e) (h.once e.channel)
    have hbefore : said.heard client = [] := h.unheard
    rw [hr.heard client said, hbefore, List.nil_append, emitted_congr _ hs]
    simp only [honce, List.flatMap_singleton']
    exact hi.emitted_comp hd c
  have hsame : (i.perform said).dispatch.alone = (i.perform c).dispatch.alone := by
    rw [← hr.alone said, hs]
    exact hr.alone c
  have honce (channel : Channel) : (i.perform said).dispatch.bus.times client channel = 1 := by
    rw [hr.bus said]
    exact h.once channel
  have hdrained := Conductor.drained_dispatch (i.perform said)
  rw [run_input hq, fetch_answers, hheard]
  exact ⟨rfl, hsame, honce, rfl, hdrained.events, hdrained.positions⟩

/-! ### Turns -/

/-- The inputs that the turns find. -/
def inputs (turns : List Turn) : List Input :=
  turns.filterMap fun
    | .input i => some i
    | .idle => none

theorem Serves.run [LawfulQueues D] {d c : Conductor D W} (h : Serves d c) (turns : List Turn) :
    (run turns d).1 = due (inputs turns) c := by
  induction turns generalizing d c with
  | nil => rfl
  | cons turn turns ih =>
    cases turn with
    | idle =>
      obtain ⟨ha, hs⟩ := h.idle
      have hq : Turn.idle ≠ .input .quit := nofun
      rw [run_cons hq, ha, ih hs]
      rfl
    | input i =>
      by_cases hq : i = .quit
      · subst hq
        exact (due_quit _ c).symm
      · obtain ⟨ha, hs⟩ := h.input hq
        rw [run_cons (fun hi => hq (Turn.input.inj hi)), ha, ih hs]
        exact (due_cons hq _ c).symm

/-! ### The client joins -/

/-- A conductor that the service may take over: every channel is allowed, the client is no
listener yet and has heard nothing, and the device has nothing to report. -/
structure Ready (c : Conductor D W) : Prop where
  complete : c.bus.Complete
  stranger : ∀ channel, c.bus.times client channel = 0
  unheard : c.heard client = []
  drained : c.Drained

/-- The client listens to one more channel. -/
def join (c : Conductor D W) (channel : Channel) : Conductor D W :=
  match c.bus.listen channel client with
  | .ok bus => { c with bus }
  | .error f => c.say .error f.message

omit [AudioDevice D] [FileStore W] in
theorem attach_eq (c : Conductor D W) : attach c = Channel.all.foldl join c := rfl

omit [AudioDevice D] [FileStore W] in
theorem foldl_join (channels : List Channel) {c : Conductor D W} (h : c.bus.Complete) :
    ∃ bus, channels.foldl join c = { c with bus } ∧
      ∀ other, bus.times client other = c.bus.times client other + channels.count other := by
  induction channels generalizing c with
  | nil => exact ⟨c.bus, rfl, fun _ => rfl⟩
  | cons channel channels ih =>
    obtain ⟨bus, hl⟩ := Bus.exists_listen h channel client
    have hj : join c channel = { c with bus } := by rw [join, hl]
    obtain ⟨bus', hc, ht⟩ := ih (c := { c with bus }) (Bus.complete_listen hl h)
    refine ⟨bus', by rw [List.foldl_cons, hj, hc], fun other => ?_⟩
    have hb := Bus.times_listen hl h other
    rw [ht, List.count_cons]
    dsimp only
    by_cases he : channel = other
    · rw [if_pos he.symm] at hb
      rw [if_pos (beq_iff_eq.2 he)]
      omega
    · rw [if_neg (Ne.symm he)] at hb
      rw [if_neg (by simpa using he)]
      omega

omit [FileStore W] in
theorem Ready.serves {c : Conductor D W} (h : Ready c) : Serves (attach c) c := by
  obtain ⟨bus, hc, ht⟩ := foldl_join Channel.all h.complete
  rw [attach_eq, hc]
  refine ⟨rfl, fun channel => ?_, h.unheard, h.drained.events, h.drained.positions⟩
  rw [ht, h.stranger, Channel.count_all]

/-! ### The client and the service -/

/-- What the client and the service have between them. -/
structure Exchange (D W : Type) where
  /-- All inputs that the client has sent. -/
  sent : List Input := []
  /-- The ones that the service has not received yet, oldest first. -/
  queue : List Input := []
  /-- The client has not hung up. -/
  connected : Bool := true
  running : Bool := true
  conductor : Conductor D W
  /-- What has been sent to the client. -/
  answers : List Answer := []

namespace Exchange

/-- The service takes one turn. -/
def turn (t : Turn) (x : Exchange D W) : Exchange D W :=
  let (answers, conductor) := run [t] x.conductor
  { x with conductor, answers := x.answers ++ answers }

/-- The client sends and hangs up when it likes. As long as it runs, the service takes
the oldest input, or times out, or finds that the queue is empty and the client gone. -/
inductive Step : Exchange D W → Exchange D W → Prop
  | send {x : Exchange D W} (i : Input) (connected : x.connected = true) :
      Step x { x with sent := x.sent ++ [i], queue := x.queue ++ [i] }
  | hangUp {x : Exchange D W} : Step x { x with connected := false }
  | take {x : Exchange D W} {i : Input} {rest : List Input} (running : x.running = true)
      (next : x.queue = i :: rest) :
      Step x { x.turn (.input i) with queue := rest, running := decide (i ≠ .quit) }
  | timeOut {x : Exchange D W} (running : x.running = true) : Step x (x.turn .idle)
  | leave {x : Exchange D W} (running : x.running = true) (empty : x.queue = [])
      (gone : x.connected = false) : Step x { x with running := false }

/-- Every exchange that can come about. -/
abbrev Reaches : Exchange D W → Exchange D W → Prop := Relation.ReflTransGen Step

/-- The answers are the account of the inputs received so far. -/
structure Faithful (c : Conductor D W) (x : Exchange D W) : Prop where
  serving : x.running = true → ∃ received, x.sent = received ++ x.queue ∧ .quit ∉ received ∧
    x.answers = (account received c).map .event ∧ Serves x.conductor (after received c)
  stopped : x.running = false →
    x.answers = due x.sent c ∧ (.quit ∈ x.sent ∨ x.connected = false)

theorem Faithful.start {d c : Conductor D W} (h : Serves d c) : Faithful c { conductor := d } :=
  ⟨fun _ => ⟨[], rfl, nofun, rfl, h⟩, nofun⟩

theorem Faithful.takeQuit {c : Conductor D W} {x : Exchange D W} {rest : List Input}
    (h : Faithful c x) (running : x.running = true) (next : x.queue = .quit :: rest) :
    Faithful c { x.turn (.input .quit) with queue := rest, running := false } := by
  obtain ⟨received, hsent, hq, ha, -⟩ := h.serving running
  rw [next] at hsent
  have hdue : due x.sent c = x.answers ++ [.quit] := by
    rw [hsent, due_append hq, due_quit, ha]
  have hmem : .quit ∈ x.sent := by
    rw [hsent]
    exact List.mem_append_right _ (.head _)
  exact ⟨nofun, fun _ => ⟨hdue.symm, .inl hmem⟩⟩

theorem Faithful.takeInput [LawfulQueues D] {c : Conductor D W} {x : Exchange D W} {i : Input}
    {rest : List Input} (h : Faithful c x) (running : x.running = true)
    (next : x.queue = i :: rest) (hi : i ≠ .quit) :
    Faithful c { x.turn (.input i) with queue := rest, running := decide (i ≠ .quit) } := by
  obtain ⟨received, hsent, hq, ha, hd⟩ := h.serving running
  rw [next] at hsent
  obtain ⟨hanswers, hserves⟩ := hd.input hi
  refine ⟨fun _ => ⟨received ++ [i], ?_, ?_, ?_, ?_⟩, fun hstop => ?_⟩
  · rw [List.append_assoc]
    exact hsent
  · simpa [hq] using Ne.symm hi
  · rw [account_concat, List.map_append, ← hanswers, ← ha]
    rfl
  · rw [after_concat]
    exact hserves
  · exact absurd hstop (by simpa using hi)

theorem Faithful.step [LawfulQueues D] {c : Conductor D W} {x y : Exchange D W}
    (h : Faithful c x) (hs : Step x y) : Faithful c y := by
  cases hs with
  | send i connected =>
    constructor
    · intro hr
      obtain ⟨received, hsent, hq, ha, hd⟩ := h.serving hr
      refine ⟨received, ?_, hq, ha, hd⟩
      rw [hsent, List.append_assoc]
    · intro hr
      obtain ⟨ha, hq | hg⟩ := h.stopped hr
      · exact ⟨ha.trans (due_append_of_mem hq [i] c).symm, .inl (List.mem_append_left _ hq)⟩
      · rw [connected] at hg
        cases hg
  | hangUp => exact ⟨h.serving, fun hr => ⟨(h.stopped hr).1, .inr rfl⟩⟩
  | @take i rest running next =>
    by_cases hi : i = .quit
    · subst hi
      exact h.takeQuit running next
    · exact h.takeInput running next hi
  | timeOut running =>
    obtain ⟨received, hsent, hq, ha, hd⟩ := h.serving running
    obtain ⟨hanswers, hserves⟩ := hd.idle
    refine ⟨fun _ => ⟨received, hsent, hq, ?_, hserves⟩, fun hstop => ?_⟩
    · rw [← ha]
      exact (congrArg (x.answers ++ ·) hanswers).trans (List.append_nil _)
    · exact absurd (running.symm.trans hstop) nofun
  | leave running empty gone =>
    obtain ⟨received, hsent, hq, ha, hd⟩ := h.serving running
    rw [empty, List.append_nil] at hsent
    subst hsent
    exact ⟨nofun, fun _ => ⟨ha.trans (due_of_not_mem hq c).symm, .inr gone⟩⟩

theorem Faithful.reaches [LawfulQueues D] {c : Conductor D W} {x y : Exchange D W}
    (h : Faithful c x) (hr : Reaches x y) : Faithful c y := by
  induction hr with
  | refl => exact h
  | tail _ hs ih => exact ih.step hs

/-- The answers are never more than what is due. -/
theorem Faithful.answers_prefix {c : Conductor D W} {x : Exchange D W} (h : Faithful c x) :
    x.answers <+: due x.sent c := by
  cases hr : x.running with
  | true =>
    obtain ⟨received, hsent, hq, ha, -⟩ := h.serving hr
    rw [hsent, due_append hq, ha]
    exact List.prefix_append ..
  | false => exact (h.stopped hr).1 ▸ List.prefix_rfl

/-- They are all of it once everything is received or the service has stopped. -/
theorem Faithful.answers_eq {c : Conductor D W} {x : Exchange D W} (h : Faithful c x)
    (hd : x.queue = [] ∨ x.running = false) : x.answers = due x.sent c := by
  cases hr : x.running with
  | true =>
    obtain ⟨received, hsent, hq, ha, -⟩ := h.serving hr
    have he : x.queue = [] := hd.resolve_right (by rw [hr]; decide)
    rw [he, List.append_nil] at hsent
    rw [hsent, due_of_not_mem hq, ha]
  | false => exact (h.stopped hr).1

/-- Once the client has hung up, the service can go on to its end. -/
theorem exists_stopped (x : Exchange D W) (gone : x.connected = false) :
    ∃ y, Reaches x y ∧ y.running = false ∧ y.sent = x.sent := by
  induction hq : x.queue generalizing x with
  | nil =>
    cases hr : x.running with
    | true => exact ⟨_, .single (.leave hr hq gone), rfl, rfl⟩
    | false => exact ⟨x, .refl, hr, rfl⟩
  | cons i rest ih =>
    cases hr : x.running with
    | true =>
      obtain ⟨y, hy, hstopped, hsent⟩ := ih
        { x.turn (.input i) with queue := rest, running := decide (i ≠ .quit) } gone rfl
      exact ⟨y, .head (.take hr hq) hy, hstopped, hsent⟩
    | false => exact ⟨x, .refl, hr, rfl⟩

end Exchange

theorem serve_answers (turns : List Turn) (c : Conductor D W) :
    (serve turns c).1 = (run turns (attach c)).1 := by
  rw [serve]

open Exchange (Reaches) in
/-- What the client receives depends on the inputs alone. A service that runs given turns
answers with the account of the inputs found, wherever idle turns stand. Between a
client that sends and hangs up when it likes and a service that takes inputs or times
out when it likes, the answers are at any time a beginning of the account of all that
was sent, and the whole of it once the queue is empty or the service has stopped; after
a client has hung up the service can come to its end, and not before it has answered
everything. -/
theorem answers_independent_of_timing [LawfulQueues D] (c : Conductor D W) (ready : Ready c) :
    (∀ turns, (serve turns c).1 = due (inputs turns) c) ∧
      ∀ x : Exchange D W, Reaches { conductor := attach c } x →
        x.answers <+: due x.sent c ∧
          (x.queue = [] ∨ x.running = false → x.answers = due x.sent c) ∧
          (x.connected = false →
            ∃ y, Reaches x y ∧ y.running = false ∧ y.sent = x.sent ∧ y.answers = due x.sent c) := by
  refine ⟨fun turns => (serve_answers turns c).trans (ready.serves.run turns), fun x hx => ?_⟩
  have h : Exchange.Faithful c x := (Exchange.Faithful.start ready.serves).reaches hx
  refine ⟨h.answers_prefix, h.answers_eq, fun gone => ?_⟩
  obtain ⟨y, hy, hstopped, hsent⟩ := Exchange.exists_stopped x gone
  refine ⟨y, hy, hstopped, hsent, ?_⟩
  rw [← hsent]
  exact (h.reaches hy).answers_eq (.inr hstopped)

theorem novice_answers_in_time :
    Ready Conductor.novice ∧
      (serve [.idle, .input .play, .idle, .input .quit, .input .render] Conductor.novice).1 =
        due [.play, .quit, .render] Conductor.novice :=
  have ready : Ready Conductor.novice :=
    ⟨Bus.full_complete, fun channel => by cases channel <;> rfl, rfl, rfl, nofun⟩
  ⟨ready, (answers_independent_of_timing Conductor.novice ready).1 _⟩

end Studio.Service
